import Autoresponder.Json.Basic

/-!
# Numbers of JSON text

An integer that 64 bits hold is read exactly. Any other number becomes a binary number in two
rounded steps: the leading digits that fit 64 bits are rounded first, and then multiplied or
divided by a power of ten.
-/

namespace Autoresponder.Json

open Decimal

/-- The least number that 64 bits cannot hold. -/
def wordLimit : Nat := UInt64.size

/-- Scales a size by a power of ten, in steps of at most `10 ^ 308`. Nothing comes of a number
that is too large. -/
def scaleByTens (size : Magnitude) (exponent : Int) : Option Magnitude :=
  if exponent.natAbs ≤ 308 then
    let power := double.ofRatio (Nat.pow 10 exponent.natAbs) 1
    if 0 ≤ exponent then
      let product := double.mul size power
      if product == .infinite then none else some product
    else some (double.div size power)
  else if size == .finite 0 double.minUnit then some size
  else if 0 ≤ exponent then none
  else scaleByTens (double.div size (double.ofRatio (Nat.pow 10 308) 1)) (exponent + 308)
termination_by exponent.natAbs

/-- The binary number of a sign, leading digits and a power of ten. -/
def floatOf (negative : Bool) (leading : Nat) (exponent : Int) : Option Json :=
  (scaleByTens (double.ofRatio leading 1) exponent).map fun size => .float ⟨negative, size⟩

/-- Takes digits as long as the number they spell fits a word; the flag tells that one did not. -/
def takeDigits (value : Nat) : List Char → Nat × Nat × Bool
  | [] => (value, 0, true)
  | c :: rest =>
    let next := value * 10 + (c.toNat - '0'.toNat)
    if next < wordLimit then
      let (v, n, all) := takeDigits next rest
      (v, n + 1, all)
    else (value, 0, false)

/-- The integer of a sign and digits that fit a word. A zero or a large number with a minus sign is
no integer. -/
def integerOf (negative : Bool) (value : Nat) : Option Json :=
  if !negative then some (.int value)
  else if value != 0 && Int64.minValue.toInt ≤ -(value : Int) then some (.int (-(value : Int)))
  else floatOf true value 0

/-- The exponent that follows the letter `e`. -/
def exponentOf? (cs : List Char) : Option Int :=
  let (negative, digits) := match cs with
    | '-' :: r => (true, r)
    | '+' :: r => (false, r)
    | r => (false, r)
  if digits.isEmpty || !digits.all Char.isDigit then none
  else
    let n := digits.foldl (fun n c => n * 10 + (c.toNat - '0'.toNat)) 0
    some (if negative then -(n : Int) else n)

/-- The exponents that 32 bits hold. -/
def exponentLimit : Int := Int32.maxValue.toInt

/-- A number with a fraction or an exponent. -/
def floatOfParts (negative : Bool) (leading : Nat) (exponent : Int) (power : Option Int) :
    Option Json :=
  match power with
  | none => floatOf negative leading exponent
  | some p =>
    -- An exponent beyond 32 bits decides the number alone.
    if exponentLimit < p.natAbs then
      if leading != 0 && 0 < p then none else some (.float ⟨negative, .finite 0 double.minUnit⟩)
    else floatOf negative leading (max (-exponentLimit - 1) (min exponentLimit (exponent + p)))

/-- Reads a number: an optional minus sign, digits without needless zeros in front, and optionally
a point with digits and an exponent. -/
def readNumber (cs : List Char) : Option Json :=
  let (negative, cs) := match cs with
    | '-' :: r => (true, r)
    | r => (false, r)
  let whole := cs.takeWhile Char.isDigit
  let rest := cs.dropWhile Char.isDigit
  if whole.isEmpty || (whole.head? == some '0' && 1 < whole.length) then none
  else
    let (value, taken, all) := takeDigits 0 whole
    let dropped : Int := whole.length - taken
    let powerOf (tail : List Char) : Option (Option Int) := match tail with
      | [] => some none
      | 'e' :: p | 'E' :: p => (exponentOf? p).map some
      | _ => none
    match rest with
    -- Digits alone are an integer if they fit; the others only scale it.
    | [] => if all then integerOf negative value else floatOf negative value dropped
    | '.' :: tail =>
      let fraction := tail.takeWhile Char.isDigit
      if fraction.isEmpty then none
      else do
        let power ← powerOf (tail.dropWhile Char.isDigit)
        let (value, places, _) := takeDigits value fraction
        floatOfParts negative value (dropped - places) power
    | tail => do
      let power ← powerOf tail
      floatOfParts negative value dropped power

end Autoresponder.Json
