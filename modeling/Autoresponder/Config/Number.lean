import Autoresponder.Decimal.Shortest

/-!
# Numbers as people write them

Whole numbers and decimals in settings. A plus sign may stand in front; nothing groups digits.
-/

namespace Autoresponder.Config

open Decimal

/-- Why a text is no number. -/
inductive NumberError where
  | emptyInteger
  | invalidDigit
  | tooLarge
  | emptyDecimal
  | invalidDecimal
  deriving DecidableEq, Repr

def NumberError.message : NumberError → String
  | emptyInteger => "cannot parse integer from empty string"
  | invalidDigit => "invalid digit found in string"
  | tooLarge => "number too large to fit in target type"
  | emptyDecimal => "cannot parse float from empty string"
  | invalidDecimal => "invalid float literal"

/-- Takes digits from left to right. What is wrong first is reported. -/
def digitsWithin (limit : Nat) : Nat → List Char → Except NumberError Nat
  | n, [] => .ok n
  | n, c :: rest =>
    if !c.isDigit then .error .invalidDigit
    else
      let next := n * 10 + (c.toNat - '0'.toNat)
      if limit < next then .error .tooLarge else digitsWithin limit next rest

/-- Reads a whole number of at most `limit`. -/
def readWhole (limit : Nat) (text : String) : Except NumberError Nat :=
  match text.toList with
  | [] => .error .emptyInteger
  | ['+'] => .error .invalidDigit
  | '+' :: rest => digitsWithin limit 0 rest
  | cs => digitsWithin limit 0 cs

/-- The exponent behind the digits of a decimal: none at all, or the letter `e` and an integer. -/
def readExponent : List Char → Option Int
  | [] => some 0
  | e :: rest =>
    if e == 'e' || e == 'E' then
      let (negative, ds) := match rest with
        | '-' :: ds => (true, ds)
        | '+' :: ds => (false, ds)
        | ds => (false, ds)
      if ds.isEmpty || !ds.all Char.isDigit then none
      else
        let n : Int := ds.foldl (fun n c => n * 10 + (c.toNat - '0'.toNat)) 0
        some (if negative then -n else n)
    else none

/-- The number nearest to `digits * 10 ^ exponent`. Exponents far out of reach need not be written
out. -/
def nearest (digits : Nat) (exponent : Int) : Magnitude :=
  if digits = 0 then .finite 0 single.minUnit
  else if 100 < exponent then .infinite
  else if exponent < -(100 + digitCount digits : Int) then .finite 0 single.minUnit
  else single.ofRatio (digits * Nat.pow 10 exponent.toNat) (Nat.pow 10 (-exponent).toNat)

/-- The size that unsigned text stands for. -/
def readSize (cs : List Char) : Option Magnitude :=
  let word := String.ofList (cs.map Char.toLower)
  if word == "inf" || word == "infinity" then some .infinite
  else if word == "nan" then some .undefined
  else
    let whole := cs.takeWhile Char.isDigit
    let rest := cs.dropWhile Char.isDigit
    let (fraction, rest) := match rest with
      | '.' :: r => (r.takeWhile Char.isDigit, r.dropWhile Char.isDigit)
      | r => ([], r)
    if whole.isEmpty && fraction.isEmpty then none
    else
      let digits := (whole ++ fraction).foldl (fun n c => n * 10 + (c.toNat - '0'.toNat)) 0
      (readExponent rest).map fun e => nearest digits (e - fraction.length)

/-- Reads a decimal. -/
def readDecimal (text : String) : Except NumberError Single :=
  let (negative, cs) := match text.toList with
    | '-' :: r => (true, r)
    | '+' :: r => (false, r)
    | r => (false, r)
  if text.isEmpty then .error .emptyDecimal
  else
    match readSize cs with
    | some size => .ok ⟨negative, size⟩
    | none => .error .invalidDecimal

end Autoresponder.Config
