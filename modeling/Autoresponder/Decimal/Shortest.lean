import Autoresponder.Decimal.Binary

/-!
# The shortest decimal of a binary number

Of the decimals that read back as a given binary number, the one with the fewest digits is chosen,
and of those the nearest. Digits are found by trying one grid of decimals after the other, from
coarse to fine: on each, only the two neighbours of the number can lie in the interval of what
reads back.
-/

namespace Autoresponder.Decimal

/-- The decimal `digits * 10 ^ exponent`. -/
structure Numeral where
  digits : Nat
  exponent : Int
  deriving DecidableEq, Repr

/-- The number of decimal digits of a natural number. -/
def digitCount (n : Nat) : Nat := (Nat.toDigits 10 n).length

/-- The power of ten of the leading digit of `num / den`, which is not zero. -/
def leadingPower (num den : Nat) : Int :=
  if den ≤ num then (digitCount (num / den) : Int) - 1
  else
    let places := digitCount (den / num)
    if den ≤ num * Nat.pow 10 (places - 1) then -((places : Int) - 1) else -(places : Int)

/-- The decimals that read back as a number lie between `low / den` and `high / den`, the ends
included if `closed`; the number itself is `value / den`. -/
structure Interval where
  low : Nat
  value : Nat
  high : Nat
  den : Nat
  closed : Bool

/-- The interval of the number `significand * 2 ^ unit`: half a unit up, and down half a unit or,
at the least significand of a greater unit, a quarter. -/
def Format.interval (f : Format) (significand : Nat) (unit : Int) : Interval :=
  let down := if significand == 1 <<< (f.precision - 1) && f.minUnit < unit then 1 else 2
  let (scale, den) := scaleRatio 1 1 (unit - 2)
  ⟨(4 * significand - down) * scale, 4 * significand * scale, (4 * significand + 2) * scale, den,
    significand % 2 == 0⟩

/-- Whether `d * 10 ^ k` lies in the interval. -/
def Interval.has (i : Interval) (d : Nat) (k : Int) : Bool :=
  let x := d * Nat.pow 10 k.toNat * i.den
  let unit := Nat.pow 10 (-k).toNat
  if i.closed then i.low * unit ≤ x && x ≤ i.high * unit
  else i.low * unit < x && x < i.high * unit

/-- The decimal on the grid `10 ^ k` that lies in the interval, the nearer if there are two. -/
def Interval.onGrid? (i : Interval) (k : Int) : Option Nat :=
  let num := i.value * Nat.pow 10 (-k).toNat
  let den := i.den * Nat.pow 10 k.toNat
  let d := num / den
  match i.has d k && d != 0, i.has (d + 1) k with
  | true, true =>
    let twice := 2 * (num % den)
    some (if twice < den || (twice == den && d % 2 == 0) then d else d + 1)
  | true, false => some d
  | false, true => some (d + 1)
  | false, false => none

/-- Drops zeros from the end of a numeral. -/
def Numeral.stripZeros : Nat → Numeral → Numeral
  | 0, n => n
  | fuel + 1, n =>
    if n.digits != 0 && n.digits % 10 == 0 then
      Numeral.stripZeros fuel ⟨n.digits / 10, n.exponent + 1⟩
    else n

/-- The shortest decimal of a finite number. Seventeen digits always suffice. -/
def Format.shortest (f : Format) (significand : Nat) (unit : Int) : Numeral :=
  if significand == 0 then ⟨0, 0⟩
  else
    let i := f.interval significand unit
    let top := leadingPower i.value i.den
    let found := (List.range 17).findSome? fun (n : Nat) =>
      let k := top - n
      (i.onGrid? k).map fun d => (⟨d, k⟩ : Numeral)
    match found with
    | some n => n.stripZeros 20
    | none => ⟨0, 0⟩

/-- The digits of a numeral as text. -/
def Numeral.digitText (n : Numeral) : List Char := Nat.toDigits 10 n.digits

/-- The power of ten of the leading digit. -/
def Numeral.leading (n : Numeral) : Int := n.exponent + (digitCount n.digits : Int) - 1

/-- The digits with zeros up to the point, and after it whatever is left. -/
def Numeral.positional (n : Numeral) : List Char × List Char :=
  let ds := n.digitText
  if 0 ≤ n.exponent then (ds ++ List.replicate n.exponent.toNat '0', [])
  else
    let places := (-n.exponent).toNat
    if places < ds.length then (ds.take (ds.length - places), ds.drop (ds.length - places))
    else (['0'], List.replicate (places - ds.length) '0' ++ ds)

/-- All digits written out, with a point only where digits follow it. -/
def Numeral.plain (n : Numeral) : String :=
  match n.positional with
  | (whole, []) => String.ofList whole
  | (whole, fraction) => String.ofList (whole ++ '.' :: fraction)

/-- A number with all its digits written out. -/
def Binary.plain {f : Format} (x : Binary f) : String :=
  let sign := if x.negative then "-" else ""
  match x.magnitude with
  | .finite s u => sign ++ (f.shortest s u).plain
  | .infinite => sign ++ "inf"
  | .undefined => "NaN"

end Autoresponder.Decimal
