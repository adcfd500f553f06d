/-!
# Binary floating-point numbers

Numbers with a sign, a significand of a fixed number of bits and a power of two, held as exact
integers. An operation takes the exact quotient of two natural numbers and rounds it to the nearest
representable number, a half going to the even significand.
-/

namespace Autoresponder.Decimal

/-- A binary format: the bits of a significand, and the least and greatest power of two that a
unit of the significand may stand for. -/
structure Format where
  precision : Nat
  minUnit : Int
  maxUnit : Int

/-- The format of 64 bits. -/
def double : Format := ⟨53, -1074, 971⟩

/-- The format of 32 bits. -/
def single : Format := ⟨24, -149, 104⟩

/-- The size of a number. A finite one is `significand * 2 ^ unit`, written with the least unit
that its significand allows. -/
inductive Magnitude where
  | finite (significand : Nat) (unit : Int)
  | infinite
  | undefined
  deriving DecidableEq, Repr, Inhabited

/-- A number of a binary format. -/
structure Binary (f : Format) where
  negative : Bool
  magnitude : Magnitude
  deriving DecidableEq, Repr, Inhabited

abbrev Double := Binary double

abbrev Single := Binary single

/-- Multiplies a quotient by a power of two. -/
def scaleRatio (num den : Nat) (unit : Int) : Nat × Nat :=
  if 0 ≤ unit then (num <<< unit.toNat, den) else (num, den <<< (-unit).toNat)

/-- The natural number nearest to `num / den`, a half going to the even one. -/
def roundHalfEven (num den : Nat) : Nat :=
  let q := num / den
  let twice := 2 * (num % den)
  if twice < den then q else if den < twice then q + 1 else q + q % 2

/-- The unit in which `num / den` has as many bits as the format allows, or the least unit. -/
def Format.unitOf (f : Format) (num den : Nat) : Int :=
  let guess : Int := (num.log2 : Int) - den.log2 - (f.precision - 1)
  let (n, d) := scaleRatio num den (-guess)
  max f.minUnit (if n < d <<< (f.precision - 1) then guess - 1 else guess)

/-- Rounds the quotient of two natural numbers to the format. -/
def Format.ofRatio (f : Format) (num den : Nat) : Magnitude :=
  if num == 0 || den == 0 then .finite 0 f.minUnit
  else
    let unit := f.unitOf num den
    let (n, d) := scaleRatio num den (-unit)
    let s := roundHalfEven n d
    let (s, unit) := if s == 1 <<< f.precision then (s / 2, unit + 1) else (s, unit)
    if f.maxUnit < unit then .infinite else .finite s unit

/-- A finite size as a quotient. -/
def ratioOf (significand : Nat) (unit : Int) : Nat × Nat := scaleRatio significand 1 unit

/-- The product of two sizes, rounded. -/
def Format.mul (f : Format) : Magnitude → Magnitude → Magnitude
  | .finite s u, .finite t v =>
    let (n, d) := scaleRatio (s * t) 1 (u + v)
    f.ofRatio n d
  | .undefined, _ | _, .undefined => .undefined
  | _, _ => .infinite

/-- The quotient of two sizes, the second finite and not zero, rounded. -/
def Format.div (f : Format) : Magnitude → Magnitude → Magnitude
  | .finite s u, .finite t v =>
    let (n, d) := scaleRatio s t (u - v)
    f.ofRatio n d
  | .undefined, _ | _, .undefined => .undefined
  | _, _ => .infinite

/-- The number of `g` nearest to a number of `f`. -/
def Binary.round {f : Format} (x : Binary f) (g : Format) : Binary g :=
  match x.magnitude with
  | .finite s u =>
    let (n, d) := ratioOf s u
    ⟨x.negative, g.ofRatio n d⟩
  | m => ⟨x.negative, m⟩

/-- The place of a number in the order of its format, counted in least units. Both zeros have the
same place, and an undefined number has none. -/
def Binary.place? {f : Format} (x : Binary f) : Option Int :=
  let size : Option Nat := match x.magnitude with
    | .finite s u => some (s <<< (u - f.minUnit).toNat)
    | .infinite => some (1 <<< (f.precision + 1 + (f.maxUnit - f.minUnit).toNat))
    | .undefined => none
  size.map fun n => if x.negative then -(n : Int) else n

/-- Whether `x` is at least `y`. Nothing is at least an undefined number, nor the other way. -/
def Binary.atLeast {f : Format} (x y : Binary f) : Bool :=
  match x.place?, y.place? with
  | some a, some b => b ≤ a
  | _, _ => false

/-- The interchange form: sign bit, biased exponent and the significand without its leading bit. -/
def Binary.bits {f : Format} (x : Binary f) : Nat :=
  let hidden := 1 <<< (f.precision - 1)
  let top := (f.maxUnit - f.minUnit).toNat + 2
  let size := match x.magnitude with
    | .finite s u =>
      if s < hidden then s else ((u - f.minUnit).toNat + 1) * hidden + (s - hidden)
    | .infinite => top * hidden
    | .undefined => top * hidden + hidden / 2
  (if x.negative then (top + 1) * hidden else 0) + size

end Autoresponder.Decimal
