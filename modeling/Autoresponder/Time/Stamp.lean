import Autoresponder.Time.Instant
import Autoresponder.Text.Blank

/-!
# Timestamps

An instant is written as a date and a time in UTC with a `Z` behind. The answer form has as few
fraction digits as are exact, in groups of three; the stored form always has nine, so that within
the years 0 to 9999 its order as text is the order of the instants.
-/

namespace Autoresponder

/-- The last `width` digits of a number. -/
def fixedDigits : Nat → Nat → List Char
  | 0, _ => []
  | width + 1, n => fixedDigits width (n / 10) ++ [Nat.digitChar (n % 10)]

/-- Years of up to four digits are padded to four; others show their sign. -/
def yearText (year : Int) : List Char :=
  if 0 ≤ year ∧ year ≤ 9999 then fixedDigits 4 year.toNat
  else
    let size := year.natAbs
    (if year < 0 then '-' else '+') ::
      (if size < 10000 then fixedDigits 4 size else Nat.toDigits 10 size)

namespace Instant

/-- The date and the time up to the second. A leap second is second 60. -/
def upToSecond (t : Instant) : List Char :=
  let d := t.date 0
  let s := t.secondOfDay.toNat
  yearText d.year ++ '-' :: fixedDigits 2 d.month ++ '-' :: fixedDigits 2 d.day ++
    'T' :: fixedDigits 2 (s / 3600) ++ ':' :: fixedDigits 2 (s / 60 % 60) ++
    ':' :: fixedDigits 2 (s % 60 + t.nanos / nanosPerSecond)

/-- The fraction in as few groups of three digits as are exact. -/
def shortFraction (t : Instant) : List Char :=
  let n := t.nanos % nanosPerSecond
  if n == 0 then []
  else if n % 1000000 == 0 then '.' :: fixedDigits 3 (n / 1000000)
  else if n % 1000 == 0 then '.' :: fixedDigits 6 (n / 1000)
  else '.' :: fixedDigits 9 n

/-- The answer form. -/
def text (t : Instant) : String :=
  String.ofList (t.upToSecond ++ t.shortFraction ++ ['Z'])

/-- The stored form. -/
def stored (t : Instant) : String :=
  String.ofList (t.upToSecond ++ '.' :: fixedDigits 9 (t.nanos % nanosPerSecond) ++ ['Z'])

end Instant

theorem length_fixedDigits (width n : Nat) : (fixedDigits width n).length = width := by
  induction width generalizing n with
  | zero => rfl
  | succ k ih => simp [fixedDigits, ih]

end Autoresponder
