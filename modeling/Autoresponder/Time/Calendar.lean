/-!
# The calendar

Dates of the proleptic Gregorian calendar and their number counted from the first day of year 0.
-/

namespace Autoresponder

/-- A calendar date. -/
structure Date where
  year : Int
  month : Nat
  day : Nat
  deriving DecidableEq, Repr

/-- Days of the week, Monday first. -/
inductive Weekday where
  | monday
  | tuesday
  | wednesday
  | thursday
  | friday
  | saturday
  | sunday
  deriving DecidableEq, Repr

namespace Calendar

/-- Every fourth year is a leap year, but of the hundreds only every fourth. -/
def isLeap (year : Int) : Bool := year % 4 == 0 && (year % 100 != 0 || year % 400 == 0)

/-- The days from the first day of year 0 to the first day of a year. -/
def daysBeforeYear (year : Int) : Int :=
  365 * year + (year + 3) / 4 - (year + 99) / 100 + (year + 399) / 400

/-- The lengths of the months. -/
def monthLengths (leap : Bool) : List Nat :=
  [31, if leap then 29 else 28, 31, 30, 31, 30, 31, 31, 30, 31, 30, 31]

/-- Splits a day of the year into whole months and a day of the month, both counted from 0. -/
def splitMonths : List Nat → Nat → Nat × Nat
  | [], day => (0, day)
  | length :: rest, day =>
    if day < length then (0, day)
    else
      let (months, day) := splitMonths rest (day - length)
      (months + 1, day)

/-- The year that holds a day. The quotient by the mean length of a year is at most one off. -/
def yearOfDay (days : Int) : Int :=
  let guess := days * 400 / 146097
  if days < daysBeforeYear guess then guess - 1
  else if daysBeforeYear (guess + 1) ≤ days then guess + 1
  else guess

/-- The day of 1 January 1970. -/
def epochDay : Int := 719528

end Calendar

open Calendar

namespace Date

/-- Whether the date is in the calendar. -/
def Valid (d : Date) : Prop :=
  1 ≤ d.month ∧ d.month ≤ 12 ∧ 1 ≤ d.day ∧
    d.day ≤ ((monthLengths (isLeap d.year))[d.month - 1]?).getD 0

instance (d : Date) : Decidable d.Valid := by unfold Valid; infer_instance

/-- The days from the first day of year 0. -/
def toDays (d : Date) : Int :=
  let months := (monthLengths (isLeap d.year)).take (d.month - 1)
  daysBeforeYear d.year + (months.foldr (· + ·) 0 : Nat) + (d.day - 1 : Int)

/-- The date of a day. -/
def ofDays (days : Int) : Date :=
  let year := yearOfDay days
  let (months, day) := splitMonths (monthLengths (isLeap year)) (days - daysBeforeYear year).toNat
  ⟨year, months + 1, day + 1⟩

/-- The day of the week. The first day of year 0 was a Saturday. -/
def weekday (d : Date) : Weekday :=
  match (d.toDays + 5) % 7 with
  | 0 => .monday
  | 1 => .tuesday
  | 2 => .wednesday
  | 3 => .thursday
  | 4 => .friday
  | 5 => .saturday
  | _ => .sunday

end Date

namespace Calendar

theorem daysBeforeYear_add_one (year : Int) :
    daysBeforeYear (year + 1) = daysBeforeYear year + if isLeap year then 366 else 365 := by
  unfold daysBeforeYear isLeap
  by_cases h4 : year % 4 = 0
  · by_cases h100 : year % 100 = 0
    · by_cases h400 : year % 400 = 0
      · simp [h4, h100, h400]; omega
      · simp [h4, h100, h400]; omega
    · simp [h4, h100]; omega
  · simp [h4]; omega

/-- The days before a year are near the year's multiple of the mean length of a year. -/
theorem daysBeforeYear_near (year : Int) :
    146097 * year - 600 ≤ 400 * daysBeforeYear year ∧
      400 * daysBeforeYear year ≤ 146097 * year + 600 := by
  unfold daysBeforeYear
  constructor <;> omega

/-- The year of a day holds it. -/
theorem yearOfDay_spec (days : Int) :
    daysBeforeYear (yearOfDay days) ≤ days ∧ days < daysBeforeYear (yearOfDay days + 1) := by
  unfold yearOfDay
  generalize hg : days * 400 / 146097 = guess
  have near := daysBeforeYear_near (guess - 1)
  have near' := daysBeforeYear_near (guess + 2)
  simp only
  split
  · rw [Int.sub_add_cancel]
    exact ⟨by omega, by omega⟩
  · split
    · rw [show guess + 1 + 1 = guess + 2 by omega]
      exact ⟨by omega, by omega⟩
    · exact ⟨by omega, by omega⟩

end Calendar

end Autoresponder
