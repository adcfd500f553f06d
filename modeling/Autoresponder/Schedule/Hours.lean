import Autoresponder.Time.Reader
import Autoresponder.Time.Zone

/-!
# Opening hours

When an account is open: hours for each day of the week, exceptions for single dates, and the zone
whose clock counts.
-/

namespace Autoresponder

/-- The hours of one day, as clock times. -/
structure DayHours where
  opens : String
  closes : String
  deriving DecidableEq, Repr

namespace DayHours

/-- Whether a time of day lies between opening and closing. Hours that close before they open run
over midnight, and equal times mean the whole day. Hours that cannot be read are closed. -/
def contains (h : DayHours) (t : TimeOfDay) : Bool :=
  match TimeText.openingTime? h.opens, TimeText.openingTime? h.closes with
  | some opens, some closes =>
    if opens = closes then true
    else if opens.before closes then !t.before opens && t.before closes
    else !t.before opens || t.before closes
  | _, _ => false

end DayHours

/-- The hours of a week. A day without hours is closed. -/
structure WeeklySchedule where
  monday : Option DayHours := none
  tuesday : Option DayHours := none
  wednesday : Option DayHours := none
  thursday : Option DayHours := none
  friday : Option DayHours := none
  saturday : Option DayHours := none
  sunday : Option DayHours := none
  deriving DecidableEq, Repr, Inhabited

namespace WeeklySchedule

def onDay (s : WeeklySchedule) : Weekday → Option DayHours
  | .monday => s.monday
  | .tuesday => s.tuesday
  | .wednesday => s.wednesday
  | .thursday => s.thursday
  | .friday => s.friday
  | .saturday => s.saturday
  | .sunday => s.sunday

/-- The same hours from Monday to Friday. -/
def weekdays (opens closes : String) : WeeklySchedule :=
  let hours := some ⟨opens, closes⟩
  { monday := hours, tuesday := hours, wednesday := hours, thursday := hours, friday := hours }

end WeeklySchedule

/-- The hours of a single date. Without hours it is closed. -/
structure DateException where
  date : Date
  hours : Option DayHours
  deriving DecidableEq, Repr

/-- When an account is open. -/
structure BusinessHours where
  weekly : WeeklySchedule := {}
  exceptions : List DateException := []
  deriving DecidableEq, Repr, Inhabited

namespace BusinessHours

/-- The hours of a date: those of its first exception, else those of its day of the week. -/
def onDate (h : BusinessHours) (d : Date) : Option DayHours :=
  match h.exceptions.find? (·.date == d) with
  | some e => e.hours
  | none => h.weekly.onDay d.weekday

/-- Whether the account is open. -/
def isOpen (h : BusinessHours) (now : Instant) (z : Zone) : Bool :=
  match h.onDate (z.date now) with
  | some hours => hours.contains (z.timeOfDay now)
  | none => false

/-- Without hours an account is always open. -/
def open? (hours : Option BusinessHours) (now : Instant) (z : Zone) : Bool :=
  match hours with
  | some h => h.isOpen now z
  | none => true

end BusinessHours

/-- What an account has set for itself. -/
structure AccountSettings where
  timezone : Option String := none
  hours : Option BusinessHours := none
  /-- What is answered to input that the conversation has no use for. -/
  recovery : Option String := none
  deriving DecidableEq, Repr, Inhabited

namespace AccountSettings

def zone (s : AccountSettings) (zones : Zones) : Zone := Zone.ofName? zones s.timezone

def isOpen (s : AccountSettings) (zones : Zones) (now : Instant) : Bool :=
  BusinessHours.open? s.hours now (s.zone zones)

end AccountSettings

end Autoresponder
