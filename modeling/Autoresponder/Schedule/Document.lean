import Autoresponder.Json.Decode
import Autoresponder.Schedule.Hours
import Autoresponder.Time.Stamp

/-!
# Opening hours as documents
-/

namespace Autoresponder

open Json RecordReader

namespace Date

def text (d : Date) : String :=
  String.ofList (yearText d.year ++ '-' :: fixedDigits 2 d.month ++ '-' :: fixedDigits 2 d.day)

def toJson (d : Date) : Json := .str d.text

def fromJson : Decoder Date := fun j => (asString j).bind TimeText.date?

end Date

namespace DayHours

def toJson (h : DayHours) : Json := .obj [("open", .str h.opens), ("close", .str h.closes)]

/-- Hours or null. -/
def optionalJson : Option DayHours → Json
  | some h => h.toJson
  | none => .null

def fromJson : Decoder DayHours := asRecord do
  let opens ← field "open" asString
  let closes ← field "close" asString
  return { opens, closes }

end DayHours

namespace WeeklySchedule

def toJson (s : WeeklySchedule) : Json := .obj
  [("monday", DayHours.optionalJson s.monday),
   ("tuesday", DayHours.optionalJson s.tuesday),
   ("wednesday", DayHours.optionalJson s.wednesday),
   ("thursday", DayHours.optionalJson s.thursday),
   ("friday", DayHours.optionalJson s.friday),
   ("saturday", DayHours.optionalJson s.saturday),
   ("sunday", DayHours.optionalJson s.sunday)]

def fromJson : Decoder WeeklySchedule := asRecord do
  let monday ← nullableOr "monday" DayHours.fromJson
  let tuesday ← nullableOr "tuesday" DayHours.fromJson
  let wednesday ← nullableOr "wednesday" DayHours.fromJson
  let thursday ← nullableOr "thursday" DayHours.fromJson
  let friday ← nullableOr "friday" DayHours.fromJson
  let saturday ← nullableOr "saturday" DayHours.fromJson
  let sunday ← nullableOr "sunday" DayHours.fromJson
  return { monday, tuesday, wednesday, thursday, friday, saturday, sunday }

end WeeklySchedule

namespace DateException

def toJson (e : DateException) : Json :=
  .obj [("date", e.date.toJson), ("hours", DayHours.optionalJson e.hours)]

def fromJson : Decoder DateException := asRecord do
  let date ← field "date" Date.fromJson
  return { date, hours := ← nullableOr "hours" DayHours.fromJson }

end DateException

namespace BusinessHours

def toJson (h : BusinessHours) : Json :=
  .obj [("weekly", h.weekly.toJson), ("exceptions", .arr (h.exceptions.map DateException.toJson))]

def fromJson : Decoder BusinessHours := asRecord do
  let weekly ← fieldOr "weekly" WeeklySchedule.fromJson {}
  return { weekly, exceptions := ← fieldOr "exceptions" (asList DateException.fromJson) [] }

end BusinessHours

namespace AccountSettings

def toJson (s : AccountSettings) : Json :=
  .obj <|
    (s.timezone.map fun z => ("timezone", Json.str z)).toList ++
    (s.hours.map fun h => ("business_hours", h.toJson)).toList ++
    (s.recovery.map fun m => ("recovery_message", Json.str m)).toList

def fromJson : Decoder AccountSettings := asRecord do
  let timezone ← nullableOr "timezone" asString
  let hours ← nullableOr "business_hours" BusinessHours.fromJson
  return { timezone, hours, recovery := ← nullableOr "recovery_message" asString }

end AccountSettings

end Autoresponder
