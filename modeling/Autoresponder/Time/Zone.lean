import Autoresponder.Time.Instant

/-!
# Time zones

A zone is an offset from UTC and the instants at which the offset changes, in order.
-/

namespace Autoresponder

/-- A time zone. Each transition gives the second from which its offset is in force. -/
structure Zone where
  name : String
  base : Int
  transitions : List (Int × Int)
  deriving DecidableEq

/-- The zones that can be named, by their names exactly as written. -/
abbrev Zones := String → Option Zone

namespace Zone

/-- UTC itself. -/
def utc : Zone := ⟨"UTC", 0, []⟩

/-- The zone of a name. UTC stands for a name that none of the `zones` has, and for no name. -/
def ofName? (zones : Zones) (name : Option String) : Zone := (name.bind zones).getD utc

/-- The offset in force at a second, where `current` was in force before the transitions. -/
def offsetFrom (current : Int) : List (Int × Int) → Int → Int
  | [], _ => current
  | (start, next) :: rest, second => if second < start then current else offsetFrom next rest second

/-- The offset in force at a second. -/
def offsetAt (z : Zone) (second : Int) : Int := offsetFrom z.base z.transitions second

/-- The offset in force at an instant. -/
def offset (z : Zone) (t : Instant) : Int := z.offsetAt t.seconds

/-- The date that clocks show. -/
def date (z : Zone) (t : Instant) : Date := t.date (z.offset t)

/-- The time of day that clocks show. -/
def timeOfDay (z : Zone) (t : Instant) : TimeOfDay := t.timeOfDay (z.offset t)

/-- Every offset that is in force at some time. -/
def offsets (z : Zone) : List Int := z.base :: z.transitions.map (·.2)

/-- The seconds at which clocks show the beginning of a date: none if it is skipped, several if it
is repeated. -/
def startsOf (z : Zone) (d : Date) : List Int :=
  (z.offsets.map (Instant.startOfDate d ·)).filter fun s =>
    Instant.startOfDate d (z.offsetAt s) == s

/-- The start of the local day. Where clocks show its beginning twice, the first time; where they
skip it, as long before now as the whole seconds that the clock shows since midnight. -/
def localMidnight (z : Zone) (now : Instant) : Instant :=
  match (z.startsOf (z.date now)).min? with
  | some s => Instant.ofSeconds s
  | none => now.add (Span.ofSeconds (-((z.timeOfDay now).seconds : Int)))

end Zone

end Autoresponder
