import Autoresponder.Time.Calendar

/-!
# Instants

Points in time on the UTC scale, to the nanosecond. An instant counts the seconds from the start of
1970 and the nanoseconds within the second; a leap second is the last second of a minute with a
billion nanoseconds or more. Spans are whole numbers of nanoseconds.
-/

namespace Autoresponder

/-- Nanoseconds in a second. -/
def nanosPerSecond : Nat := 1000000000

/-- A point in time. -/
structure Instant where
  seconds : Int
  nanos : Nat
  valid : nanos < nanosPerSecond ∨ (nanos < 2 * nanosPerSecond ∧ seconds % 60 = 59)
  deriving DecidableEq

/-- A time of day, to the nanosecond. -/
structure TimeOfDay where
  seconds : Nat
  nanos : Nat
  deriving DecidableEq, Repr

/-- A span of time in nanoseconds. -/
abbrev Span := Int

def Span.ofSeconds (n : Int) : Span := n * nanosPerSecond

/-- Whole seconds of a span, toward zero. -/
def Span.wholeSeconds (d : Span) : Int := d.tdiv nanosPerSecond

namespace TimeOfDay

/-- Earlier on the same day. -/
def before (a b : TimeOfDay) : Bool :=
  a.seconds < b.seconds || (a.seconds == b.seconds && a.nanos < b.nanos)

end TimeOfDay

namespace Instant

/-- Earlier. -/
def before (a b : Instant) : Bool :=
  a.seconds < b.seconds || (a.seconds == b.seconds && a.nanos < b.nanos)

instance : LT Instant := ⟨fun a b => a.before b = true⟩
instance : LE Instant := ⟨fun a b => b.before a = false⟩

instance (a b : Instant) : Decidable (a < b) := inferInstanceAs (Decidable (_ = true))
instance (a b : Instant) : Decidable (a ≤ b) := inferInstanceAs (Decidable (_ = false))

theorem lt_iff {a b : Instant} :
    a < b ↔ a.seconds < b.seconds ∨ (a.seconds = b.seconds ∧ a.nanos < b.nanos) := by
  change before a b = true ↔ _
  simp [before]

theorem le_iff {a b : Instant} : a ≤ b ↔ ¬ b < a := by
  change before b a = false ↔ ¬ before b a = true
  simp

/-- The instant that lies `n` nanoseconds after the start of 1970, leap seconds not counted. -/
def ofNanos (n : Int) : Instant where
  seconds := n / nanosPerSecond
  nanos := (n % nanosPerSecond).toNat
  valid := by
    have := Int.emod_lt_of_pos n (show (0 : Int) < nanosPerSecond by decide)
    have := Int.emod_nonneg n (show (nanosPerSecond : Int) ≠ 0 by decide)
    exact .inl (by omega)

/-- The start of a second. -/
def ofSeconds (n : Int) : Instant := ⟨n, 0, .inl (by decide)⟩

instance : Inhabited Instant := ⟨ofSeconds 0⟩

/-- The instant of a second and nanoseconds within it, if there is one. -/
def ofParts? (seconds : Int) (nanos : Nat) : Option Instant :=
  if h : nanos < nanosPerSecond ∨ (nanos < 2 * nanosPerSecond ∧ seconds % 60 = 59) then
    some ⟨seconds, nanos, h⟩
  else none

/-- The first second of the calendar. -/
def firstSecond : Int := -8334601228800

/-- The last second of the calendar. -/
def lastSecond : Int := 8210266876799

/-- The first instant of the calendar, in the year -262143. -/
def first : Instant := ofSeconds firstSecond

/-- Whether the instant is in the calendar. -/
def inCalendar (t : Instant) : Bool := firstSecond ≤ t.seconds && t.seconds ≤ lastSecond

/-- The instant a span later. A leap second is left by a whole second in either direction, or by
running over its end. -/
def add (t : Instant) (d : Span) : Instant :=
  let plain (seconds : Int) (nanos : Int) : Instant :=
    ofNanos (seconds * nanosPerSecond + nanos + d)
  if nanosPerSecond ≤ t.nanos then
    let whole := d.tdiv nanosPerSecond
    let part := d.tmod nanosPerSecond
    -- Forward, the leap second counts as the start of the next one; backward, as its own second.
    if 0 < whole ∨ (0 < part ∧ 2 * (nanosPerSecond : Int) ≤ t.nanos + part) then
      plain t.seconds (t.nanos - nanosPerSecond : Int)
    else if whole < 0 then plain (t.seconds + 1) (t.nanos - nanosPerSecond : Int)
    else (ofParts? t.seconds (t.nanos + part).toNat).getD t
  else plain t.seconds t.nanos

/-- The instant a span later, if it is in the calendar. -/
def add? (t : Instant) (d : Span) : Option Instant :=
  let later := t.add d
  if later.inCalendar then some later else none

/-- Seconds since midnight, UTC. -/
def secondOfDay (t : Instant) : Int := t.seconds % 86400

/-- The span from `b` to `a`. A leap second counts where a later time of day looks back on it. -/
def since (a b : Instant) : Span :=
  let counted : Int :=
    if b.secondOfDay < a.secondOfDay ∧ nanosPerSecond ≤ b.nanos then 1
    else if a.secondOfDay < b.secondOfDay ∧ nanosPerSecond ≤ a.nanos then -1
    else 0
  (a.seconds - b.seconds + counted) * nanosPerSecond + ((a.nanos : Int) - b.nanos)

/-- The calendar date at an offset from UTC in seconds. -/
def date (t : Instant) (offset : Int) : Date :=
  Date.ofDays ((t.seconds + offset) / 86400 + Calendar.epochDay)

/-- The time of day at an offset from UTC in seconds. -/
def timeOfDay (t : Instant) (offset : Int) : TimeOfDay :=
  ⟨((t.seconds + offset) % 86400).toNat, t.nanos⟩

/-- The second at which a date begins where clocks are `offset` seconds ahead of UTC. -/
def startOfDate (d : Date) (offset : Int) : Int :=
  (d.toDays - Calendar.epochDay) * 86400 - offset

/-- The later of two instants. -/
def latest (a b : Instant) : Instant := if a < b then b else a

end Instant

end Autoresponder
