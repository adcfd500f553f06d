import Autoresponder.Time.Stamp

/-!
# Reading dates and times

Three forms of timestamps, from lenient to strict, and the shorter forms of dates and clock times.
A step takes what it reads off the front of the text and leaves the rest.
-/

namespace Autoresponder.TimeText

open Text

/-- The value of a list of decimal digits. -/
def digitsValue (ds : List Char) : Nat := ds.foldl (fun n c => n * 10 + (c.toNat - '0'.toNat)) 0

/-- At least `least` and at most `most` digits. -/
def digits (least most : Nat) (cs : List Char) : Option (Nat × List Char) :=
  let ds := (cs.take most).takeWhile Char.isDigit
  if ds.length < least then none else some (digitsValue ds, cs.drop ds.length)

/-- A run of digits of any length, at least one. -/
def anyDigits (cs : List Char) : Option (Nat × List Char) :=
  let ds := cs.takeWhile Char.isDigit
  if ds.isEmpty then none else some (digitsValue ds, cs.drop ds.length)

/-- One given character. -/
def literal (c : Char) : List Char → Option (List Char)
  | d :: r => if d = c then some r else none
  | [] => none

/-- One or two digits, with blanks in front. -/
def field (cs : List Char) : Option (Nat × List Char) := digits 1 2 (trimLeft cs)

/-- A year, with blanks in front. Without a sign it has at most four digits. -/
def year (cs : List Char) : Option (Int × List Char) :=
  match trimLeft cs with
  -- Behind a sign a year may have any number of digits.
  | '-' :: r => (anyDigits r).map fun (n, r) => (-(n : Int), r)
  | '+' :: r => (anyDigits r).map fun (n, r) => ((n : Int), r)
  | r => (digits 1 4 r).map fun (n, r) => ((n : Int), r)

/-- A fraction, if a point follows: nanoseconds from its first nine digits. -/
def fraction : List Char → Option (Nat × List Char)
  | '.' :: r =>
    let ds := r.takeWhile Char.isDigit
    if ds.isEmpty then none
    -- Fewer than nine digits are filled up with zeros, and more are cut off.
    else some (digitsValue ((ds ++ List.replicate 9 '0').take 9), r.drop ds.length)
  | cs => some (0, cs)

/-- A time of day. Second 60 is a leap second. -/
structure ClockTime where
  hour : Nat
  minute : Nat
  second : Nat
  nanos : Nat

/-- The time of day, if the fields are in range. -/
def ClockTime.timeOfDay? (c : ClockTime) : Option TimeOfDay :=
  if c.hour < 24 ∧ c.minute < 60 ∧ c.second ≤ 60 then
    let s := min c.second 59
    some ⟨c.hour * 3600 + c.minute * 60 + s,
      c.nanos + if c.second = 60 then nanosPerSecond else 0⟩
  else none

/-- The years of the calendar. -/
def validDate? (year : Int) (month day : Nat) : Option Date :=
  let d : Date := ⟨year, month, day⟩
  if -262143 ≤ year ∧ year ≤ 262142 ∧ d.Valid then some d else none

/-- The instant at a date and time where clocks are `offset` seconds ahead of UTC. -/
def instant? (d : Date) (c : ClockTime) (offset : Int) : Option Instant := do
  let t ← c.timeOfDay?
  let instant ← Instant.ofParts? (Instant.startOfDate d offset + t.seconds) t.nanos
  if instant.inCalendar then some instant else none

/-- An offset of hours and minutes from UTC, in seconds; `separator` drops what stands between. -/
def offset (separator : List Char → Option (List Char)) (cs : List Char) :
    Option (Int × List Char) :=
  match cs with
  | 'Z' :: r | 'z' :: r => some (0, r)
  | sign :: r => do
    let negative ← match sign with
      | '+' => some false
      | '-' | '−' => some true
      | _ => none
    let (hours, r) ← digits 2 2 r
    let r ← separator r
    let (minutes, r) ← digits 2 2 r
    if minutes < 60 ∧ hours < 24 then
      let seconds : Int := hours * 3600 + minutes * 60
      some (if negative then -seconds else seconds, r)
    else none
  | [] => none

/-- Colons and blanks. -/
def dropColons (cs : List Char) : Option (List Char) :=
  some (cs.dropWhile fun c => c == ':' || isBlank c)

/-- `UTC` in any case, or an offset. -/
def zone (cs : List Char) : Option (Int × List Char) :=
  match cs with
  | a :: b :: c :: r =>
    if [a.toUpper, b.toUpper, c.toUpper] = ['U', 'T', 'C'] then some (0, r)
    else offset dropColons cs
  | _ => offset dropColons cs

/-- Year, month and day with hyphens, blanks allowed before each part. -/
def spacedDate (cs : List Char) : Option ((Int × Nat × Nat) × List Char) := do
  let (y, cs) ← year cs
  let cs ← literal '-' (trimLeft cs)
  let (m, cs) ← field cs
  let cs ← literal '-' (trimLeft cs)
  let (d, cs) ← field cs
  some ((y, m, d), cs)

/-- The lenient form of a timestamp: parts need not be padded, blanks may stand before them, and
the letter between date and time may be a blank. -/
def lenient (text : String) : Option Instant := do
  let ((y, m, d), cs) ← spacedDate text.toList
  let cs ← match cs with
    | 'T' :: r | 't' :: r | ' ' :: r => some r
    | _ => none
  let (hour, cs) ← field cs
  let cs ← literal ':' (trimLeft cs)
  let (minute, cs) ← field cs
  let cs ← literal ':' (trimLeft cs)
  let (second, cs) ← field cs
  let (nanos, cs) ← fraction cs
  let (ahead, cs) ← zone (trimLeft cs)
  if (trimLeft cs).isEmpty then instant? (← validDate? y m d) ⟨hour, minute, second, nanos⟩ ahead
  else none

/-- The strict form: every part has its full width and nothing stands between or around them. -/
def strict (text : String) : Option Instant := do
  let (y, cs) ← digits 4 4 text.toList
  let cs ← literal '-' cs
  let (m, cs) ← digits 2 2 cs
  let cs ← literal '-' cs
  let (d, cs) ← digits 2 2 cs
  let cs ← match cs with
    | 'T' :: r | 't' :: r | ' ' :: r => some r
    | _ => none
  let (hour, cs) ← digits 2 2 cs
  let cs ← literal ':' cs
  let (minute, cs) ← digits 2 2 cs
  let cs ← literal ':' cs
  let (second, cs) ← digits 2 2 cs
  let (nanos, cs) ← fraction cs
  let (ahead, cs) ← offset (literal ':') cs
  if cs.isEmpty then instant? (← validDate? y m d) ⟨hour, minute, second, nanos⟩ ahead else none

/-- A time of day of hours, minutes and, if asked for, seconds; parts need not be padded, and
blanks may stand before them. -/
def clockTime (withSeconds withFraction : Bool) (cs : List Char) :
    Option (ClockTime × List Char) := do
  let (hour, cs) ← field cs
  let cs ← literal ':' cs
  let (minute, cs) ← field cs
  if withSeconds then
    let cs ← literal ':' cs
    let (second, cs) ← field cs
    let (nanos, cs) ← if withFraction then fraction cs else some (0, cs)
    some (⟨hour, minute, second, nanos⟩, cs)
  else some (⟨hour, minute, 0, 0⟩, cs)

/-- A date and a time in UTC without an offset. -/
def zoneless (text : String) : Option Instant := do
  let (y, cs) ← year text.toList
  let cs ← literal '-' cs
  let (m, cs) ← field cs
  let cs ← literal '-' cs
  let (d, cs) ← field cs
  let (time, cs) ← clockTime true true (trimLeft cs)
  if cs.isEmpty then instant? (← validDate? y m d) time 0 else none

/-- Reads a stored timestamp. What is none reads as the first instant of the calendar. -/
def readStored (text : String) : Instant :=
  match strict text with
  | some t => t
  | none => (zoneless text).getD Instant.first

/-- A date alone. -/
def date? (text : String) : Option Date := do
  let ((y, m, d), cs) ← spacedDate text.toList
  if (trimLeft cs).isEmpty then validDate? y m d else none

/-- A time of day as people write it: hours and minutes, with or without seconds. -/
def openingTime? (text : String) : Option TimeOfDay :=
  let cs := (trim text).toList
  let whole (withSeconds : Bool) : Option TimeOfDay := do
    let (time, rest) ← clockTime withSeconds false cs
    if rest.isEmpty then time.timeOfDay? else none
  match whole false with
  | some t => some t
  | none => whole true

/-- A time of day with seconds and, if it has one, a fraction. -/
def timeOfDay? (text : String) : Option TimeOfDay := do
  let (time, rest) ← clockTime true true text.toList
  if rest.isEmpty then time.timeOfDay? else none

end Autoresponder.TimeText
