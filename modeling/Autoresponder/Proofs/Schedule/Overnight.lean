import Autoresponder.Proofs.Time.Stored
import Autoresponder.Schedule.Hours

/-!
# Hours that run over midnight

Whether an account is open on a date is decided by the hours of this date alone. Hours that close
before they open are open at the end of their date and at its beginning: what of them lies behind
midnight belongs to the night before and not to the night that follows. So hours of one evening end
at midnight, unless the next day has hours that run over midnight as well.
-/

namespace Autoresponder

/-! ## 1. Days and times of day -/

def Date.dayBefore (d : Date) : Date := .ofDays (d.toDays - 1)

namespace TimeOfDay

theorem before_iff {a b : TimeOfDay} : a.before b = true ↔
    a.seconds < b.seconds ∨ a.seconds = b.seconds ∧ a.nanos < b.nanos := by
  simp [before]

theorem before_trichotomy (a b : TimeOfDay) :
    a.before b = true ∨ a = b ∨ b.before a = true := by
  obtain ⟨seconds, nanos⟩ := a
  obtain ⟨seconds', nanos'⟩ := b
  rw [before_iff, before_iff, mk.injEq]
  dsimp only
  omega

theorem not_before_self (a : TimeOfDay) : ¬ a.before a = true := by
  rw [before_iff]
  omega

theorem not_before_of_before {a b : TimeOfDay} (h : a.before b = true) : ¬ b.before a = true := by
  rw [before_iff] at h ⊢
  omega

end TimeOfDay

/-! ## 2. Hours of a day -/

/-- Opening and closing are read as these times of day. -/
def DayHours.Reads (h : DayHours) (opens closes : TimeOfDay) : Prop :=
  TimeText.openingTime? h.opens = some opens ∧ TimeText.openingTime? h.closes = some closes

instance (h : DayHours) (opens closes : TimeOfDay) : Decidable (h.Reads opens closes) :=
  inferInstanceAs (Decidable (_ ∧ _))

/-- A time of day at which hours are open before the next midnight. -/
def DayHours.Covers (h : DayHours) (t : TimeOfDay) : Prop :=
  ∃ opens closes, h.Reads opens closes ∧ (opens = closes ∨
    opens.before closes = true ∧ ¬ t.before opens = true ∧ t.before closes = true ∨
    closes.before opens = true ∧ ¬ t.before opens = true)

/-- A time of day at which hours that run over midnight are not yet closed behind it. -/
def DayHours.RunsPast (h : DayHours) (t : TimeOfDay) : Prop :=
  ∃ opens closes, h.Reads opens closes ∧ closes.before opens = true ∧ t.before closes = true

section

variable {h : DayHours} {opens closes : TimeOfDay}

theorem DayHours.Reads.eq {opens' closes' : TimeOfDay} (hr : h.Reads opens closes)
    (hr' : h.Reads opens' closes') : opens = opens' ∧ closes = closes' :=
  ⟨Option.some.inj (hr.1.symm.trans hr'.1), Option.some.inj (hr.2.symm.trans hr'.2)⟩

theorem DayHours.Reads.covers_iff (hr : h.Reads opens closes) (t : TimeOfDay) :
    h.Covers t ↔ opens = closes ∨
      opens.before closes = true ∧ ¬ t.before opens = true ∧ t.before closes = true ∨
      closes.before opens = true ∧ ¬ t.before opens = true := by
  refine ⟨fun ⟨o, c, hr', hcovers⟩ => ?_, fun hcovers => ⟨opens, closes, hr, hcovers⟩⟩
  obtain ⟨rfl, rfl⟩ := hr.eq hr'
  exact hcovers

theorem DayHours.Reads.runsPast_iff (hr : h.Reads opens closes) (t : TimeOfDay) :
    h.RunsPast t ↔ closes.before opens = true ∧ t.before closes = true := by
  refine ⟨fun ⟨o, c, hr', hpast⟩ => ?_, fun hpast => ⟨opens, closes, hr, hpast⟩⟩
  obtain ⟨rfl, rfl⟩ := hr.eq hr'
  exact hpast

/-- `DayHours.contains` answers for both parts of hours that run over midnight as if they were parts
of one date: for what they cover (`Covers`) and for what runs past its end (`RunsPast`). -/
theorem DayHours.contains_iff (h : DayHours) (t : TimeOfDay) :
    h.contains t = true ↔ h.Covers t ∨ h.RunsPast t := by
  by_cases hread : ∃ opens closes, h.Reads opens closes
  · obtain ⟨opens, closes, hr⟩ := hread
    have hcontains : h.contains t = if opens = closes then true
        else if opens.before closes then !t.before opens && t.before closes
        else !t.before opens || t.before closes := by
      unfold contains
      rw [hr.1, hr.2]
    rw [hcontains, hr.covers_iff, hr.runsPast_iff]
    rcases opens.before_trichotomy closes with hlt | rfl | hlt
    · have hne : opens ≠ closes := fun heq => closes.not_before_self (heq ▸ hlt)
      simp [hne, hlt, TimeOfDay.not_before_of_before hlt]
    · simp
    · have hne : opens ≠ closes := fun heq => closes.not_before_self (heq ▸ hlt)
      simp [hne, hlt, TimeOfDay.not_before_of_before hlt]
  · -- Hours that cannot be read are closed.
    have hclosed : h.contains t = false := by
      unfold contains
      split
      · rename_i opens closes hopens hcloses
        exact absurd ⟨opens, closes, hopens, hcloses⟩ hread
      · rfl
    simp only [hclosed, Bool.false_eq_true, false_iff, not_or]
    exact ⟨fun ⟨o, c, hr, _⟩ => hread ⟨o, c, hr⟩, fun ⟨o, c, hr, _⟩ => hread ⟨o, c, hr⟩⟩

end

/-! ## 3. Hours of a week -/

namespace WeeklySchedule

/-- The hours that `onDay` gives for a day are open at a time of this day. -/
def Covers (s : WeeklySchedule) (day : Weekday) (t : TimeOfDay) : Prop :=
  ∃ hours ∈ s.onDay day, hours.Covers t

/-- The hours that `onDay` gives for a day run over midnight, to beyond a time of day. -/
def RunsPast (s : WeeklySchedule) (day : Weekday) (t : TimeOfDay) : Prop :=
  ∃ hours ∈ s.onDay day, hours.RunsPast t

end WeeklySchedule

/-- The only hours of the week are those of one day, and they run over midnight. -/
structure WeeklySchedule.Evening (s : WeeklySchedule) (day : Weekday) (opens closes : TimeOfDay) :
    Prop where
  hours : ∃ hours, s.onDay day = some hours ∧ hours.Reads opens closes
  others : ∀ other, other ≠ day → s.onDay other = none
  past : closes.before opens = true

/-- What weekly hours come to in `BusinessHours.isOpen` when clocks show a date and a time
of day. -/
structure WeeklySchedule.Decides (s : WeeklySchedule) (d : Date) (t : TimeOfDay) (isOpen : Bool) :
    Prop where
  /-- The hours of the date are all that counts. What of them runs over midnight counts before they
  begin. -/
  own : isOpen = true ↔ s.Covers d.weekday t ∨ s.RunsPast d.weekday t
  /-- So the hours of the evening before go on exactly where the account is open anyway, or where
  the hours of both days run past the time, or neither. -/
  evening : (isOpen = true ↔ s.Covers d.weekday t ∨ s.RunsPast d.dayBefore.weekday t) ↔
    s.Covers d.weekday t ∨ (s.RunsPast d.weekday t ↔ s.RunsPast d.dayBefore.weekday t)
  /-- A single evening is open at both ends of its own day. -/
  single : ∀ day opens closes, s.Evening day opens closes →
    (isOpen = true ↔ d.weekday = day ∧ (¬ t.before opens = true ∨ t.before closes = true))

theorem WeeklySchedule.Evening.covers_or_runsPast {s : WeeklySchedule} {day : Weekday}
    {opens closes : TimeOfDay} (hs : s.Evening day opens closes) (other : Weekday) (t : TimeOfDay) :
    s.Covers other t ∨ s.RunsPast other t ↔
      other = day ∧ (¬ t.before opens = true ∨ t.before closes = true) := by
  obtain ⟨hours, hday, hr⟩ := hs.hours
  have hne : opens ≠ closes := fun heq => closes.not_before_self (heq ▸ hs.past)
  unfold Covers RunsPast
  by_cases hother : other = day
  · rw [hother, hday]
    simp [hr.covers_iff, hr.runsPast_iff, hne, hs.past, TimeOfDay.not_before_of_before hs.past]
  · rw [hs.others other hother]
    simp [hother]

/-- **The hours of a date end with it.** Without exceptions an account is open when the hours that
`weekly` gives for the day of `now` are; what of them runs over midnight is open before they begin,
and not on the day that follows (`WeeklySchedule.Decides`). -/
theorem isOpen_overnight (weekly : WeeklySchedule) (z : Zone) (now : Instant) :
    weekly.Decides (z.date now) (z.timeOfDay now) (BusinessHours.isOpen { weekly } now z) := by
  have hopen : BusinessHours.isOpen { weekly } now z = true ↔
      weekly.Covers (z.date now).weekday (z.timeOfDay now) ∨
        weekly.RunsPast (z.date now).weekday (z.timeOfDay now) := by
    unfold BusinessHours.isOpen BusinessHours.onDate WeeklySchedule.Covers WeeklySchedule.RunsPast
    rw [List.find?_nil]
    cases hday : weekly.onDay (z.date now).weekday with
    | none => simp
    | some hours => simpa using hours.contains_iff (z.timeOfDay now)
  refine ⟨hopen, ?_, fun day opens closes hs => hopen.trans (hs.covers_or_runsPast _ _)⟩
  rw [hopen]
  by_cases hcovers : weekly.Covers (z.date now).weekday (z.timeOfDay now)
  · simp only [hcovers, true_or]
  · simp only [hcovers, false_or]

/-- Hours on Friday alone, from ten in the evening to two at night (`isOpen_overnight_friday`). -/
def WeeklySchedule.fridayNight : WeeklySchedule := { friday := some ⟨"22:00", "02:00"⟩ }

/-- By `WeeklySchedule.fridayNight` the night after is closed, and the night before is open. -/
theorem isOpen_overnight_friday :
    WeeklySchedule.fridayNight.Evening .friday ⟨79200, 0⟩ ⟨7200, 0⟩ ∧
      -- 6 March 2026 was a Friday.
      ([1772838000, 1772845200, 1772758800].map fun second =>
        BusinessHours.isOpen { weekly := .fridayNight } (.ofSeconds second) .utc) =
          [true, false, true] ∧
      ((Zone.utc.date (.ofSeconds 1772845200)).weekday = .friday ∧
        (¬ (Zone.utc.timeOfDay (.ofSeconds 1772845200)).before ⟨79200, 0⟩ = true ∨
          (Zone.utc.timeOfDay (.ofSeconds 1772845200)).before ⟨7200, 0⟩ = true) ↔ False) := by
  have hevening : WeeklySchedule.fridayNight.Evening .friday ⟨79200, 0⟩ ⟨7200, 0⟩ :=
    ⟨⟨_, rfl, by decide +kernel⟩,
      fun other hother => by cases other <;> first | rfl | contradiction, by decide⟩
  have hclosed : BusinessHours.isOpen { weekly := .fridayNight } (.ofSeconds 1772845200) .utc =
      false := by decide +kernel
  have hsingle :=
    (isOpen_overnight .fridayNight .utc (.ofSeconds 1772845200)).single _ _ _ hevening
  exact ⟨hevening, by decide +kernel, fun h => absurd (hsingle.mpr h) (by rw [hclosed]; decide),
    False.elim⟩

end Autoresponder
