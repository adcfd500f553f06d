import Autoresponder.Proofs.Time.Order
import Autoresponder.Time.Zone
import Mathlib.Data.Finset.Dedup
import Mathlib.Data.Finset.Order
import Mathlib.Data.Int.LeastGreatest

/-!
# The beginning of a day

Every date that clocks show has a first second. Where they show midnight then, it is what is taken
for the beginning of the day. Where they skip midnight, the beginning is taken as long ago as they
show since midnight: that is before the first second, by as much as was skipped, and shares the
fraction of its second with the instant that is asked about. Either way whatever shows the date is
not before it.
-/

namespace Autoresponder

open Calendar

/-- The date on which an instant lies begins (`startOfDate`) with the day of the clock. -/
theorem Instant.startOfDate_date (t : Instant) (offset : Int) :
    startOfDate (t.date offset) 0 = (t.seconds + offset) / 86400 * 86400 := by
  unfold startOfDate date
  rw [Date.toDays_ofDays]
  omega

namespace Instant

@[simp] theorem seconds_ofSeconds (n : Int) : (ofSeconds n).seconds = n := rfl

@[simp] theorem nanos_ofSeconds (n : Int) : (ofSeconds n).nanos = 0 := rfl

-- Outside of leap seconds instants are added to as nanoseconds are.
theorem add_of_lt {t : Instant} (h : t.nanos < nanosPerSecond) (d : Span) :
    t.add d = ofNanos (t.seconds * nanosPerSecond + t.nanos + d) := by
  unfold add
  rw [if_neg (not_le_of_gt h)]

theorem seconds_ofNanos (n : Int) : (ofNanos n).seconds = n / nanosPerSecond := rfl

-- The start of the current second of a leap second is as many seconds ago as that of another one.
theorem add_neg_ofSeconds (t : Instant) {n : Nat} (hn : 0 < n) :
    t.add (Span.ofSeconds (-(n : Int))) =
      ofNanos ((t.seconds - n) * nanosPerSecond + t.nanos) := by
  have hspan : Span.ofSeconds (-(n : Int)) = -(n : Int) * nanosPerSecond := rfl
  by_cases hleap : nanosPerSecond ≤ t.nanos
  · have hwhole : (Span.ofSeconds (-(n : Int))).tdiv nanosPerSecond = -(n : Int) := by
      rw [hspan, Int.mul_tdiv_cancel _ (by decide)]
    have hpart : (Span.ofSeconds (-(n : Int))).tmod nanosPerSecond = 0 := by
      rw [hspan, Int.mul_tmod_left]
    unfold add
    simp only [if_pos hleap, hwhole, hpart]
    rw [if_neg (by omega), if_pos (by omega), hspan]
    congr 1
    unfold nanosPerSecond
    omega
  · rw [add_of_lt (not_le.mp hleap), hspan]
    congr 1
    unfold nanosPerSecond
    omega

theorem startOfDate_eq (d : Date) (offset : Int) :
    startOfDate d offset = startOfDate d 0 - offset := by
  unfold startOfDate
  rw [Int.sub_zero]

/-- A date began (`startOfDate`) as many seconds ago as `timeOfDay` shows. -/
theorem startOfDate_date_self (t : Instant) (offset : Int) :
    startOfDate (t.date offset) offset = t.seconds - (t.timeOfDay offset).seconds := by
  rw [startOfDate_eq, startOfDate_date, timeOfDay]
  dsimp only
  omega

end Instant

namespace Zone

variable {z : Zone} {d : Date} {t now : Instant}

/-- What clocks show at a second, counted like the seconds of UTC. -/
def clock (z : Zone) (second : Int) : Int := second + z.offsetAt second

/-- Clocks jump over the beginning of a date. -/
def Skips (z : Zone) (d : Date) (second : Int) : Prop :=
  z.clock (second - 1) < Instant.startOfDate d 0 ∧ Instant.startOfDate d 0 < z.clock second

/-- Where clocks jump over the beginning of the date `d` (`Skips`), their offset does not change
again on it. -/
def Steady (z : Zone) (d : Date) : Prop :=
  ∀ second, z.Skips d second → ∀ t : Instant, second ≤ t.seconds → z.date t = d →
    z.offset t = z.offsetAt second

/-! ## 1. Clocks -/

theorem clock_of_date (h : z.date t = d) :
    Instant.startOfDate d 0 ≤ z.clock t.seconds ∧
      z.clock t.seconds < Instant.startOfDate d 0 + 86400 := by
  subst h
  unfold date clock offset
  rw [Instant.startOfDate_date]
  omega

theorem date_of_clock (h : Instant.startOfDate (z.date now) 0 ≤ z.clock t.seconds)
    (h' : z.clock t.seconds < Instant.startOfDate (z.date now) 0 + 86400) :
    z.date t = z.date now := by
  unfold date clock offset at *
  rw [Instant.startOfDate_date] at h h'
  unfold Instant.date
  congr 1
  omega

theorem offsetFrom_mem (current : Int) (transitions : List (Int × Int)) (second : Int) :
    offsetFrom current transitions second ∈ current :: transitions.map (·.2) := by
  induction transitions generalizing current with
  | nil => exact List.mem_cons_self
  | cons transition rest ih =>
    unfold offsetFrom
    split
    · exact List.mem_cons_self
    · exact List.mem_cons_of_mem _ (ih transition.2)

theorem offsetAt_mem (z : Zone) (second : Int) : z.offsetAt second ∈ z.offsets :=
  offsetFrom_mem z.base z.transitions second

-- The seconds that are listed are those at which clocks show the beginning of the date.
theorem mem_startsOf {second : Int} :
    second ∈ z.startsOf d ↔ z.clock second = Instant.startOfDate d 0 := by
  have hstart (offset : Int) : Instant.startOfDate d offset = Instant.startOfDate d 0 - offset := by
    unfold Instant.startOfDate
    omega
  unfold startsOf clock
  rw [List.mem_filter, List.mem_map, beq_iff_eq, hstart]
  constructor
  · rintro ⟨-, h⟩
    omega
  · intro h
    exact ⟨⟨z.offsetAt second, z.offsetAt_mem second, by rw [hstart]; omega⟩, by omega⟩

/-! ## 2. How a date begins -/

-- Clocks have shown every earlier time before.
theorem exists_clock_lt (z : Zone) (time second : Int) :
    ∃ earlier, earlier ≤ second ∧ z.clock earlier < time := by
  obtain ⟨greatest, hgreatest⟩ := z.offsets.toFinset.exists_le
  refine ⟨min second (time - greatest - 1), min_le_left _ _, ?_⟩
  have hoffset := hgreatest (z.offsetAt (min second (time - greatest - 1)))
    (List.mem_toFinset.mpr (z.offsetAt_mem _))
  unfold clock
  omega

-- Where clocks show a time, they have come to it or have jumped over it.
theorem exists_crossing {time earlier : Int} (h : z.clock earlier < time) (distance : Nat)
    (h' : time ≤ z.clock (earlier + distance)) :
    ∃ second, second ≤ earlier + distance ∧ z.clock (second - 1) < time ∧
      time ≤ z.clock second := by
  induction distance with
  | zero =>
    rw [Nat.cast_zero, Int.add_zero] at h'
    omega
  | succ distance ih =>
    by_cases hbefore : z.clock (earlier + distance) < time
    · refine ⟨earlier + (distance + 1 : Nat), le_rfl, ?_, h'⟩
      rwa [show earlier + ((distance + 1 : Nat) : Int) - 1 = earlier + distance by omega]
    · obtain ⟨second, hle, hcrossing⟩ := ih (not_lt.mp hbefore)
      exact ⟨second, by omega, hcrossing⟩

/-- The date `d` of an instant begins when clocks show its beginning (`Zone.startsOf`), or when they
jump over it (`Zone.Skips`). -/
theorem exists_beginning (h : z.date t = d) :
    ∃ second, second ≤ t.seconds ∧ (second ∈ z.startsOf d ∨ z.Skips d second) := by
  obtain ⟨hle, -⟩ := clock_of_date h
  obtain ⟨earlier, hearlier, hlt⟩ := z.exists_clock_lt (Instant.startOfDate d 0) t.seconds
  have hsum : earlier + ((t.seconds - earlier).toNat : Int) = t.seconds := by omega
  obtain ⟨second, hsecond, hbefore, hafter⟩ :=
    exists_crossing hlt (t.seconds - earlier).toNat (hsum.symm ▸ hle)
  refine ⟨second, hsum ▸ hsecond, ?_⟩
  rcases Int.lt_or_eq_of_le hafter with hskips | hshows
  · exact .inr ⟨hbefore, hskips⟩
  · exact .inl (mem_startsOf.mpr hshows.symm)

-- A zone whose offset never changes skips nothing.
theorem steady_of_transitions_eq_nil (h : z.transitions = []) (d : Date) : z.Steady d := by
  intro second hskips
  unfold Skips clock offsetAt at hskips
  rw [h] at hskips
  simp only [offsetFrom] at hskips
  omega

/-! ## 3. The first second of a date -/

/-- Clocks show the date `d` at the second `first`, and at no earlier instant. -/
structure IsFirst (z : Zone) (d : Date) (first : Int) : Prop where
  shows : z.date (.ofSeconds first) = d
  least : ∀ t, z.date t = d → .ofSeconds first ≤ t

theorem IsFirst.le {first : Int} (h : z.IsFirst d first) (ht : z.date t = d) :
    first ≤ t.seconds := by
  have hle := h.least t ht
  rw [Instant.le_iff, Instant.lt_iff, Instant.seconds_ofSeconds] at hle
  omega

/-- A date that clocks show has a first second (`Zone.IsFirst`). -/
theorem exists_isFirst (z : Zone) (now : Instant) : ∃ first, z.IsFirst (z.date now) first := by
  obtain ⟨greatest, hgreatest⟩ := z.offsets.toFinset.exists_le
  have hbounded : ∀ second, z.date (.ofSeconds second) = z.date now →
      Instant.startOfDate (z.date now) 0 - greatest ≤ second := by
    intro second hsecond
    have hoffset := hgreatest (z.offsetAt second) (List.mem_toFinset.mpr (z.offsetAt_mem _))
    have hclock := (clock_of_date hsecond).1
    unfold clock at hclock
    rw [Instant.seconds_ofSeconds] at hclock
    omega
  obtain ⟨first, hfirst, hleast⟩ :=
    Int.exists_least_of_bdd ⟨_, hbounded⟩ ⟨now.seconds, (rfl : z.date _ = z.date now)⟩
  refine ⟨first, hfirst, fun t ht => ?_⟩
  have hle : first ≤ t.seconds := hleast t.seconds ht
  rw [Instant.le_iff, Instant.lt_iff, Instant.seconds_ofSeconds, Instant.nanos_ofSeconds]
  omega

-- Clocks show the date when they show its beginning.
theorem date_of_mem_startsOf (ht : z.date t = d) {second : Int} (h : second ∈ z.startsOf d) :
    z.date (.ofSeconds second) = d := by
  subst ht
  rw [mem_startsOf] at h
  exact date_of_clock h.ge (by rw [Instant.seconds_ofSeconds]; omega)

section

variable {first : Int}

-- Where clocks jump over the beginning of a date, the whole date has one offset.
theorem IsFirst.offset_eq (h : z.IsFirst d first) (steady : z.Steady d)
    (hclock : z.clock first ≠ Instant.startOfDate d 0) (ht : z.date t = d) :
    z.offset t = z.offsetAt first := by
  obtain ⟨second, hle, hstarts | hskips⟩ := exists_beginning h.shows
  · -- Then clocks would show the beginning at the first second.
    have hfirst : first ≤ second := h.le (date_of_mem_startsOf h.shows hstarts)
    rw [Instant.seconds_ofSeconds] at hle
    rw [le_antisymm hle hfirst, mem_startsOf] at hstarts
    exact absurd hstarts hclock
  · rw [Instant.seconds_ofSeconds] at hle
    exact (steady second hskips t (hle.trans (h.le ht)) ht).trans
      (steady second hskips (.ofSeconds first) hle h.shows).symm

theorem IsFirst.startsOf_eq_nil (h : z.IsFirst d first) (steady : z.Steady d)
    (hclock : z.clock first ≠ Instant.startOfDate d 0) : z.startsOf d = [] := by
  rw [List.eq_nil_iff_forall_not_mem]
  intro second hstarts
  have hdate : z.date (.ofSeconds second) = d := date_of_mem_startsOf h.shows hstarts
  have hle : first ≤ second := h.le hdate
  have hoffset : z.offsetAt second = z.offsetAt first := h.offset_eq steady hclock hdate
  have hafter : Instant.startOfDate d 0 ≤ z.clock first := (clock_of_date h.shows).1
  rw [mem_startsOf] at hstarts
  unfold clock at *
  omega

/-! ## 4. Midnight -/

/-- Where clocks show midnight at the `first` second of the date, that is `Zone.localMidnight`. -/
theorem IsFirst.localMidnight_of_clock (h : z.IsFirst (z.date now) first)
    (hclock : z.clock first = Instant.startOfDate (z.date now) 0) :
    z.localMidnight now = .ofSeconds first := by
  have hmin : (z.startsOf (z.date now)).min? = some first :=
    List.min?_eq_some_iff.mpr ⟨mem_startsOf.mpr hclock, fun second hsecond =>
      h.le (date_of_mem_startsOf rfl hsecond)⟩
  unfold localMidnight
  rw [hmin]

/-- Where clocks never show midnight, `Zone.localMidnight` takes the offset that is in force to have
been in force since then, and the fraction of the second stays. -/
theorem localMidnight_of_skipped (hnone : z.startsOf (z.date now) = []) :
    z.localMidnight now = .ofNanos
      (Instant.startOfDate (z.date now) (z.offset now) * nanosPerSecond + now.nanos) := by
  have hstart : Instant.startOfDate (z.date now) (z.offset now) =
      now.seconds - (z.timeOfDay now).seconds := now.startOfDate_date_self (z.offset now)
  -- It is past midnight, so that a leap second is left backward.
  have hpast : 0 < (z.timeOfDay now).seconds := by
    by_contra hzero
    have hmem : now.seconds ∈ z.startsOf (z.date now) := by
      rw [Instant.startOfDate_eq] at hstart
      rw [mem_startsOf, clock, show z.offsetAt now.seconds = z.offset now from rfl]
      omega
    rw [hnone] at hmem
    cases hmem
  unfold localMidnight
  rw [hnone, hstart]
  exact now.add_neg_ofSeconds hpast

/-- Where clocks jump over midnight to stay there (`Zone.Steady`), `Zone.localMidnight` is as long
before the `first` second as they jumped over, and the fraction of the second stays. -/
theorem IsFirst.localMidnight_of_steady (h : z.IsFirst (z.date now) first)
    (steady : z.Steady (z.date now))
    (hclock : z.clock first ≠ Instant.startOfDate (z.date now) 0) :
    z.localMidnight now = .ofNanos
      ((first - (z.clock first - Instant.startOfDate (z.date now) 0)) * nanosPerSecond +
        now.nanos) := by
  have hoffset : z.offset now = z.offsetAt first := h.offset_eq steady hclock rfl
  have hstart : Instant.startOfDate (z.date now) (z.offset now) =
      first - (z.clock first - Instant.startOfDate (z.date now) 0) := by
    rw [Instant.startOfDate_eq, hoffset, clock]
    omega
  rw [localMidnight_of_skipped (h.startsOf_eq_nil steady hclock), hstart]

theorem IsFirst.localMidnight_lt (h : z.IsFirst (z.date now) first)
    (steady : z.Steady (z.date now))
    (hclock : z.clock first ≠ Instant.startOfDate (z.date now) 0)
    (hnanos : now.nanos < nanosPerSecond) : z.localMidnight now < .ofSeconds first := by
  have hafter : Instant.startOfDate (z.date now) 0 ≤ z.clock first := (clock_of_date h.shows).1
  rw [h.localMidnight_of_steady steady hclock, Instant.lt_iff, Instant.seconds_ofNanos,
    Instant.seconds_ofSeconds]
  unfold nanosPerSecond at *
  omega

/-- What shows the date of `now` is not before the `Zone.localMidnight` of it. -/
theorem localMidnight_le (steady : z.Steady (z.date now)) (hnanos : now.nanos < nanosPerSecond)
    (h : z.date t = z.date now) : z.localMidnight now ≤ t := by
  obtain ⟨first, hfirst⟩ := z.exists_isFirst now
  have hle := hfirst.least t h
  by_cases hclock : z.clock first = Instant.startOfDate (z.date now) 0
  · rwa [hfirst.localMidnight_of_clock hclock]
  · have hlt := hfirst.localMidnight_lt steady hclock hnanos
    rw [Instant.lt_iff] at hlt
    rw [Instant.le_iff, Instant.lt_iff] at hle ⊢
    omega

end

/-- How a day begins whose date clocks show from the second `first` on, and what
`Zone.localMidnight` takes for its midnight. -/
structure Daybreak (z : Zone) (now : Instant) (first : Int) : Prop where
  isFirst : z.IsFirst (z.date now) first
  /-- Where clocks show the beginning of the date then, the midnight is the earliest instant of the
  date. -/
  shown : z.clock first = Instant.startOfDate (z.date now) 0 → z.localMidnight now = .ofSeconds first
  /-- Where clocks never show it, the midnight depends on the offset and on the fraction of the second
  of the instant that is asked about. -/
  skipped : z.startsOf (z.date now) = [] → z.localMidnight now = .ofNanos
    (Instant.startOfDate (z.date now) (z.offset now) * nanosPerSecond + now.nanos)
  /-- Where clocks jump over the beginning and do not change again on the date, the midnight is too
  early by as much as was jumped over, but for the fraction. -/
  jumped : z.Steady (z.date now) → z.clock first ≠ Instant.startOfDate (z.date now) 0 →
    z.localMidnight now = .ofNanos
      ((first - (z.clock first - Instant.startOfDate (z.date now) 0)) * nanosPerSecond +
        now.nanos) ∧
    (now.nanos < nanosPerSecond → z.localMidnight now < .ofSeconds first)
  /-- So the midnight is the earliest instant of the date exactly if clocks show the beginning of the
  date then, or if they never show it and come out at that instant by chance. -/
  exact : z.localMidnight now = .ofSeconds first ↔
    z.clock first = Instant.startOfDate (z.date now) 0 ∨ z.startsOf (z.date now) = [] ∧
      Instant.startOfDate (z.date now) (z.offset now) * nanosPerSecond + now.nanos =
        first * nanosPerSecond

/-- **Where clocks show midnight, `Zone.localMidnight` is the earliest instant of the day; where
they skip it, it is before that.** See `Zone.Daybreak` for how much. -/
theorem exists_daybreak (z : Zone) (now : Instant) : ∃ first, z.Daybreak now first := by
  obtain ⟨first, hfirst⟩ := z.exists_isFirst now
  refine ⟨first, hfirst, hfirst.localMidnight_of_clock, localMidnight_of_skipped,
    fun steady hclock => ⟨hfirst.localMidnight_of_steady steady hclock,
      hfirst.localMidnight_lt steady hclock⟩, ?_⟩
  have hofNanos : ∀ n : Int, Instant.ofNanos n = .ofSeconds first ↔ n = first * nanosPerSecond := by
    intro n
    rw [Instant.ofNanos, Instant.ofSeconds, Instant.mk.injEq]
    unfold nanosPerSecond
    omega
  rcases hmin : (z.startsOf (z.date now)).min? with _ | start
  · -- Clocks never show the beginning.
    have hnone : z.startsOf (z.date now) = [] := List.min?_eq_none_iff.mp hmin
    have hclock : z.clock first ≠ Instant.startOfDate (z.date now) 0 := fun heq => by
      have hmem := mem_startsOf.mpr heq
      rw [hnone] at hmem
      cases hmem
    rw [localMidnight_of_skipped hnone, hofNanos]
    simp only [hclock, hnone, true_and, false_or]
  · -- The least second at which they show it is what is taken.
    obtain ⟨hstart, -⟩ := List.min?_eq_some_iff.mp hmin
    have hmidnight : z.localMidnight now = .ofSeconds start := by
      unfold localMidnight
      rw [hmin]
    rw [hmidnight, or_iff_left fun h => List.ne_nil_of_mem hstart h.1]
    constructor
    · intro heq
      rw [← show start = first from congrArg Instant.seconds heq]
      exact mem_startsOf.mp hstart
    · exact fun hclock => hmidnight.symm.trans (hfirst.localMidnight_of_clock hclock)

/-- The clocks of São Paulo, which went over the midnight before 4 November 2018. -/
def saoPaulo : Zone := ⟨"America/Sao_Paulo", -10800, [(1541300400, -7200)]⟩

theorem offsetAt_saoPaulo (second : Int) :
    saoPaulo.offsetAt second = if second < 1541300400 then -10800 else -7200 := by
  unfold offsetAt saoPaulo
  simp only [offsetFrom]

/-- Half past four in the afternoon, local time in `saoPaulo`. -/
def saoPauloAfternoon : Instant := ⟨1541356200, 250000000, .inl (by decide)⟩

/-- The day of `saoPauloAfternoon` began at three o'clock UTC, and its midnight is taken to be a
quarter of a second past two. The day before began at its midnight. -/
theorem exists_daybreak_saoPaulo :
    saoPaulo.Daybreak saoPauloAfternoon 1541300400 ∧
      saoPaulo.Steady (saoPaulo.date saoPauloAfternoon) ∧
      saoPaulo.clock 1541300400 ≠ Instant.startOfDate (saoPaulo.date saoPauloAfternoon) 0 ∧
      saoPaulo.localMidnight saoPauloAfternoon = ⟨1541296800, 250000000, .inl (by decide)⟩ ∧
      saoPaulo.localMidnight (.ofSeconds 1541246400) = .ofSeconds 1541214000 := by
  have hstart : Instant.startOfDate (saoPaulo.date saoPauloAfternoon) 0 = 1541289600 := by
    decide +kernel
  obtain ⟨first, hday⟩ := exists_daybreak saoPaulo saoPauloAfternoon
  have hfirst : first = 1541300400 := by
    have hle : first ≤ 1541300400 := hday.isFirst.le (t := .ofSeconds 1541300400) (by decide +kernel)
    have hclock := (clock_of_date hday.isFirst.shows).1
    rw [clock, hstart, Instant.seconds_ofSeconds, offsetAt_saoPaulo] at hclock
    split at hclock <;> omega
  refine ⟨hfirst ▸ hday, ?_, by decide +kernel, by decide +kernel, by decide +kernel⟩
  rintro second ⟨-, hskips⟩ t hle -
  rw [clock, hstart] at hskips
  change saoPaulo.offsetAt t.seconds = _
  rw [offsetAt_saoPaulo] at hskips ⊢
  rw [offsetAt_saoPaulo]
  split at hskips <;> split <;> omega

end Zone

end Autoresponder
