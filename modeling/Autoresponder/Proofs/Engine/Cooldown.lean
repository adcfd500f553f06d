import Autoresponder.Proofs.Engine.Limits
import Autoresponder.Proofs.Store.Lossless

/-!
# Cooldowns

A rule that is held back by its cooldown is told how long to wait, in whole seconds. The wait is
exact: asked again before, the rule is still held back, with as much less to wait as has passed, and
from then on it is not held back by its cooldown any more.
-/

namespace Autoresponder

open Store

/-! ## 1. Whole seconds -/

namespace Instant

variable {last now later : Instant}

theorem le_of_le_of_le (h : last ≤ now) (h' : now ≤ later) : last ≤ later := by
  rw [le_iff, lt_iff] at *
  omega

theorem le_add_ofSeconds (hnow : now.nanos < nanosPerSecond) (n : Nat) :
    now ≤ now.add (Span.ofSeconds n) := by
  rw [le_iff_total hnow (nanos_add hnow _), total_add hnow]
  unfold Span.ofSeconds nanosPerSecond
  simp only [Span]
  omega

theorem wholeSeconds_since (hlast : last.nanos < nanosPerSecond) (hnow : now.nanos < nanosPerSecond)
    (h : last ≤ now) :
    (now.since last).wholeSeconds = (now.total - last.total) / nanosPerSecond := by
  rw [le_iff_total hlast hnow] at h
  rw [since_eq hnow hlast, Span.wholeSeconds]
  exact Int.tdiv_eq_ediv_of_nonneg (by omega)

theorem wholeSeconds_nonneg (hlast : last.nanos < nanosPerSecond)
    (hnow : now.nanos < nanosPerSecond) (h : last ≤ now) : 0 ≤ (now.since last).wholeSeconds := by
  rw [wholeSeconds_since hlast hnow h]
  rw [le_iff_total hlast hnow] at h
  exact Int.ediv_nonneg (by omega) (by decide)

-- Whole seconds that pass are counted, whatever the fraction.
theorem wholeSeconds_since_add (hlast : last.nanos < nanosPerSecond)
    (hnow : now.nanos < nanosPerSecond) (h : last ≤ now) (n : Nat) :
    ((now.add (Span.ofSeconds n)).since last).wholeSeconds =
      (now.since last).wholeSeconds + n := by
  have hlater := nanos_add hnow (Span.ofSeconds n)
  rw [wholeSeconds_since hlast hlater (le_of_le_of_le h (le_add_ofSeconds hnow n)),
    wholeSeconds_since hlast hnow h, total_add hnow]
  unfold Span.ofSeconds nanosPerSecond
  simp only [Span]
  omega

theorem wholeSeconds_mono (hlast : last.nanos < nanosPerSecond) (hnow : now.nanos < nanosPerSecond)
    (hlater : later.nanos < nanosPerSecond) (h : last ≤ now) (h' : now ≤ later) :
    (now.since last).wholeSeconds ≤ (later.since last).wholeSeconds := by
  rw [wholeSeconds_since hlast hnow h, wholeSeconds_since hlast hlater (le_of_le_of_le h h')]
  rw [le_iff_total hnow hlater] at h'
  unfold nanosPerSecond
  omega

theorem add_of_add? {d : Span} (h : now.add? d = some later) : later = now.add d := by
  simp only [add?] at h
  split at h
  · exact (Option.some.inj h).symm
  · cases h

end Instant

/-! ## 2. The wait -/

/-- The successes of a rule in a conversation were logged at ordinary instants, and none after an
instant. -/
structure Store.Remembers (s : Store) (rule : Uuid) (conversation : String) (now : Instant) :
    Prop where
  ordinary : ∀ row ∈ s.successes rule conversation, ∃ t : Instant, t.Ordinary ∧ row.time = t.stored
  past : ∀ t ∈ s.successTimes rule conversation, t ≤ now

section

variable {s s' : Store} {r : Rule} {rule : Uuid} {conversation : String} {z z' : Zone} {n m : Int}
  {last now later : Instant}

theorem Store.Remembers.latest (hs : s.Remembers rule conversation now)
    (h : s.lastFiring rule conversation = some last) :
    last ∈ s.successTimes rule conversation ∧ ∀ t ∈ s.successTimes rule conversation, t ≤ last := by
  have hstamps : ∀ row ∈ s.successes rule conversation, IsStamp row.time := fun row hrow =>
    let ⟨t, ht, htime⟩ := hs.ordinary row hrow
    ⟨t, ht.1, htime⟩
  rcases lastFiring_of_successes hstamps with ⟨hnone, -⟩ | ⟨latest, hmem, hlatest, hall⟩
  · rw [hnone] at h
    cases h
  · rw [hlatest] at h
    cases h
    exact ⟨hmem, hall⟩

theorem Store.Remembers.of_lastFiring (hs : s.Remembers rule conversation now)
    (h : s.lastFiring rule conversation = some last) :
    last.nanos < nanosPerSecond ∧ last ≤ now := by
  obtain ⟨hmem, -⟩ := hs.latest h
  obtain ⟨row, hrow, rfl⟩ := List.mem_map.mp hmem
  obtain ⟨t, ⟨hyear, hnanos⟩, htime⟩ := hs.ordinary row hrow
  refine ⟨?_, hs.past _ hmem⟩
  rw [htime, Instant.readStored_stored hyear]
  exact hnanos

-- The cap is never mistaken for the cooldown.
theorem Store.limitHit?_eq_cooldown_iff (s : Store) (r : Rule) (conversation : String) (z : Zone)
    (now : Instant) (n : Int) : s.limitHit? r conversation z now = some (.cooldown n) ↔
      r.cooldown ≠ 0 ∧ ∃ last, s.lastFiring r.id conversation = some last ∧
        r.cooldownHit? last now = some (.cooldown n) := by
  have hcap : ∀ count, r.capHit? count ≠ some (.cooldown n) := by
    intro count
    unfold Rule.capHit?
    split <;> simp
  unfold limitHit?
  rw [Option.or_eq_some_iff]
  constructor
  · rintro (h | ⟨-, h⟩)
    · split at h
      · cases h
      · rename_i hzero
        exact ⟨hzero, Option.bind_eq_some_iff.mp h⟩
    · split at h
      · cases h
      · exact absurd h (hcap _)
  · rintro ⟨hzero, last, hlast, hhit⟩
    left
    rw [if_neg hzero, hlast, Option.bind_some, hhit]

/-- The wait of `Rule.cooldownHit?` is what is left of the cooldown, and the subtraction stays
within its word. -/
theorem Rule.cooldownHit?_eq_some_iff (hrange : (r.cooldown.toNat : Int) ≤ IntCell.greatest)
    (hlast : last.nanos < nanosPerSecond) (hnow : now.nanos < nanosPerSecond) (h : last ≤ now) :
    r.cooldownHit? last now = some (.cooldown n) ↔
      1 ≤ n ∧ n = r.cooldown.toNat - (now.since last).wholeSeconds := by
  have hgreatest : IntCell.greatest = 9223372036854775807 := by decide
  have hpassed := Instant.wholeSeconds_nonneg hlast hnow h
  unfold cooldownHit?
  dsimp only
  rw [cooldownSeconds_eq hrange]
  split
  · rename_i hlt
    have hwithin : ((r.cooldown.toNat : Int) - (now.since last).wholeSeconds).bmod UInt64.size =
        r.cooldown.toNat - (now.since last).wholeSeconds := by
      unfold UInt64.size
      exact Int.bmod_eq_of_le (by omega) (by omega)
    rw [hwithin, Option.some.injEq, LimitHit.cooldown.injEq]
    omega
  · simp only [reduceCtorEq, false_iff]
    omega

theorem Store.Remembers.limitHit?_eq_cooldown_iff (hs : s.Remembers r.id conversation now)
    (hrange : (r.cooldown.toNat : Int) ≤ IntCell.greatest) (hnow : now.nanos < nanosPerSecond) :
    s.limitHit? r conversation z now = some (.cooldown n) ↔
      ∃ last, s.lastFiring r.id conversation = some last ∧
        1 ≤ n ∧ n = r.cooldown.toNat - (now.since last).wholeSeconds := by
  rw [Store.limitHit?_eq_cooldown_iff]
  constructor
  · rintro ⟨-, last, hlast, hhit⟩
    obtain ⟨hnanos, hle⟩ := hs.of_lastFiring hlast
    exact ⟨last, hlast, (Rule.cooldownHit?_eq_some_iff hrange hnanos hnow hle).mp hhit⟩
  · rintro ⟨last, hlast, hwait⟩
    obtain ⟨hnanos, hle⟩ := hs.of_lastFiring hlast
    have hpassed := Instant.wholeSeconds_nonneg hnanos hnow hle
    refine ⟨fun hzero => ?_, last, hlast,
      (Rule.cooldownHit?_eq_some_iff hrange hnanos hnow hle).mpr hwait⟩
    -- Without a cooldown there would be nothing left of it.
    rw [hzero, UInt64.toNat_zero] at hwait
    omega

theorem Store.Remembers.mono (hs : s.Remembers rule conversation now) (h : now ≤ later) :
    s.Remembers rule conversation later :=
  ⟨hs.ordinary, fun t ht => Instant.le_of_le_of_le (hs.past t ht) h⟩

theorem Store.Remembers.congr (hs : s.Remembers rule conversation now)
    (h : s'.firings = s.firings) : s'.Remembers rule conversation now := by
  refine ⟨successes_congr h ▸ hs.ordinary, ?_⟩
  rw [successTimes, successes_congr h]
  exact hs.past

theorem Store.lastFiring_congr (h : s'.firings = s.firings) :
    s'.lastFiring rule conversation = s.lastFiring rule conversation := by
  rw [lastFiring, lastFiring, successes_congr h]

-- With every second that passes there is one second less to wait.
theorem Store.Remembers.limitHit?_add (hs : s.Remembers r.id conversation now)
    (hrange : (r.cooldown.toNat : Int) ≤ IntCell.greatest) (hnow : now.nanos < nanosPerSecond)
    (hwait : s.limitHit? r conversation z now = some (.cooldown n)) (k : Nat)
    (hfirings : s'.firings = s.firings) :
    s'.limitHit? r conversation z' (now.add (Span.ofSeconds k)) = some (.cooldown m) ↔
      1 ≤ m ∧ m = n - k := by
  rw [hs.limitHit?_eq_cooldown_iff hrange hnow] at hwait
  obtain ⟨last, hlast, -, rfl⟩ := hwait
  obtain ⟨hnanos, hle⟩ := hs.of_lastFiring hlast
  have hpassed := Instant.wholeSeconds_since_add hnanos hnow hle k
  have hlater := (hs.mono (Instant.le_add_ofSeconds hnow k)).congr hfirings
  rw [hlater.limitHit?_eq_cooldown_iff hrange (Instant.nanos_add hnow _)]
  simp only [lastFiring_congr hfirings, hlast, Option.some.injEq, exists_eq_left', hpassed]
  omega

-- A cooldown that is over stays over.
theorem Store.Remembers.limitHit?_mono (hs : s.Remembers r.id conversation now)
    (hrange : (r.cooldown.toNat : Int) ≤ IntCell.greatest) (hnow : now.nanos < nanosPerSecond)
    (hlater : later.nanos < nanosPerSecond) (h : now ≤ later) (hfirings : s'.firings = s.firings)
    (hwait : s'.limitHit? r conversation z' later = some (.cooldown m)) :
    ∃ n, s.limitHit? r conversation z now = some (.cooldown n) := by
  rw [((hs.mono h).congr hfirings).limitHit?_eq_cooldown_iff hrange hlater,
    lastFiring_congr hfirings] at hwait
  obtain ⟨last, hlast, hpositive, rfl⟩ := hwait
  obtain ⟨hnanos, hle⟩ := hs.of_lastFiring hlast
  have hpassed := Instant.wholeSeconds_mono hnanos hnow hlater hle h
  exact ⟨r.cooldown.toNat - (now.since last).wholeSeconds,
    (hs.limitHit?_eq_cooldown_iff hrange hnow).mpr ⟨last, hlast, by omega, rfl⟩⟩

end

/-! ## 3. Checks -/

/-- Whoever checks a rule with `limitHit?` at a time, finding a `log`, is told something. -/
def Rule.Tells (r : Rule) (conversation : String) (log : List FiringRow) (now : Instant)
    (told : Option LimitHit → Prop) : Prop :=
  ∀ (env : Environment) (w : World) (z : Zone), env.Faultless → env.now = now →
    w.store.firings = log →
      ∃ hit, (r.limitHit? conversation z env w).1 = .ok hit ∧ told hit

/-- What is told does not speak of the cooldown. -/
def LimitHit.Rested (hit : Option LimitHit) : Prop := ∀ n, hit ≠ some (.cooldown n)

/-- What `limitHit?` tells of the cooldown of a rule, and what it tells later where the log is the
same. -/
structure Rule.CountsDown (r : Rule) (conversation : String) (z : Zone) (env : Environment)
    (w : World) : Prop where
  /-- The wait is a second or more. It is what is left of the cooldown since the latest success, and
  nothing of that is lost where it is computed in a word. -/
  wait : ∀ n, (r.limitHit? conversation z env w).1 = .ok (some (.cooldown n)) →
    1 ≤ n ∧ n ≤ IntCell.greatest ∧ ∃ last ∈ w.store.successTimes r.id conversation,
      (∀ t ∈ w.store.successTimes r.id conversation, t ≤ last) ∧
        n = r.cooldown.toNat - (env.now.since last).wholeSeconds
  /-- Before the wait is over there is as much less to wait as has passed, from then on nothing. -/
  exact : ∀ n, (r.limitHit? conversation z env w).1 = .ok (some (.cooldown n)) →
    ∀ (k : Nat) (later : Instant), env.now.add? (Span.ofSeconds k) = some later →
      (k < n → r.Tells conversation w.store.firings later (· = some (.cooldown (n - k)))) ∧
        (n ≤ k → r.Tells conversation w.store.firings later LimitHit.Rested)
  /-- Where there is nothing to wait there is nothing at any later instant. -/
  rested : (∀ n, (r.limitHit? conversation z env w).1 ≠ .ok (some (.cooldown n))) →
    ∀ later : Instant, env.now ≤ later → later.nanos < nanosPerSecond →
      r.Tells conversation w.store.firings later LimitHit.Rested

/-- **A cooldown is counted down exactly.** A `stored` rule that is held back by its cooldown is
told a wait of a second or more. While the log stays as it is and whole seconds pass, the rule is
held back as long as the wait is not over, with what is left of it; and from then on, as from the
outset where it was not held back, it is not held back by its cooldown at any later instant
(`Rule.CountsDown`). -/
theorem Rule.counts_down {env : Environment} {w : World} {row : RuleRow} {r : Rule}
    {conversation : String} {z : Zone} (ranged : w.store.Ranged) (stored : row ∈ w.store.rules)
    (loaded : row.read = .ok r) (faultless : env.Faultless)
    (clock : env.now.nanos < nanosPerSecond)
    (log : w.store.Remembers r.id conversation env.now) : r.CountsDown conversation z env w := by
  have hrange := ranged.cooldown_of_read stored loaded
  have hchecked : ∀ hit, (r.limitHit? conversation z env w).1 = .ok hit ↔
      w.store.limitHit? r conversation z env.now = hit := by
    intro hit
    rw [Rule.checked_limitHit? faultless, Except.ok.injEq]
  -- What every later check is told that finds the same log.
  have htells : ∀ (later : Instant) (told : Option LimitHit → Prop),
      (∀ (s : Store) (z' : Zone), s.firings = w.store.firings →
        told (s.limitHit? r conversation z' later)) →
      r.Tells conversation w.store.firings later told := by
    rintro later told h env' w' z' faultless' rfl hfirings
    exact ⟨_, Rule.checked_limitHit? faultless' r conversation z' w', h _ z' hfirings⟩
  refine ⟨fun n hn => ?wait, fun n hn k later hlater => ⟨fun hk => ?before, fun hk => ?after⟩,
    fun hnone later hle hlater => ?rested⟩
  case wait =>
    rw [hchecked, log.limitHit?_eq_cooldown_iff hrange clock] at hn
    obtain ⟨last, hlast, hpositive, hn⟩ := hn
    obtain ⟨hnanos, hle⟩ := log.of_lastFiring hlast
    have hpassed := Instant.wholeSeconds_nonneg hnanos clock hle
    obtain ⟨hmem, hall⟩ := log.latest hlast
    exact ⟨hpositive, by omega, last, hmem, hall, hn⟩
  case before =>
    cases Instant.add_of_add? hlater
    refine htells _ _ fun s z' hfirings => ?_
    exact (log.limitHit?_add hrange clock ((hchecked _).mp hn) k hfirings).mpr ⟨by omega, rfl⟩
  case after =>
    cases Instant.add_of_add? hlater
    refine htells _ _ fun s z' hfirings m hm => ?_
    have hwait := (log.limitHit?_add hrange clock ((hchecked _).mp hn) k hfirings).mp hm
    omega
  case rested =>
    refine htells _ _ fun s z' hfirings m hm => ?_
    obtain ⟨n, hn⟩ := log.limitHit?_mono hrange clock hlater hle hfirings hm
    exact hnone n ((hchecked _).mpr hn)

/-- Somebody has been greeted by `Rule.greeting`. -/
def World.greeted : World :=
  .start {
    rules := [.ofRule .greeting]
    firings := [.ofFiring {
      id := .ofNat 3, rule := Rule.greeting.id, conversation := "chat", messageId := none,
      text := "Hi", keyword := none, success := true, time := .ofSeconds 0 }] }

/-- In `World.greeted` somebody was greeted 29 seconds and a half ago, and is not greeted again for
31 seconds. -/
theorem counts_down_greeting :
    ∃ r env, env = Environment.calm ⟨29, 500000000, by decide⟩ ∧
      (RuleRow.ofRule .greeting).read = .ok r ∧
      (r.limitHit? "chat" .utc env .greeted).1 = .ok (some (.cooldown 31)) ∧
      r.CountsDown "chat" .utc env .greeted := by
  refine ⟨_, _, rfl, RuleRow.read_ofRule rfl, by decide +kernel, ?_⟩
  refine Rule.counts_down ?_ (List.mem_singleton_self (RuleRow.ofRule .greeting))
    (RuleRow.read_ofRule rfl) (fun _ _ => rfl) (by decide) ⟨?_, by decide +kernel⟩
  · exact List.forall_mem_singleton.mpr (by decide)
  · intro row hrow
    cases List.mem_singleton.mp (List.mem_of_mem_filter hrow)
    exact ⟨.ofSeconds 0, by decide +kernel, rfl⟩

end Autoresponder
