import Autoresponder.Proofs.Engine.Run
import Autoresponder.Proofs.Store.Ordered
import Autoresponder.Proofs.Time.Midnight

/-!
# Limits of rules

A rule that fires again in a conversation has waited for its cooldown since every success, and has
had fewer successes on the day than its cap. The limits are those with which the rule was loaded, and
the day is that of the zone of the account. What did not succeed, and what happened elsewhere, counts
for nothing.
-/

namespace Autoresponder

open Store

/-! ## 1. Ordinary instants -/

namespace Instant

/-- An instant of a four-digit year that is in no leap second. -/
def Ordinary (t : Instant) : Prop := t.FourDigitYear ∧ t.nanos < nanosPerSecond

instance (t : Instant) : Decidable t.Ordinary := inferInstanceAs (Decidable (_ ∧ _))

/-- The nanoseconds since the start of 1970, leap seconds not counted. -/
def total (t : Instant) : Int := t.seconds * nanosPerSecond + t.nanos

variable {a b : Instant}

theorem le_iff_total (ha : a.nanos < nanosPerSecond) (hb : b.nanos < nanosPerSecond) :
    a ≤ b ↔ a.total ≤ b.total := by
  rw [le_iff, lt_iff]
  unfold total nanosPerSecond at *
  omega

theorem total_add (ha : a.nanos < nanosPerSecond) (d : Span) : (a.add d).total = a.total + d := by
  rw [add_of_lt ha]
  unfold total ofNanos nanosPerSecond
  dsimp only
  omega

theorem nanos_add (ha : a.nanos < nanosPerSecond) (d : Span) :
    (a.add d).nanos < nanosPerSecond := by
  rw [add_of_lt ha]
  unfold ofNanos nanosPerSecond
  dsimp only
  omega

theorem since_eq (ha : a.nanos < nanosPerSecond) (hb : b.nanos < nanosPerSecond) :
    a.since b = a.total - b.total := by
  unfold since total
  rw [if_neg fun h => absurd hb (not_lt_of_ge h.2), if_neg fun h => absurd ha (not_lt_of_ge h.2)]
  simp only [Span, nanosPerSecond]
  omega

-- What is added to an earlier instant leads to an earlier one.
theorem add_le_of_le {now : Instant} (ha : a.nanos < nanosPerSecond) (hb : b.nanos < nanosPerSecond)
    (hnow : now.nanos < nanosPerSecond) (h : a ≤ b) {d : Span} (h' : b.add d ≤ now) :
    a.add d ≤ now := by
  rw [le_iff_total ha hb] at h
  rw [le_iff_total (nanos_add hb d) hnow, total_add hb] at h'
  rw [le_iff_total (nanos_add ha d) hnow, total_add ha]
  omega

end Instant

/-! ## 2. Limits -/

/-- A rule may answer now, given when it has answered `earlier`: for every success the cooldown is
over, and of those that count for the day (`today`) there are fewer than the cap. -/
structure Rule.Within (r : Rule) (now : Instant) (today : Instant → Bool)
    (earlier : List Instant) : Prop where
  cooldown : 0 < r.cooldown → ∀ t ∈ earlier, t.add (Span.ofSeconds r.cooldown.toNat) ≤ now
  dailyCap : 0 < r.dailyCap → earlier.countP today < r.dailyCap.toNat

/-- Firings were logged at ordinary instants. -/
def Store.Logged (s : Store) : Prop :=
  ∀ r ∈ s.firings, ∃ e : Firing, r = .ofFiring e ∧ e.time.Ordinary

section

variable {s : Store} {r : Rule} {rule : Uuid} {conversation : String} {now : Instant} {z : Zone}

theorem Rule.cooldownSeconds_eq (h : (r.cooldown.toNat : Int) ≤ IntCell.greatest) :
    r.cooldownSeconds = r.cooldown.toNat := by
  unfold cooldownSeconds
  rw [Int.bmod_eq_of_le (by omega)]
  have hgreatest : IntCell.greatest = 9223372036854775807 := by decide
  unfold UInt64.size
  omega

/-- By `cooldownHit?` the cooldown has passed when as many seconds lie between. -/
theorem Rule.cooldownHit?_eq_none_iff (hrange : (r.cooldown.toNat : Int) ≤ IntCell.greatest)
    (hpos : 0 < r.cooldown) {last : Instant} (hlast : last.nanos < nanosPerSecond)
    (hnow : now.nanos < nanosPerSecond) :
    r.cooldownHit? last now = none ↔ last.add (Span.ofSeconds r.cooldown.toNat) ≤ now := by
  have hpos' : 0 < r.cooldown.toNat := UInt64.lt_iff_toNat_lt.mp hpos
  rw [Instant.le_iff_total (Instant.nanos_add hlast _) hnow, Instant.total_add hlast]
  -- A whole number of seconds is below a span when the whole seconds of the span are.
  have hseconds : (now.since last).wholeSeconds < r.cooldownSeconds ↔
      now.total < last.total + Span.ofSeconds r.cooldown.toNat := by
    rw [cooldownSeconds_eq hrange, Instant.since_eq hnow hlast]
    unfold Span.wholeSeconds Span.ofSeconds nanosPerSecond
    simp only [Span]
    rw [Int.tdiv_eq_ediv]
    have hsign : Int.sign ((1000000000 : Nat) : Int) = 1 := by decide
    rw [hsign]
    split <;> omega
  unfold cooldownHit?
  dsimp only
  split
  · rename_i hlt
    simpa using hseconds.mp hlt
  · rename_i hge
    simpa using not_lt.mp (mt hseconds.mpr hge)

-- What is logged is logged with a stamp, and successes are read back.
theorem Store.Logged.isStamp (hs : s.Logged) : ∀ r ∈ s.firings, IsStamp r.time := by
  intro row hrow
  obtain ⟨e, rfl, hyear, -⟩ := hs row hrow
  exact ⟨e.time, hyear, rfl⟩

theorem Store.Logged.ordinary (hs : s.Logged) {t : Instant}
    (ht : t ∈ s.successTimes rule conversation) : t.Ordinary := by
  obtain ⟨row, hrow, rfl⟩ := List.mem_map.mp ht
  obtain ⟨e, rfl, hyear, hnanos⟩ := hs row (List.mem_of_mem_filter hrow)
  rw [FiringRow.ofFiring, Instant.readStored_stored hyear]
  exact ⟨hyear, hnanos⟩

theorem Rule.Within.mono {today today' : Instant → Bool} {earlier : List Instant}
    (h : r.Within now today earlier) (htoday : ∀ t ∈ earlier, today' t = true → today t = true) :
    r.Within now today' earlier :=
  ⟨h.cooldown, fun hpos => lt_of_le_of_lt (List.countP_mono_left htoday) (h.dailyCap hpos)⟩

-- The cooldown has passed since every success when it has since the last one.
theorem Store.Logged.cooldownHit?_eq_none_iff (hs : s.Logged)
    (hrange : (r.cooldown.toNat : Int) ≤ IntCell.greatest) (hnow : now.nanos < nanosPerSecond) :
    (if r.cooldown = 0 then none
      else (s.lastFiring r.id conversation).bind fun last => r.cooldownHit? last now) = none ↔
      (0 < r.cooldown → ∀ t ∈ s.successTimes r.id conversation,
        t.add (Span.ofSeconds r.cooldown.toNat) ≤ now) := by
  split
  · rename_i hzero
    simp [hzero]
  · rename_i hne
    have hpos : 0 < r.cooldown := UInt64.pos_iff_ne_zero.mpr hne
    rcases lastFiring_of_stamps hs.isStamp r.id conversation with
      ⟨hlast, hnone⟩ | ⟨last, hmem, hlast, hlatest⟩
    · simp [hlast, hnone]
    · rw [hlast, Option.bind_some,
        Rule.cooldownHit?_eq_none_iff hrange hpos (hs.ordinary hmem).2 hnow]
      refine ⟨fun h _ t ht => ?_, fun h => h hpos last hmem⟩
      exact Instant.add_le_of_le (hs.ordinary ht).2 (hs.ordinary hmem).2 hnow (hlatest t ht) h

-- The cap is not reached when fewer successes are counted since an instant that has passed.
theorem Store.Logged.capHit?_eq_none_iff (hs : s.Logged) (hnow : now.FourDigitYear)
    {since : Instant} (h : since ≤ now) :
    (if r.dailyCap = 0 then none
      else r.capHit? (s.countFirings r.id conversation since)) = none ↔
      (0 < r.dailyCap → ((s.successTimes r.id conversation).countP
        fun t => since ≤ t) < r.dailyCap.toNat) := by
  rw [countFirings_of_stamps hs.isStamp (Instant.year_le_of_le hnow h)]
  split
  · rename_i hzero
    simp [hzero]
  · rename_i hne
    have hpos : 0 < r.dailyCap := UInt32.pos_iff_ne_zero.mpr hne
    unfold Rule.capHit?
    split
    · rename_i hreached
      simpa [hpos] using hreached
    · rename_i hfree
      simpa [hpos] using hfree

/-- A rule may answer as far as the store tells exactly when it is `Within` its limits, where the
day begins with `localMidnight`. -/
theorem Store.Logged.limitHit?_eq_none_iff (hs : s.Logged)
    (hrange : (r.cooldown.toNat : Int) ≤ IntCell.greatest) (hnow : now.Ordinary)
    (steady : z.Steady (z.date now)) :
    s.limitHit? r conversation z now = none ↔
      r.Within now (fun t => z.localMidnight now ≤ t) (s.successTimes r.id conversation) := by
  rw [Store.limitHit?, Option.or_eq_none_iff, hs.cooldownHit?_eq_none_iff hrange hnow.2,
    hs.capHit?_eq_none_iff hnow.1 (Zone.localMidnight_le steady hnow.2 rfl)]
  exact ⟨fun h => ⟨h.1, h.2⟩, fun h => ⟨h.cooldown, h.dailyCap⟩⟩

end

/-! ## 3. What is logged -/

section

variable {events : List Event} {o : Occasion} {env : Environment} {w w' : World} {s s' : Store}

-- What loading a rule makes of its cooldown is in the range of the column.
theorem Store.Ranged.cooldown_of_read (hs : s.Ranged) {row : RuleRow} (hrow : row ∈ s.rules)
    {r : Rule} (hread : row.read = .ok r) : (r.cooldown.toNat : Int) ≤ IntCell.greatest := by
  have hbound := hs row hrow
  have hcooldown : r.cooldown = row.cooldown.asUInt64 := by
    simp only [RuleRow.read, bind, Except.bind, pure, Except.pure] at hread
    repeat' split at hread
    all_goals cases hread
    rfl
  have hgreatest : IntCell.greatest = 9223372036854775807 := by decide
  rw [hcooldown, IntCell.asUInt64, UInt64.toNat_ofNat']
  omega

theorem Store.Ranged.cooldown_le (hs : s.Ranged) {workspace account : String} {sn : Snapshot}
    (h : s.snapshot workspace account = .ok sn) {r : Rule} (hr : r ∈ sn.rules) :
    (r.cooldown.toNat : Int) ≤ IntCell.greatest := by
  obtain ⟨settings, -, rfl⟩ := settings?_of_snapshot h
  obtain ⟨row, hrow, -, hread⟩ := mem_activeRules.mp (List.mem_of_mem_filter hr)
  exact hs.cooldown_of_read hrow hread

theorem Store.firings_logFiring {entry : Firing} (h : s.logFiring entry = .ok s') :
    s'.firings = s.firings ++ [.ofFiring entry] := by
  obtain ⟨-, -, rfl⟩ := logged_of_logFiring h
  rfl

theorem Store.Ranged.logFiring (hs : s.Ranged) {entry : Firing}
    (h : s.logFiring entry = .ok s') : s'.Ranged := by
  obtain ⟨-, -, rfl⟩ := logged_of_logFiring h
  intro r hr
  obtain ⟨old, hold, rfl⟩ := List.mem_map.mp hr
  split <;> exact hs old hold

/-- A rule of the loaded snapshot `sn` fires with an event, which is logged as `entry`. -/
structure Rule.Fires (s : Store) (e : Event) (now : Instant) (sn : Snapshot) (r : Rule)
    (entry : Firing) : Prop where
  loaded : s.snapshot e.workspace e.account = .ok sn
  mem : r ∈ sn.rules
  rule : entry.rule = r.id
  conversation : entry.conversation = e.conversation
  time : entry.time = now

/-- On an occasion nothing is logged, or that a rule fired (`Rule.Fires`) whose limits allow it. -/
theorem Occasion.Happens.firings {outcome : Outcome} (h : o.Happens events env w outcome w')
    (hs : Traced events w.store) :
    (w'.store.firings = w.store.firings ∧ w'.store.rules = w.store.rules) ∨
      ∃ e sn r entry, o = .event e ∧ Rule.Fires w.store e (env.clock w.readings) sn r entry ∧
        w.store.limitHit? r e.conversation (sn.settings.zone env.zones) (env.clock w.readings) =
          none ∧
        w'.store.firings = w.store.firings ++ [.ofFiring entry] ∧
        (w.store.Ranged → w'.store.Ranged) := by
  have hsame {w₁ : World}
      (path : (o.conduct events w.store (env.asOf w) w.readings).Path w w₁) :
      w₁.store.SameRecords w.store :=
    (Conduct.Path.sound path ⟨hs, rfl, rfl, rfl⟩).2
  cases h with
  | deeds path => exact .inl ⟨(hsame path).firings, (hsame path).rules⟩
  | @logs e _ w₁ _ occasion path logs =>
    obtain ⟨entry, s, loaded, mem, allowed, rule, conversation, time, -, logged⟩ := logs
    obtain ⟨hfirings, hrules, -⟩ := hsame path
    refine .inr ⟨e, _, _, entry, occasion, ⟨loaded, mem, rule, conversation, time⟩, allowed, ?_,
      fun hranged => (hranged.congr hrules).logFiring logged⟩
    rw [← hfirings]
    exact firings_logFiring logged
  | keeps path _ keep =>
    obtain ⟨hfirings, hrules, -⟩ := hsame path
    cases keep with
    | rewind c found _ _ _ _ _ => exact .inl ⟨hfirings, hrules⟩
    | postpone c _ _ _ _ _ _ => exact .inl ⟨hfirings, hrules⟩

/-- What is known of a store in which firings are counted: it is `Traced`, and its firings and
cooldowns are as they are written. -/
structure Store.Ledger (events : List Event) (s : Store) : Prop where
  traced : Traced events s
  logged : s.Logged
  ranged : s.Ranged

theorem Store.Logged.congr (hs : s.Logged) (h : s'.firings = s.firings) : s'.Logged :=
  fun r hr => hs r (h ▸ hr)

theorem Occasion.Happens.ledger {outcome : Outcome} (h : o.Happens events env w outcome w')
    (hs : w.store.Ledger events) (clock : ∀ n, (env.clock n).Ordinary) :
    w'.store.Ledger events := by
  have htraced := h.reach.traced hs.traced
  rcases h.firings hs.traced with
    ⟨hfirings, hrules⟩ | ⟨e, sn, r, entry, -, hfires, -, hfirings, hranged⟩
  · exact ⟨htraced, hs.logged.congr hfirings, hs.ranged.congr hrules⟩
  · refine ⟨htraced, fun row hrow => ?_, hranged hs.ranged⟩
    rw [hfirings, List.mem_append, List.mem_singleton] at hrow
    rcases hrow with hrow | rfl
    · exact hs.logged row hrow
    · exact ⟨entry, rfl, hfires.time ▸ clock w.readings⟩

theorem Operation.Happens.ledger {op : Operation} (h : op.Happens events env w w')
    (hs : w.store.Ledger events) (clock : ∀ n, (env.clock n).Ordinary) :
    w'.store.Ledger events := by
  cases h with
  | handle happens => exact happens.ledger hs clock
  | resume happens => exact happens.ledger hs clock
  | completeForm happens => exact happens.ledger hs clock
  | tick resumes =>
    induction resumes with
    | refl => exact hs
    | tail _ hresumes ih => exact hresumes.happens.choose_spec.ledger ih clock
  | idle _ idles => exact idles.store ▸ hs
  | configure _ idles configured =>
    exact ⟨hs.traced.congr configured.states, hs.logged.congr configured.firings,
      configured.ranged hs.ranged⟩

theorem World.ledger_after {run : Run} (hs : w.store.Ledger events)
    (handled : ∀ e ∈ run.events, e ∈ events)
    (clocks : ∀ step ∈ run, ∀ n, (step.1.clock n).Ordinary) :
    (w.after run).store.Ledger events := by
  induction run generalizing w with
  | nil => exact hs
  | cons step rest ih =>
    obtain ⟨env, op⟩ := step
    have hop : ∀ e, op.event? = some e → e ∈ events := fun e he =>
      handled e (List.mem_filterMap.mpr ⟨(env, op), List.mem_cons_self, he⟩)
    have hperform := (Operation.happens_perform hop hs.traced).ledger hs
      (clocks (env, op) List.mem_cons_self)
    refine ih hperform (fun e he => handled e ?_) fun step hstep =>
      clocks step (List.mem_cons_of_mem _ hstep)
    obtain ⟨step, hstep, hevent⟩ := List.mem_filterMap.mp he
    exact List.mem_filterMap.mpr ⟨step, List.mem_cons_of_mem _ hstep, hevent⟩

-- The last message of every row may be taken for one that came in.
theorem Store.Consistent.traced (hs : s.Consistent) : ∃ events, Traced events s := by
  refine ⟨s.states.flatMap fun r => r.lastInbound.toList.map fun text =>
    { workspace := r.workspace, account := r.account, conversation := "", phone := r.phone,
      text := "", received := TimeText.readStored text }, hs, fun r hr text htext => ?_⟩
  have hmem : text ∈ r.lastInbound.toList := by simp [htext]
  exact ⟨_, List.mem_flatMap.mpr ⟨r, hr, List.mem_map.mpr ⟨text, hmem, rfl⟩⟩, rfl, rfl, .inl rfl⟩

end

/-! ## 4. Runs -/

-- Where nothing fails, the check comes to what the store tells.
theorem Rule.checked_limitHit? {env : Environment} (faultless : env.Faultless) (r : Rule)
    (conversation : String) (z : Zone) (w : World) :
    (r.limitHit? conversation z env w).1 = .ok (w.store.limitHit? r conversation z env.now) :=
  (leads_limitHit? w.store w.exchanges faultless r conversation z w rfl rfl).1

/-- What holds of the limits of rules when `Event.handle` leads from `w` to `w'`. The time is the
one that the clock shows when that begins. -/
structure LimitsKept (e : Event) (env : Environment) (w w' : World) : Prop where
  /-- Nothing is logged, or that a rule has fired within its limits. The day is the date that the
  clocks of the account show. -/
  fires : w'.store.firings = w.store.firings ∨
    ∃ sn r entry, Rule.Fires w.store e (env.clock w.readings) sn r entry ∧
      w'.store.firings = w.store.firings ++ [.ofFiring entry] ∧
      r.Within (env.clock w.readings)
        (fun t => (sn.settings.zone env.zones).date t =
          (sn.settings.zone env.zones).date (env.clock w.readings))
        (w.store.successTimes r.id e.conversation)
  /-- Whatever else was logged, a rule may answer exactly when it is within its limits. The day is
  what is not before its midnight. -/
  allows : env.Faultless → ∀ sn, w.store.snapshot e.workspace e.account = .ok sn → ∀ r ∈ sn.rules,
    ∀ v : World, v.store.firings = w.store.firings →
      ((r.limitHit? e.conversation (sn.settings.zone env.zones) (env.asOf w) v).1 = .ok none ↔
        r.Within (env.clock w.readings)
          (fun t => (sn.settings.zone env.zones).localMidnight (env.clock w.readings) ≤ t)
          (w.store.successTimes r.id e.conversation))
  /-- A rule that may answer does. -/
  answers : env.Faultless → ∀ sn r selected, ∀ v : World,
    (r.limitHit? e.conversation (sn.settings.zone env.zones) (env.asOf w) v).1 = .ok none →
      ∃ v₁ : World, v₁.store = v.store ∧ v₁.exchanges = v.exchanges ∧
        (e.fire sn r selected (env.asOf w) v).1 =
          (e.respond sn r selected.faq (env.asOf w) v₁).1

/-- In any run, whichever way `Environment.clock` goes and whatever zones there are, rules keep to
their limits. By `steady` clocks that skip a midnight are not changed again on that date. -/
theorem limits_kept {w : World} (consistent : w.store.Consistent) (logged : w.store.Logged)
    (ranged : w.store.Ranged) {run : Run} (clocks : ∀ step ∈ run, ∀ n, (step.1.clock n).Ordinary)
    {env : Environment} (clock : ∀ n, (env.clock n).Ordinary) {e : Event}
    (steady : ∀ sn, (w.after run).store.snapshot e.workspace e.account = .ok sn →
      (sn.settings.zone env.zones).Steady
        ((sn.settings.zone env.zones).date (env.clock (w.after run).readings))) :
    LimitsKept e env (w.after run) ((w.after run).perform env (.handle e)) := by
  obtain ⟨known, htraced⟩ := consistent.traced
  have hledger : (w.after run).store.Ledger (known ++ run.events ++ [e]) := by
    refine World.ledger_after ⟨htraced.mono fun e he => ?_, logged, ranged⟩ (fun e he => ?_) clocks
    · simp [he]
    · simp [he]
  have hnow := clock (w.after run).readings
  have hfaultless (h : env.Faultless) : (env.asOf (w.after run)).Faultless := h
  constructor
  · have hhappens : (Occasion.event e).Happens (known ++ run.events ++ [e]) env (w.after run)
        (e.handle env (w.after run)).1 ((w.after run).perform env (.handle e)) :=
      e.happens_handle (by simp) hledger.traced
    rcases hhappens.firings hledger.traced with
      ⟨hfirings, -⟩ | ⟨e', sn, r, entry, hevent, hfires, hallowed, hfirings, -⟩
    · exact .inl hfirings
    · cases hevent
      refine .inr ⟨sn, r, entry, hfires, hfirings, ?_⟩
      have hsteady := steady sn hfires.loaded
      have hrange := hledger.ranged.cooldown_le hfires.loaded hfires.mem
      refine ((hledger.logged.limitHit?_eq_none_iff hrange hnow hsteady).mp hallowed).mono
        fun t _ htoday => ?_
      simpa using Zone.localMidnight_le hsteady hnow.2 (by simpa using htoday)
  · intro faultless sn hloaded r hr v hfirings
    have hchecked := Rule.checked_limitHit? (hfaultless faultless) r
      e.conversation (sn.settings.zone env.zones) v
    have htimes : v.store.successTimes r.id e.conversation =
        (w.after run).store.successTimes r.id e.conversation := by
      rw [successTimes, successTimes, successes_congr hfirings]
    rw [hchecked, Except.ok.injEq, ← htimes]
    exact (hledger.logged.congr hfirings).limitHit?_eq_none_iff
      (hledger.ranged.cooldown_le hloaded hr) hnow (steady sn hloaded)
  · intro faultless sn r selected v hallowed
    rw [Rule.checked_limitHit? (hfaultless faultless), Except.ok.injEq] at hallowed
    obtain ⟨v₁, hstore, hexchanges, -, hanswer, -⟩ :=
      run_fire (hfaultless faultless) e sn r selected hallowed
    exact ⟨v₁, hstore, hexchanges, hanswer⟩

/-- Greets whoever writes, twice a day at most and once in a minute. -/
def Rule.greeting : Rule :=
  { Rule.new (.ofNat 2) "shop" "main" "greeting" .anyMessage (.text "Hello") (.ofSeconds 0) with
    cooldown := 60
    dailyCap := 2 }

/-- An environment in which the clock stands still and one zone can be named, whose clocks are five
and a half hours ahead of UTC. -/
def Environment.ahead (now : Instant) : Environment :=
  { Environment.calm now with
    zones := fun name => if name = "Asia/Kolkata" then some ⟨name, 19800, []⟩ else none }

/-- Somebody is greeted by `Rule.greeting`, not again half a minute later, again after a minute, and
not a third time on the day. -/
def Run.greetings : Run :=
  [(.ahead (.ofSeconds 0), .putSettings "shop" "main" { timezone := some "Asia/Kolkata" }),
    (.ahead (.ofSeconds 0), .putRule .greeting), (.ahead (.ofSeconds 0), .handle .hello),
    (.ahead (.ofSeconds 30), .handle .hello), (.ahead (.ofSeconds 60), .handle .hello),
    (.ahead (.ofSeconds 66599), .handle .hello)]

/-- At half past six in the evening of UTC the next day begins by `Environment.ahead`, and somebody
is greeted again. -/
theorem limits_kept_greeting :
    ((World.start {}).after .greetings).store.firings.map (·.time) =
        [(Instant.ofSeconds 0).stored, (Instant.ofSeconds 60).stored] ∧
      (((World.start {}).after .greetings).perform (.ahead (.ofSeconds 66600))
        (.handle .hello)).store.firings.map (·.time) =
          [(Instant.ofSeconds 0).stored, (Instant.ofSeconds 60).stored,
            (Instant.ofSeconds 66600).stored] ∧
      LimitsKept .hello (.ahead (.ofSeconds 66600)) ((World.start {}).after .greetings)
        (((World.start {}).after .greetings).perform (.ahead (.ofSeconds 66600))
          (.handle .hello)) := by
  have hzone : ∀ sn ∈ (((World.start {}).after .greetings).store.snapshot "shop" "main").toOption,
      (sn.settings.zone (Environment.ahead (.ofSeconds 66600)).zones).transitions = [] := by
    decide +kernel
  have hclocks : ∀ step ∈ Run.greetings, ∀ n, (step.1.clock n).Ordinary := by
    have hconstant : ∀ step ∈ Run.greetings, step.1.now.Ordinary := by decide +kernel
    intro step hstep n
    have hstill : step.1.clock n = step.1.now := by
      simp only [Run.greetings, List.mem_cons, List.not_mem_nil, or_false] at hstep
      rcases hstep with rfl | rfl | rfl | rfl | rfl | rfl <;> rfl
    exact hstill ▸ hconstant step hstep
  have hclock (n : Nat) : ((Environment.ahead (.ofSeconds 66600)).clock n).Ordinary :=
    (by decide +kernel : (Instant.ofSeconds 66600).Ordinary)
  refine ⟨by decide +kernel, by decide +kernel, limits_kept (Store.consistent_of_nil rfl)
    (fun r hr => absurd hr List.not_mem_nil) (fun r hr => absurd hr List.not_mem_nil)
    hclocks hclock fun sn hsn => ?_⟩
  refine Zone.steady_of_transitions_eq_nil (hzone sn ?_) _
  rw [show Event.hello.workspace = "shop" from rfl, show Event.hello.account = "main" from rfl] at hsn
  rw [hsn]
  rfl

end Autoresponder
