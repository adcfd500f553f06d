import Autoresponder.Proofs.Conversation.Received
import Autoresponder.Proofs.Engine.Run

/-!
# Messages within the window

Whatever goes out that is no template goes to a person from whom something came in less than a day
before. What a row keeps of the time of a message may be the first instant of the calendar, but
never a time after the message.
-/

namespace Autoresponder

/-! ## 1. What was kept of a message -/

-- A leap second adds a second to a span at most when the span begins in it.
theorem Instant.since_spec (a b : Instant) :
    ∃ counted : Int, (a.since b : Int) =
        (a.seconds - b.seconds + counted) * 1000000000 + ((a.nanos : Int) - b.nanos) ∧
      (counted ≤ 0 ∨ (counted = 1 ∧ 1000000000 ≤ b.nanos)) := by
  refine ⟨_, rfl, ?_⟩
  split
  · rename_i h
    exact .inr ⟨rfl, h.2⟩
  · left
    split <;> decide

theorem Instant.since_first (a : Instant) :
    a.since first = (a.seconds - firstSecond) * nanosPerSecond + a.nanos := by
  have hday : first.secondOfDay = 0 := by decide
  have hday' : ¬ a.secondOfDay < 0 := not_lt.mpr (Int.emod_nonneg _ (by decide))
  have hnanos : ¬ nanosPerSecond ≤ first.nanos := by decide
  simp only [since, hday, hday', hnanos, and_false, false_and, if_false]
  simp [first, ofSeconds]

-- No instant of the calendar lies longer ago than the first one.
theorem Instant.since_le_since_first {t : Instant} (h : t.inCalendar = true) (now : Instant) :
    now.since t ≤ now.since first := by
  have hsecond : firstSecond ≤ t.seconds := by
    simp only [inCalendar, Bool.and_eq_true, decide_eq_true_eq] at h
    exact h.1
  obtain ⟨counted, hsince, hcounted⟩ := since_spec now t
  have hfirst : (now.since first : Int) = (now.seconds - firstSecond) * 1000000000 + now.nanos :=
    since_first now
  simp only [Span] at hsince hfirst ⊢
  omega

-- If the window is open for what was kept of a message, it is open for the message.
theorem CameIn.since_lt {events : List Event} {workspace phone : String} {t now : Instant}
    (h : CameIn events workspace phone t) (calendar : ∀ e ∈ events, e.received.inCalendar = true)
    (hopen : now.since t < Window.length) :
    ∃ e ∈ events, e.workspace = workspace ∧ e.phone = phone ∧
      now.since e.received < Window.length := by
  obtain ⟨e, he, hworkspace, hphone, rfl | rfl⟩ := h
  · exact ⟨e, he, hworkspace, hphone, hopen⟩
  · refine ⟨e, he, hworkspace, hphone, ?_⟩
    by_cases hyear : e.received.FourDigitYear
    · rwa [Instant.kept_of_fourDigitYear hyear] at hopen
    · rw [Instant.kept_of_not_fourDigitYear hyear] at hopen
      exact lt_of_le_of_lt (Instant.since_le_since_first (calendar e he) now) hopen

/-! ## 2. What is handed to the sender -/

/-- An exchange that is a template, or has one of `events` within the day before it. -/
def Exchange.Timely (events : List Event) (x : Exchange) : Prop :=
  (∀ name language parameters, x.intent.message ≠ .template name language parameters) →
    ∃ e ∈ events, e.workspace = x.intent.workspace ∧ e.phone = x.intent.phone ∧
      x.time.since e.received < Span.ofSeconds (24 * 3600)

theorem Message.requiresWindow_of_ne_template {m : Message}
    (h : ∀ name language parameters, m ≠ .template name language parameters) :
    m.requiresWindow = true := by
  cases m with
  | template name language parameters => exact absurd rfl (h name language parameters)
  | _ => rfl

/-- What was handed to the sender, newest first, before the clock was read for the `last` time, and
not before its reading `first`. What needs an open window was handed over by the time of a reading
of its own, that came after `first`; a template by a time that the clock has shown. -/
inductive Environment.Dates (env : Environment) (first : Nat) : Nat → List Exchange → Prop where
  | none (last : Nat) : Dates env first last []
  | template {x : Exchange} {earlier : List Exchange} {n last : Nat}
      (free : x.intent.message.requiresWindow = false) (since : first ≤ n) (read : n < last)
      (time : env.clock n = x.time) (dates : Dates env first last earlier) :
      Dates env first last (x :: earlier)
  | guarded {x : Exchange} {earlier : List Exchange} {n last : Nat} (since : first < n)
      (read : n < last) (time : env.clock n = x.time) (dates : Dates env first n earlier) :
      Dates env first last (x :: earlier)

section

variable {events : List Event} {env : Environment} {first : Nat} {w w' : World}

-- What was handed over before a reading was handed over before a later one.
theorem Environment.Dates.mono {n last : Nat} {xs : List Exchange} (h : env.Dates first n xs)
    (hle : n ≤ last) : env.Dates first last xs := by
  induction h generalizing last with
  | none => exact .none last
  | template free since read time _ ih => exact .template free since (read.trans_le hle) time (ih hle)
  | guarded since read time dates _ => exact .guarded since (read.trans_le hle) time dates

-- One more message is handed over by the time of the next reading, or it is a template.
theorem Environment.Dates.handing {xs : List Exchange} {now : Instant}
    (h : env.Dates first w.readings xs) (told : env.Told first w now) (intent : SendIntent) :
    env.Dates first (w.handing (env.atTime now) intent).readings
      (⟨intent, env.sender w.exchanges intent, (env.atTime now).moment w intent.message⟩ :: xs) := by
  obtain ⟨n, hfirst, hn, hnow⟩ := told
  cases hwindow : intent.message.requiresWindow with
  | true =>
    have hread : (w.handing (env.atTime now) intent).readings = w.readings + 1 := by
      simp [World.handing, hwindow]
    have htime : (env.atTime now).moment w intent.message = env.clock w.readings := by
      simp [moment, hwindow, atTime]
    rw [hread, htime]
    exact .guarded (lt_of_le_of_lt hfirst hn) (Nat.lt_succ_self _) rfl h
  | false =>
    have hread : (w.handing (env.atTime now) intent).readings = w.readings := by
      simp [World.handing, hwindow]
    have htime : (env.atTime now).moment w intent.message = now := by
      simp [moment, hwindow, atTime]
    rw [hread, htime]
    exact .template hwindow hfirst hn hnow h

/-- What an `Effect` hands over is dated by the clock, and it is `Timely`. -/
theorem Effect.timely (h : Effect events env first w w')
    (calendar : ∀ e ∈ events, e.received.inCalendar = true) {before : List Exchange}
    (handed : ∃ xs, w.exchanges = xs ++ before ∧ env.Dates first w.readings xs ∧
      ∀ x ∈ xs, x.Timely events) :
    ∃ xs, w'.exchanges = xs ++ before ∧ env.Dates first w'.readings xs ∧
      ∀ x ∈ xs, x.Timely events := by
  obtain ⟨xs, hxs, hdates, htimely⟩ := handed
  have hone {now : Instant} (told : env.Told first w now) (intent : SendIntent)
      (intime : intent.message.requiresWindow = true → ∃ e ∈ events,
        e.workspace = intent.workspace ∧ e.phone = intent.phone ∧
          (env.clock w.readings).since e.received < Window.length) :
      ∃ xs, (w.handing (env.atTime now) intent).exchanges = xs ++ before ∧
        env.Dates first (w.handing (env.atTime now) intent).readings xs ∧
          ∀ x ∈ xs, x.Timely events := by
    refine ⟨_ :: xs, by rw [World.handing, hxs]; rfl, hdates.handing told intent, fun x hx => ?_⟩
    rcases List.mem_cons.mp hx with rfl | hx
    · intro hfree
      have hwindow := Message.requiresWindow_of_ne_template hfree
      have htime : (env.atTime now).moment w intent.message = env.clock w.readings := by
        simp [Environment.moment, hwindow, Environment.atTime]
      rw [htime]
      exact intime hwindow
    · exact htimely x hx
  cases h with
  | quiet idles =>
    exact ⟨xs, idles.exchanges.trans hxs, hdates.mono idles.readings, htimely⟩
  | send c m now told live window =>
    refine hone told _ fun hm => ?_
    have hopen := window hm
    cases hlast : c.lastInbound with
    | none => simp [hlast, Window.isOpen] at hopen
    | some t =>
      simp only [hlast, Window.isOpen, decide_eq_true_eq] at hopen
      exact (live.heard t hlast).since_lt calendar hopen
  | reply e m now told handled window =>
    refine hone told _ fun hm => ?_
    have hopen := window hm
    simp only [Window.isOpen, decide_eq_true_eq] at hopen
    exact ⟨e, handled, rfl, rfl, hopen⟩
  | _ => exact ⟨xs, hxs, hdates, htimely⟩

theorem Reach.timely (h : Reach events env first w w')
    (calendar : ∀ e ∈ events, e.received.inCalendar = true) :
    ∃ handed, w'.exchanges = handed ++ w.exchanges ∧ env.Dates first w'.readings handed ∧
      ∀ x ∈ handed, x.Timely events := by
  induction h with
  | refl => exact ⟨[], rfl, .none _, by simp⟩
  | tail _ heffect ih => exact heffect.timely calendar ih

end

/-- Whatever an operation `op` hands to the sender after a `run`, by whatever way `env.clock` goes
meanwhile: if it is no template, then an event of that person was handled before, or is being
handled, that came in less than a day before the time that the clock shows for this very message.
Events come in at instants of the `calendar`; see `Event.inCalendar_of_fromJson`. -/
theorem handed_within_window {w : World} (h : w.store.states = []) (run : Run) (env : Environment)
    (op : Operation)
    (calendar : ∀ e ∈ Run.events (run ++ [(env, op)]), e.received.inCalendar = true) :
    ∃ handed, ((w.after run).perform env op).exchanges = handed ++ (w.after run).exchanges ∧
      env.Dates (w.after run).readings ((w.after run).perform env op).readings handed ∧
      ∀ x ∈ handed, x.Timely (Run.events (run ++ [(env, op)])) :=
  (World.reach_perform (World.traced_after h run)).timely calendar

/-- The clock goes on while somebody is greeted. The second message of the greeting goes out at the
eighth reading of the clock, two minutes after the resumption began and seven after somebody wrote:
`handed_within_window` speaks of that time. -/
theorem handed_within_window_greeting :
    ∃ run w w', run = [(.passing, .putFlow .greeting), (.passing, .handle .hello)] ∧
      w = (World.start {}).after run ∧ w' = w.perform .passing (.resume (.ofNat 0)) ∧
      w.readings = 5 ∧ w'.readings = 8 ∧
      w'.exchanges.map (·.time) = [.ofSeconds 420, .ofSeconds 180] ∧
      (World.start {}).store.states = [] ∧
      (∀ e ∈ Run.events (run ++ [(.passing, .resume (.ofNat 0))]), e.received.inCalendar = true) ∧
      ∃ handed, w'.exchanges = handed ++ w.exchanges ∧
        Environment.passing.Dates w.readings w'.readings handed ∧
        ∀ x ∈ handed, x.Timely (Run.events (run ++ [(.passing, .resume (.ofNat 0))])) :=
  ⟨_, _, _, rfl, rfl, rfl, by decide +kernel, by decide +kernel, by decide +kernel, rfl, by decide,
    handed_within_window rfl _ _ _ (by decide)⟩

end Autoresponder
