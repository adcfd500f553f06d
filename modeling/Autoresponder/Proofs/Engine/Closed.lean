import Autoresponder.Proofs.Engine.Likeness
import Autoresponder.Proofs.Engine.Run
import Autoresponder.Proofs.Store.Workspace

/-!
# Conversations that cannot go on

A conversation that is stale, or has lost its flow or its node, has no part in what comes of an event.
It is closed, and from then on everything goes as if it had been closed before.
-/

namespace Autoresponder

open Step

/-! ## 1. Worlds that agree -/

/-- Two worlds differ in nothing but `calls` and `past`: how often the store was called, and what it
was before. -/
structure World.Agrees (w w' : World) : Prop where
  store : w.store = w'.store
  drawn : w.drawn = w'.drawn
  readings : w.readings = w'.readings
  exchanges : w.exchanges = w'.exchanges
  lookups : w.lookups = w'.lookups
  requests : w.requests = w'.requests

/-- Worlds that are alike by `World.Agrees`, for whatever is done in them. -/
def Likeness.agreement : Likeness where
  Like := World.Agrees
  Copy _ := True
  Starts _ := True
  Fires _ := True

section

variable {env : Environment} {ε α : Type}

-- While nothing goes wrong calls are answered alike however many there were before.
theorem Step.Respects.called (faultless : env.Faultless) {c : Call} {conflict : Option α}
    {run : Store → Except StoreError (α × Option Store)} :
    (Step.call c conflict run).Respects .agreement env fun _ => True := by
  intro n w w' hw
  have hfaultless : (env.shown n).Faultless := faultless
  simp only [Step.call, hfaultless c, hw.store]
  rcases run w'.store with e | ⟨a, written⟩
  · exact ⟨rfl, ⟨hw.store, hw.drawn, hw.readings, hw.exchanges, hw.lookups, hw.requests⟩,
      fun _ ha => by cases ha⟩
  · refine ⟨rfl, ?_, fun _ _ => trivial⟩
    cases written with
    | none => exact ⟨hw.store, hw.drawn, hw.readings, hw.exchanges, hw.lookups, hw.requests⟩
    | some s => exact ⟨rfl, hw.drawn, hw.readings, hw.exchanges, hw.lookups, hw.requests⟩

theorem Step.Respects.drawn :
    (Step.freshId : Step ε Uuid).Respects .agreement env fun _ => True :=
  fun _ _ _ hw => ⟨congrArg (fun n => Except.ok (env.freshId n)) hw.drawn,
    ⟨hw.store, congrArg Nat.succ hw.drawn, hw.readings, hw.exchanges, hw.lookups, hw.requests⟩,
    fun _ _ => trivial⟩

theorem Step.Respects.sent (intent : SendIntent) :
    (send intent).Respects .agreement env fun _ => True := by
  intro n w w' hw
  unfold send
  rw [hw.exchanges]
  exact ⟨rfl, ⟨hw.store, hw.drawn, hw.readings, rfl, hw.lookups, hw.requests⟩, fun _ _ => trivial⟩

theorem Likeness.agreement_reads : Likeness.agreement.Reads env :=
  fun _ _ hw => ⟨congrArg env.clock hw.readings, hw.store, hw.drawn,
    congrArg Nat.succ hw.readings, hw.exchanges, hw.lookups, hw.requests⟩

theorem Likeness.agreement_hears (faultless : env.Faultless) (e : Event) :
    Likeness.agreement.Hears env e :=
  .of_calls agreement_reads (fun _ => trivial) (fun _ => trivial) (fun _ => trivial)
    (fun _ _ _ => .called faultless) .drawn .sent
    (fun _ _ ls rs hw => ⟨hw.store, hw.drawn, hw.readings, hw.exchanges,
      congrArg (ls ++ ·) hw.lookups, congrArg (rs ++ ·) hw.requests⟩) e

end

/-! ## 2. Closing -/

section

variable {env : Environment} {w w₁ : World} {ε α β : Type}

theorem run_snapshot (faultless : env.Faultless) {workspace account : String} {sn : Snapshot}
    (h : w.store.snapshot workspace account = .ok sn) :
    ∃ w₁, stored (Calls.snapshot workspace account) env w = (.ok sn, w₁) ∧ w₁.Agrees w := by
  obtain ⟨settings, hsettings, rfl⟩ := Store.settings?_of_snapshot h
  have hflows : Calls.activeFlows workspace account env w =
      (.ok (w.store.activeFlows workspace account), w.counting .activeFlows) :=
    run_ask faultless rfl
  have hrules : Calls.activeRules workspace account env (w.counting .activeFlows) =
      (.ok (w.store.activeRules workspace account),
        (w.counting .activeFlows).counting .activeRules) :=
    run_ask faultless rfl
  have hread : Calls.settings? workspace account env
      ((w.counting .activeFlows).counting .activeRules) =
      (.ok settings, ((w.counting .activeFlows).counting .activeRules).counting .getSettings) :=
    run_ask faultless hsettings
  refine ⟨((w.counting .activeFlows).counting .activeRules).counting .getSettings, ?_,
    ⟨rfl, rfl, rfl, rfl, rfl, rfl⟩⟩
  refine run_stored ?_
  unfold Calls.snapshot
  rw [run_bind_ok hflows, run_bind_ok hrules, run_bind_ok hread]
  rfl

theorem run_activeState? (faultless : env.Faultless) {workspace phone : String}
    {found : Option Conversation} (h : w.store.activeState? workspace phone = .ok found) :
    stored (Calls.activeState? workspace phone) env w =
      (.ok found, w.counting .getActiveState) :=
  run_stored (run_ask faultless h)

-- A copy whose completion goes through is finished.
theorem run_finish (faultless : env.Faultless) {c : Conversation} (active : c.isActive = true)
    {s : Store} (h : w.store.updateState (c.after .complete env.now) c.version = .ok (some s)) :
    stored c.finish env w =
      (.ok (c.after .complete env.now), (w.counting .updateState).write s) := by
  have hupdate : Calls.updateState (c.after .complete env.now) c.version env w =
      (.ok true, (w.counting .updateState).write s) :=
    run_call faultless (some s) (by rw [h]; rfl)
  have hnow : (Step.now : Step StoreError Instant) env w = (.ok env.now, w) := rfl
  rw [Conversation.finish, if_pos active]
  refine run_stored ?_
  unfold Conversation.change
  rw [run_bind_ok hnow, run_bind_ok hupdate]
  rfl

-- A copy whose completion does not go through is not finished.
theorem run_finish_error (faultless : env.Faultless) {c : Conversation} (active : c.isActive = true)
    (h : ∀ s, w.store.updateState (c.after .complete env.now) c.version ≠ .ok (some s)) :
    ∃ err, stored c.finish env w = (.error (.store err), w.counting .updateState) := by
  have hnow : (Step.now : Step StoreError Instant) env w = (.ok env.now, w) := rfl
  obtain ⟨err, hchange⟩ :
      ∃ err, c.change .complete env w = (.error err, w.counting .updateState) := by
    unfold Conversation.change
    rw [run_bind_ok hnow, run_bind]
    simp only [Calls.updateState, call, faultless .updateState]
    cases hupdate : w.store.updateState (c.after .complete env.now) c.version with
    | error err => exact ⟨err, rfl⟩
    | ok written =>
      cases written with
      | some s => exact absurd hupdate (h s)
      | none => exact ⟨c.outdated, rfl⟩
  refine ⟨err, ?_⟩
  rw [Conversation.finish, if_pos active, stored, run_mapError, hchange]
  rfl

/-- A conversation that is stale (`Window.isStale`), or whose flow is not offered or lacks its node,
cannot go on. -/
def Conversation.Stuck (c : Conversation) (sn : Snapshot) (now : Instant) : Prop :=
  Window.isStale c.lastInbound now = true ∨ ∀ f, sn.flow? c.flow = some f → f.node? c.node = none

-- All that is done for a conversation that cannot go on is to close it.
theorem run_takeEvent_stuck (c : Conversation) {sn : Snapshot} (stuck : c.Stuck sn env.now)
    (e : Event) (w : World) :
    c.takeEvent sn e env w =
      (stored c.finish >>= fun _ => pure none : Step AutomationError (Option Outcome)) env w := by
  have hnow : (Step.now : Step AutomationError Instant) env w = (.ok env.now, w) := rfl
  unfold Conversation.takeEvent
  cases hstale : Window.isStale c.lastInbound env.now with
  | true =>
    have hexpire : c.expireIfStale env w =
        (stored c.finish >>= fun _ => pure true : Step AutomationError Bool) env w := by
      unfold Conversation.expireIfStale
      rw [run_bind_ok hnow, if_pos hstale]
    rw [run_bind, hexpire, run_bind, run_bind]
    rcases stored c.finish env w with ⟨_ | _, w₁⟩ <;> rfl
  | false =>
    have hexpire : c.expireIfStale env w = (.ok false, w) := by
      unfold Conversation.expireIfStale
      rw [run_bind_ok hnow, if_neg (by simp [hstale])]
      rfl
    have hlost : ((sn.flow? c.flow).bind fun f => (f.node? c.node).map fun n => (f, n)) = none := by
      cases hflow : sn.flow? c.flow with
      | none => rfl
      | some f =>
        have hnode := stuck.resolve_left (by simp [hstale]) f hflow
        rw [Option.bind_some, hnode, Option.map_none]
    rw [run_bind_ok hexpire, if_neg (by simp), hlost]

-- A conversation that cannot go on is closed, and something else may answer.
theorem run_takeEvent (faultless : env.Faultless) {c : Conversation} (active : c.isActive = true)
    {s : Store} (h : w.store.updateState (c.after .complete env.now) c.version = .ok (some s))
    {sn : Snapshot} (stuck : c.Stuck sn env.now) (e : Event) :
    c.takeEvent sn e env w = (.ok none, (w.counting .updateState).write s) := by
  rw [run_takeEvent_stuck c stuck, run_bind_ok (run_finish faultless active h)]
  rfl

-- Where it cannot be closed, nothing else is done.
theorem run_takeEvent_error (faultless : env.Faultless) {c : Conversation}
    (active : c.isActive = true)
    (h : ∀ s, w.store.updateState (c.after .complete env.now) c.version ≠ .ok (some s))
    {sn : Snapshot} (stuck : c.Stuck sn env.now) (e : Event) :
    ∃ err, c.takeEvent sn e env w = (.error (.store err), w.counting .updateState) := by
  obtain ⟨err, hfinish⟩ := run_finish_error faultless active h
  rw [run_takeEvent_stuck c stuck, run_bind_error hfinish]
  exact ⟨err, rfl⟩

end

/-! ## 3. Rows -/

namespace Store

variable {s s' : Store} {c : Conversation} {workspace phone : String}

/-- A person has at most one active conversation. -/
def Single (s : Store) (workspace phone : String) : Prop :=
  ∀ r ∈ s.states, ∀ r' ∈ s.states, isActiveFor workspace phone r = true →
    isActiveFor workspace phone r' = true → r = r'

theorem Consistent.single_for (hs : s.Consistent) (workspace phone : String) :
    s.Single workspace phone := by
  intro r hr r' hr' h h'
  simp only [isActiveFor, Bool.and_eq_true, beq_iff_eq] at h h'
  exact hs.single r hr r' hr' h.2 h'.2 (h.1.1.trans h'.1.1.symm) (h.1.2.trans h'.1.2.symm)

-- What is found as the active conversation of a person is active.
theorem isActive_of_activeState? (h : s.activeState? workspace phone = .ok (some c)) :
    c.isActive = true := by
  obtain ⟨r, -, hwanted, hread⟩ := exists_of_readFirst h
  obtain ⟨-, -, -, hactive⟩ := StateRow.readUuid_of_read hread
  simp only [isActiveFor, Bool.and_eq_true, beq_iff_eq] at hwanted
  rw [hactive, hwanted.2]
  rfl

-- Once the active conversation of a person is completed there is none.
theorem activeState?_completed (keys : Keys StateRow.id s.states)
    (single : s.Single workspace phone) (h : s.activeState? workspace phone = .ok (some c))
    {now : Instant}
    (hupdate : s.updateState (c.after .complete now) c.version = .ok (some s')) :
    s'.activeState? workspace phone = .ok none := by
  obtain ⟨r, hr, hwanted, hread⟩ := exists_of_readFirst h
  have hid : r.id = toString c.id :=
    keys.eq_toString hr (StateRow.readUuid_of_read hread).1
  obtain ⟨-, rfl⟩ := eq_set_of_updateState hupdate
  have hnone : (s.set (c.after .complete now)).states.find? (isActiveFor workspace phone) =
      none := by
    rw [List.find?_eq_none]
    intro r' hr' hactive
    obtain ⟨old, hold, rfl⟩ := List.mem_map.mp hr'
    -- The row that was found is written over, and no other one is active.
    by_cases hold' : old.id = toString c.id
    · rw [Conversation.id_after, hold', beq_self_eq_true, if_pos rfl] at hactive
      simp [isActiveFor, StateRow.revised, StateRow.ofConversation, Conversation.after,
        Conversation.Change.apply, IntCell.ofBool] at hactive
    · rw [Conversation.id_after, if_neg (by simpa using hold')] at hactive
      exact hold' ((single old hold r hr hactive hwanted) ▸ hid)
  rw [activeState?, hnone]
  rfl

end Store

/-! ## 4. Two runs -/

/-- **A conversation that cannot go on is as good as closed.** While no call to the store fails, an
event of a person whose active conversation is `stuck`, because it is stale, or has lost its flow or
its node, at the time that the clock shows when the event is handled, has the same outcome and hands
over, looks up and asks the same, and leaves the same store, as if that conversation had been
`completed` before at the same instant. -/
theorem handle_closed {env : Environment} {e : Event} {w : World} {sn : Snapshot}
    {c : Conversation} {s : Store} (faultless : env.Faultless)
    (keys : Store.Keys Store.StateRow.id w.store.states)
    (single : w.store.Single e.workspace e.phone)
    (loaded : w.store.snapshot e.workspace e.account = .ok sn)
    (found : w.store.activeState? e.workspace e.phone = .ok (some c))
    (stuck : c.Stuck sn (env.clock w.readings))
    (completed : w.store.updateState (c.after .complete (env.clock w.readings)) c.version =
      .ok (some s)) :
    (e.handle env w).1 = (e.handle env { w with store := s }).1 ∧
      (e.handle env w).2.Agrees (e.handle env { w with store := s }).2 := by
  have faultless' : (env.asOf w).Faultless := faultless
  have hs := (Store.eq_set_of_updateState completed).2
  have loaded' : s.snapshot e.workspace e.account = .ok sn := by
    rw [hs]
    exact loaded
  have hnone := Store.activeState?_completed keys single found completed
  -- The one run closes the conversation, and the other one finds none.
  obtain ⟨w₁, hsnapshot, hw₁⟩ := run_snapshot (w := w.reading) faultless' loaded
  have hfound := run_activeState? faultless' (hw₁.store ▸ found)
  have htake := run_takeEvent (w := w₁.counting .getActiveState) faultless'
    (Store.isActive_of_activeState? found) (hw₁.store.symm ▸ completed) stuck e
  obtain ⟨w₂, hsnapshot', hw₂⟩ :=
    run_snapshot (w := ({ w with store := s } : World).reading) faultless' loaded'
  have hstore : w₂.store = s := hw₂.store
  have hnone' := run_activeState? (w := w₂) faultless' (hstore ▸ hnone)
  have hprocess : e.process (env.asOf w) w.reading = e.answer sn (env.asOf w)
      (((w₁.counting .getActiveState).counting .updateState).write s) := by
    unfold Event.process
    rw [run_bind_ok hsnapshot, run_bind_ok hfound]
    dsimp only
    rw [run_bind_ok htake]
  have hprocess' : e.process (env.asOf w) ({ w with store := s } : World).reading =
      e.answer sn (env.asOf w) (w₂.counting .getActiveState) := by
    unfold Event.process
    rw [run_bind_ok hsnapshot', run_bind_ok hnone']
  have hagree : World.Agrees (((w₁.counting .getActiveState).counting .updateState).write s)
      (w₂.counting .getActiveState) :=
    ⟨hstore.symm, hw₁.drawn.trans hw₂.drawn.symm, hw₁.readings.trans hw₂.readings.symm,
      hw₁.exchanges.trans hw₂.exchanges.symm, hw₁.lookups.trans hw₂.lookups.symm,
      hw₁.requests.trans hw₂.requests.symm⟩
  obtain ⟨houtcome, hafter, -⟩ := Event.respects_answer (Likeness.agreement_hears faultless e)
    ⟨fun _ _ => trivial, fun _ _ => trivial⟩ w.readings _ _ hagree
  have hhandle (v : World) : e.handle env v =
      (.ofExcept (e.process (env.asOf v) v.reading).1, (e.process (env.asOf v) v.reading).2) := rfl
  have hasOf : env.asOf { w with store := s } = env.asOf w := rfl
  rw [hhandle, hhandle, hasOf, hprocess, hprocess']
  exact ⟨congrArg Outcome.ofExcept houtcome, hafter⟩

/-- Somebody who was greeted in `Run.greeting` writes again the next day. -/
theorem handle_closed_greeting :
    ∃ w sn c s e, w = (World.start {}).after Run.greeting ∧
      e = { Event.hello with received := .ofSeconds 86400 } ∧
      w.store.snapshot "shop" "main" = .ok sn ∧
      w.store.activeState? "shop" "555" = .ok (some c) ∧ c.Stuck sn (.ofSeconds 86400) ∧
      w.store.updateState (c.after .complete (.ofSeconds 86400)) c.version = .ok (some s) ∧
      (e.handle (.calm (.ofSeconds 86400)) w).1 =
        (e.handle (.calm (.ofSeconds 86400)) { w with store := s }).1 ∧
      (e.handle (.calm (.ofSeconds 86400)) w).2.Agrees
        (e.handle (.calm (.ofSeconds 86400)) { w with store := s }).2 := by
  have hs : ((World.start {}).after Run.greeting).store.Consistent :=
    (World.traced_after rfl _).consistent
  have found : ((World.start {}).after Run.greeting).store.activeState? "shop" "555" =
      .ok (some { Conversation.begun (.ofNat 0) "shop" "main" "555" (.ofNat 1) "pause"
        (some (.ofSeconds 0)) (.ofSeconds 0) with
          resumeAt := some (.ofSeconds 60), version := 4 }) := by
    decide +kernel
  have loaded : ((World.start {}).after Run.greeting).store.snapshot "shop" "main" =
      .ok (.ofAccount "shop" "main"
        [{ Flow.greeting with triggerCount := 1, lastTriggered := some (.ofSeconds 0) }] [] {}) := by
    decide +kernel
  obtain ⟨-, -, active, -, held⟩ := hs.holds_of_activeState? found
  have completed :=
    held.updateState hs active (Conversation.same_after _ .complete (.ofSeconds 86400))
  have stale : Window.isStale (some (.ofSeconds 0)) (.ofSeconds 86400) = true := by decide
  have faultless : (Environment.calm (.ofSeconds 86400)).Faultless := fun _ _ => rfl
  exact ⟨_, _, _, _, _, rfl, rfl, loaded, found, .inl stale, completed,
    handle_closed faultless hs.keys (hs.single_for _ _) loaded found (.inl stale) completed⟩

end Autoresponder
