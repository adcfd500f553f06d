import Autoresponder.Proofs.Engine.Likeness
import Autoresponder.Proofs.Engine.Run
import Autoresponder.Proofs.Store.Counter

/-!
# Counters agree with history

Rows that are written again keep their counters. So wherever a run leads, the counters agree with the
firings and the conversations, as long as every row begins without counts, and as long as no start of
a flow goes uncounted because a call to the store fails.
-/

namespace Autoresponder

/-! ## 1. Operations -/

section

variable {P : Store → Prop} {Starts : Uuid → Prop} {env : Environment} {w : World}

-- What is kept on every occasion is kept by every operation that writes no flows, rules or settings.
theorem Operation.having_perform {op : Operation}
    (hears : ∀ e, (Likeness.having P Starts).Hears env e) (hop : ¬ op.Configures)
    (hw : P w.store) : P (w.perform env op).store := by
  have carries := (hears .hello).toCarries
  have hact {o : Occasion} (suits : (Likeness.having P Starts).Suits env o) :
      P (o.act env w).2.store :=
    (Occasion.alike_act suits ⟨rfl, hw⟩).2.2
  cases op with
  | handle e => exact hact (o := .event e) (hears e)
  | resume id => exact hact (o := .resume id) ⟨carries, Likeness.having_knows id⟩
  | completeForm id fields =>
    exact hact (o := .form id fields) ⟨carries, Likeness.having_knows id⟩
  | tick =>
    have hdue (now : Instant) : (Calls.dueStates now).Respects (.having P Starts) env fun cs =>
        ∀ c ∈ cs, (Likeness.having P Starts).Knows env c.id :=
      .ask_having fun _ _ _ _ c _ => Likeness.having_knows c.id
    exact (alike_tick carries hdue ⟨rfl, hw⟩).2.2
  | putFlow f => exact absurd trivial hop
  | setFlowStatus id status time => exact absurd trivial hop
  | putRule r => exact absurd trivial hop
  | putSettings workspace account settings => exact absurd trivial hop

end

namespace Store

-- Starts of flows have no part in the successes of rules, and the other way round.

theorem RulesTallied.congr {s s' : Store} (hs : s.RulesTallied)
    (hrules : s'.rules.map RuleRow.statistic = s.rules.map RuleRow.statistic)
    (hfirings : s'.firings = s.firings) : s'.RulesTallied := by
  unfold RulesTallied hits
  rw [hrules, hfirings]
  exact hs

theorem FlowsTallied.congr {s s' : Store} (hs : s.FlowsTallied)
    (hflows : s'.flows.map FlowRow.statistic = s.flows.map FlowRow.statistic)
    (hstates : s'.states = s.states) : s'.FlowsTallied := by
  unfold FlowsTallied starts
  rw [hflows, hstates]
  exact hs

end Store

/-- What an operation stores for the first time was never triggered. -/
def Operation.Introduces (before after : Store) : Operation → Prop
  | putFlow f => (∀ r ∈ before.flows, r.id ≠ toString f.id) →
      (∃ r ∈ after.flows, r.id = toString f.id) → f.triggerCount = 0 ∧ f.lastTriggered = none
  | putRule r => (∀ row ∈ before.rules, row.id ≠ toString r.id) →
      (∃ row ∈ after.rules, row.id = toString r.id) → r.triggerCount = 0 ∧ r.lastTriggered = none
  | _ => True

section

variable {env : Environment} {w : World}

-- Writing flows, rules or settings counts nothing.
theorem Operation.tallied_configure {op : Operation} (configures : op.Configures)
    (introduces : op.Introduces w.store (w.perform env op).store) :
    (w.store.RulesTallied → (w.perform env op).store.RulesTallied) ∧
      (w.store.FlowsTallied → (w.perform env op).store.FlowsTallied) := by
  have htell (op : Operation) {c : Call} {x : Store → Except StoreError Store}
      (hop : op.perform = discard (Step.tell c x).attempt) :
      (w.perform env op).store = w.store ∨ x w.store = .ok (w.perform env op).store := by
    rcases op.run_tell hop env w with h | ⟨s, hs, h⟩ <;> rw [h]
    · exact .inl rfl
    · exact .inr hs
  cases op with
  | putFlow f =>
    rcases htell (.putFlow f) rfl with hstore | hput
    · rw [hstore]
      exact ⟨id, id⟩
    rw [← Except.ok.inj hput] at introduces ⊢
    refine ⟨fun hs => hs.congr (by rw [Store.eq_putFlow]) (by rw [Store.eq_putFlow]), fun hs => ?_⟩
    rcases Store.statistics_putFlow w.store f with hflows | ⟨hnew, hflows⟩
    · exact hs.congr hflows (by rw [Store.eq_putFlow])
    · obtain ⟨hcount, hlast⟩ := introduces hnew
        ⟨.ofFlow f, hflows ▸ List.mem_append_right _ (List.mem_singleton_self _), rfl⟩
      have hstarts : (w.store.putFlow f).starts = w.store.starts := by rw [Store.eq_putFlow]; rfl
      unfold Store.FlowsTallied
      rw [hstarts, hflows, List.map_append]
      refine Store.Tallied.concat hs (fun r hr => ?_) ⟨?_, ?_⟩
      · obtain ⟨row, hrow, rfl⟩ := List.mem_map.mp hr
        exact hnew row hrow
      · change Store.IntCell.ofUInt64 f.triggerCount = _
        rw [hcount]
        decide
      · change Store.optionalStored f.lastTriggered = _
        rw [hlast]
        rfl
  | setFlowStatus id status time =>
    rcases htell (.setFlowStatus id status time) rfl with hstore | hset
    · rw [hstore]
      exact ⟨fun h => h, fun h => h⟩
    have heq := Store.eq_of_setFlowStatus hset
    exact ⟨fun hs => hs.congr (by rw [heq]) (by rw [heq]),
      fun hs => hs.congr (Store.statistics_setFlowStatus hset) (by rw [heq])⟩
  | putRule r =>
    rcases htell (.putRule r) rfl with hstore | hput
    · rw [hstore]
      exact ⟨id, id⟩
    rw [← Except.ok.inj hput] at introduces ⊢
    refine ⟨fun hs => ?_, fun hs => hs.congr (by rw [Store.eq_putRule]) (by rw [Store.eq_putRule])⟩
    rcases Store.statistics_putRule w.store r with hrules | ⟨hnew, hrules⟩
    · exact hs.congr hrules (by rw [Store.eq_putRule])
    · obtain ⟨hcount, hlast⟩ := introduces hnew
        ⟨.ofRule r, hrules ▸ List.mem_append_right _ (List.mem_singleton_self _), rfl⟩
      have hhits : (w.store.putRule r).hits = w.store.hits := by rw [Store.eq_putRule]; rfl
      unfold Store.RulesTallied
      rw [hhits, hrules, List.map_append]
      refine Store.Tallied.concat hs (fun row hrow => ?_) ⟨?_, ?_⟩
      · obtain ⟨row', hrow', rfl⟩ := List.mem_map.mp hrow
        exact hnew row' hrow'
      · change Store.IntCell.ofUInt64 r.triggerCount = _
        rw [hcount]
        decide
      · change Store.optionalStored r.lastTriggered = _
        rw [hlast]
        rfl
  | putSettings workspace account settings =>
    rcases htell (.putSettings workspace account settings) rfl with hstore | hput
    · rw [hstore]
      exact ⟨id, id⟩
    rw [← Except.ok.inj hput, Store.eq_putSettings]
    exact ⟨fun hs => hs, fun hs => hs⟩
  | _ => exact configures.elim

/-! ## 2. Successes of rules -/

-- Whatever fails, a success is logged and counted at once, or neither.
theorem Likeness.rules_hears (e : Event) :
    (Likeness.having Store.RulesTallied fun _ => True).Hears env e := by
  refine Likeness.having_hears (fun _ _ _ _ _ _ => trivial) (fun s c hs => hs)
    (fun f e node _ => ?_) (fun s entry s' hs h => hs.logFiring h) e
  unfold Flow.enter Conversation.create
  refine .bind (Q := fun _ => True) (.stored (.bind .freshId_having fun id _ => .bind .now
    fun now _ => .bind (.tell_having fun s s' hs h => ?_) fun _ _ => .pure trivial)) fun c _ => ?_
  · rw [(Store.states_createState h).1]
    exact hs
  · refine .bind .now fun now _ => .bind (.stored (.tell_having fun s s' hs h => ?_)) fun _ _ =>
      .pure trivial
    rw [← Except.ok.inj h]
    exact hs

/-! ## 3. Starts of flows -/

-- While no call to the store fails a flow starts if a conversation begins, and is counted then.
theorem Flow.store_enter (faultless : env.Faultless) (f : Flow) (e : Event) (node : String)
    (w : World) : (f.enter e node env w).2.store = w.store ∨ ∃ c s, c.flow = f.id ∧
      c.created = env.now ∧ w.store.createState c = .ok s ∧
      (f.enter e node env w).2.store = s.countFlowStart f.id env.now := by
  obtain ⟨c, hc⟩ : ∃ c, c = Conversation.begun (env.freshId w.drawn) e.workspace e.account e.phone
    f.id node (some e.received) env.now := ⟨_, rfl⟩
  have hcreate : Conversation.create e.workspace e.account e.phone f.id node (some e.received) env w =
      (Calls.createState c >>= fun _ => pure c) env { w with drawn := w.drawn + 1 } := by
    rw [hc]
    rfl
  unfold Flow.enter
  cases hcreated : w.store.createState c with
  | error err =>
    refine .inl ?_
    have hrun : Conversation.create e.workspace e.account e.phone f.id node (some e.received) env w =
        (.error err, ({ w with drawn := w.drawn + 1 } : World).counting .createState) := by
      rw [hcreate]
      exact Step.run_bind_error (Step.run_tell_error faultless hcreated) _
    rw [Step.run_bind, Step.stored, Step.run_mapError, hrun]
    rfl
  | ok s =>
    refine .inr ⟨c, s, by rw [hc]; rfl, by rw [hc]; rfl, hcreated, ?_⟩
    have hrun : Conversation.create e.workspace e.account e.phone f.id node (some e.received) env w =
        (.ok c, (({ w with drawn := w.drawn + 1 } : World).counting .createState).write s) := by
      rw [hcreate]
      exact Step.run_bind_ok (Step.run_tell_ok faultless hcreated) _
    rw [Step.run_bind_ok (Step.run_stored hrun)]
    have hnow (w : World) : (Step.now : Step AutomationError Instant) env w = (.ok env.now, w) := rfl
    have hcount (w : World) : Calls.countFlowStart f.id env.now env w =
        (.ok (), (w.counting .countFlowStart).write (w.store.countFlowStart f.id env.now)) :=
      Step.run_tell_ok faultless rfl
    rw [Step.run_bind_ok (hnow _), Step.run_bind_ok (Step.run_stored (hcount _))]
    rfl

/-- Starts of flows are counted, and there are the flows that there were before. -/
def Store.StartsTallied (b s : Store) : Prop :=
  s.FlowsTallied ∧ s.flows.map (·.id) = b.flows.map (·.id)

def Store.HasFlow (s : Store) (id : Uuid) : Prop := toString id ∈ s.flows.map (·.id)

theorem Likeness.flows_hears (faultless : env.Faultless) {b : Store} (hb : b.Keyed) (e : Event) :
    (Likeness.having b.StartsTallied b.HasFlow).Hears env e := by
  refine Likeness.having_hears (fun s workspace account ⟨_, hids⟩ f hf => ?_)
    (fun s c ⟨hs, hids⟩ => ⟨?_, hids⟩) (fun f e node hf => .having fun n w ⟨hs, hids⟩ =>
      ⟨?_, fun _ _ => trivial⟩) (fun s entry s' ⟨hs, hids⟩ h => ?_) e
  · obtain ⟨row, hrow, -, hread⟩ := Store.mem_activeFlows.mp hf
    have hkeys : Store.Keys Store.FlowRow.id s.flows := (Store.keyed_iff.mp hb).congr hids
    have hid : row.id = toString f.id := hkeys.eq_toString hrow (Store.FlowRow.readUuid_of_read hread)
    rw [Store.HasFlow, ← hids, ← hid]
    exact List.mem_map_of_mem hrow
  · unfold Store.FlowsTallied
    rw [Store.starts_set]
    exact hs
  · have faultless : (env.shown n).Faultless := faultless
    have hstore := f.store_enter faultless e node w
    rcases hstore with h | ⟨c, s, hflow, hcreated, hcreate, h⟩
    · rw [h]
      exact ⟨hs, hids⟩
    · have heq := (Store.states_createState hcreate).1
      have hflows : s.flows = w.store.flows := by rw [heq]
      have hstarts : (s.countFlowStart f.id (env.shown n).now).starts =
          w.store.starts ++ [⟨toString f.id, (env.shown n).now.stored⟩] := by
        rw [← hflow, ← hcreated]
        exact (Store.starts_createState hcreate :)
      have hknown : ∃ r ∈ w.store.flows.map Store.FlowRow.statistic, r.id = toString f.id := by
        rw [Store.HasFlow, ← hids, List.mem_map] at hf
        obtain ⟨r, hr, hid⟩ := hf
        exact ⟨r.statistic, List.mem_map_of_mem hr, hid⟩
      rw [h]
      refine ⟨?_, ?_⟩
      · unfold Store.FlowsTallied
        rw [hstarts, Store.statistics_countFlowStart, hflows]
        exact Store.Tallied.trigger hs hknown
      · rw [← hids, ← hflows]
        unfold Store.countFlowStart
        rw [List.map_map]
        refine List.map_congr_left fun r _ => ?_
        rw [Function.comp_apply]
        split <;> rfl
  · have heq := Store.eq_of_logFiring h
    exact ⟨hs.congr (by rw [heq]) (by rw [heq]), by rw [heq]; exact hids⟩

end

/-! ## 4. Runs -/

/-- Whatever a run stores for the first time was never triggered (`Operation.Introduces`). -/
def World.Introduces (w : World) : Run → Prop
  | [] => True
  | (env, op) :: rest => op.Introduces w.store (w.perform env op).store ∧
      (w.perform env op).Introduces rest

theorem World.introduces_concat {w : World} {run : Run} {env : Environment} {op : Operation} :
    w.Introduces (run ++ [(env, op)]) ↔ w.Introduces run ∧
      op.Introduces (w.after run).store ((w.after run).perform env op).store := by
  induction run generalizing w with
  | nil => exact ⟨fun h => ⟨trivial, h.1⟩, fun h => ⟨h.2, trivial⟩⟩
  | cons step rest ih =>
    change _ ∧ World.Introduces _ (rest ++ _) ↔ _
    rw [ih, ← and_assoc]
    rfl

theorem World.tallied_after {run : Run} (introduces : (World.start {}).Introduces run) :
    ((World.start {}).after run).store.RulesTallied ∧ ((∀ step ∈ run, step.1.Faultless) →
      ((World.start {}).after run).store.FlowsTallied) := by
  induction run using List.reverseRecOn with
  | nil => exact ⟨Store.tallied_nil, fun _ => Store.tallied_nil⟩
  | append_singleton run step ih =>
    obtain ⟨env, op⟩ := step
    obtain ⟨earlier, now⟩ := introduces_concat.mp introduces
    obtain ⟨hrules, hflows⟩ := ih earlier
    have hearlier (h : ∀ step ∈ run ++ [(env, op)], step.1.Faultless) :
        env.Faultless ∧ ((World.start {}).after run).store.FlowsTallied :=
      ⟨h (env, op) (by simp), hflows fun step hstep => h step (List.mem_append_left _ hstep)⟩
    rw [after_concat]
    by_cases hop : op.Configures
    · obtain ⟨hrules', hflows'⟩ := op.tallied_configure hop now
      exact ⟨hrules' hrules, fun h => hflows' (hearlier h).2⟩
    · refine ⟨op.having_perform Likeness.rules_hears hop hrules, fun h => ?_⟩
      obtain ⟨faultless, hflows⟩ := hearlier h
      have hkeyed := World.keyed_after (w := .start {}) rfl (Store.keyed_of_nil rfl) run
      exact (op.having_perform (Likeness.flows_hears faultless hkeyed) hop ⟨hflows, rfl⟩).1

/-- **Counters agree with history.** Wherever a `run` leads from an empty store in which nothing is
stored for the first time that claims to have been triggered (`Introduces`), the row of a rule says
how often and when last the rule succeeded, as its firings tell (`Store.hits`), whatever calls to
the store fail. While none fails the row of a flow says how often and when last the flow was
started, as the conversations tell (`Store.starts`). -/
theorem statistics_agree {run : Run} (introduces : (World.start {}).Introduces run) {s : Store}
    (led : s = ((World.start {}).after run).store) :
    (∀ r ∈ s.rules, r.statistic.Reports (Store.times s.hits r.id)) ∧
      ((∀ step ∈ run, step.1.Faultless) →
        ∀ f ∈ s.flows, f.statistic.Reports (Store.times s.starts f.id)) := by
  obtain ⟨hrules, hflows⟩ := World.tallied_after introduces
  rw [← led] at hrules hflows
  exact ⟨fun r hr => (hrules.tells _ (List.mem_map_of_mem hr)).reports,
    fun h f hf => ((hflows h).tells _ (List.mem_map_of_mem hf)).reports⟩

/-- A flow that was started once is stored again with other statistics, which `putFlow` does not
take over. -/
theorem statistics_agree_greeting :
    ∃ run s, run = Run.greeting ++ [(.calm (.ofSeconds 5),
        .putFlow { Flow.greeting with triggerCount := 7, lastTriggered := some (.ofSeconds 3) })] ∧
      s = ((World.start {}).after run).store ∧
      s.flows.map Store.FlowRow.statistic =
        [⟨toString (Uuid.ofNat 1), .int 1, some (Instant.ofSeconds 0).stored⟩] ∧
      (∀ r ∈ s.rules, r.statistic.Reports (Store.times s.hits r.id)) ∧
      ∀ f ∈ s.flows, f.statistic.Reports (Store.times s.starts f.id) := by
  have hintroduces : (World.start {}).Introduces (Run.greeting ++ [(.calm (.ofSeconds 5),
      .putFlow { Flow.greeting with triggerCount := 7, lastTriggered := some (.ofSeconds 3) })]) :=
    ⟨fun _ _ => ⟨rfl, rfl⟩, trivial, fun hnew => absurd hnew (by decide +kernel), trivial⟩
  obtain ⟨hrules, hflows⟩ := statistics_agree hintroduces rfl
  refine ⟨_, _, rfl, rfl, by decide +kernel, hrules, hflows fun step hstep => ?_⟩
  simp only [Run.greeting, List.cons_append, List.nil_append, List.mem_cons, List.not_mem_nil,
    or_false] at hstep
  rcases hstep with rfl | rfl | rfl <;> exact fun _ _ => rfl

end Autoresponder
