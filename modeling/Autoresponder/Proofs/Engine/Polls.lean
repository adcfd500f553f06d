import Autoresponder.Proofs.Engine.Commute
import Autoresponder.Proofs.Engine.Retry
import Autoresponder.Proofs.Engine.Route
import Autoresponder.Proofs.Time.Order

/-!
# Polls

Conversations are resumed by whoever looks for those that are due, and several may look at once.
When a conversation has been resumed, or there was nothing to do for it, polls at the same instant
let it alone: it is not due any more, or it has lost its node and resuming it does nothing. They may
still resume other conversations.
-/

namespace Autoresponder

open Step

/-! ## 1. Conversations with nothing to do -/

/-- There is nothing to do for a conversation: it has ended, is not due, or has lost the node on
which it stands. -/
def Store.Idle (s : Store) (now : Instant) (id : Uuid) : Prop :=
  ∀ c, s.state? id = .ok (some c) → c.isActive = true → Window.delayDue c.resumeAt now = true →
    Window.isStale c.lastInbound now = false ∧
      ∃ snapshot f, s.snapshot c.workspace c.account = .ok snapshot ∧
        snapshot.flow? c.flow = some f ∧ f.node? c.node = none

/-- Nothing is written and nothing is handed over. -/
def Conduct.still : Conduct where
  Deed w w' := w'.store = w.store ∧ w'.exchanges = w.exchanges ∧ w.readings ≤ w'.readings
  Sound _ := True
  first := 0
  quiet h := ⟨h.store, h.exchanges, h.readings⟩
  sound _ _ := trivial
  readings h := h.2.2

theorem Conduct.Path.still {w w' : World} (h : Conduct.still.Path w w') :
    w'.store = w.store ∧ w'.exchanges = w.exchanges := by
  induction h with
  | refl => exact ⟨rfl, rfl⟩
  | tail _ h ih => exact ⟨h.1.trans ih.1, h.2.1.trans ih.2⟩

section

variable {env : Environment} {before : Store} {id : Uuid} {now : Instant}

theorem Calls.still_state? :
    (stored (Calls.state? id)).Follows .still env (fun s => s = before)
      (fun found s => (∀ c, found = some c → before.state? id = .ok (some c)) ∧ s = before)
      (fun _ _ => True) := by
  refine .mapError _ (.call (fun w _ _ hbefore found written hrun => ?_)
    (fun found s h hbefore => ?_) fun _ _ _ => trivial)
  · cases hfound : w.store.state? id with
    | error e => simp [hfound, Except.map] at hrun
    | ok found' =>
      simp only [hfound, Except.map, Except.ok.injEq, Prod.mk.injEq] at hrun
      obtain ⟨rfl, rfl⟩ := hrun
      refine ⟨⟨rfl, rfl, le_refl _⟩, fun c hc => ?_, hbefore⟩
      rw [← hbefore, hfound, hc]
  · refine ⟨fun c hc => ?_, hbefore⟩
    rw [← Option.some.inj h] at hc
    cases hc

theorem still_resumeStep (idle : before.Idle env.now id) :
    (resumeStep id).Behaves .still env fun s => s = before := by
  unfold resumeStep
  refine Follows.bind Calls.still_state? fun found => .of_pre fun hfound => ?_
  split
  · exact Behaves.pure
  · rename_i c
    split
    · exact Behaves.pure
    · rename_i active
      refine Follows.bind_now ?_
      split
      · exact Behaves.pure
      · rename_i due
        -- The conversation is due, so it has lost its node.
        obtain ⟨fresh, snapshot, f, hsnapshot, hflow, hnode⟩ :=
          idle c (hfound c rfl) (by simpa using active) (by simpa using due)
        refine Follows.bind (Q := fun stale s => stale = false ∧ s = before) (E := fun _ _ => True) ?_
          fun stale => .of_pre ?_
        · unfold Conversation.expireIfStale
          refine .bind_now ?_
          rw [fresh]
          exact .pure fun s hs => ⟨rfl, hs⟩
        rintro rfl
        refine Follows.bind (Q := fun place s => place = none ∧ s = before) (E := fun _ _ => True) ?_
          fun place => .of_pre ?_
        · unfold Conversation.waitingNode
          refine .bind Calls.follows_snapshot fun sn => .of_pre fun loaded => ?_
          cases hsnapshot.symm.trans loaded
          rw [hflow]
          exact .pure fun s hs => ⟨by rw [hnode]; rfl, hs⟩
        rintro rfl
        exact Behaves.pure

/-- Whatever fails, `resume` does nothing for a conversation that is `Idle`. -/
theorem still_resume {w : World} (shows : env.Shows now) (idle : w.store.Idle now id) :
    (resume id env w).2.store = w.store ∧ (resume id env w).2.exchanges = w.exchanges := by
  have hsnd := Calls.snd_state? id env w
  unfold resume forState
  rw [Act.run_bind]
  unfold attempt
  rcases hrun : stored (Calls.state? id) env w with ⟨e | _ | c, w₁⟩ <;> rw [hrun] at hsnd <;>
    obtain rfl := hsnd
  · exact ⟨rfl, rfl⟩
  · exact ⟨rfl, rfl⟩
  · -- What the clock shows now is the time at which there is nothing to do.
    have hidle : w.store.Idle (env.asOf (w.counting .getState)).now id := by
      rw [Environment.asOf, Environment.atTime, shows]
      exact idle
    have told : (env.asOf (w.counting .getState)).Told 0 (w.counting .getState).reading
        (env.asOf (w.counting .getState)).now :=
      ⟨w.readings, Nat.zero_le _, Nat.lt_succ_self _, rfl⟩
    exact (still_resumeStep hidle (w.counting .getState).reading told trivial rfl).1.still

end

/-! ## 2. Conversations that are let alone -/

namespace Store

def rowsOf (s : Store) (id : Uuid) : List StateRow := s.states.filter (·.id == toString id)

/-- The store `s` may become `s'` without anything happening to a conversation: only other
conversations have changed. -/
structure Spares (id : Uuid) (s s' : Store) : Prop where
  rows : s'.rowsOf id = s.rowsOf id
  rest : s' = { s with states := s'.states }

-- What is found under an identifier has it.
theorem id_of_state? {s : Store} {id : Uuid} {c : Conversation} (h : s.state? id = .ok (some c)) :
    c.id = id := by
  obtain ⟨r, -, hid, hread⟩ := exists_of_readFirst h
  have hread' := (StateRow.readUuid_of_read hread).1
  rw [beq_iff_eq.mp hid, readUuid_toString] at hread'
  exact (Except.ok.inj hread').symm

namespace Spares

variable {id : Uuid} {s s' : Store}

theorem refl (s : Store) : s.Spares id s := ⟨rfl, rfl⟩

theorem trans {s'' : Store} (h : s.Spares id s') (h' : s'.Spares id s'') : s.Spares id s'' :=
  ⟨h'.rows.trans h.rows, by rw [h'.rest, h.rest]⟩

-- Writing another conversation does nothing to it.
theorem set (h : s.Spares id s') {c : Conversation} (hc : c.id ≠ id) : s.Spares id (s'.set c) where
  rows := by
    rw [← h.rows]
    unfold rowsOf Store.set
    refine filter_map_of_fixes (fun r => ?_) fun r _ hr => ?_
    · split <;> rfl
    · rw [if_neg]
      rw [beq_iff_eq] at hr ⊢
      rw [hr, Uuid.toString_inj]
      exact hc.symm
  rest := by
    rw [h.rest]
    rfl

theorem state? (h : s.Spares id s') : s'.state? id = s.state? id := by
  have hrows := congrArg List.head? h.rows
  unfold rowsOf at hrows
  rw [List.head?_filter, List.head?_filter] at hrows
  rw [Store.state?, hrows, Store.state?]

theorem snapshot (h : s.Spares id s') (workspace account : String) :
    s'.snapshot workspace account = s.snapshot workspace account := by
  rw [h.rest]
  rfl

theorem idle (h : s.Spares id s') {now : Instant} (idle : s.Idle now id) : s'.Idle now id := by
  unfold Idle
  simp only [h.state?, h.snapshot]
  exact idle

end Spares

end Store

/-- Worlds are like themselves as long as a conversation is let alone. -/
def Likeness.sparing (id : Uuid) (s : Store) : Likeness :=
  { Likeness.having (s.Spares id) fun _ => True with Copy := fun c => c.id ≠ id }

section

variable {env : Environment} {id other : Uuid} {s : Store}

theorem Likeness.sparing_carries : (Likeness.sparing id s).Carries env where
  reads := by
    have hreads : (Likeness.having (s.Spares id) fun _ => True).Reads env :=
      Likeness.having_reads
    exact hreads
  snapshot c _ := by
    have hsnapshot : (Snapshot.plain <$> Calls.snapshot c.workspace c.account).Respects
        (.having (s.Spares id) fun _ => True) env
        (Likeness.having (s.Spares id) fun _ => True).Offers :=
      .snapshot_having (fun _ _ _ _ _ _ => trivial) _ _
    exact hsnapshot.imp fun _ h => ⟨h.flows, h.rules⟩
  change c ch hc := by
    have hchange : (c.change ch).Respects (.having (s.Spares id) fun _ => True) env
        fun d => d.id = c.id :=
      Conversation.respects_change_having fun s' now hs => hs.set (by rwa [Conversation.id_after])
    exact hchange.imp fun d hd => (hd.trans_ne hc : d.id ≠ id)
  send c m _ := by
    have hsend : (send (c.intent m)).Respects (.having (s.Spares id) fun _ => True) env
        fun _ => True := .send_having _
    exact hsend

theorem Likeness.sparing_knows (hother : other ≠ id) : (Likeness.sparing id s).Knows env other := by
  have hknows : (Calls.state? other).Respects (.having (s.Spares id) fun _ => True) env
      fun found => ∀ c, found = some c → c.id ≠ id := by
    refine .call_having (fun s' found written hs hrun => ?_) fun found hfound c hc => ?_
    · cases hstate : s'.state? other with
      | error e => simp [hstate, Except.map] at hrun
      | ok found' =>
        simp only [hstate, Except.map, Except.ok.injEq, Prod.mk.injEq] at hrun
        obtain ⟨rfl, rfl⟩ := hrun
        refine ⟨nofun, fun c hc => ?_⟩
        rw [hc] at hstate
        exact (Store.id_of_state? hstate).trans_ne hother
    · rw [← Option.some.inj hfound] at hc
      cases hc
  exact hknows

/-- Whatever fails, `resume` of a conversation `Spares` any other one. -/
theorem spares_resume {w : World} (hother : other ≠ id) :
    w.store.Spares id (resume other env w).2.store := by
  have hsuits : (Likeness.sparing id w.store).Suits env (.resume other) :=
    ⟨Likeness.sparing_carries, Likeness.sparing_knows hother⟩
  exact (Occasion.alike_act hsuits ⟨rfl, .refl _⟩).2.2

end

/-! ## 3. What resuming leaves behind -/

/-- Every delay of a flow takes a second at least, and would end before the year 10000. -/
def Flow.Paced (f : Flow) (now : Instant) : Prop :=
  ∀ n ∈ f.nodes, ∀ seconds, n.kind = .delay seconds →
    1 ≤ seconds.toNat ∧
      ∃ t, now.add? (Span.ofSeconds seconds.toNat) = some t ∧ t.FourDigitYear

/-- The flow of a conversation, as its account would walk it, is `Flow.Paced`. -/
def Store.Paced (s : Store) (now : Instant) (id : Uuid) : Prop :=
  ∀ c snapshot f, s.state? id = .ok (some c) → s.snapshot c.workspace c.account = .ok snapshot →
    snapshot.flow? c.flow = some f → f.Paced now

namespace Flow

variable {f : Flow} {n : Node} {now : Instant} {stop : Stop} {ch : Conversation.Change}

theorem mem_nodes_of_mem_route {budget : Nat} {id : String} (h : n ∈ f.route budget id) :
    n ∈ f.nodes := by
  induction budget generalizing id with
  | zero => cases h
  | succ budget ih =>
    unfold route at h
    split at h
    · cases h
    · rename_i m hm
      have hmem : m ∈ f.nodes := List.mem_of_find?_eq_some hm
      split at h
      · split at h
        · rcases List.mem_cons.mp h with rfl | h
          · exact hmem
          · exact ih h
        · exact List.mem_singleton.mp h ▸ hmem
      · exact List.mem_singleton.mp h ▸ hmem

-- Behind the node where a pass stops nothing is due at the same instant.
theorem not_due_of_halt? (paced : f.Paced now) (hn : n ∈ f.nodes)
    (halts : f.halt? now n = some (stop, ch)) {c : Conversation} (hc : c.resumeAt = none) :
    Window.delayDue (c.after ch now).resumeAt now = false := by
  rcases change_of_halt? halts with ⟨node, rfl⟩ | rfl | rfl | ⟨seconds, t, hkind, ht, rfl⟩
  · rfl
  · change Window.delayDue c.resumeAt now = false
    rw [hc]
    rfl
  · rfl
  · change decide (t ≤ now) = false
    rw [decide_eq_false_iff_not, Instant.le_iff, not_not]
    exact Instant.lt_of_add? (paced n hn seconds hkind).1 ht

end Flow

namespace Store

variable {s : Store} {now : Instant} {id : Uuid} {c : Conversation}

theorem idle_of_state? (hstate : s.state? id = .ok (some c))
    (rests : c.isActive = true → Window.delayDue c.resumeAt now = false) : s.Idle now id := by
  intro d hd active due
  cases hstate.symm.trans hd
  rw [rests active] at due
  cases due

-- There is nothing to do for a conversation that has been ended.
theorem idle_closed (hs : s.Consistent) (held : s.Holds c) (active : c.isActive = true) :
    (s.set (c.after .complete now)).Idle now c.id := by
  have hsame := c.same_after .complete now
  exact idle_of_state? ((held.set hsame).state? (hs.set held active hsame)) nofun

/-- Where a conversation is not `Idle` it is due, and it is stale, its account cannot be loaded, its
flow is gone, or it is `Resumable`. -/
theorem due_of_not_idle (h : ¬ s.Idle now id) :
    ∃ c, s.state? id = .ok (some c) ∧ c.isActive = true ∧
      Window.delayDue c.resumeAt now = true ∧ (Window.isStale c.lastInbound now = true ∨
        Window.isStale c.lastInbound now = false ∧
          ((∃ e, s.snapshot c.workspace c.account = .error e) ∨
            (∃ snapshot, s.snapshot c.workspace c.account = .ok snapshot ∧
              snapshot.flow? c.flow = none) ∨ ∃ f n, Resumable now s c f n)) := by
  unfold Idle at h
  push Not at h
  obtain ⟨c, hstate, active, due, h⟩ := h
  refine ⟨c, hstate, active, due, ?_⟩
  cases fresh : Window.isStale c.lastInbound now with
  | true => exact .inl rfl
  | false =>
    refine .inr ⟨rfl, ?_⟩
    cases hsnapshot : s.snapshot c.workspace c.account with
    | error e => exact .inl ⟨e, rfl⟩
    | ok snapshot =>
      cases hflow : snapshot.flow? c.flow with
      | none => exact .inr (.inl ⟨snapshot, rfl, hflow⟩)
      | some f =>
        obtain ⟨n, hn⟩ := Option.ne_none_iff_exists'.mp (h fresh snapshot f hsnapshot hflow)
        exact .inr (.inr ⟨f, n, ⟨active, fresh, ⟨snapshot, hsnapshot, hflow⟩, hn⟩, due⟩)

end Store

section

variable {env : Environment} {w : World} {id : Uuid} {c : Conversation} {f : Flow}

-- A pass that has arrived leaves nothing to do for its conversation.
theorem Flow.idle_callbackPass {back : Option Return} {o : Outcome} (smooth : env.Smooth)
    (year : env.now.FourDigitYear) (hs : w.store.Consistent) (held : w.store.Holds c)
    (active : c.isActive = true) (hkept : c.kept = c) (hflow : c.flow = f.id)
    (valid : f.problem? = none) (hasNode : f.hasNode c.node = true) (resume : c.resumeAt = none)
    (fresh : Window.isStale c.lastInbound env.now = false) (paced : f.Paced env.now)
    (h : (f.callbackPass c back env w).1 = .ok o) :
    (f.callbackPass c back env w).2.store.Idle env.now c.id := by
  obtain ⟨last, pass, hpass, -, hworld⟩ := runPass_of_callbackPass h
  have hshown : ∀ now, env.Upcoming w (max 1 env.policy.maxNodes) now → now = env.now := by
    rintro now ⟨n, -, -, rfl⟩
    exact smooth.still n
  have hends : ∀ n ∈ f.route (max 1 env.policy.maxNodes) c.node, ∀ seconds,
      n.kind = .delay seconds → ∀ now, env.Upcoming w (max 1 env.policy.maxNodes) now →
        ∃ t, now.add? (Span.ofSeconds seconds.toNat) = some t ∧ t.FourDigitYear := by
    intro n hn seconds hkind now hnow
    rw [hshown now hnow]
    exact (paced n (mem_nodes_of_mem_route hn) seconds hkind).2
  have opens : Window.isOpen c.lastInbound env.now = true := by simpa [Window.isStale] using fresh
  have htreads : f.Treads env w c ⟨0, 0, .completed⟩ (f.route (max 1 env.policy.maxNodes) c.node)
      (f.runPass c env w) :=
    treads_passWithin smooth.faultless valid (max 1 env.policy.maxNodes) ⟨0, 0, .completed⟩
      (Nat.lt_of_lt_of_le Nat.one_pos (Nat.le_max_left _ _)) hs held active hflow hasNode resume
      (fun now hnow => hshown now hnow ▸ opens) fun n hn seconds hkind now hnow =>
        (hends n hn seconds hkind now hnow).imp fun _ h => h.1
  have hstate := htreads.state? hs held active hkept (fun now hnow => hshown now hnow ▸ year) hends
  rw [hpass] at hstate
  rw [hworld]
  refine Store.idle_of_state? hstate fun _ => ?_
  cases htreads with
  | through before n stop ch last' done hroute halts changed delivered result =>
    have hreached : c.reached env w before = env.now := smooth.still _
    rw [hreached] at halts changed
    rw [hpass] at result
    cases result
    have hn : n ∈ f.route (max 1 env.policy.maxNodes) c.node := by rw [hroute]; simp
    exact changed ▸ not_due_of_halt? paced (mem_nodes_of_mem_route hn) halts rfl
  | refused before after n m e left done route tells delivered refusal unmoved moved result =>
    rw [hpass] at result
    cases result

-- Neither has a callback that goes through.
theorem idle_resumeStep {n : Node} {o : Outcome} (smooth : env.Smooth)
    (year : env.now.FourDigitYear) (hs : w.store.Consistent)
    (hstate : w.store.state? id = .ok (some c)) (h : Resumable env.now w.store c f n)
    (paced : w.store.Paced env.now id) (hrun : (resumeStep id env w).1 = .ok o) :
    (resumeStep id env w).2.store.Idle env.now id := by
  obtain ⟨rfl, hkept, hholds⟩ := hs.holds_of_state? hstate
  have held := hholds h.active
  obtain ⟨snapshot, hsnapshot, hflow⟩ := h.found
  have valid : f.problem? = none :=
    ((Store.mem_flows_of_snapshot hsnapshot).mp (List.mem_of_find?_eq_some hflow)).2.2
  cases hback : f.resumption? c n with
  | none =>
    obtain ⟨-, hstore, -⟩ :=
      leads_resumeStep_end w.exchanges smooth hs held hstate h hback w rfl rfl
    rw [hstore]
    exact Store.idle_closed hs held h.active
  | some resumption =>
    obtain ⟨ch, back⟩ := resumption
    obtain ⟨w₁, hstore, -, -, hcomes⟩ :=
      comesTo_callbackPass _ smooth hs held hstate h hback w rfl rfl
    rw [hcomes] at hrun ⊢
    have hmoved : (c.after ch env.now).Moved c := moved_resumption hback
    have hsame : (c.after ch env.now).Same c := c.same_after ch env.now
    -- The pass begins on a node of the flow, with no time at which to be resumed.
    obtain ⟨hyears, hresume, hnode⟩ : ch.InYears ∧ (c.after ch env.now).resumeAt = none ∧
        f.hasNode (c.after ch env.now).node = true := by
      unfold Flow.resumption? at hback
      split at hback
      · obtain ⟨next, hnext, heq⟩ := Option.map_eq_some_iff.mp hback
        cases heq
        exact ⟨trivial, rfl, (Flow.joins_of_next? hnext).hasNode valid⟩
      · cases hback
        refine ⟨trivial, rfl, List.any_eq_true.mpr ⟨n, List.mem_of_find?_eq_some h.node, ?_⟩⟩
        exact beq_iff_eq.mpr (Flow.node?_id h.node)
    have hinbound : (c.after ch env.now).lastInbound = c.lastInbound :=
      (congrArg Conversation.lastInbound hmoved :)
    rw [← hsame.id]
    exact Flow.idle_callbackPass smooth year (hstore ▸ hs.set held h.active hsame)
      (hstore ▸ held.set hsame) ((congrArg Conversation.isActive hmoved :).trans h.active)
      (Conversation.kept_after hkept hyears year) (hsame.flow.trans h.flow) valid hnode hresume
      (hinbound ▸ h.fresh) (paced c snapshot f hstate hsnapshot hflow) hrun

end

/-- A callback has gone on with a conversation, or has found nothing to do. -/
def Outcome.Settled (o : Outcome) : Prop := o.advanced = true ∨ ∃ reason, o = .ignored reason

theorem Outcome.settled_ofExcept {r : Except AutomationError Outcome}
    (h : (Outcome.ofExcept r).Settled) : ∃ o, r = .ok o := by
  cases r with
  | ok o => exact ⟨o, rfl⟩
  | error e =>
    rcases h with h | ⟨reason, h⟩
    · cases e <;> cases h
    · cases e <;> cases h

section

variable {env : Environment} {w : World} {id : Uuid}

/-- A callback that has gone on with a conversation, or has found nothing to do (`Outcome.Settled`),
leaves it `Idle`. -/
theorem idle_resume (smooth : env.Smooth) (year : env.now.FourDigitYear)
    (hs : w.store.Consistent) (paced : w.store.Paced env.now id)
    (settled : (resume id env w).1.Settled) : (resume id env w).2.store.Idle env.now id := by
  by_cases idle : w.store.Idle env.now id
  · rw [(still_resume smooth.still idle).1]
    exact idle
  obtain ⟨c, hstate, active, due, hdue⟩ := Store.due_of_not_idle idle
  obtain ⟨hid, -, hholds⟩ := hs.holds_of_state? hstate
  have held := hholds active
  have hrun {r : Except AutomationError Outcome} {s' : Store} {es' : List Exchange}
      (h : Step.Leads env w.store w.exchanges _ r s' es') :=
    leads_forState smooth hstate ((comesTo_due smooth hstate active due).leads h) w rfl rfl
  rcases hdue with stale | ⟨fresh, ⟨e, hsnapshot⟩ | ⟨snapshot, hsnapshot, hflow⟩ | ⟨f, n, h⟩⟩
  · obtain ⟨-, hstore, -⟩ := hrun (.bind
      (Conversation.leads_expireIfStale smooth.faultless hs held active stale) (.pure _))
    rw [resume, hstore, ← hid]
    exact Store.idle_closed hs held active
  · -- An account that cannot be loaded is an error.
    obtain ⟨houtcome, -⟩ := hrun (.bind (Conversation.leads_expireIfStale_fresh fresh)
      (.bind_error (.bind_error
        (.stored_error (Calls.leads_snapshot smooth.faultless _ _) hsnapshot))))
    rw [resume, houtcome] at settled
    obtain ⟨o, ho⟩ := Outcome.settled_ofExcept settled
    cases ho
  · obtain ⟨-, hstore, -⟩ := hrun (.bind (Conversation.leads_expireIfStale_fresh fresh)
      (.bind (Conversation.leads_waitingNode_lost _ smooth hs held active hsnapshot hflow _)
        (.pure _)))
    rw [resume, hstore, ← hid]
    exact Store.idle_closed hs held active
  · obtain ⟨w', hstore, hexchanges, hforState⟩ := run_forState smooth hstate (resumeStep id)
    rw [resume, hforState] at settled ⊢
    obtain ⟨o, ho⟩ := Outcome.settled_ofExcept settled
    rw [← hstore] at hs hstate h paced
    exact idle_resumeStep smooth year hs hstate h paced ho

end

/-! ## 4. Polls -/

/-- A conversation is resumed, or all that are due. -/
def Operation.Polls : Operation → Prop
  | .resume _ => True
  | .tick => True
  | _ => False

def Run.Polls (run : Run) (now : Instant) : Prop :=
  ∀ step ∈ run, step.1.Shows now ∧ step.2.Polls

/-- Nothing is done for a conversation: nothing is written or handed over at all, or an `other`
conversation is resumed. -/
inductive World.Elsewhere (id : Uuid) (env : Environment) (w : World) : World → Prop where
  | nothing {w' : World} (store : w'.store = w.store) (exchanges : w'.exchanges = w.exchanges) :
      Elsewhere id env w w'
  | resumes (other : Uuid) (apart : other ≠ id) : Elsewhere id env w (resume other env w).2

section

variable {id : Uuid} {env : Environment} {now : Instant} {w w' : World}

namespace World

theorem Elsewhere.spares (h : w.Elsewhere id env w') : w.store.Spares id w'.store := by
  cases h with
  | nothing store _ => exact store ▸ .refl _
  | resumes other apart => exact spares_resume apart

theorem spares_of_elsewhere (h : Relation.ReflTransGen (Elsewhere id env) w w') :
    w.store.Spares id w'.store := by
  induction h with
  | refl => exact .refl _
  | tail _ h ih => exact ih.trans h.spares

-- Where there is nothing to do for a conversation, it may be resumed as well as any other one.
theorem elsewhere_resume (shows : env.Shows now) (idle : w.store.Idle now id) (called : Uuid) :
    w.Elsewhere id env (resume called env w).2 := by
  by_cases hcalled : called = id
  · subst hcalled
    obtain ⟨hstore, hexchanges⟩ := still_resume shows idle
    exact .nothing hstore hexchanges
  · exact .resumes called hcalled

theorem elsewhere_resumeAll (shows : env.Shows now) (idle : w.store.Idle now id)
    (cs : List Conversation) :
    Relation.ReflTransGen (Elsewhere id env) w (resumeAll cs env w).2 := by
  induction cs generalizing w with
  | nil => exact .refl
  | cons c rest ih =>
    have hfirst := elsewhere_resume shows idle c.id
    rw [run_resumeAll_cons]
    exact .head hfirst (ih (hfirst.spares.idle idle))

theorem elsewhere_perform (shows : env.Shows now) (idle : w.store.Idle now id) {op : Operation}
    (polls : op.Polls) :
    Relation.ReflTransGen (Elsewhere id env) w (w.perform env op) := by
  cases op with
  | resume called => exact .single (elsewhere_resume shows idle called)
  | tick =>
    have hasked : w.Elsewhere id env (w.reading.counting .dueStates) := .nothing rfl rfl
    change Relation.ReflTransGen _ w (tick env w).2
    rw [tick_eq]
    exact .head hasked (elsewhere_resumeAll (w := w.reading.counting .dueStates) shows idle _)
  | _ => exact polls.elim

-- Polls one after the other let a conversation alone for which there is nothing to do. What each of
-- them keeps is that there is nothing to do.
theorem spares_after (idle : w.store.Idle now id) {polls : Run}
    (hpolls : polls.Polls now) : w.store.Spares id (w.after polls).store := by
  induction polls generalizing w with
  | nil => exact .refl _
  | cons step rest ih =>
    obtain ⟨shows, hop⟩ := hpolls step List.mem_cons_self
    have hfirst := spares_of_elsewhere (elsewhere_perform shows idle hop)
    exact hfirst.trans (ih (hfirst.idle idle) fun later h => hpolls later (List.mem_cons_of_mem _ h))

end World

end

/-- What `polls` at the instant `now` have done to a conversation by the time that some of them were
made, and what one more of them does. Its row is as it was. Whatever is written and handed over is
written and handed over by resuming other conversations (`Elsewhere`), and resuming this one does
nothing. -/
structure World.LeftAlone (id : Uuid) (now : Instant) (w : World) (polls : Run) : Prop where
  row : (w.after polls).store.rowsOf id = w.store.rowsOf id
  next : ∀ (env : Environment) op, env.Shows now → op.Polls →
    Relation.ReflTransGen (World.Elsewhere id env) (w.after polls) ((w.after polls).perform env op)
  resumed : ∀ env : Environment, env.Shows now →
    (resume id env (w.after polls)).2.store = (w.after polls).store ∧
      (resume id env (w.after polls)).2.exchanges = (w.after polls).exchanges

/-- **Pollers that overlap do no harm.** Let a run begin without conversations, and let the delays
of the flow of a conversation take a second at least and end before the year 10000 (`Paced`). Where
no call to the store fails and `resume` goes on with the conversation or finds nothing to do
(`settled`), `polls` at the same instant let it alone from then on, however many there are and of
whatever conversations, whatever fails for them and whatever their senders do. -/
theorem World.leftAlone_of_polls {w : World} (h : w.store.states = []) {run : Run}
    {env : Environment} {id : Uuid} (smooth : env.Smooth) (year : env.now.FourDigitYear)
    (paced : (w.after run).store.Paced env.now id)
    (settled : (resume id env (w.after run)).1.Settled) {polls : Run}
    (hpolls : polls.Polls env.now) :
    World.LeftAlone id env.now (resume id env (w.after run)).2 polls := by
  have idle := idle_resume smooth year (traced_after h run).consistent paced settled
  have spares := spares_after idle hpolls
  exact ⟨spares.rows, fun env' op shows hop => elsewhere_perform shows (spares.idle idle) hop,
    fun env' shows => still_resume shows (spares.idle idle)⟩

/-- A minute after `Run.bothGreeted` two persons are to be asked again. One is, and pollers that
come too late ask the other one only. -/
theorem leftAlone_of_polls_greetings :
    ∃ w polls, w = (World.start {}).after .bothGreeted ∧
      polls = [(.calm (.ofSeconds 60), .resume (.ofNat 0)),
        ({ Environment.calm (.ofSeconds 60) with sender := .hesitant 9 }, .tick)] ∧
      (resume (.ofNat 0) (.calm (.ofSeconds 60)) w).1 =
        .flowAdvanced (.ofNat 1) (.ofNat 0) ⟨1, 1, .completed⟩ ∧
      World.LeftAlone (.ofNat 0) (.ofSeconds 60)
        (resume (.ofNat 0) (.calm (.ofSeconds 60)) w).2 polls := by
  have hadvanced : (resume (.ofNat 0) (.calm (.ofSeconds 60))
      ((World.start {}).after .bothGreeted)).1 =
        .flowAdvanced (.ofNat 1) (.ofNat 0) ⟨1, 1, .completed⟩ := by decide +kernel
  have hdelays : ∀ r ∈ ((World.start {}).after .bothGreeted).store.flows,
      ∀ f ∈ r.read.toOption, ∀ n ∈ f.nodes, n.kind.isDelay = true → n.kind = .delay 60 := by
    decide +kernel
  have paced : ((World.start {}).after .bothGreeted).store.Paced (.ofSeconds 60) (.ofNat 0) := by
    intro c snapshot f _ hsnapshot hflow n hn seconds hkind
    obtain ⟨⟨r, hr, -, hread⟩, -⟩ :=
      (Store.mem_flows_of_snapshot hsnapshot).mp (List.mem_of_find?_eq_some hflow)
    have hdelay := hdelays r hr f (by rw [hread]; rfl) n hn (by rw [hkind]; rfl)
    rw [hkind] at hdelay
    cases hdelay
    exact ⟨by decide, .ofSeconds 120, by decide +kernel, by decide +kernel⟩
  have smooth : (Environment.calm (.ofSeconds 60)).Smooth := ⟨fun _ _ => rfl, fun _ => rfl⟩
  refine ⟨_, _, rfl, rfl, hadvanced, World.leftAlone_of_polls rfl smooth (by decide +kernel)
    paced (.inl (by rw [hadvanced]; rfl)) fun step hstep => ?_⟩
  rcases List.mem_cons.mp hstep with rfl | hstep
  · exact ⟨fun _ => rfl, trivial⟩
  · obtain rfl := List.mem_singleton.mp hstep
    exact ⟨fun _ => rfl, trivial⟩

end Autoresponder
