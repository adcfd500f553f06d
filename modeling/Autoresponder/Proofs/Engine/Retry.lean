import Autoresponder.Proofs.Engine.Again
import Autoresponder.Proofs.Engine.Run

/-!
# Callbacks that are repeated

When a delivery fails, the callback is repeated until it goes through. However often and wherever
the sender refuses, the person gets each message once, in the order of a run in which nothing is
refused, and the conversation ends up where it does in that run.
-/

namespace Autoresponder

open Step

/-! ## 1. Passes of callbacks -/

namespace Flow

/-- How a conversation is kept whose delivery failed. -/
def retry (c : Conversation) (entry : String) (back : Option Return) (now : Instant) :
    Conversation.Change :=
  match back with
  | some r => if c.node == entry then .rewind r.node r.resumeAt else .scheduleResume now
  | none => .scheduleResume now

section

variable {env : Environment} {s : Store} {es : List Exchange} {f : Flow} {c last : Conversation}
  {k : Nat} {ms : List Message} {stop : Stop} {back : Option Return}

theorem leads_keep (smooth : env.Smooth) (hs : s.Consistent) (held : s.Holds c)
    (active : c.isActive = true) (entry : String) :
    (keep c entry back).Leads env s es (.ok ())
      (s.set (c.after (retry c entry back env.now) env.now)) es := by
  simp only [keep, active, if_true]
  refine .bind .now ?_
  exact .bind (Conversation.leads_change smooth.faultless hs held active (retry c entry back env.now))
    (.pure _)

-- A pass that arrives is reported.
theorem leads_callbackPass_arrived {pass : Pass} {s' : Store} {es' : List Exchange}
    (hleads : (f.runPass c).Leads env s es (last, .ok pass) s' es') :
    (f.callbackPass c back).Leads env s es (.ok (.flowAdvanced f.id c.id pass)) s' es' :=
  .bind (.ofAct hleads) (.pure _)

-- After a refusal the conversation is kept for another attempt.
theorem leads_callbackPass_refused (back : Option Return) (smooth : env.Smooth)
    {e : DeliveryError} {s' : Store} {es' : List Exchange}
    (hleads : (f.runPass c).Leads env s es (last, .error (.delivery e)) s' es')
    (hs : s'.Consistent) (held : s'.Holds last) (active : last.isActive = true) :
    (f.callbackPass c back).Leads env s es (.error (.delivery e))
      (s'.set (last.after (retry last c.node back env.now) env.now)) es' :=
  .bind (.ofAct hleads) (.bind (leads_keep smooth hs held active c.node) (.throw _))

-- A callback that goes through has made a pass that arrived, and nothing else.
theorem runPass_of_callbackPass {w : World} {o : Outcome}
    (h : (f.callbackPass c back env w).1 = .ok o) :
    ∃ last pass, (f.runPass c env w).1 = (last, .ok pass) ∧ o = .flowAdvanced f.id c.id pass ∧
      (f.callbackPass c back env w).2 = (f.runPass c env w).2 := by
  rw [callbackPass, run_ofAct_bind] at h ⊢
  rcases hrun : (f.runPass c env w).1 with ⟨last, outcome⟩
  rw [hrun] at h
  cases outcome with
  | ok pass =>
    cases h
    exact ⟨last, pass, rfl, rfl, rfl⟩
  | error e =>
    cases e with
    | delivery e =>
      -- Whether the conversation could be kept or not, the callback fails.
      dsimp only at h
      rw [run_bind] at h
      split at h <;> cases h
    | _ => cases h

end

end Flow

/-! ## 2. Callbacks for delays -/

/-- What lets a conversation be called back: it is active and not stale, and it stands on a node of
a flow that its account can walk. -/
structure Present (now : Instant) (s : Store) (c : Conversation) (f : Flow) (n : Node) :
    Prop where
  active : c.isActive = true
  fresh : Window.isStale c.lastInbound now = false
  found : ∃ snapshot, s.snapshot c.workspace c.account = .ok snapshot ∧
    snapshot.flow? c.flow = some f
  node : f.node? c.node = some n

/-- What lets a conversation that is `Present` be resumed: it is due as well. -/
structure Resumable (now : Instant) (s : Store) (c : Conversation) (f : Flow) (n : Node) : Prop
    extends Present now s c f n where
  due : Window.delayDue c.resumeAt now = true

/-- How a conversation is brought to where the pass of a callback begins, and how it gets back from
there. After a delay without a next node there is no pass. -/
def Flow.resumption? (f : Flow) (c : Conversation) (n : Node) :
    Option (Conversation.Change × Option Return) :=
  if n.kind.isDelay then
    (f.next? n.id).map fun next => (.advance next, some ⟨n.id, c.resumeAt⟩)
  else some (.clearResume, none)

section

variable {env : Environment} {s : Store} {es : List Exchange} {id : Uuid} {c : Conversation}
  {f : Flow} {n : Node}

theorem Conversation.leads_waitingNode (smooth : env.Smooth) {snapshot : Snapshot}
    (hsnapshot : s.snapshot c.workspace c.account = .ok snapshot)
    (hflow : snapshot.flow? c.flow = some f) (wanted : NodeKind → Bool) :
    (c.waitingNode wanted).Leads env s es
      (.ok (((f.node? c.node).filter fun n => wanted n.kind).map fun n => (f, n))) s es := by
  unfold waitingNode
  refine .bind (.stored (Calls.leads_snapshot smooth.faultless _ _) hsnapshot) ?_
  rw [hflow]
  exact .pure _

-- Where a conversation is found, and waits if its node is of the wanted kind.
theorem Present.leads_waitingNode {now : Instant} (h : Present now s c f n) (es : List Exchange)
    (smooth : env.Smooth) (wanted : NodeKind → Bool) :
    (c.waitingNode wanted).Leads env s es
      (.ok (if wanted n.kind = true then some (f, n) else none)) s es := by
  obtain ⟨snapshot, hsnapshot, hflow⟩ := h.found
  have hleads := @Conversation.leads_waitingNode env s es c f smooth snapshot hsnapshot hflow
    wanted
  rw [h.node, Option.filter_some] at hleads
  split at hleads
  · rwa [if_pos ‹_›]
  · rwa [if_neg ‹_›]

-- A conversation that has lost its flow is ended.
theorem Conversation.leads_waitingNode_lost (es : List Exchange) (smooth : env.Smooth)
    (hs : s.Consistent) (held : s.Holds c) (active : c.isActive = true) {snapshot : Snapshot}
    (hsnapshot : s.snapshot c.workspace c.account = .ok snapshot)
    (hflow : snapshot.flow? c.flow = none) (wanted : NodeKind → Bool) :
    (c.waitingNode wanted).Leads env s es (.ok none) (s.set (c.after .complete env.now)) es := by
  unfold waitingNode
  refine .bind (.stored (Calls.leads_snapshot smooth.faultless _ _) hsnapshot) ?_
  rw [hflow]
  exact .bind (leads_finish smooth.faultless hs held active) (.pure _)

-- Where a conversation has lost its flow or its node, nothing waits any more.
theorem Conversation.leads_waitingNode_none (es : List Exchange) (smooth : env.Smooth)
    (hs : s.Consistent) (held : s.Holds c) (active : c.isActive = true) {snapshot : Snapshot}
    (hsnapshot : s.snapshot c.workspace c.account = .ok snapshot) {wanted : NodeKind → Bool}
    (hnode : ∀ f n, snapshot.flow? c.flow = some f → f.node? c.node = some n →
      wanted n.kind = false) :
    ∃ s', (c.waitingNode wanted).Leads env s es (.ok none) s' es := by
  cases hflow : snapshot.flow? c.flow with
  | none => exact ⟨_, leads_waitingNode_lost es smooth hs held active hsnapshot hflow wanted⟩
  | some f =>
    have hleads := @leads_waitingNode env s es c f smooth snapshot hsnapshot hflow wanted
    have hnone : ((f.node? c.node).filter fun n => wanted n.kind) = none :=
      Option.filter_eq_none_iff.mpr fun n hn => by simp [hnode f n hflow hn]
    rw [hnone] at hleads
    exact ⟨s, hleads⟩

-- Past a node that is followed by another one, a conversation makes a pass from there.
theorem Flow.comesTo_stepPast (es : List Exchange) (smooth : env.Smooth) (hs : s.Consistent)
    (held : s.Holds c) (active : c.isActive = true) {node next : String}
    (follows : f.next? node = some next) :
    (f.stepPast c node).ComesTo env s es (s.set (c.after (.advance next) env.now)) es
      (f.callbackPass (c.after (.advance next) env.now) (some ⟨node, c.resumeAt⟩)) := by
  unfold Flow.stepPast
  rw [follows]
  exact .bind (Conversation.leads_change smooth.faultless hs held active _) (.refl _)

-- Past the last node it ends.
theorem Flow.leads_stepPast_end (es : List Exchange) (smooth : env.Smooth)
    (hs : s.Consistent) (held : s.Holds c) (active : c.isActive = true) {node : String}
    (last : f.next? node = none) :
    (f.stepPast c node).Leads env s es (.ok (.flowAdvanced f.id c.id ⟨0, 0, .completed⟩))
      (s.set (c.after .complete env.now)) es := by
  unfold Flow.stepPast
  rw [last]
  exact .bind (Conversation.leads_finish smooth.faultless hs held active) (.pure _)

-- A conversation that is due expires if it is stale, and else is looked for where it stands.
theorem comesTo_due (smooth : env.Smooth) (hstate : s.state? id = .ok (some c))
    (active : c.isActive = true) (due : Window.delayDue c.resumeAt env.now = true) :
    (resumeStep id).ComesTo env s es s es (do
      if ← c.expireIfStale then return .ignored "state expired"
      else match ← c.waitingNode fun _ => true with
        | none => return .ignored "state is not waiting on a delay"
        | some (f, n) =>
          if n.kind.isDelay then f.stepPast c n.id
          else do
            let c ← stored (c.change .clearResume)
            f.callbackPass c none) := by
  unfold resumeStep
  refine .bind (.stored (Calls.leads_state? smooth.faultless id) hstate) ?_
  simp only [active, Bool.not_true, Bool.false_eq_true, if_false]
  refine .bind .now ?_
  simp only [due, Bool.not_true, Bool.false_eq_true, if_false]
  exact .refl _

-- A conversation that can be resumed is resumed, past its delay or from where it failed.
theorem comesTo_resumeStep (smooth : env.Smooth) (hstate : s.state? id = .ok (some c))
    (h : Resumable env.now s c f n) :
    (resumeStep id).ComesTo env s es s es
      (if n.kind.isDelay then f.stepPast c n.id
      else do
        let c ← stored (c.change .clearResume)
        f.callbackPass c none) := by
  refine (comesTo_due smooth hstate h.active h.due).trans ?_
  refine .bind (Conversation.leads_expireIfStale_fresh h.fresh) ?_
  simp only [Bool.false_eq_true, if_false]
  exact .bind (h.leads_waitingNode es smooth fun _ => true) (.refl _)

-- It is brought to where the pass begins.
theorem comesTo_callbackPass (es : List Exchange) (smooth : env.Smooth) (hs : s.Consistent)
    (held : s.Holds c) (hstate : s.state? id = .ok (some c)) (h : Resumable env.now s c f n)
    {ch : Conversation.Change} {back : Option Return}
    (hback : f.resumption? c n = some (ch, back)) :
    (resumeStep id).ComesTo env s es (s.set (c.after ch env.now)) es
      (f.callbackPass (c.after ch env.now) back) := by
  refine (comesTo_resumeStep smooth hstate h).trans ?_
  unfold Flow.resumption? at hback
  -- Past a delay the conversation is advanced, elsewhere its deadline is cleared.
  by_cases hdelay : n.kind.isDelay = true
  · simp only [hdelay, if_true] at hback ⊢
    obtain ⟨next, hnext, heq⟩ := Option.map_eq_some_iff.mp hback
    cases heq
    exact Flow.comesTo_stepPast es smooth hs held h.active hnext
  · simp only [hdelay, if_false, Bool.false_eq_true] at hback ⊢
    cases hback
    exact .bind (Conversation.leads_change smooth.faultless hs held h.active _) (.refl _)

-- A delay after which nothing follows ends the conversation.
theorem leads_resumeStep_end (es : List Exchange) (smooth : env.Smooth)
    (hs : s.Consistent) (held : s.Holds c)
    (hstate : s.state? id = .ok (some c)) (h : Resumable env.now s c f n)
    (hend : f.resumption? c n = none) :
    (resumeStep id).Leads env s es (.ok (.flowAdvanced f.id c.id ⟨0, 0, .completed⟩))
      (s.set (c.after .complete env.now)) es := by
  refine (comesTo_resumeStep smooth hstate h).leads ?_
  unfold Flow.resumption? at hend
  by_cases hdelay : n.kind.isDelay = true
  · simp only [hdelay, if_true] at hend ⊢
    exact Flow.leads_stepPast_end es smooth hs held h.active (Option.map_eq_none_iff.mp hend)
  · simp [hdelay] at hend

/-- Something comes to an end and nobody has gone on with a flow. -/
def Step.Idles (env : Environment) (s : Store) (es : List Exchange)
    (x : Step AutomationError Outcome) : Prop :=
  ∃ r s', x.Leads env s es r s' es ∧ ∀ flow state pass, r ≠ .ok (.flowAdvanced flow state pass)

theorem idles_ignored (reason : String) :
    (pure (.ignored reason) : Step AutomationError Outcome).Idles env s es :=
  ⟨_, s, .pure _, by simp⟩

theorem idles_error {α : Type} {x : Step AutomationError α} {k : α → Step AutomationError Outcome}
    {e : AutomationError} (hx : x.Leads env s es (.error e) s es) : (x >>= k).Idles env s es :=
  ⟨_, s, .bind_error hx, by simp⟩

theorem Step.Idles.bind {α : Type} {x : Step AutomationError α} {s₁ : Store}
    {k : α → Step AutomationError Outcome} {a : α} (hk : (k a).Idles env s₁ es)
    (hx : x.Leads env s es (.ok a) s₁ es) : (x >>= k).Idles env s es := by
  obtain ⟨r, s', hleads, hr⟩ := hk
  exact ⟨r, s', .bind hx hleads, hr⟩

-- A conversation is found where a callback wants it, or nobody goes on with a flow.
theorem present_or_idles (es : List Exchange) (smooth : env.Smooth) (hs : s.Consistent)
    (held : s.Holds c) (active : c.isActive = true) (wanted : NodeKind → Bool)
    (stale lost : String) (k : Flow → Node → Step AutomationError Outcome) :
    (∃ f n, Present env.now s c f n ∧ wanted n.kind = true) ∨
      (do
        if ← c.expireIfStale then return .ignored stale
        else match ← c.waitingNode wanted with
          | none => return .ignored lost
          | some (f, n) => k f n : Step AutomationError Outcome).Idles env s es := by
  cases fresh : Window.isStale c.lastInbound env.now with
  | true =>
    refine .inr (.bind ?_ (Conversation.leads_expireIfStale smooth.faultless hs held active fresh))
    simp only [if_true]
    exact idles_ignored _
  | false =>
    by_cases hfound : ∃ f n, Present env.now s c f n ∧ wanted n.kind = true
    · exact .inl hfound
    refine .inr (.bind ?_ (Conversation.leads_expireIfStale_fresh fresh))
    simp only [Bool.false_eq_true, if_false]
    cases hsnapshot : s.snapshot c.workspace c.account with
    | error e =>
      exact idles_error (.bind_error
        (.stored_error (Calls.leads_snapshot smooth.faultless _ _) hsnapshot))
    | ok snapshot =>
      have hnode (f : Flow) (n : Node) (hflow : snapshot.flow? c.flow = some f)
          (hn : f.node? c.node = some n) : wanted n.kind = false := by
        by_contra hwanted
        exact hfound ⟨f, n, ⟨active, fresh, ⟨snapshot, hsnapshot, hflow⟩, hn⟩,
          by simpa using hwanted⟩
      obtain ⟨s', hwaiting⟩ := Conversation.leads_waitingNode_none es smooth hs held active
        hsnapshot hnode
      exact .bind (idles_ignored _) hwaiting

/-- A callback finds a conversation that is `Resumable`, or nobody goes on with a flow. -/
theorem resumable_or_idles (es : List Exchange) (smooth : env.Smooth) (hs : s.Consistent)
    (id : Uuid) :
    (∃ c f n, s.state? id = .ok (some c) ∧ s.Holds c ∧ Resumable env.now s c f n) ∨
      (resumeStep id).Idles env s es := by
  have hlookup := @Calls.leads_state? env s es smooth.faultless id
  unfold resumeStep
  cases hstate : s.state? id with
  | error e => exact .inr (idles_error (.stored_error hlookup hstate))
  | ok found =>
    -- One condition after the other holds, until one does not.
    cases found with
    | none => exact .inr (.bind (idles_ignored _) (.stored hlookup hstate))
    | some c =>
      cases active : c.isActive with
      | false =>
        refine .inr (.bind ?_ (.stored hlookup hstate))
        simp only [active, Bool.not_false, if_true]
        exact idles_ignored _
      | true =>
        have held : s.Holds c := (hs.holds_of_state? hstate).2.2 active
        cases due : Window.delayDue c.resumeAt env.now with
        | false =>
          refine .inr (.bind ?_ (.stored hlookup hstate))
          simp only [active, Bool.not_true, Bool.false_eq_true, if_false]
          refine .bind ?_ .now
          simp only [due, Bool.not_false, if_true]
          exact idles_ignored _
        | true =>
          rcases present_or_idles es smooth hs held active (fun _ => true) "state expired"
            "state is not waiting on a delay" fun f n =>
              if n.kind.isDelay then f.stepPast c n.id
              else do
                let c ← stored (c.change .clearResume)
                f.callbackPass c none with ⟨f, n, present, -⟩ | ⟨r, s', hleads, hr⟩
          · exact .inl ⟨c, f, n, rfl, held, present, due⟩
          · exact .inr ⟨r, s', (comesTo_due smooth hstate active due).leads hleads, hr⟩

-- A callback that goes through has resumed a conversation that could be resumed.
theorem resumable_of_resumeStep (smooth : env.Smooth) {w : World} (hs : w.store.Consistent)
    {flow state : Uuid} {pass : Pass}
    (hrun : (resumeStep id env w).1 = .ok (.flowAdvanced flow state pass)) :
    ∃ c f n, w.store.state? id = .ok (some c) ∧ w.store.Holds c ∧
      Resumable env.now w.store c f n := by
  rcases resumable_or_idles w.exchanges smooth hs id with h | ⟨r, s', hleads, hr⟩
  · exact h
  · have heq : r = .ok (.flowAdvanced flow state pass) := (hleads w rfl rfl).1.symm.trans hrun
    exact absurd heq (hr flow state pass)

end

/-! ## 3. One callback -/

theorem Present.congr {now : Instant} {s s' : Store} {c c' : Conversation} {f : Flow} {n : Node}
    (h : Present now s c f n) (hbare : c'.bare = c.bare)
    (hsnapshot : ∀ workspace account,
      s'.snapshot workspace account = s.snapshot workspace account) :
    Present now s' c' f n := by
  have hactive : c'.isActive = c.isActive := (congrArg Conversation.isActive hbare :)
  have hinbound : c'.lastInbound = c.lastInbound := (congrArg Conversation.lastInbound hbare :)
  have hworkspace : c'.workspace = c.workspace := (congrArg Conversation.workspace hbare :)
  have haccount : c'.account = c.account := (congrArg Conversation.account hbare :)
  have hflow : c'.flow = c.flow := (congrArg Conversation.flow hbare :)
  have hnode : c'.node = c.node := (congrArg Conversation.node hbare :)
  refine ⟨hactive.trans h.active, hinbound ▸ h.fresh, ?_, hnode ▸ h.node⟩
  rw [hsnapshot, hworkspace, haccount, hflow]
  exact h.found

theorem Resumable.congr {now : Instant} {s s' : Store} {c c' : Conversation} {f : Flow} {n : Node}
    (h : Resumable now s c f n) (hbare : c'.bare = c.bare)
    (hsnapshot : ∀ workspace account,
      s'.snapshot workspace account = s.snapshot workspace account) :
    Resumable now s' c' f n where
  toPresent := h.toPresent.congr hbare hsnapshot
  due := (congrArg (Window.delayDue · now) (congrArg Conversation.resumeAt hbare :)).trans h.due

theorem Present.flow {now : Instant} {s : Store} {c : Conversation} {f : Flow} {n : Node}
    (h : Present now s c f n) : c.flow = f.id := by
  obtain ⟨snapshot, -, hflow⟩ := h.found
  have hid := List.find?_some hflow
  rw [beq_iff_eq] at hid
  exact hid.symm

/-- A conversation that is kept, and from which `resume` has a `Walk` to make. -/
structure Pending (now : Instant) (s : Store) (f : Flow) (c : Conversation) (k : Nat)
    (ms : List Message) (last : Conversation) (stop : Stop) : Prop where
  consistent : s.Consistent
  held : s.Holds c
  kept : c.kept = c
  walk : ∃ n ch back, Resumable now s c f n ∧ f.resumption? c n = some (ch, back) ∧
    f.Walk now k (c.after ch now) ms last stop

theorem Pending.state? {now : Instant} {s : Store} {f : Flow} {c last : Conversation} {k : Nat}
    {ms : List Message} {stop : Stop} (h : Pending now s f c k ms last stop) :
    s.state? c.id = .ok (some c) := by
  have hstate := h.held.state? h.consistent
  rwa [h.kept] at hstate

section

variable {now : Instant} {f : Flow} {c left : Conversation} {n : Node}
  {ch : Conversation.Change} {back : Option Return}

-- The pass of a callback begins with a conversation that only moved.
theorem moved_resumption (h : f.resumption? c n = some (ch, back)) : (c.after ch now).Moved c := by
  unfold Flow.resumption? at h
  split at h
  · obtain ⟨next, -, heq⟩ := Option.map_eq_some_iff.mp h
    cases heq
    rfl
  · cases h
    rfl

-- A conversation that is kept without having left its first node is what it was before.
theorem bare_rewound (hn : f.node? c.node = some n) (hback : f.resumption? c n = some (ch, back))
    {r : Return} (hr : back = some r) (hleft : left.Moved c) :
    (left.after (.rewind r.node r.resumeAt) now).bare = c.bare := by
  subst hr
  unfold Flow.resumption? at hback
  split at hback
  · obtain ⟨next, -, heq⟩ := Option.map_eq_some_iff.mp hback
    cases heq
    have hid : n.id = c.node := Flow.node?_id hn
    have hrewound : (left.after (.rewind n.id c.resumeAt) now).bare =
        { left.bare with node := n.id, resumeAt := c.resumeAt } := rfl
    rw [hrewound, hleft, hid]
    rfl
  · cases hback

-- A conversation that is kept on the node that failed is brought back to it.
theorem bare_scheduled (lasting : c.Lasting) (year : now.FourDigitYear) (hleft : left.Moved c) :
    (left.after (.scheduleResume now) now).kept.bare =
      { c.bare with node := left.node, resumeAt := some now } := by
  have hscheduled : (left.after (.scheduleResume now) now).bare =
      { c with node := left.node, resumeAt := some now }.bare := by
    have : (left.after (.scheduleResume now) now).bare =
        { left.bare with resumeAt := some now } := rfl
    rw [this, hleft]
    rfl
  have hkept : { c with node := left.node, resumeAt := some now }.kept.bare =
      { c.kept.bare with node := left.node, resumeAt := some now.kept } := rfl
  rw [Conversation.kept_congr hscheduled, hkept, lasting, Instant.kept_of_fourDigitYear year]

end

/-- How `resume` goes for a conversation from which a walk is to be made: it arrives, or a message
is refused and the rest of the walk is left to the next callback. -/
inductive Resumed (env : Environment) (s : Store) (es : List Exchange) (f : Flow) (c : Conversation)
    (k : Nat) (ms : List Message) (last : Conversation) (stop : Stop) : Prop where
  | arrived (pass : Pass) (done : List Exchange) (stops : pass.stop = stop)
      (leads : (resume c.id).Leads env s es (.flowAdvanced f.id c.id pass) (s.set last)
        (done ++ es)) (delivered : Delivered c ms done)
  | refused (reason : String) (e : DeliveryError) (m : Message) (before after : List Message)
      (done : List Exchange) (k' : Nat) (c' stored last' : Conversation)
      (leads : (resume c.id).Leads env s es (.degraded "delivery_failure" reason) (s.set stored)
        (c.exchange env (done ++ es) m :: (done ++ es)))
      (refusal : env.sender (done ++ es) (c.intent m) = .error e)
      (messages : ms = before ++ m :: after) (delivered : Delivered c before done)
      (pending : Pending env.now (s.set stored) f c' k' (m :: after) last' stop) (shorter : k' ≤ k)
      (same : c'.Same c) (id : stored.id = c.id) (bare : last'.bare = last.bare)

section

variable {env : Environment} {s : Store} {es : List Exchange} {f : Flow} {c : Conversation}

-- For a conversation that is stored a callback does what it is there for.
theorem leads_forState (smooth : env.Smooth) {id : Uuid} (hstate : s.state? id = .ok (some c))
    {step : Step AutomationError Outcome} {r : Except AutomationError Outcome} {s' : Store}
    {es' : List Exchange} (hstep : step.Leads env s es r s' es') :
    (forState id (timed step)).Leads env s es (.ofExcept r) s' es' := by
  unfold forState
  refine .bind (Step.Leads.attempt (.stored (Calls.leads_state? smooth.faultless id) hstate)) ?_
  exact .bind (Leads.timed smooth.still hstep).attempt (.pure _)

section

variable {now : Instant} {n : Node} {ch : Conversation.Change} {back : Option Return}
  {left last : Conversation} {k : Nat} {ms : List Message} {stop : Stop} {s' : Store}

-- Back where the callback found it, a conversation comes to the same node again.
theorem pending_rewind {r : Return} (hresumable : Resumable now s c f n)
    (hback : f.resumption? c n = some (ch, some r)) (hkept : c.kept = c) (hleft : left.Moved c)
    (hnode : left.node = (c.after ch now).node) (hrest : f.Walk now k left ms last stop)
    (hs' : s'.Consistent) (held : s'.Holds (left.after (.rewind r.node r.resumeAt) now))
    (hsnapshot : ∀ workspace account,
      s'.snapshot workspace account = s.snapshot workspace account) :
    ∃ last', Pending now s' f (left.after (.rewind r.node r.resumeAt) now).kept k ms last' stop ∧
      last'.bare = last.bare := by
  have hentry : (c.after ch now).Moved c := moved_resumption hback
  have hbare : (left.after (.rewind r.node r.resumeAt) now).kept.bare = c.bare := by
    rw [Conversation.kept_congr (bare_rewound hresumable.node hback rfl hleft), hkept]
  have hresume : (left.after (.rewind r.node r.resumeAt) now).kept.resumeAt = c.resumeAt :=
    (congrArg Conversation.resumeAt hbare :)
  have hstart : ((left.after (.rewind r.node r.resumeAt) now).kept.after ch now).bare =
      left.bare := by
    rw [Conversation.after_congr hbare, hentry, hleft, hnode]
  obtain ⟨last', hwalk, hlast⟩ := hrest.congr hstart
  refine ⟨last', ⟨hs', held.kept, Conversation.kept_kept _, n, ch, some r,
    hresumable.congr hbare hsnapshot, ?_, hwalk⟩, hlast⟩
  rw [← hback]
  simp only [Flow.resumption?, hresume]

-- On the node that failed a conversation is due at once.
theorem pending_schedule (year : now.FourDigitYear) (present : Present now s c f n)
    (lasting : c.Lasting) (hleft : left.Moved c) {l : Leg} (hl : f.leg? now left = some l)
    {m : Message} (hm : l.message = some m) (hrest : f.Walk now k left ms last stop)
    (hs' : s'.Consistent) (held : s'.Holds (left.after (.scheduleResume now) now))
    (hsnapshot : ∀ workspace account,
      s'.snapshot workspace account = s.snapshot workspace account) :
    ∃ last', Pending now s' f (left.after (.scheduleResume now) now).kept k ms last' stop ∧
      last'.bare = last.bare := by
  have hbare := bare_scheduled lasting year hleft
  -- The node sends something, so it is no delay, and the callback tries it again.
  obtain ⟨n', hn', hdelay, -⟩ := Flow.node_of_leg? hl hm
  have hresumable' : Resumable now s' (left.after (.scheduleResume now) now).kept f n' := by
    have h : Resumable now s { c with node := left.node, resumeAt := some now } f n' :=
      ⟨⟨present.active, present.fresh, present.found, hn'⟩,
        by simp [Window.delayDue]⟩
    exact h.congr hbare hsnapshot
  have hstart : ((left.after (.scheduleResume now) now).kept.after .clearResume now).bare =
      left.bare := by
    rw [Conversation.bare_after, hbare, hleft]
    rfl
  obtain ⟨last', hwalk, hlast⟩ := hrest.congr hstart
  refine ⟨last', ⟨hs', held.kept, Conversation.kept_kept _, n', .clearResume, none,
    hresumable', ?_, hwalk⟩, hlast⟩
  simp [Flow.resumption?, hdelay]

-- A conversation that is kept after a refusal has the rest of the walk before it.
theorem pending_retry (year : now.FourDigitYear) (hresumable : Resumable now s c f n)
    (hback : f.resumption? c n = some (ch, back)) (hkept : c.kept = c) (hleft : left.Moved c)
    {l : Leg} (hl : f.leg? now left = some l) {m : Message} (hm : l.message = some m)
    (hrest : f.Walk now k left ms last stop) (hs' : s'.Consistent)
    (held : s'.Holds (left.after (Flow.retry left (c.after ch now).node back now) now))
    (hsnapshot : ∀ workspace account,
      s'.snapshot workspace account = s.snapshot workspace account) :
    ∃ last', Pending now s' f
      (left.after (Flow.retry left (c.after ch now).node back now) now).kept k ms last' stop ∧
      last'.bare = last.bare := by
  have lasting : c.Lasting := congrArg Conversation.bare hkept
  cases back with
  | none =>
    exact pending_schedule year hresumable.toPresent lasting hleft hl hm hrest hs' held hsnapshot
  | some r =>
    by_cases hnode : left.node = (c.after ch now).node
    · have hrewind : Flow.retry left (c.after ch now).node (some r) now =
          .rewind r.node r.resumeAt := by
        simp [Flow.retry, hnode]
      rw [hrewind] at held ⊢
      exact pending_rewind hresumable hback hkept hleft hnode hrest hs' held hsnapshot
    · have hschedule : Flow.retry left (c.after ch now).node (some r) now =
          .scheduleResume now := by
        simp [Flow.retry, hnode]
      rw [hschedule] at held ⊢
      exact pending_schedule year hresumable.toPresent lasting hleft hl hm hrest hs' held hsnapshot

end

/-- How a call goes for a conversation from which a pass has a walk to make: the walk arrives, or a
message is refused and the conversation is kept for another attempt. -/
inductive Attempted (f : Flow) (env : Environment) (s : Store) (es : List Exchange)
    (x : Act Outcome) (k : Nat) (c entry : Conversation) (ms : List Message) (last : Conversation)
    (stop : Stop) (back : Option Return) : Prop where
  | arrived (pass : Pass) (done : List Exchange) (stops : pass.stop = stop)
      (leads : x.Leads env s es (.flowAdvanced f.id c.id pass) (s.set last) (done ++ es))
      (delivered : Delivered c ms done)
  | refused (left p : Conversation) (reason : String) (e : DeliveryError) (l : Leg) (m : Message)
      (k' : Nat) (before after : List Message) (done : List Exchange)
      (kept : left.after (Flow.retry left entry.node back env.now) env.now = p)
      (leads : x.Leads env s es (.degraded "delivery_failure" reason) (s.set p)
        (c.exchange env (done ++ es) m :: (done ++ es)))
      (refusal : env.sender (done ++ es) (c.intent m) = .error e)
      (leg : f.leg? env.now left = some l) (message : l.message = some m)
      (messages : ms = before ++ m :: after) (delivered : Delivered c before done)
      (rest : f.Walk env.now k' left (m :: after) last stop) (shorter : k' ≤ k)
      (moved : left.Moved entry) (same : p.Same c) (consistent : (s.set p).Consistent)
      (held : (s.set p).Holds p)

-- A conversation that is brought to where a pass begins makes the walk from there.
theorem attempted_of_walk (es : List Exchange) (smooth : env.Smooth) (hs : s.Consistent)
    (held : s.Holds c) (active : c.isActive = true) (flow : c.flow = f.id)
    (hstate : s.state? c.id = .ok (some c)) {step : Step AutomationError Outcome}
    {entry origin : Conversation} {back : Option Return}
    (hentry : step.ComesTo env s es (s.set entry) es (f.callbackPass entry back))
    (entered : entry.Moved origin) (same : entry.Same c) (hactive : entry.isActive = true) {k : Nat}
    {ms : List Message} {last : Conversation} {stop : Stop}
    (hwalk : f.Walk env.now k entry ms last stop) (hk : k ≤ max 1 env.policy.maxNodes) :
    Attempted f env s es (forState c.id (timed step)) k c entry ms last stop back := by
  have hset (d : Conversation) (hd : d.id = c.id) : (s.set entry).set d = s.set d :=
    s.set_set (same.id.trans hd.symm)
  rcases Flow.course_passWithin smooth hwalk (max 1 env.policy.maxNodes) ⟨0, 0, .completed⟩ es
    hk (hs.set held active same) (held.set same) hactive (same.flow.trans flow) with
    ⟨pass, s', done, hleads, hstops, hdelivered, hwritten, -, -⟩ |
    ⟨left, e, m, k', before, after, s', done, hleads, hrefusal, ⟨l, hl, hm⟩, hmessages, hdelivered,
      hrest, hs', hheld', hactive', hwritten⟩
  · have hs' : s' = s.set last := by
      rcases hwritten with ⟨rfl, rfl⟩ | rfl
      · rfl
      · exact hset last (hwalk.same.trans same).id
    have hcall := leads_forState smooth hstate
      (hentry.leads (Flow.leads_callbackPass_arrived hleads))
    rw [same.id, hs'] at hcall
    exact .arrived pass done hstops hcall (hdelivered.of_same same)
  · have hsame : left.Same entry := hrest.same.symm.trans hwalk.same
    obtain ⟨p, hp⟩ : ∃ p, left.after (Flow.retry left entry.node back env.now) env.now = p :=
      ⟨_, rfl⟩
    have hpleft : p.Same left := hp ▸ left.same_after _ env.now
    have hpsame : p.Same c := hpleft.trans (hsame.trans same)
    have hstore : s'.set p = s.set p :=
      (hwritten.set_eq hpleft.id.symm).trans (hset p hpsame.id)
    have hcall := leads_forState smooth hstate
      (hentry.leads (Flow.leads_callbackPass_refused back smooth hleads hs' hheld' hactive'))
    have hexchange : left.exchange env (done ++ es) m = c.exchange env (done ++ es) m := by
      simp only [Conversation.exchange, (hsame.trans same).intent_eq]
    rw [hp, hstore, hexchange] at hcall
    rw [(hsame.trans same).intent_eq] at hrefusal
    have hmoved : left.Moved entry := hwritten.eq_or_moved.elim (· ▸ entered.refl_of) id
    exact .refused left p _ e l m k' before after done hp hcall hrefusal hl hm hmessages
      (hdelivered.of_same same) hrest hwritten.le hmoved hpsame
      (hstore ▸ hs'.set hheld' hactive' hpleft) (hstore ▸ hheld'.set hpleft)

/-- One callback makes the walk that is `Pending`, or leaves the rest of it to the next one. -/
theorem resumed_of_pending (es : List Exchange) (smooth : env.Smooth)
    (year : env.now.FourDigitYear) {k : Nat} {ms : List Message} {last : Conversation} {stop : Stop}
    (h : Pending env.now s f c k ms last stop) (hk : k ≤ max 1 env.policy.maxNodes) :
    Resumed env s es f c k ms last stop := by
  obtain ⟨n, ch, back, hresumable, hback, hwalk⟩ := h.walk
  have hmoved : (c.after ch env.now).Moved c := moved_resumption hback
  have hactive : (c.after ch env.now).isActive = true :=
    (congrArg Conversation.isActive hmoved :).trans hresumable.active
  rcases attempted_of_walk es smooth h.consistent h.held hresumable.active hresumable.flow
    h.state? (comesTo_callbackPass es smooth h.consistent h.held h.state? hresumable hback)
    hmoved (c.same_after ch env.now) hactive hwalk hk with
    ⟨pass, done, hstops, hleads, hdelivered⟩ |
    ⟨left, p, reason, e, l, m, k', before, after, done, hp, hleads, hrefusal, hl, hm, hmessages,
      hdelivered, hrest, hk', hleft, hsame, hconsistent, hheld⟩
  · exact .arrived pass done hstops hleads hdelivered
  · obtain ⟨last', hpending, hbare⟩ := pending_retry year hresumable hback h.kept
      (hleft.trans hmoved) hl hm hrest hconsistent (hp.symm ▸ hheld) fun _ _ => rfl
    rw [hp] at hpending
    exact .refused reason e m before after done k' p.kept p last' hleads hrefusal hmessages
      hdelivered hpending hk' ((Conversation.Same.kept p).trans hsame) hsame.id hbare

/-! ## 4. Callbacks again and again -/

theorem Pending.walk_updated {now : Instant} {k : Nat} {ms : List Message} {last : Conversation}
    {stop : Stop} (h : Pending now s f c k ms last stop) : last.updated = now ∧ last.id = c.id := by
  obtain ⟨n, ch, back, -, -, hwalk⟩ := h.walk
  exact ⟨hwalk.updated rfl, (hwalk.same.trans (c.same_after ch now)).id⟩

/-- From wherever a walk is left `Pending`, callbacks that are repeated make it once. -/
theorem again_of_pending (smooth : env.Smooth) (year : env.now.FourDigitYear) {limit : Nat}
    (relents : env.sender.Relents limit) {stop : Stop} {id : Uuid} {w : World} {last : Conversation}
    {k : Nat} {ms : List Message} (h : Pending env.now w.store f c k ms last stop)
    (hk : k ≤ max 1 env.policy.maxNodes) (hid : c.id = id) :
    ∃ n, (∀ i < n, ((resume id).again env w i).1.IsDeliveryFailure ∧
        ∃ c', ((resume id).again env w i).2.store.state? id = .ok (some c') ∧
          c'.isActive = true ∧ Window.delayDue c'.resumeAt env.now = true) ∧
      (∃ pass, ((resume id).again env w n).1 = .flowAdvanced f.id id pass ∧ pass.stop = stop) ∧
      acceptedIntents ((resume id).again env w n).2.exchanges =
        acceptedIntents w.exchanges ++ ms.map c.intent ∧
      ((resume id).again env w n).2.store.versionless = (w.store.set last).versionless := by
  -- Each refusal uses up one of the exchanges after which the sender relents.
  induction hd : limit - w.exchanges.length using Nat.strong_induction_on
    generalizing w c last k ms with
  | _ d ih =>
  subst hid
  rcases resumed_of_pending w.exchanges smooth year h hk with
    ⟨pass, done, hstops, hleads, hdelivered⟩ |
    ⟨reason, e, m, before, after, done, k', c', p, last', hleads, hrefusal, hmessages, hdelivered,
      hpending, hk', hsame, hp, hlast⟩
  · obtain ⟨houtcome, hstore, hexchanges, -⟩ := hleads w rfl rfl
    refine ⟨0, by simp, ⟨pass, houtcome, hstops⟩, ?_, ?_⟩
    · rw [Act.again, hexchanges, hdelivered.acceptedIntents]
    · rw [Act.again, hstore]
  · obtain ⟨houtcome, hstore, hexchanges, -⟩ := hleads w rfl rfl
    obtain ⟨hupdated, hid⟩ := h.walk_updated
    obtain ⟨hupdated', hid'⟩ := hpending.walk_updated
    have hlength : limit - (resume c.id env w).2.exchanges.length < d := by
      rw [hexchanges, ← hd]
      exact relents.refusals_lt hrefusal _
    obtain ⟨n, hearlier, ⟨pass, hadvanced, hstops⟩, haccepted, hversionless⟩ :=
      ih _ hlength (w := (resume c.id env w).2) (hstore ▸ hpending) (hk'.trans hk) hsame.id rfl
    refine ⟨n + 1, fun i hi => ?_, ⟨pass, ?_, hstops⟩, ?_, ?_⟩
    · cases i with
      | zero =>
        obtain ⟨n', ch, back, hresumable, -, -⟩ := hpending.walk
        refine ⟨⟨reason, houtcome⟩, c', ?_, hresumable.active, hresumable.due⟩
        have hstate := hpending.state?
        rw [hsame.id] at hstate
        rw [Act.again, hstore]
        exact hstate
      | succ i =>
        rw [Act.again_succ]
        exact hearlier i (by omega)
    · rw [Act.again_succ]
      exact hadvanced
    · rw [Act.again_succ, haccepted, hexchanges, acceptedIntents_refused hrefusal,
        hdelivered.acceptedIntents, hmessages, hsame.intent_eq, List.map_append, List.append_assoc]
    · have hlater : p.id = last'.id := hp.trans (hid'.trans hsame.id).symm
      rw [Act.again_succ, hversionless, hstore, Store.set_set _ hlater]
      exact Store.versionless_set hlast (hupdated'.trans hupdated.symm)

-- What goes on is no failure.
theorem Outcome.eq_ok_of_ofExcept {r : Except AutomationError Outcome} {flow state : Uuid}
    {pass : Pass} (h : Outcome.ofExcept r = .flowAdvanced flow state pass) :
    r = .ok (.flowAdvanced flow state pass) := by
  cases r with
  | ok o => exact congrArg Except.ok h
  | error e => cases e <;> cases h

-- For a conversation that is stored a callback does what it is there for, in a world with the same
-- store.
theorem run_forState (smooth : env.Smooth) {id : Uuid} {w : World}
    (hstate : w.store.state? id = .ok (some c)) (step : Step AutomationError Outcome) :
    ∃ w', w'.store = w.store ∧ w'.exchanges = w.exchanges ∧
      forState id (timed step) env w = (.ofExcept (step env w').1, (step env w').2) := by
  have hlookup : (stored (Calls.state? id)).Leads env w.store w.exchanges _ _ _ :=
    .stored (Calls.leads_state? smooth.faultless id) hstate
  obtain ⟨hfound, hstore, hexchanges, -⟩ := hlookup.attempt w rfl rfl
  refine ⟨((stored (Calls.state? id)).attempt env w).2.reading, hstore, hexchanges, ?_⟩
  have htimed (v : World) : timed step env v = step env v.reading := by
    rw [timed, smooth.still.asOf]
  rw [forState, Act.run_bind, hfound, ← htimed]
  rfl

-- A callback that goes on has gone on from where it began.
theorem step_of_forState (smooth : env.Smooth) {id flow state : Uuid} {pass : Pass}
    {step : Step AutomationError Outcome} {w : World}
    (h : (forState id (timed step) env w).1 = .flowAdvanced flow state pass) :
    ∃ c w', w.store.state? id = .ok (some c) ∧ w'.store = w.store ∧ w'.exchanges = w.exchanges ∧
      (step env w').1 = .ok (.flowAdvanced flow state pass) := by
  have hlookup : (stored (Calls.state? id)).Leads env w.store w.exchanges _ _ _ :=
    (Calls.leads_state? smooth.faultless id).mapError
  obtain ⟨hfound, -⟩ := hlookup.attempt w rfl rfl
  cases hstate : w.store.state? id with
  | error e =>
    rw [forState, Act.run_bind, hfound, hstate] at h
    cases h
  | ok found =>
    cases found with
    | none =>
      rw [forState, Act.run_bind, hfound, hstate] at h
      cases h
    | some c =>
      obtain ⟨w', hstore, hexchanges, hrun⟩ := run_forState smooth hstate step
      rw [hrun] at h
      exact ⟨c, w', rfl, hstore, hexchanges, Outcome.eq_ok_of_ofExcept h⟩

-- The pass of a callback that goes on has made a walk.
theorem walk_of_callbackPass (smooth : env.Smooth) {flow state : Uuid} {pass : Pass}
    {back : Option Return} {w : World} (hlimit : ∀ node, pass.stop ≠ .limitReached node)
    (hs : w.store.Consistent) (held : w.store.Holds c) (active : c.isActive = true)
    (hflow : c.flow = f.id)
    (h : (f.callbackPass c back env w).1 = .ok (.flowAdvanced flow state pass)) :
    ∃ k ms last, k ≤ max 1 env.policy.maxNodes ∧ f.Walk env.now k c ms last pass.stop := by
  obtain ⟨last, pass', hpass, heq, -⟩ := Flow.runPass_of_callbackPass h
  cases heq
  exact Flow.walk_of_passWithin smooth hlimit hs held active hflow hpass

-- A callback that goes on ends a conversation, or has a walk to make.
theorem pending_of_resume (smooth : env.Smooth)
    {id flow state : Uuid} {pass : Pass} {w : World} (hs : w.store.Consistent)
    (hlimit : ∀ node, pass.stop ≠ .limitReached node)
    (h : (resume id env w).1 = .flowAdvanced flow state pass) :
    ∃ c f n, w.store.state? id = .ok (some c) ∧ w.store.Holds c ∧ c.id = id ∧
      Resumable env.now w.store c f n ∧
      (f.resumption? c n = none ∨
        ∃ k ms last, k ≤ max 1 env.policy.maxNodes ∧
          Pending env.now w.store f c k ms last pass.stop) := by
  obtain ⟨-, w', -, hstore, hexchanges, hstep⟩ := step_of_forState smooth h
  rw [← hstore] at hs ⊢
  obtain ⟨c, f, n, hstate, held, hresumable⟩ := resumable_of_resumeStep smooth hs hstep
  obtain ⟨hid, hkept, -⟩ := hs.holds_of_state? hstate
  refine ⟨c, f, n, hstate, held, hid, hresumable, ?_⟩
  cases hback : f.resumption? c n with
  | none => exact .inl rfl
  | some resumption =>
    obtain ⟨ch, back⟩ := resumption
    obtain ⟨w₁, hstore₁, -, -, hrun⟩ :=
      comesTo_callbackPass _ smooth hs held hstate hresumable hback w' rfl rfl
    rw [hrun] at hstep
    have hmoved : (c.after ch env.now).Moved c := moved_resumption hback
    have hsame : (c.after ch env.now).Same c := c.same_after ch env.now
    have hactive : (c.after ch env.now).isActive = true :=
      (congrArg Conversation.isActive hmoved :).trans hresumable.active
    obtain ⟨k, ms, last', hk, hwalk⟩ := walk_of_callbackPass smooth hlimit
      (hstore₁ ▸ hs.set held hresumable.active hsame) (hstore₁ ▸ held.set hsame) hactive
      (hsame.flow.trans hresumable.flow) hstep
    exact .inr ⟨k, ms, last', hk, hs, held, hkept, n, ch, back, hresumable, hback, hwalk⟩

end

/-- **A callback that is repeated has one effect.** Let a callback go on (`goes`), where nothing is
refused, and not spend its budget (`stops`). Then, whatever is refused as long as the sender
`Relents`, a callback that is repeated goes on at last and stops for the same reason. Every time
before, a delivery failed, and the conversation is due at once. What the sender has accepted by
then, and what the store holds but for versions, are what they are where nothing is refused. -/
theorem resume_again {env : Environment} {calm : Sender} {w : World} {id flow state : Uuid}
    {pass : Pass} {limit : Nat} (smooth : env.Smooth) (year : env.now.FourDigitYear)
    (hs : w.store.Consistent) (accepts : calm.Accepts) (relents : env.sender.Relents limit)
    (goes : (resume id { env with sender := calm } w).1 = .flowAdvanced flow state pass)
    (stops : ∀ node, pass.stop ≠ .limitReached node) :
    ∃ n, (∀ i < n, ((resume id).again env w i).1.IsDeliveryFailure ∧
        ∃ c, ((resume id).again env w i).2.store.state? id = .ok (some c) ∧ c.isActive = true ∧
          Window.delayDue c.resumeAt env.now = true) ∧
      (∃ pass', ((resume id).again env w n).1 = .flowAdvanced flow state pass' ∧
        pass'.stop = pass.stop) ∧
      acceptedIntents ((resume id).again env w n).2.exchanges =
        acceptedIntents (resume id { env with sender := calm } w).2.exchanges ∧
      ((resume id).again env w n).2.store.versionless =
        (resume id { env with sender := calm } w).2.store.versionless := by
  have smooth' : ({ env with sender := calm } : Environment).Smooth := smooth
  obtain ⟨c, f, node, hstate, held, hid, hresumable, hend | ⟨k, ms, last, hk, hpending⟩⟩ :=
    pending_of_resume smooth' hs stops goes
  · -- The conversation ends, and nothing is handed to the sender.
    have hleads (env : Environment) (smooth : env.Smooth)
        (hresumable : Resumable env.now w.store c f node) :=
      leads_forState smooth hstate
        (leads_resumeStep_end w.exchanges smooth hs held hstate hresumable hend)
    obtain ⟨hcalm, hstore, hexchanges, -⟩ := hleads _ smooth' hresumable w rfl rfl
    obtain ⟨hfirst, hstore', hexchanges', -⟩ := hleads _ smooth hresumable w rfl rfl
    have hpass : (resume id env w).1 = .flowAdvanced flow state pass := by
      rw [← goes]
      exact hfirst.trans hcalm.symm
    refine ⟨0, by simp, ⟨pass, hpass, rfl⟩, ?_, ?_⟩
    · exact congrArg acceptedIntents (hexchanges'.trans hexchanges.symm)
    · exact congrArg Store.versionless (hstore'.trans hstore.symm)
  · -- Where nothing is refused, the walk is made at once.
    have hcalm := resumed_of_pending w.exchanges smooth' year hpending hk
    subst hid
    rcases hcalm with
      ⟨pass₀, done, -, hleads, hdelivered⟩ | ⟨_, e, m, _, _, done, _, _, _, _, -, hrefusal, -⟩
    · obtain ⟨houtcome, hstore, hexchanges, -⟩ := hleads w rfl rfl
      have hoagain := again_of_pending smooth year relents hpending hk rfl
      rw [houtcome] at goes
      cases goes
      rw [hexchanges, hdelivered.acceptedIntents, hstore]
      exact hoagain
    · obtain ⟨r, hr⟩ := accepts (done ++ w.exchanges) (c.intent m)
      cases hr.symm.trans hrefusal

/-- The second message of `Flow.greeting` is refused twice, and goes out with the third callback. -/
theorem resume_again_greeting :
    ∃ w env, w = (World.start {}).after .greeting ∧
      env = { Environment.calm (.ofSeconds 60) with sender := .hesitant 3 } ∧
      ((resume (.ofNat 0)).again env w 1).1 =
        .degraded "delivery_failure" "Delivery failed: Transport failure: refused" ∧
      ∃ n, (∀ i < n, ((resume (.ofNat 0)).again env w i).1.IsDeliveryFailure ∧
          ∃ c, ((resume (.ofNat 0)).again env w i).2.store.state? (.ofNat 0) = .ok (some c) ∧
            c.isActive = true ∧ Window.delayDue c.resumeAt env.now = true) ∧
        (∃ pass, ((resume (.ofNat 0)).again env w n).1 =
          .flowAdvanced (.ofNat 1) (.ofNat 0) pass ∧ pass.stop = .completed) ∧
        acceptedIntents ((resume (.ofNat 0)).again env w n).2.exchanges =
          acceptedIntents (resume (.ofNat 0) (.calm (.ofSeconds 60)) w).2.exchanges ∧
        ((resume (.ofNat 0)).again env w n).2.store.versionless =
          (resume (.ofNat 0) (.calm (.ofSeconds 60)) w).2.store.versionless :=
  ⟨_, _, rfl, rfl, by decide +kernel,
    @resume_again { Environment.calm (.ofSeconds 60) with sender := .hesitant 3 }
      (Environment.calm (.ofSeconds 60)).sender _ (.ofNat 0) (.ofNat 1) (.ofNat 0)
      ⟨1, 1, .completed⟩ 3 ⟨fun _ _ => rfl, fun _ => rfl⟩ (by decide)
      (World.traced_after rfl _).consistent (fun _ _ => ⟨_, rfl⟩) (Sender.relents_hesitant 3)
      (by decide +kernel) (fun _ => by simp)⟩

end Autoresponder
