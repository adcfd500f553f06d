import Autoresponder.Proofs.Engine.Clock
import Autoresponder.Proofs.Engine.Copies

/-!
# Copies that were overtaken

Whether a copy may execute a node is decided by the copy. Whether the copy was overtaken, that is,
whether its row has another version by now, is found out when the copy is written, and what the node
sends was handed over before. An overtaken copy therefore never writes anything, but it sends once
more what its node sends, unless its own version tells that it is an old one.
-/

namespace Autoresponder

open Step Store

/-- No row of a conversation has `version`. -/
def Store.Overtakes (s : Store) (id : Uuid) (version : Int) : Prop :=
  ∀ r ∈ s.states, r.id = toString id → r.version ≠ .int version

/-- What was handed to the sender after a message, if there is one. -/
def Conversation.handed (c : Conversation) (env : Environment) (es : List Exchange) :
    Option Message → List Exchange
  | some m => c.exchange env es m :: es
  | none => es

/-- The message that `Flow.execute` hands to the sender for a copy: that of the node, if the copy
may execute the node and its window is open when the clock is read for the message. -/
def Flow.handing? (f : Flow) (c : Conversation) (node : String) (version : Int) (env : Environment)
    (w : World) : Option Message :=
  if f.admits c node version then
    ((f.leg? (env.clock w.readings) c).bind (·.message)).filter fun _ =>
      Window.isOpen c.lastInbound (env.clock (w.readings + 1))
  else none

/-! ## 1. Steps that fail -/

/-- From the store `s` and the exchanges `es` a step fails, whatever goes wrong with calls. The
store stays as it is. -/
def Step.Fails {ε α : Type} (env : Environment) (s : Store) (es : List Exchange) (x : Step ε α)
    (es' : List Exchange) : Prop :=
  ∀ w, w.store = s → w.exchanges = es →
    (∃ e, (x env w).1 = .error e) ∧ (x env w).2.store = s ∧ (x env w).2.exchanges = es'

section

variable {ε δ α β : Type} {env : Environment} {s : Store} {es es₁ es₂ : List Exchange}

namespace Step

theorem Leads.fails {x : Step ε α} {e : ε} (hx : x.Leads env s es (.error e) s es₁) :
    x.Fails env s es es₁ := by
  intro w hs hes
  obtain ⟨hr, hs₁, hes₁, -⟩ := hx w hs hes
  exact ⟨⟨e, hr⟩, hs₁, hes₁⟩

theorem Leads.bind_fails {x : Step ε α} {k : α → Step ε β} {a : α}
    (hx : x.Leads env s es (.ok a) s es₁) (hk : (k a).Fails env s es₁ es₂) :
    (x >>= k).Fails env s es es₂ := by
  intro w hs hes
  obtain ⟨w₁, hs₁, hes₁, -, hrun⟩ := hx.run_bind k hs hes
  rw [hrun]
  exact hk w₁ hs₁ hes₁

theorem Fails.bind {x : Step ε α} (hx : x.Fails env s es es₁) (k : α → Step ε β) :
    (x >>= k).Fails env s es es₁ := by
  intro w hs hes
  obtain ⟨⟨e, he⟩, hs₁, hes₁⟩ := hx w hs hes
  rw [run_bind_error (Prod.ext he rfl)]
  exact ⟨⟨e, rfl⟩, hs₁, hes₁⟩

theorem Fails.mapError {x : Step ε α} (hx : x.Fails env s es es₁) (f : ε → δ) :
    (x.mapError f).Fails env s es es₁ := by
  intro w hs hes
  obtain ⟨⟨e, he⟩, hs₁, hes₁⟩ := hx w hs hes
  rw [run_mapError]
  exact ⟨⟨f e, by rw [he]; rfl⟩, hs₁, hes₁⟩

end Step

/-! ## 2. Writing an overtaken copy -/

variable {c : Conversation}

-- A write that names a version that was overtaken is told so, or the call goes wrong.
theorem Calls.updateState_of_overtakes (env : Environment) {version : Int}
    (h : s.Overtakes c.id version) {w : World} (hs : w.store = s) :
    ∃ w', w'.store = s ∧ w'.exchanges = w.exchanges ∧
      (updateState c version env w = (.ok false, w') ∨
        ∃ e, updateState c version env w = (.error e, w')) := by
  subst hs
  have hrun : w.store.updateState c version = .ok none := updateState_of_not_mem h
  refine ⟨(updateState c version env w).2, ?_⟩
  unfold updateState call
  split
  · simp only [hrun, Except.map]
    exact ⟨rfl, rfl, .inl rfl⟩
  · rename_i heq
    cases heq
    exact ⟨rfl, rfl, .inl rfl⟩
  · exact ⟨rfl, rfl, .inr ⟨_, rfl⟩⟩

namespace Conversation

/-- A copy that the store `Overtakes` is not written. -/
theorem fails_change (h : s.Overtakes c.id c.version) (ch : Change) :
    (stored (c.change ch)).Fails env s es es := by
  refine Fails.mapError (Leads.bind_fails .now ?_) _
  intro w hs hes
  have h' : s.Overtakes (c.after ch env.now).id c.version := by rwa [id_after]
  obtain ⟨w', hs', hes', hrun | ⟨e, hrun⟩⟩ := Calls.updateState_of_overtakes env h' hs
  · rw [run_bind_ok hrun]
    exact ⟨⟨_, rfl⟩, hs', hes'.trans hes⟩
  · rw [run_bind_error hrun]
    exact ⟨⟨_, rfl⟩, hs', hes'.trans hes⟩

theorem fails_finish (h : s.Overtakes c.id c.version) (active : c.isActive = true) :
    (stored c.finish).Fails env s es es := by
  rw [finish, if_pos active]
  exact fails_change h .complete

-- What follows a message fails, so whatever the sender says, the message and no more is handed over.
theorem fails_deliver {now : Instant} (shows : env.Shows now) {m : Message}
    (hm : m.requiresWindow = true) {k : Receipt → Step AutomationError α}
    (hk : ∀ receipt es, (k receipt).Fails env s es es) :
    (c.deliver m >>= k).Fails env s es
      (c.handed (env.atTime now) es ((some m).filter fun _ => Window.isOpen c.lastInbound now)) := by
  cases hopen : Window.isOpen c.lastInbound now with
  | false => exact (leads_deliver_closed shows hopen hm).fails.bind k
  | true =>
    cases hsent : env.sender es (c.intent m) with
    | error e => exact (leads_deliver_error shows hopen hm hsent).fails.bind k
    | ok receipt => exact (leads_deliver_ok shows hopen hm hsent).bind_fails (hk receipt _)

end Conversation

/-! ## 3. Executing a node for an overtaken copy -/

namespace Flow

variable {f : Flow}

theorem fails_followEdge (h : s.Overtakes c.id c.version) (active : c.isActive = true)
    (node : String) (receipt : Option Receipt) :
    (f.followEdge c node receipt).Fails env s es es := by
  unfold followEdge
  split
  · exact (Conversation.fails_change h _).bind _
  · exact (Conversation.fails_finish h active).bind _

theorem fails_prompt {now : Instant} (shows : env.Shows now) (h : s.Overtakes c.id c.version)
    {m : Message} (hm : m.requiresWindow = true) :
    (prompt c m).Fails env s es
      (c.handed (env.atTime now) es ((some m).filter fun _ => Window.isOpen c.lastInbound now)) :=
  Conversation.fails_deliver shows hm fun _ _ => (Conversation.fails_change h _).bind _

/-- A node that changes its conversation (`hchange`) fails for a copy that the store `Overtakes`,
after its message. -/
theorem fails_executeNode {now : Instant} (shows : env.Shows now) (es : List Exchange)
    (h : s.Overtakes c.id c.version) (active : c.isActive = true) {n : Node}
    (hn : f.node? c.node = some n) {l : Leg} (hl : f.leg? env.now c = some l)
    (hchange : l.change ≠ none) :
    (f.executeNode c n).Fails env s es
      (c.handed (env.atTime now) es
        (l.message.filter fun _ => Window.isOpen c.lastInbound now)) := by
  have hleave (node : String) (receipt : Option Receipt) (es : List Exchange) :=
    @fails_followEdge env s es c f h active node receipt
  have hend (receipt : Option Receipt) (es : List Exchange) :
      (do let c' ← stored c.finish; return (c', NodeResult.ended receipt)).Fails env s es es :=
    (Conversation.fails_finish h active).bind _
  have hkind := nodeLeg_of_leg? hl hn
  obtain ⟨id, kind⟩ := n
  dsimp only at hkind
  unfold executeNode
  cases hkind with
  | trigger =>
    rw [message_leave]
    exact hleave id none es
  | message text =>
    rw [message_leave]
    exact Conversation.fails_deliver shows rfl fun receipt es => hleave id (some receipt) es
  | buttons text bs variableName => exact fails_prompt shows h rfl
  | delayed seconds resume => exact absurd rfl hchange
  | delay seconds t resume ends =>
    have hdeadline : (f.deadline id seconds).Leads env s es (.ok t) s es := by
      unfold deadline
      refine .bind .now ?_
      rw [ends]
      exact .pure _
    dsimp only
    rw [resume]
    exact hdeadline.bind_fails ((Conversation.fails_change h _).bind _)
  | form formId body callToAction => exact fails_prompt shows h rfl
  | finish => exact (Step.Leads.pure none).bind_fails (hend none es)
  | finishBlank text blank =>
    simp only [blank, if_true]
    exact (Step.Leads.pure none).bind_fails (hend none es)
  | finishText text blank =>
    simp only [blank, Bool.false_eq_true, if_false, bind_map_left]
    exact Conversation.fails_deliver shows rfl fun receipt es => hend (some receipt) es

-- A delay that has begun is the only node that changes nothing. It sends nothing either.
theorem leads_executeNode_begun (es : List Exchange) {n : Node} (hn : f.node? c.node = some n)
    {l : Leg} (hl : f.leg? env.now c = some l) (hchange : l.change = none) :
    l.message = none ∧ ∃ r, (f.executeNode c n).Leads env s es (.ok (c, r)) s es := by
  have hleave (message : Option Message) : (f.leave c message).change ≠ none := by
    unfold leave
    split <;> simp
  have hkind := nodeLeg_of_leg? hl hn
  obtain ⟨id, kind⟩ := n
  dsimp only at hkind
  unfold executeNode
  cases hkind with
  | delayed seconds resume =>
    dsimp only
    rw [resume]
    exact ⟨rfl, _, .pure _⟩
  | trigger | message => exact absurd hchange (hleave _)
  | buttons | delay | form | finish | finishBlank | finishText => cases hchange

end Flow

namespace Flow

/-- What comes of `Flow.execute` for a copy whose `version` nobody has any more. -/
structure Overtaken (f : Flow) (c : Conversation) (node : String) (version : Int)
    (env : Environment) (w : World) : Prop where
  /-- Nothing is written. -/
  store : (f.execute c node version env w).2.store = w.store
  /-- What the node sends is handed over for a copy that may execute it, and for no other. -/
  handed : (f.execute c node version env w).2.exchanges =
    c.handed (env.atTime (env.clock (w.readings + 1))) w.exchanges (f.handing? c node version env w)
  /-- For a copy that may not execute the node nothing happens at all. -/
  idle : f.admits c node version = false →
    f.execute c node version env w = (.ok (c, { next := some c.node, alreadyDone := true }), w)
  /-- Who has sent something is told that it failed. -/
  failed : f.handing? c node version env w ≠ none →
    ∃ e, (f.execute c node version env w).1 = .error e

variable {f : Flow}

theorem execute_of_not_admits {node : String} {version : Int}
    (h : f.admits c node version = false) (env : Environment) (w : World) :
    f.execute c node version env w =
      (.ok (c, { next := some c.node, alreadyDone := true }), w) := by
  rw [execute, h]
  rfl

-- Where no leg can be made, nothing happens but that the execution fails.
theorem execute_of_no_leg {w : World} (active : c.isActive = true) (flow : c.flow = f.id)
    (hl : f.leg? (env.clock w.readings) c = none) :
    ∃ e, (f.execute c c.node c.version env w).1 = .error e ∧
      (f.execute c c.node c.version env w).2.store = w.store ∧
      (f.execute c c.node c.version env w).2.exchanges = w.exchanges := by
  cases hn : f.node? c.node with
  | none =>
    rw [execute, admits_self active flow, if_pos rfl, node, hn]
    exact ⟨_, rfl, rfl, rfl⟩
  | some n =>
    have hl : f.leg? (env.asOf w).now c = none := hl
    obtain ⟨e, hleads⟩ := leads_executeNode_none w.store w.exchanges hl hn
    obtain ⟨hresult, hstore, hexchanges, -⟩ := hleads w.reading rfl rfl
    rw [execute_self active flow hn]
    exact ⟨e, hresult, hstore, hexchanges⟩

-- A copy that may execute a node is active, stands on it and has the version that is asked for.
theorem eq_of_admits {node : String} {version : Int} (h : f.admits c node version = true) :
    c.isActive = true ∧ c.flow = f.id ∧ c.node = node ∧ c.version = version := by
  simpa [admits, and_assoc] using h

/-- **An overtaken copy writes nothing, and sends no more than the message of its node.** Where no
row of its conversation has the version that is asked for (`Store.Overtakes`), executing a node
leaves the store as it is, whatever else fails. The sender is handed nothing unless the copy itself
has that version, is active and stands on the node (`Flow.admits`); then it is handed what the node
sends, while the window is open, and the caller is told that it failed. -/
theorem execute_overtaken {node : String} {version : Int} {w : World}
    (overtaken : w.store.Overtakes c.id version) : f.Overtaken c node version env w := by
  cases hadmits : f.admits c node version with
  | false =>
    have hrun := execute_of_not_admits hadmits env w
    have hsilent : f.handing? c node version env w = none := by
      rw [handing?, hadmits, if_neg Bool.false_ne_true]
    exact ⟨by rw [hrun], by rw [hrun, hsilent]; rfl, fun _ => hrun, fun h => absurd hsilent h⟩
  | true =>
    obtain ⟨active, flow, rfl, rfl⟩ := eq_of_admits hadmits
    have hidle (h : f.admits c c.node c.version = false) : f.execute c c.node c.version env w =
        (.ok (c, { next := some c.node, alreadyDone := true }), w) := by
      rw [hadmits] at h
      cases h
    have hhanding : f.handing? c c.node c.version env w =
        ((f.leg? (env.clock w.readings) c).bind (·.message)).filter fun _ =>
          Window.isOpen c.lastInbound (env.clock (w.readings + 1)) := by
      rw [handing?, hadmits, if_pos rfl]
    cases hl : f.leg? (env.clock w.readings) c with
    | none =>
      rw [hl, Option.bind_none, Option.filter_none] at hhanding
      obtain ⟨e, hresult, hstore, hexchanges⟩ := execute_of_no_leg active flow hl
      exact ⟨hstore, by rw [hexchanges, hhanding]; rfl, hidle, fun _ => ⟨e, hresult⟩⟩
    | some l =>
      rw [hl, Option.bind_some] at hhanding
      obtain ⟨n, hn⟩ := node_of_leg?_eq_some hl
      have hleg : f.leg? (env.asOf w).now c = some l := hl
      by_cases hchange : l.change = none
      · obtain ⟨hmessage, r, hleads⟩ :=
          leads_executeNode_begun (s := w.store) w.exchanges hn hleg hchange
        rw [hmessage, Option.filter_none] at hhanding
        obtain ⟨-, hstore, hexchanges, -⟩ := hleads w.reading rfl rfl
        have hexecute : f.execute c c.node c.version env w =
            f.executeNode c n (env.asOf w) w.reading := by
          rw [execute_self active flow hn]
          rfl
        rw [← hexecute] at hstore hexchanges
        exact ⟨hstore, by rw [hexchanges, hhanding]; rfl, hidle, fun h => absurd hhanding h⟩
      · have shows := (env.asOf w).shows_stoppedAt (env.clock (w.readings + 1))
        obtain ⟨hresult, hstore, hexchanges⟩ :=
          fails_executeNode shows w.exchanges overtaken active hn hl hchange w.reading rfl rfl
        rw [← (run_execute active flow hn hl).1] at hresult hstore hexchanges
        exact ⟨hstore, by rw [hexchanges, hhanding]; rfl, hidle, fun _ => hresult⟩

/-- A copy of a conversation that is to be greeted. -/
def greeted : Conversation :=
  .begun (.ofNat 0) "shop" "main" "555" greeting.id "hello" (some (.ofSeconds 0)) (.ofSeconds 0)

/-- A world in which the conversation of `greeted` was greeted through another copy. -/
def overtaking : World :=
  (greeting.execute greeted "hello" 1 .passing
    { World.start {} with store := { states := [.ofConversation greeted] } }).2

/-- Through the copy `greeted`, which was overtaken, the same person is greeted once more. -/
theorem execute_overtaken_greeting :
    overtaking.store.Overtakes greeted.id 1 ∧
      overtaking.exchanges.map (·.time) = [.ofSeconds 60] ∧
      greeting.handing? greeted "hello" 1 .passing overtaking = some (.text "Hello") ∧
      (greeting.execute greeted "hello" 1 .passing overtaking).2.exchanges.map (·.time) =
        [.ofSeconds 180, .ofSeconds 60] ∧
      greeting.Overtaken greeted "hello" 1 .passing overtaking := by
  have overtaken : overtaking.store.Overtakes greeted.id 1 := by
    unfold Store.Overtakes
    decide +kernel
  exact ⟨overtaken, by decide +kernel, by decide +kernel, by decide +kernel,
    execute_overtaken overtaken⟩

end Flow

end

end Autoresponder
