import Autoresponder.Proofs.Engine.Leads

/-!
# Walks

What a pass does, apart from the sender, is known beforehand: from where a conversation stands, node
by node, which messages it hands over, how the conversation changes and where it stops. A pass is
such a walk until the sender refuses a message; then the conversation is left where it stood, and
the rest of the walk is still to be done.
-/

namespace Autoresponder

open Step

/-! ## 1. One node -/

/-- A message that asks for a reply. -/
def Message.isPrompt : Message → Bool
  | buttons _ _ => true
  | form _ _ _ _ => true
  | _ => false

/-- What `executeNode` comes to when the message, if there is one, is accepted. -/
structure Leg where
  message : Option Message
  change : Option Conversation.Change
  stop : Option Stop

namespace Leg

/-- The conversation after the leg `l`. -/
def apply (l : Leg) (now : Instant) (c : Conversation) : Conversation :=
  match l.change with
  | some ch => c.after ch now
  | none => c

/-- The store after the leg `l`. -/
def write (l : Leg) (now : Instant) (c : Conversation) (s : Store) : Store :=
  match l.change with
  | some ch => s.set (c.after ch now)
  | none => s

/-- The message of the leg `l`, if it has one, is accepted. -/
def Accepted (l : Leg) (env : Environment) (es : List Exchange) (c : Conversation) : Prop :=
  ∀ m, l.message = some m → ∃ r, env.sender es (c.intent m) = .ok r

/-- What was handed to the sender after the leg `l`. -/
def handed (l : Leg) (env : Environment) (es : List Exchange) (c : Conversation) : List Exchange :=
  match l.message with
  | some m => c.exchange env es m :: es
  | none => es

end Leg

namespace Flow

/-- Moves on to the node that follows, or ends the conversation. -/
def leave (f : Flow) (c : Conversation) (message : Option Message) : Leg :=
  match f.next? c.node with
  | some next => ⟨message, some (.advance next), none⟩
  | none => ⟨message, some .complete, some .completed⟩

/-- The leg from where a conversation stands, if it can go on. -/
def leg? (f : Flow) (now : Instant) (c : Conversation) : Option Leg :=
  (f.node? c.node).bind fun n =>
    match n.kind with
    | .trigger => some (f.leave c none)
    | .message text => some (f.leave c (some (.text (c.render text))))
    | .buttons text bs _ =>
      some ⟨some (.buttons (c.render text) (shownButtons bs c.collected c.phone)),
        some .markWaiting, some (.waiting c.node)⟩
    | .delay seconds =>
      match c.resumeAt with
      | some t => some ⟨none, none, some (.delayed c.node t)⟩
      | none => (now.add? (Span.ofSeconds seconds.toNat)).map fun t =>
          ⟨none, some (.scheduleResume t), some (.delayed c.node t)⟩
    | .form id body callToAction =>
      some ⟨some (.form id (c.render body) callToAction c.id), some .markWaiting,
        some (.waiting c.node)⟩
    | .finish message =>
      some ⟨(message.filter fun t => !Text.blank t).map fun t => .text (c.render t),
        some .complete, some .completed⟩

section

variable {env : Environment} {s : Store} {es : List Exchange} {f : Flow} {c : Conversation}

theorem leads_followEdge (faultless : env.Faultless) (hs : s.Consistent) (held : s.Holds c)
    (active : c.isActive = true) (message : Option Message) (receipt : Option Receipt) :
    ∃ r, (f.followEdge c c.node receipt).Leads env s es
        (.ok ((f.leave c message).apply env.now c, r)) ((f.leave c message).write env.now c s) es ∧
      stopAfter c.node r = (f.leave c message).stop ∧ r.sent = receipt.isSome := by
  unfold followEdge leave
  cases f.next? c.node with
  | some next =>
    refine ⟨.advanced next receipt, ?_, rfl, rfl⟩
    exact .bind (Conversation.leads_change faultless hs held active _) (.pure _)
  | none =>
    refine ⟨.ended receipt, ?_, rfl, rfl⟩
    exact .bind (Conversation.leads_finish faultless hs held active) (.pure _)

theorem node?_id {node : String} {n : Node} (h : f.node? node = some n) : n.id = node := by
  simpa using List.find?_some h

@[simp] theorem message_leave (message : Option Message) :
    (f.leave c message).message = message := by
  unfold leave
  split <;> rfl

/-- The leg of a node, by what the node does. -/
inductive NodeLeg (f : Flow) (now : Instant) (c : Conversation) : NodeKind → Leg → Prop where
  | trigger : NodeLeg f now c .trigger (f.leave c none)
  | message (text : String) :
      NodeLeg f now c (.message text) (f.leave c (some (.text (c.render text))))
  | buttons (text : String) (bs : List Button) (variableName : Option String) :
      NodeLeg f now c (.buttons text bs variableName)
        ⟨some (.buttons (c.render text) (shownButtons bs c.collected c.phone)),
          some .markWaiting, some (.waiting c.node)⟩
  | delayed (seconds : UInt64) {t : Instant} (resume : c.resumeAt = some t) :
      NodeLeg f now c (.delay seconds) ⟨none, none, some (.delayed c.node t)⟩
  | delay (seconds : UInt64) (t : Instant) (resume : c.resumeAt = none)
      (ends : now.add? (Span.ofSeconds seconds.toNat) = some t) :
      NodeLeg f now c (.delay seconds)
        ⟨none, some (.scheduleResume t), some (.delayed c.node t)⟩
  | form (id body callToAction : String) :
      NodeLeg f now c (.form id body callToAction)
        ⟨some (.form id (c.render body) callToAction c.id), some .markWaiting,
          some (.waiting c.node)⟩
  | finish : NodeLeg f now c (.finish none) ⟨none, some .complete, some .completed⟩
  | finishBlank (text : String) (blank : Text.blank text = true) :
      NodeLeg f now c (.finish (some text)) ⟨none, some .complete, some .completed⟩
  | finishText (text : String) (blank : Text.blank text = false) :
      NodeLeg f now c (.finish (some text))
        ⟨some (.text (c.render text)), some .complete, some .completed⟩

theorem node_of_leg?_eq_some {now : Instant} {l : Leg} (hl : f.leg? now c = some l) :
    ∃ n, f.node? c.node = some n := by
  rw [leg?] at hl
  obtain ⟨n, hn, -⟩ := Option.bind_eq_some_iff.mp hl
  exact ⟨n, hn⟩

/-- Every leg is one of these (`NodeLeg`). What follows about legs goes through them. -/
theorem nodeLeg_of_leg? {now : Instant} {l : Leg} (hl : f.leg? now c = some l) {n : Node}
    (hn : f.node? c.node = some n) : NodeLeg f now c n.kind l := by
  rw [leg?, hn, Option.bind_some] at hl
  cases hkind : n.kind with
  | delay seconds =>
    rw [hkind] at hl
    cases hresume : c.resumeAt with
    | some t =>
      rw [hresume] at hl
      obtain rfl := Option.some.inj hl
      exact .delayed seconds hresume
    | none =>
      rw [hresume] at hl
      obtain ⟨t, ht, rfl⟩ := Option.map_eq_some_iff.mp hl
      exact .delay seconds t hresume ht
  | finish message =>
    rw [hkind] at hl
    obtain rfl := Option.some.inj hl
    cases message with
    | none => exact .finish
    | some text =>
      cases hblank : Text.blank text with
      | true =>
        have hsilent : (some text).filter (fun t => !Text.blank t) = none := by simp [hblank]
        rw [hsilent]
        exact .finishBlank text hblank
      | false =>
        have htold : (some text).filter (fun t => !Text.blank t) = some text := by simp [hblank]
        rw [htold]
        exact .finishText text hblank
  | _ =>
    rw [hkind] at hl
    obtain rfl := Option.some.inj hl
    constructor

-- A message that is accepted is handed over.
theorem leads_message {now : Instant} (shows : env.Shows now) {l : Leg} {m : Message}
    (hm : l.message = some m) (hwindow : m.requiresWindow = true)
    (hopen : Window.isOpen c.lastInbound now = true) (accepted : l.Accepted env es c) :
    ∃ r, (c.deliver m).Leads env s es (.ok r) s (l.handed (env.atTime now) es c) := by
  obtain ⟨r, hr⟩ := accepted m hm
  have hhanded : l.handed (env.atTime now) es c = c.exchange (env.atTime now) es m :: es := by
    rw [Leg.handed, hm]
  rw [hhanded]
  exact ⟨r, Conversation.leads_deliver_ok shows hopen hwindow hr⟩

-- A node whose message is accepted is left, or waited on, as its leg says. The clock may show another
-- time when the message is sent.
theorem leads_executeNode {now : Instant} (faultless : env.Faultless) (shows : env.Shows now)
    (hs : s.Consistent) (held : s.Holds c) (active : c.isActive = true) {n : Node}
    (hn : f.node? c.node = some n) {l : Leg} (hl : f.leg? env.now c = some l)
    (hopen : l.message ≠ none → Window.isOpen c.lastInbound now = true)
    (accepted : l.Accepted env es c) :
    ∃ r, (f.executeNode c n).Leads env s es (.ok (l.apply env.now c, r)) (l.write env.now c s)
        (l.handed (env.atTime now) es c) ∧
      stopAfter c.node r = l.stop ∧ r.sent = l.message.isSome := by
  have hchange (ch : Conversation.Change) (es : List Exchange) :=
    @Conversation.leads_change env s es faultless hs c held active ch
  have hend (receipt : Option Receipt) (es : List Exchange) :
      (do let c' ← stored c.finish; return (c', NodeResult.ended receipt)).Leads env s es
        (.ok (c.after .complete env.now, .ended receipt)) (s.set (c.after .complete env.now)) es :=
    .bind (Conversation.leads_finish faultless hs held active) (.pure _)
  have hid := node?_id hn
  have hkind := nodeLeg_of_leg? hl hn
  obtain ⟨id, kind⟩ := n
  dsimp only at hid hkind
  subst hid
  unfold executeNode
  cases hkind with
  | trigger =>
    have hhanded : (f.leave c none).handed (env.atTime now) es c = es := by simp [Leg.handed]
    rw [hhanded, message_leave]
    exact leads_followEdge faultless hs held active none none
  | message text =>
    obtain ⟨r, hdeliver⟩ := leads_message shows (message_leave _) rfl (hopen (by simp)) accepted
    obtain ⟨result, hfollow, hstop, hsent⟩ :=
      leads_followEdge faultless hs held active (some (.text (c.render text))) (some r)
    exact ⟨result, .bind hdeliver hfollow, hstop, hsent.trans (by rw [message_leave]; rfl)⟩
  | buttons text bs variableName =>
    obtain ⟨r, hdeliver⟩ := leads_message shows rfl rfl (hopen (by simp)) accepted
    exact ⟨.waiting r, .bind hdeliver (.bind (hchange _ _) (.pure _)), rfl, rfl⟩
  | delayed seconds resume =>
    dsimp only
    rw [resume]
    exact ⟨_, .pure _, rfl, rfl⟩
  | delay seconds t resume ends =>
    have hdeadline : (f.deadline c.node seconds).Leads env s es (.ok t) s es := by
      unfold deadline
      refine .bind .now ?_
      rw [ends]
      exact .pure _
    dsimp only
    rw [resume]
    exact ⟨_, .bind hdeadline (.bind (hchange _ _) (.pure _)), rfl, rfl⟩
  | form id body callToAction =>
    obtain ⟨r, hdeliver⟩ := leads_message shows rfl rfl (hopen (by simp)) accepted
    exact ⟨.waiting r, .bind hdeliver (.bind (hchange _ _) (.pure _)), rfl, rfl⟩
  | finish => exact ⟨_, .bind (.pure none) (hend _ _), rfl, rfl⟩
  | finishBlank text blank =>
    simp only [blank, if_true]
    exact ⟨_, .bind (.pure none) (hend _ _), rfl, rfl⟩
  | finishText text blank =>
    obtain ⟨r, hdeliver⟩ := leads_message shows rfl rfl (hopen (by simp)) accepted
    simp only [blank, Bool.false_eq_true, if_false]
    exact ⟨_, .bind (.map hdeliver) (hend _ _), rfl, rfl⟩

-- A node whose message cannot be delivered fails for that reason.
theorem leads_executeNode_error {n : Node} (hn : f.node? c.node = some n) {l : Leg}
    (hl : f.leg? env.now c = some l) {m : Message} (hm : l.message = some m)
    {e : AutomationError} {es₁ : List Exchange}
    (hdeliver : (c.deliver m).Leads env s es (.error e) s es₁) :
    (f.executeNode c n).Leads env s es (.error e) s es₁ := by
  have hkind := nodeLeg_of_leg? hl hn
  obtain ⟨id, kind⟩ := n
  dsimp only at hkind
  unfold executeNode
  cases hkind with
  | trigger => simp at hm
  | message text =>
    obtain rfl := Option.some.inj ((message_leave _).symm.trans hm)
    exact .bind_error hdeliver
  | buttons text bs variableName =>
    obtain rfl := Option.some.inj hm
    exact .bind_error hdeliver
  | form id body callToAction =>
    obtain rfl := Option.some.inj hm
    exact .bind_error hdeliver
  | finishText text blank =>
    obtain rfl := Option.some.inj hm
    simp only [blank, Bool.false_eq_true, if_false]
    exact .bind_error (.map_error hdeliver)
  | delayed | delay | finish | finishBlank => cases hm

-- A node that sends something prompts the person and waits, or is left with its message.
theorem node_of_leg? {now : Instant} {l : Leg} (hl : f.leg? now c = some l) {m : Message}
    (hm : l.message = some m) :
    ∃ n, f.node? c.node = some n ∧ n.kind.isDelay = false ∧
      ((m.isPrompt = false ∧ ((∃ text, n.kind = .message text) ∨ ∃ text, n.kind = .finish text)) ∨
        (m.isPrompt = true ∧ l.stop = some (.waiting c.node) ∧
          ((∃ text bs variableName, n.kind = .buttons text bs variableName) ∨
            ∃ id body callToAction, n.kind = .form id body callToAction))) := by
  obtain ⟨n, hn⟩ := node_of_leg?_eq_some hl
  have hkind := nodeLeg_of_leg? hl hn
  refine ⟨n, hn, ?_⟩
  generalize n.kind = kind at hkind ⊢
  cases hkind with
  | trigger => simp at hm
  | message text =>
    obtain rfl := Option.some.inj ((message_leave _).symm.trans hm)
    exact ⟨rfl, .inl ⟨rfl, .inl ⟨_, rfl⟩⟩⟩
  | buttons text bs variableName =>
    obtain rfl := Option.some.inj hm
    exact ⟨rfl, .inr ⟨rfl, rfl, .inl ⟨_, _, _, rfl⟩⟩⟩
  | form id body callToAction =>
    obtain rfl := Option.some.inj hm
    exact ⟨rfl, .inr ⟨rfl, rfl, .inr ⟨_, _, _, rfl⟩⟩⟩
  | finishText text blank =>
    obtain rfl := Option.some.inj hm
    exact ⟨rfl, .inl ⟨rfl, .inr ⟨_, rfl⟩⟩⟩
  | delayed | delay | finish | finishBlank => cases hm

-- The messages of nodes need an open window.
theorem requiresWindow_of_leg? {now : Instant} {l : Leg} (hl : f.leg? now c = some l) {m : Message}
    (hm : l.message = some m) : m.requiresWindow = true := by
  obtain ⟨n, hn⟩ := node_of_leg?_eq_some hl
  have hkind := nodeLeg_of_leg? hl hn
  generalize n.kind = kind at hkind
  cases hkind with
  | trigger => simp at hm
  | message text =>
    obtain rfl := Option.some.inj ((message_leave _).symm.trans hm)
    rfl
  | buttons | form | finishText =>
    obtain rfl := Option.some.inj hm
    rfl
  | delayed | delay | finish | finishBlank => cases hm

-- Where the pass goes on, the conversation has moved.
theorem change_of_leg? {now : Instant} {l : Leg} (hl : f.leg? now c = some l)
    (hstop : l.stop = none) : ∃ next, l.change = some (.advance next) := by
  have hleave {message : Option Message} (h : (f.leave c message).stop = none) :
      ∃ next, (f.leave c message).change = some (.advance next) := by
    unfold leave at h ⊢
    split
    · exact ⟨_, rfl⟩
    · rename_i hnext
      rw [hnext] at h
      cases h
  obtain ⟨n, hn⟩ := node_of_leg?_eq_some hl
  have hkind := nodeLeg_of_leg? hl hn
  generalize n.kind = kind at hkind
  cases hkind with
  | trigger | message => exact hleave hstop
  | buttons | delayed | delay | form | finish | finishBlank | finishText => cases hstop

theorem admits_self (active : c.isActive = true) (flow : c.flow = f.id) :
    f.admits c c.node c.version = true := by
  simp [admits, active, flow]

-- Where no leg can be made, nothing happens and the pass fails.
theorem leads_executeNode_none (s : Store) (es : List Exchange)
    (hl : f.leg? env.now c = none) {n : Node} (hn : f.node? c.node = some n) :
    ∃ e, (f.executeNode c n).Leads env s es (.error e) s es := by
  rw [leg?, hn, Option.bind_some] at hl
  unfold executeNode
  cases hkind : n.kind with
  | delay seconds =>
    rw [hkind] at hl
    cases hresume : c.resumeAt with
    | some t => rw [hresume] at hl; cases hl
    | none =>
      rw [hresume] at hl
      have hdeadline : (f.deadline n.id seconds).Leads env s es
          (.error (.flow (.invalidGraph f.id
            ("delay node '" ++ n.id ++ "' duration out of range")))) s es := by
        unfold deadline
        refine .bind .now ?_
        rw [Option.map_eq_none_iff.mp hl]
        exact .throw _
      exact ⟨_, .bind_error hdeadline⟩
  | _ => rw [hkind] at hl; cases hl

theorem leads_execute_none (still : env.Still) (s : Store) (es : List Exchange)
    (active : c.isActive = true) (flow : c.flow = f.id) (hl : f.leg? env.now c = none) :
    ∃ e, (f.execute c c.node c.version).Leads env s es (.error e) s es := by
  rw [execute, admits_self active flow, if_pos rfl, node]
  cases hn : f.node? c.node with
  | none => exact ⟨_, .throw _⟩
  | some n =>
    obtain ⟨e, hleads⟩ := leads_executeNode_none s es hl hn
    exact ⟨e, .timed still hleads⟩

end

end Flow

/-! ## 2. Many nodes -/

namespace Conversation

/-- A conversation but for its version and for when it was created and changed. -/
def bare (c : Conversation) : Conversation :=
  { c with version := 0, created := default, updated := default }

-- A change depends on nothing else.
theorem bare_after (c : Conversation) (ch : Change) (now : Instant) :
    (c.after ch now).bare = (c.bare.after ch now).bare := by
  cases ch with
  | recordInbound time =>
    simp only [after, Change.apply, bare]
    split
    · split <;> rfl
    · rfl
  | _ => rfl

theorem after_congr {c d : Conversation} (h : c.bare = d.bare) (ch : Change) (now : Instant) :
    (c.after ch now).bare = (d.after ch now).bare := by
  rw [bare_after c, bare_after d, h]

end Conversation

theorem Leg.apply_congr {l : Leg} {c d : Conversation} (h : c.bare = d.bare) (now : Instant) :
    (l.apply now c).bare = (l.apply now d).bare := by
  unfold apply
  split
  · exact Conversation.after_congr h _ now
  · exact h

theorem Leg.same_apply (l : Leg) (now : Instant) (c : Conversation) : (l.apply now c).Same c := by
  unfold apply
  split
  · exact c.same_after _ now
  · exact .refl c

namespace Flow

theorem leg?_congr {f : Flow} {now : Instant} {c d : Conversation} (h : c.bare = d.bare) :
    f.leg? now c = f.leg? now d := by
  have hbare (c : Conversation) : f.leg? now c.bare = f.leg? now c := rfl
  rw [← hbare c, h, hbare d]

/-- By `k` legs from a conversation to `last`, with the messages on the way, and why it goes no
further. -/
inductive Walk (f : Flow) (now : Instant) :
    Nat → Conversation → List Message → Conversation → Stop → Prop where
  | stop {c : Conversation} {l : Leg} {stop : Stop} (leg : f.leg? now c = some l)
      (window : l.message ≠ none → Window.isOpen c.lastInbound now = true)
      (stops : l.stop = some stop) : Walk f now 1 c l.message.toList (l.apply now c) stop
  | go {k : Nat} {c last : Conversation} {l : Leg} {ms : List Message} {stop : Stop}
      (leg : f.leg? now c = some l)
      (window : l.message ≠ none → Window.isOpen c.lastInbound now = true)
      (goes : l.stop = none) (rest : Walk f now k (l.apply now c) ms last stop) :
      Walk f now (k + 1) c (l.message.toList ++ ms) last stop

section

variable {f : Flow} {now : Instant} {k : Nat} {c d last : Conversation} {ms : List Message}
  {stop : Stop}

-- Where a walk leads does not depend on versions, nor on when the conversation was changed.
theorem Walk.congr (h : Walk f now k c ms last stop) (hbare : d.bare = c.bare) :
    ∃ last', Walk f now k d ms last' stop ∧ last'.bare = last.bare := by
  induction h generalizing d with
  | @stop c l stop leg window stops =>
    have hlast : d.lastInbound = c.lastInbound := (congrArg Conversation.lastInbound hbare :)
    exact ⟨_, .stop ((leg?_congr hbare).trans leg) (hlast ▸ window) stops,
      Leg.apply_congr hbare now⟩
  | @go k c last l ms stop leg window goes rest ih =>
    have hlast : d.lastInbound = c.lastInbound := (congrArg Conversation.lastInbound hbare :)
    obtain ⟨last', hwalk, hlast'⟩ := ih (Leg.apply_congr (l := l) hbare now)
    exact ⟨last', .go ((leg?_congr hbare).trans leg) (hlast ▸ window) goes hwalk, hlast'⟩

theorem Walk.leg (h : Walk f now k c ms last stop) : ∃ l, f.leg? now c = some l := by
  cases h with
  | stop leg _ _ => exact ⟨_, leg⟩
  | go leg _ _ _ => exact ⟨_, leg⟩

-- The message of the first leg comes first.
theorem Walk.messages (h : Walk f now k c ms last stop) {l : Leg} (hl : f.leg? now c = some l) :
    ∃ after, ms = l.message.toList ++ after := by
  cases h with
  | stop leg _ _ =>
    rw [hl] at leg
    cases leg
    exact ⟨[], (List.append_nil _).symm⟩
  | go leg _ _ _ =>
    rw [hl] at leg
    cases leg
    exact ⟨_, rfl⟩

-- Where a walk leads is a state of the conversation it begins with.
theorem Walk.same (h : Walk f now k c ms last stop) : last.Same c := by
  induction h with
  | stop leg _ _ => exact Leg.same_apply _ _ _
  | go leg _ _ _ ih => exact ih.trans (Leg.same_apply _ _ _)

theorem Walk.updated (h : Walk f now k c ms last stop) (hc : c.updated = now) :
    last.updated = now := by
  have hleg (l : Leg) {c : Conversation} (hc : c.updated = now) :
      (l.apply now c).updated = now := by
    unfold Leg.apply
    split
    · rfl
    · exact hc
  induction h with
  | stop _ _ _ => exact hleg _ hc
  | go _ _ _ _ ih => exact ih (hleg _ hc)

end

end Flow

/-! ## 3. Passes -/

def Pass.count (pass : Pass) (sent : Bool) : Pass :=
  { pass with executed := pass.executed + 1, sent := if sent then pass.sent + 1 else pass.sent }

/-- A copy that came from another one by moving on from node to node. -/
def Conversation.Moved (c d : Conversation) : Prop :=
  c.bare = { d.bare with node := c.node, resumeAt := none }

theorem Conversation.Moved.trans {a b c : Conversation} (h : a.Moved b) (h' : b.Moved c) :
    a.Moved c := by
  unfold Moved at *
  rw [h, h']

-- A copy that has moved on is one that moved nowhere from there.
theorem Conversation.Moved.refl_of {c d : Conversation} (h : c.Moved d) : c.Moved c := by
  unfold Moved at *
  rw [h]

/-- The messages `ms` to the person of a conversation were handed over one after the other and
accepted. -/
structure Delivered (c : Conversation) (ms : List Message) (done : List Exchange) : Prop where
  intents : done.map (·.intent) = (ms.map c.intent).reverse
  accepted : ∀ x ∈ done, x.accepted = true

theorem delivered_nil (c : Conversation) : Delivered c [] [] := ⟨rfl, by simp⟩

theorem Conversation.Same.intent_eq {c d : Conversation} (h : c.Same d) : c.intent = d.intent := by
  funext m
  rw [Conversation.intent, Conversation.intent, h.workspace, h.account, h.phone]

theorem Delivered.of_same {c d : Conversation} {ms : List Message} {done : List Exchange}
    (h : Delivered d ms done) (hsame : d.Same c) : Delivered c ms done where
  intents := by rw [h.intents, hsame.intent_eq]
  accepted := h.accepted

theorem Delivered.append {c d : Conversation} {ms ms' : List Message} {done done' : List Exchange}
    (h : Delivered c ms done) (h' : Delivered d ms' done') (hsame : d.Same c) :
    Delivered c (ms ++ ms') (done' ++ done) where
  intents := by
    rw [List.map_append, h.intents, (h'.of_same hsame).intents, List.map_append,
      List.reverse_append]
  accepted x hx := (List.mem_append.mp hx).elim (h'.accepted x) (h.accepted x)

namespace Flow

/-- Where a walk is left: where it begins, with nothing written, or further on, with the
conversation stored as it stands there (`Moved`). -/
inductive LeftAt (s : Store) (c : Conversation) (k : Nat) : Store → Conversation → Nat → Prop where
  | start : LeftAt s c k s c k
  | further {left : Conversation} {k' : Nat} (lt : k' < k) (moved : left.Moved c) :
      LeftAt s c k (s.set left) left k'

namespace LeftAt

variable {s s' : Store} {c left : Conversation} {k k' : Nat}

theorem le (h : LeftAt s c k s' left k') : k' ≤ k := by
  cases h with
  | start => exact Nat.le_refl _
  | further lt _ => exact Nat.le_of_lt lt

theorem eq_or_moved (h : LeftAt s c k s' left k') : left = c ∨ left.Moved c := by
  cases h with
  | start => exact .inl rfl
  | further _ moved => exact .inr moved

theorem moved_of_lt (h : LeftAt s c k s' left k') (hlt : k' < k) : left.Moved c := by
  cases h with
  | start => exact absurd hlt (Nat.lt_irrefl _)
  | further _ moved => exact moved

-- What is left further on is left on the way from before the leg that led there.
theorem of_go {d : Conversation} (h : LeftAt (s.set d) d k s' left k') (moved : d.Moved c)
    (hid : d.id = left.id) : LeftAt s c (k + 1) s' left k' := by
  cases h with
  | start => exact .further (Nat.lt_succ_self _) moved
  | further lt moved' =>
    rw [Store.set_set _ hid]
    exact .further (Nat.lt_succ_of_lt lt) (moved'.trans moved)

-- What is stored of the conversation later makes no difference.
theorem set_eq (h : LeftAt s c k s' left k') {d : Conversation} (hd : left.id = d.id) :
    s'.set d = s.set d := by
  cases h with
  | start => rfl
  | further => exact s.set_set hd

theorem states_set (h : LeftAt s c k s' left k') {t : Store} (ht : t.states = s'.states)
    {d : Conversation} (hd : left.id = d.id) : (t.set d).states = (s.set d).states := by
  rw [← h.set_eq hd]
  simp only [Store.set, ht]

-- Nothing else is written.
theorem rows_eq (h : LeftAt s c k s' left k') : s'.flows = s.flows ∧ s'.settings = s.settings := by
  cases h with
  | start => exact ⟨rfl, rfl⟩
  | further => exact ⟨rfl, rfl⟩

end LeftAt

/-- How something goes that is to make the legs of a `Walk`, from the store `s` and the exchanges
`es`: it arrives, or a message is refused and the rest of the walk is left. -/
inductive Course (f : Flow) (env : Environment) (s : Store) (es : List Exchange) (k : Nat)
    (c : Conversation) (ms : List Message) (last : Conversation) (stop : Stop)
    (x : Act (Conversation × Except AutomationError Pass)) : Prop where
  | arrived (pass : Pass) (s' : Store) (done : List Exchange)
      (leads : x.Leads env s es (last, .ok pass) s' (done ++ es)) (stops : pass.stop = stop)
      (delivered : Delivered c ms done) (written : (s' = s ∧ last = c) ∨ s' = s.set last)
      (consistent : s'.Consistent) (held : s'.Holds last)
  | refused (left : Conversation) (e : DeliveryError) (m : Message) (k' : Nat)
      (before after : List Message) (s' : Store) (done : List Exchange)
      (leads : x.Leads env s es (left, .error (.delivery e)) s'
        (left.exchange env (done ++ es) m :: (done ++ es)))
      (refusal : env.sender (done ++ es) (left.intent m) = .error e)
      (leg : ∃ l, f.leg? env.now left = some l ∧ l.message = some m)
      (messages : ms = before ++ m :: after) (delivered : Delivered c before done)
      (rest : Walk f env.now k' left (m :: after) last stop) (consistent : s'.Consistent)
      (held : s'.Holds left) (active : left.isActive = true)
      (written : LeftAt s c k s' left k')

section

variable {env : Environment} {f : Flow} {k : Nat} {c last : Conversation} {ms : List Message}
  {stop : Stop}

-- A leg whose message is accepted leaves the store consistent.
theorem leg_write (l : Leg) (now : Instant) {s : Store} (hs : s.Consistent)
    (held : s.Holds c) (active : c.isActive = true) :
    (l.write now c s).Consistent ∧ (l.write now c s).Holds (l.apply now c) := by
  unfold Leg.write Leg.apply
  split
  · exact ⟨hs.set held active (c.same_after _ now), held.set (c.same_after _ now)⟩
  · exact ⟨hs, held⟩

-- Where a leg goes on, the conversation has moved and is kept.
theorem moved_of_leg? {now : Instant} {l : Leg} (hl : f.leg? now c = some l)
    (goes : l.stop = none) (active : c.isActive = true) :
    (l.apply now c).isActive = true ∧ (l.apply now c).Moved c ∧
      ∀ s : Store, l.write now c s = s.set (l.apply now c) := by
  obtain ⟨next, hchange⟩ := change_of_leg? hl goes
  unfold Leg.apply Leg.write
  rw [hchange]
  exact ⟨active, rfl, fun _ => rfl⟩

theorem delivered_leg {env : Environment} {l : Leg} {es : List Exchange}
    (accepted : l.Accepted env es c) :
    ∃ done, l.handed env es c = done ++ es ∧ Delivered c l.message.toList done := by
  unfold Leg.handed
  cases hm : l.message with
  | none => exact ⟨[], rfl, delivered_nil c⟩
  | some m =>
    obtain ⟨r, hr⟩ := accepted m hm
    refine ⟨[c.exchange env es m], rfl, rfl, fun x hx => ?_⟩
    rw [List.mem_singleton.mp hx]
    simp [Exchange.accepted, Exchange.receipt?, Conversation.exchange, hr]

-- A leg is made, or its message is refused.
theorem leads_executeNode_or {now : Instant} {s : Store} (es : List Exchange)
    (faultless : env.Faultless) (shows : env.Shows now) (hs : s.Consistent) (held : s.Holds c)
    (active : c.isActive = true) {n : Node} (hn : f.node? c.node = some n) {l : Leg}
    (hl : f.leg? env.now c = some l)
    (window : l.message ≠ none → Window.isOpen c.lastInbound now = true) :
    (l.Accepted env es c ∧ ∃ r, (f.executeNode c n).Leads env s es
      (.ok (l.apply env.now c, r)) (l.write env.now c s) (l.handed (env.atTime now) es c) ∧
      stopAfter c.node r = l.stop ∧ r.sent = l.message.isSome) ∨
    ∃ m e, l.message = some m ∧ env.sender es (c.intent m) = .error e ∧
      (f.executeNode c n).Leads env s es (.error (.delivery e)) s
        (c.exchange (env.atTime now) es m :: es) := by
  by_cases accepted : l.Accepted env es c
  · obtain ⟨r, hr⟩ := leads_executeNode faultless shows hs held active hn hl window accepted
    exact .inl ⟨accepted, r, hr⟩
  · -- A leg without a message is accepted, so there is one and it is refused.
    unfold Leg.Accepted at accepted
    push Not at accepted
    obtain ⟨m, hm, hrefused⟩ := accepted
    cases hsender : env.sender es (c.intent m) with
    | ok r => exact absurd hsender (hrefused r)
    | error e =>
      have hdeliver : (c.deliver m).Leads env s es (.error (.delivery e)) s
          (c.exchange (env.atTime now) es m :: es) :=
        Conversation.leads_deliver_error shows (window (by simp [hm]))
          (requiresWindow_of_leg? hl hm) hsender
      exact .inr ⟨m, e, hm, hsender, leads_executeNode_error hn hl hm hdeliver⟩

-- A copy that stands on a node may execute it.
theorem execute_self (active : c.isActive = true) (flow : c.flow = f.id) {n : Node}
    (hn : f.node? c.node = some n) :
    f.execute c c.node c.version = timed (f.executeNode c n) := by
  rw [execute, admits_self active flow, if_pos rfl, node, hn]

theorem leads_execute {s : Store} (es : List Exchange) (smooth : env.Smooth)
    (hs : s.Consistent) (held : s.Holds c) (active : c.isActive = true) (flow : c.flow = f.id)
    {l : Leg} (hl : f.leg? env.now c = some l)
    (window : l.message ≠ none → Window.isOpen c.lastInbound env.now = true) :
    (l.Accepted env es c ∧ ∃ r, (f.execute c c.node c.version).Leads env s es
      (.ok (l.apply env.now c, r)) (l.write env.now c s) (l.handed env es c) ∧
      stopAfter c.node r = l.stop ∧ r.sent = l.message.isSome) ∨
    ∃ m e, l.message = some m ∧ env.sender es (c.intent m) = .error e ∧
      (f.execute c c.node c.version).Leads env s es (.error (.delivery e)) s
        (c.exchange env es m :: es) := by
  obtain ⟨n, hn⟩ := node_of_leg?_eq_some hl
  rw [execute_self active flow hn]
  rcases leads_executeNode_or es smooth.faultless smooth.still hs held active hn hl window with
    ⟨accepted, r, hleads, hr⟩ | ⟨m, e, hm, hsender, hleads⟩
  · exact .inl ⟨accepted, r, .timed smooth.still hleads, hr⟩
  · exact .inr ⟨m, e, hm, hsender, .timed smooth.still hleads⟩

-- Where the window is closed for a message, nothing is handed over and the pass fails.
theorem leads_execute_closed (still : env.Still) (s : Store) (es : List Exchange)
    (active : c.isActive = true) (flow : c.flow = f.id) {l : Leg} (hl : f.leg? env.now c = some l)
    {m : Message} (hm : l.message = some m)
    (hclosed : Window.isOpen c.lastInbound env.now = false) :
    ∃ e, (f.execute c c.node c.version).Leads env s es (.error e) s es := by
  obtain ⟨n, hn⟩ := node_of_leg?_eq_some hl
  rw [execute_self active flow hn]
  exact ⟨_, .timed still (leads_executeNode_error hn hl hm
    (Conversation.leads_deliver_closed still hclosed (requiresWindow_of_leg? hl hm)))⟩

-- A node is left or waited on as its leg says, or it fails.
theorem leads_execute_or {s : Store} (es : List Exchange) (smooth : env.Smooth)
    (hs : s.Consistent) (held : s.Holds c) (active : c.isActive = true) (flow : c.flow = f.id) :
    (∃ e s₁ es₁, (f.execute c c.node c.version).Leads env s es (.error e) s₁ es₁) ∨
    ∃ l r, f.leg? env.now c = some l ∧
      (l.message ≠ none → Window.isOpen c.lastInbound env.now = true) ∧
      (f.execute c c.node c.version).Leads env s es (.ok (l.apply env.now c, r))
        (l.write env.now c s) (l.handed env es c) ∧ stopAfter c.node r = l.stop := by
  cases hl : f.leg? env.now c with
  | none =>
    obtain ⟨e, hleads⟩ := leads_execute_none smooth.still s es active flow hl
    exact .inl ⟨e, s, es, hleads⟩
  | some l =>
    by_cases window : l.message ≠ none → Window.isOpen c.lastInbound env.now = true
    · rcases leads_execute es smooth hs held active flow hl window with
        ⟨-, r, hleads, hstop, -⟩ | ⟨m, e, -, -, hleads⟩
      · exact .inr ⟨l, r, rfl, window, hleads, hstop⟩
      · exact .inl ⟨_, _, _, hleads⟩
    · push Not at window
      obtain ⟨hmessage, hclosed⟩ := window
      obtain ⟨m, hm⟩ := Option.ne_none_iff_exists'.mp hmessage
      obtain ⟨e, hleads⟩ := leads_execute_closed smooth.still s es active flow hl hm
        (by simpa using hclosed)
      exact .inl ⟨e, s, es, hleads⟩

section

variable (budget : Nat) (sofar : Pass) {s s₁ : Store} {es es₁ : List Exchange} {next : Conversation}
  {r : NodeResult} {e : AutomationError} {stop : Stop} {w w₁ : World}

-- Without a budget a pass stops where it is.
theorem run_spent (active : c.isActive = true) :
    f.passWithin 0 sofar c env w = ((c, .ok { sofar with stop := .limitReached c.node }), w) := by
  rw [passWithin, if_neg (by simp [active])]
  rfl

-- One round of a pass executes a node, and goes by what comes of it.
theorem run_round_error (active : c.isActive = true)
    (hrun : f.execute c c.node c.version env w = (.error e, w₁)) :
    f.passWithin (budget + 1) sofar c env w = ((c, .error e), w₁) := by
  rw [passWithin, if_neg (by simp [active]), Act.run_bind, attempt, hrun]
  rfl

theorem run_round_stop (active : c.isActive = true)
    (hrun : f.execute c c.node c.version env w = (.ok (next, r), w₁))
    (hstop : stopAfter c.node r = some stop) :
    f.passWithin (budget + 1) sofar c env w =
      ((next, .ok { sofar.count r.sent with stop }), w₁) := by
  rw [passWithin, if_neg (by simp [active]), Act.run_bind, attempt, hrun]
  dsimp only
  rw [hstop]
  rfl

theorem run_round_go (active : c.isActive = true)
    (hrun : f.execute c c.node c.version env w = (.ok (next, r), w₁))
    (hstop : stopAfter c.node r = none) :
    f.passWithin (budget + 1) sofar c env w =
      f.passWithin budget (sofar.count r.sent) next env w₁ := by
  rw [passWithin, if_neg (by simp [active]), Act.run_bind, attempt, hrun]
  dsimp only
  rw [hstop]
  rfl

theorem leads_spent (s : Store) (es : List Exchange) (active : c.isActive = true) :
    (f.passWithin 0 sofar c).Leads env s es
      (c, .ok { sofar with stop := .limitReached c.node }) s es := by
  intro w hs hes
  rw [run_spent sofar active]
  exact ⟨rfl, hs, hes, rfl⟩

theorem leads_round_error (active : c.isActive = true)
    (hleads : (f.execute c c.node c.version).Leads env s es (.error e) s₁ es₁) :
    (f.passWithin (budget + 1) sofar c).Leads env s es (c, .error e) s₁ es₁ := by
  intro w hs hes
  obtain ⟨hresult, hrest⟩ := hleads w hs hes
  rw [run_round_error budget sofar active (Prod.ext hresult rfl)]
  exact ⟨rfl, hrest⟩

theorem leads_round_stop (active : c.isActive = true)
    (hleads : (f.execute c c.node c.version).Leads env s es (.ok (next, r)) s₁ es₁)
    (hstop : stopAfter c.node r = some stop) :
    (f.passWithin (budget + 1) sofar c).Leads env s es
      (next, .ok { sofar.count r.sent with stop }) s₁ es₁ := by
  intro w hs hes
  obtain ⟨hresult, hrest⟩ := hleads w hs hes
  rw [run_round_stop budget sofar active (Prod.ext hresult rfl) hstop]
  exact ⟨rfl, hrest⟩

theorem leads_round_go (active : c.isActive = true)
    (hleads : (f.execute c c.node c.version).Leads env s es (.ok (next, r)) s₁ es₁)
    (hstop : stopAfter c.node r = none) {a : Conversation × Except AutomationError Pass}
    {s₂ : Store} {es₂ : List Exchange}
    (hrest : (f.passWithin budget (sofar.count r.sent) next).Leads env s₁ es₁ a s₂ es₂) :
    (f.passWithin (budget + 1) sofar c).Leads env s es a s₂ es₂ := by
  intro w hs hes
  obtain ⟨hresult, hs₁, hes₁, hdrawn⟩ := hleads w hs hes
  rw [run_round_go budget sofar active (Prod.ext hresult rfl) hstop, ← hdrawn]
  exact hrest _ hs₁ hes₁

end

section

variable {s : Store} {es : List Exchange} {l : Leg}
  {x x' : Act (Conversation × Except AutomationError Pass)}

-- What is refused at once leaves everything as it was.
theorem Course.of_refused (walk : Walk f env.now k c ms last stop)
    (hl : f.leg? env.now c = some l) {m : Message} (hm : l.message = some m) {e : DeliveryError}
    (refusal : env.sender es (c.intent m) = .error e) (hs : s.Consistent) (held : s.Holds c)
    (active : c.isActive = true)
    (hleads : x.Leads env s es (c, .error (.delivery e)) s (c.exchange env es m :: es)) :
    Course f env s es k c ms last stop x := by
  obtain ⟨after, rfl⟩ := walk.messages hl
  rw [hm] at walk ⊢
  exact .refused c e m k [] after s [] hleads refusal ⟨l, hl, hm⟩ rfl (delivered_nil c) walk hs
    held active .start

-- What comes after a leg that stops arrives there.
theorem Course.of_stop (accepted : l.Accepted env es c) (hs : s.Consistent) (held : s.Holds c)
    (active : c.isActive = true) {pass : Pass} (hpass : pass.stop = stop)
    (hleads : x.Leads env s es (l.apply env.now c, .ok pass) (l.write env.now c s)
      (l.handed env es c)) :
    Course f env s es 1 c l.message.toList (l.apply env.now c) stop x := by
  obtain ⟨done, hhanded, hdelivered⟩ := delivered_leg accepted
  obtain ⟨hconsistent, hheld⟩ := leg_write l env.now hs held active
  rw [hhanded] at hleads
  refine .arrived pass _ done hleads hpass hdelivered ?_ hconsistent hheld
  unfold Leg.write Leg.apply
  cases l.change with
  | some ch => exact .inr rfl
  | none => exact .inl ⟨rfl, rfl⟩

-- What goes on after a leg takes the course of the rest.
theorem Course.of_go (hl : f.leg? env.now c = some l) (goes : l.stop = none)
    (rest : Walk f env.now k (l.apply env.now c) ms last stop) (accepted : l.Accepted env es c)
    (active : c.isActive = true)
    (hround : ∀ {a s₂ es₂}, x'.Leads env (l.write env.now c s) (l.handed env es c) a s₂ es₂ →
      x.Leads env s es a s₂ es₂)
    (h : Course f env (l.write env.now c s) (l.handed env es c) k (l.apply env.now c) ms last stop
      x') :
    Course f env s es (k + 1) c (l.message.toList ++ ms) last stop x := by
  obtain ⟨done, hhanded, hdelivered⟩ := delivered_leg accepted
  obtain ⟨-, hmoved, hwrite⟩ := moved_of_leg? hl goes active
  have hsame : (l.apply env.now c).Same c := l.same_apply env.now c
  rcases h with
    ⟨pass, s', done', hleads, hstops, hdelivered', hwritten, hs', hheld'⟩ |
    ⟨left, e, m, k', before, after, s', done', hleads, hrefusal, hleg, hmessages, hdelivered',
      hrest, hs', hheld', hactive', hwritten⟩
  · have hleads' := hround hleads
    rw [hhanded, ← List.append_assoc] at hleads'
    refine .arrived pass s' (done' ++ done) hleads' hstops
      (hdelivered.append hdelivered' hsame) (.inr ?_) hs' hheld'
    rcases hwritten with ⟨rfl, rfl⟩ | rfl
    · exact hwrite s
    · rw [hwrite, Store.set_set]
      exact rest.same.id.symm
  · -- The last exchange comes first: those of the rest stand before those of the leg.
    have hleads' := hround hleads
    rw [hhanded, ← List.append_assoc] at hleads' hrefusal
    rw [hwrite] at hwritten
    refine .refused left e m k' (l.message.toList ++ before) after s' (done' ++ done) hleads'
      hrefusal hleg ?_ (hdelivered.append hdelivered' hsame) hrest hs' hheld' hactive'
      (hwritten.of_go hmoved (hrest.same.symm.trans rest.same).id.symm)
    rw [hmessages, List.append_assoc]

end

/-- A pass goes through the legs of a `walk` for which its `budget` suffices. -/
theorem course_passWithin (smooth : env.Smooth) (walk : Walk f env.now k c ms last stop) :
    ∀ (budget : Nat) (sofar : Pass) {s : Store} (es : List Exchange), k ≤ budget →
      s.Consistent → s.Holds c → c.isActive = true → c.flow = f.id →
      Course f env s es k c ms last stop (f.passWithin budget sofar c) := by
  induction walk with
  | @stop c l stop leg window stops =>
    intro budget sofar s es hbudget hs held active flow
    obtain ⟨budget, rfl⟩ := Nat.exists_eq_add_one_of_ne_zero (by omega : budget ≠ 0)
    rcases leads_execute es smooth hs held active flow leg window with
      ⟨accepted, r, hleads, hstop, -⟩ | ⟨m, e, hm, hrefused, hleads⟩
    · exact .of_stop accepted hs held active rfl
        (leads_round_stop budget sofar active hleads (hstop.trans stops))
    · exact .of_refused (.stop leg window stops) leg hm hrefused hs held active
        (leads_round_error budget sofar active hleads)
  | @go k c last l ms stop leg window goes rest ih =>
    intro budget sofar s es hbudget hs held active flow
    obtain ⟨budget, rfl⟩ := Nat.exists_eq_add_one_of_ne_zero (by omega : budget ≠ 0)
    rcases leads_execute es smooth hs held active flow leg window with
      ⟨accepted, r, hleads, hstop, -⟩ | ⟨m, e, hm, hrefused, hleads⟩
    · obtain ⟨hconsistent, hheld⟩ := leg_write l env.now hs held active
      obtain ⟨hactive, -⟩ := moved_of_leg? leg goes active
      exact .of_go leg goes rest accepted active
        (leads_round_go budget sofar active hleads (hstop.trans goes))
        (ih budget _ _ (by omega) hconsistent hheld hactive
          ((l.same_apply env.now c).flow.trans flow))
    · exact .of_refused (.go leg window goes rest) leg hm hrefused hs held active
        (leads_round_error budget sofar active hleads)

/-- The course of every pass is known (`Leads`), and one that arrives within its `budget` goes
through the legs of a `Walk`. -/
theorem leads_passWithin (smooth : env.Smooth) (budget : Nat) :
    ∀ (sofar : Pass) {c : Conversation} {s : Store} (es : List Exchange), s.Consistent →
      s.Holds c → c.isActive = true → c.flow = f.id →
      ∃ last outcome s' es', (f.passWithin budget sofar c).Leads env s es (last, outcome) s' es' ∧
        ∀ pass, outcome = .ok pass → (∃ node, pass.stop = .limitReached node) ∨
          ∃ k ms last', k ≤ budget ∧ Walk f env.now k c ms last' pass.stop := by
  induction budget with
  | zero =>
    intro sofar c s es hs held active flow
    refine ⟨_, _, s, es, leads_spent sofar s es active, fun pass hpass => ?_⟩
    cases hpass
    exact .inl ⟨_, rfl⟩
  | succ budget ih =>
    intro sofar c s es hs held active flow
    rcases leads_execute_or es smooth hs held active flow with
      ⟨e, s₁, es₁, hleads⟩ | ⟨l, r, hl, window, hleads, hstop⟩
    · exact ⟨_, _, _, _, leads_round_error budget sofar active hleads, fun _ h => by cases h⟩
    · cases hstop' : l.stop with
      | some stop =>
        rw [hstop'] at hstop
        refine ⟨_, _, _, _, leads_round_stop budget sofar active hleads hstop,
          fun pass h => .inr ?_⟩
        cases h
        exact ⟨1, _, _, by omega, .stop hl window hstop'⟩
      | none =>
        rw [hstop'] at hstop
        obtain ⟨hconsistent, hheld⟩ := leg_write l env.now hs held active
        obtain ⟨hactive, -⟩ := moved_of_leg? hl hstop' active
        obtain ⟨last, outcome, s', es', hrest, hwalk⟩ := ih (sofar.count r.sent)
          (l.handed env es c) hconsistent hheld hactive
          ((l.same_apply env.now c).flow.trans flow)
        refine ⟨last, outcome, s', es', leads_round_go budget sofar active hleads hstop hrest,
          fun pass hpass => ?_⟩
        rcases hwalk pass hpass with hlimit | ⟨k, ms, last', hk, hwalk⟩
        · exact .inl hlimit
        · exact .inr ⟨k + 1, _, last', by omega, .go hl window hstop' hwalk⟩

-- A pass that arrives and does not run out of its budget goes through the legs of a walk.
theorem walk_of_passWithin (smooth : env.Smooth) {budget : Nat} {sofar pass : Pass}
    (hlimit : ∀ node, pass.stop ≠ .limitReached node) {w : World} (hs : w.store.Consistent)
    (held : w.store.Holds c) (active : c.isActive = true) (flow : c.flow = f.id)
    (hrun : (f.passWithin budget sofar c env w).1 = (last, .ok pass)) :
    ∃ k ms last', k ≤ budget ∧ Walk f env.now k c ms last' pass.stop := by
  obtain ⟨_, outcome, s', es', hleads, hwalk⟩ :=
    leads_passWithin smooth budget sofar w.exchanges hs held active flow
  have hresult := (hleads w rfl rfl).1
  rw [hrun] at hresult
  cases hresult
  rcases hwalk pass rfl with ⟨node, hnode⟩ | hwalk
  · exact absurd hnode (hlimit node)
  · exact hwalk

end

end Flow

end Autoresponder
