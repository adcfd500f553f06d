import Autoresponder.Proofs.Engine.Replay

/-!
# Walks that a budget splits

A pass whose budget runs out leaves the rest of its walk to the next event. The rest is made as if
the walk had never been split, as long as the node that comes next sends something and goes on, or
ends. A node that waits is taken for executed: the event is read as a reply to a question that was
never asked, or waits for a form that was never sent or a delay that never began.
-/

namespace Autoresponder

open Step

/-! ## 1. What does not depend on what was heard -/

namespace Conversation

/-- A conversation but for its version, when it was created and changed, and its last message. -/
def unheard (c : Conversation) : Conversation := { c.bare with lastInbound := none }

variable {c d : Conversation}

theorem unheard_of_bare (h : c.bare = d.bare) : c.unheard = d.unheard := by
  rw [unheard, h, unheard]

theorem unheard_recordInbound (c : Conversation) (t now : Instant) :
    (c.after (.recordInbound t) now).unheard = c.unheard := by
  unfold after
  rcases apply_recordInbound now t c with happly | happly <;> rw [happly] <;> rfl

theorem unheard_after (h : c.unheard = d.unheard) (ch : Change) (now : Instant) :
    (c.after ch now).unheard = (d.after ch now).unheard := by
  have hself (c : Conversation) : (c.after ch now).unheard = (c.unheard.after ch now).unheard := by
    cases ch with
    | recordInbound t => rw [unheard_recordInbound, unheard_recordInbound]; rfl
    | _ => rfl
  rw [hself c, h, hself d]

end Conversation

/-- A store but for the versions of its conversations and their last messages, which `recordInbound`
writes whenever an event comes in. -/
def Store.unheard (s : Store) : Store :=
  { s with states := s.states.map fun r => { r with version := .int 0, lastInbound := none } }

theorem Store.unheard_congr {s s' : Store} (h : s.states = s'.states) :
    s.unheard.states = s'.unheard.states := by
  simp only [unheard, h]

theorem Store.unheard_set {s : Store} {c d : Conversation} (h : c.unheard = d.unheard)
    (hupdated : c.updated = d.updated) : (s.set c).unheard = (s.set d).unheard := by
  have hid : c.id = d.id := (congrArg Conversation.id h :)
  have hnode : c.node = d.node := (congrArg Conversation.node h :)
  have hbutton : c.lastButton = d.lastButton := (congrArg Conversation.lastButton h :)
  have hcollected : c.collected = d.collected := (congrArg Conversation.collected h :)
  have hresume : c.resumeAt = d.resumeAt := (congrArg Conversation.resumeAt h :)
  have hactive : c.isActive = d.isActive := (congrArg Conversation.isActive h :)
  have hcompleted : c.completed = d.completed := (congrArg Conversation.completed h :)
  refine congrArg (fun states => { s with states })
    (s.map_set (fun r => { r with version := .int 0, lastInbound := none }) hid fun r => ?_)
  simp only [StateRow.revised, StateRow.ofConversation, hnode, hbutton, hcollected, hresume,
    hactive, hcompleted, hupdated]

-- The time at which a conversation is resumed is told.
theorem Store.Holds.resumeAt_eq {s : Store} {c d d' : Conversation} (h : s.Holds c)
    (hd : d.id = c.id) (hd' : d'.id = c.id)
    (heq : (s.set d).unheard.states = (s.set d').unheard.states) :
    d.resumeAt.map Instant.stored = d'.resumeAt.map Instant.stored := by
  obtain ⟨b, hb, hkept⟩ := h
  have hid : b.id = c.id := (congrArg Conversation.id hkept :)
  have hrow (d : Conversation) (hd : d.id = c.id) :
      ((StateRow.ofConversation b).id == toString d.id) = true := by
    rw [hd, ← hid]
    exact beq_self_eq_true _
  simp only [unheard, Store.set, List.map_map] at heq
  have heq' := List.map_inj_left.mp heq _ hb
  simp only [Function.comp_apply, hrow d hd, hrow d' hd', if_true] at heq'
  exact (congrArg StateRow.resumeAt heq' :)

namespace Flow

variable {f : Flow} {now : Instant} {k : Nat} {c d last : Conversation} {ms : List Message}
  {stop : Stop}

theorem leg?_unheard (h : c.unheard = d.unheard) : f.leg? now c = f.leg? now d := by
  have hself (c : Conversation) : f.leg? now c.unheard = f.leg? now c := rfl
  rw [← hself c, h, hself d]

-- Where a walk leads does not depend on the last message as long as the window is open.
theorem Walk.of_unheard (h : f.Walk now k c ms last stop) (hd : d.unheard = c.unheard)
    (opens : Window.isOpen d.lastInbound now = true) :
    ∃ last', f.Walk now k d ms last' stop ∧ last'.unheard = last.unheard := by
  have hleg {c d : Conversation} (l : Leg) (hd : d.unheard = c.unheard) :
      (l.apply now d).unheard = (l.apply now c).unheard := by
    unfold Leg.apply
    split
    · exact Conversation.unheard_after hd _ now
    · exact hd
  induction h generalizing d with
  | @stop c l stop leg window stops =>
    exact ⟨_, .stop ((leg?_unheard hd).trans leg) (fun _ => opens) stops, hleg l hd⟩
  | @go k c last l ms stop leg window goes rest ih =>
    obtain ⟨next, hchange⟩ := change_of_leg? leg goes
    have hinbound : (l.apply now d).lastInbound = d.lastInbound := by
      rw [Leg.apply, hchange]
      rfl
    obtain ⟨last', hwalk, hlast⟩ := ih (hleg l hd) (hinbound ▸ opens)
    exact ⟨last', .go ((leg?_unheard hd).trans leg) (fun _ => opens) goes hwalk, hlast⟩

-- A walk that stops at a delay leads to where the delay ends.
theorem Walk.resumeAt (h : f.Walk now k c ms last stop) {node : String} {t : Instant}
    (hstop : stop = .delayed node t) : last.resumeAt = some t := by
  induction h with
  | @stop c l stop leg window stops =>
    subst hstop
    obtain ⟨n, hn⟩ := node_of_leg?_eq_some leg
    have hkind := nodeLeg_of_leg? leg hn
    generalize n.kind = kind at hkind
    cases hkind with
    | delayed seconds resume =>
      cases stops
      exact resume
    | delay seconds t resume ends =>
      cases stops
      rfl
    | trigger | message =>
      unfold leave at stops
      split at stops <;> cases stops
    | _ => cases stops
  | go _ _ _ _ ih => exact ih hstop

/-! ## 2. Passes whose budget runs out -/

/-- How something goes that is to make the legs of a `Walk`, and has a budget for fewer: it makes as
many as it can, and the rest of the walk is left. -/
inductive Cut (f : Flow) (env : Environment) (s : Store) (es : List Exchange) (budget k : Nat)
    (c : Conversation) (ms : List Message) (last : Conversation) (stop : Stop)
    (x : Act (Conversation × Except AutomationError Pass)) : Prop where
  | cut (left : Conversation) (pass : Pass) (k' : Nat) (before after : List Message) (s' : Store)
      (done : List Exchange) (leads : x.Leads env s es (left, .ok pass) s' (done ++ es))
      (stops : pass.stop = .limitReached left.node) (messages : ms = before ++ after)
      (delivered : Delivered c before done) (rest : f.Walk env.now k' left after last stop)
      (spent : k' + budget = k) (consistent : s'.Consistent) (held : s'.Holds left)
      (active : left.isActive = true) (written : LeftAt s c k s' left k')

section

variable {env : Environment} {s : Store} {es : List Exchange}

-- Without a budget everything is left.
theorem cut_zero (walk : f.Walk env.now k c ms last stop) (sofar : Pass) (es : List Exchange)
    (hs : s.Consistent) (held : s.Holds c) (active : c.isActive = true) :
    Cut f env s es 0 k c ms last stop (f.passWithin 0 sofar c) :=
  .cut c _ k [] ms s [] (leads_spent sofar s es active) rfl rfl (delivered_nil c) walk rfl hs
    held active .start

/-- By `passWithin` a pass makes the legs of a walk for which it has a `budget`, where nothing is
refused. -/
theorem cut_passWithin (smooth : env.Smooth) (accepts : env.sender.Accepts)
    (walk : f.Walk env.now k c ms last stop) :
    ∀ (budget : Nat) (sofar : Pass) {s : Store} (es : List Exchange), budget < k →
      s.Consistent → s.Holds c → c.isActive = true → c.flow = f.id →
      Cut f env s es budget k c ms last stop (f.passWithin budget sofar c) := by
  induction walk with
  | stop leg window stops =>
    intro budget sofar s es hbudget hs held active _
    obtain rfl : budget = 0 := by omega
    exact cut_zero (.stop leg window stops) sofar es hs held active
  | @go k c last l ms stop leg window goes rest ih =>
    intro budget sofar s es hbudget hs held active flow
    cases budget with
    | zero => exact cut_zero (.go leg window goes rest) sofar es hs held active
    | succ budget =>
      rcases leads_execute es smooth hs held active flow leg window with
        ⟨accepted, r, hleads, hstop, -⟩ | ⟨m, e, -, hrefused, -⟩
      · obtain ⟨hconsistent, hheld⟩ := leg_write l env.now hs held active
        obtain ⟨hactive, hmoved, hwrite⟩ := moved_of_leg? leg goes active
        obtain ⟨done, hhanded, hdelivered⟩ := delivered_leg accepted
        have hsame : (l.apply env.now c).Same c := l.same_apply env.now c
        obtain ⟨left, pass, k', before, after, s', done', hpass, hlimit, rfl, hdelivered', hrest,
          hspent, hs', hheld', hactive', hwritten⟩ := ih budget (sofar.count r.sent)
            (l.handed env es c) (by omega) hconsistent hheld hactive (hsame.flow.trans flow)
        have hleads' := leads_round_go budget sofar active hleads (hstop.trans goes) hpass
        rw [hhanded, ← List.append_assoc] at hleads'
        rw [hwrite] at hwritten
        exact .cut left pass k' (l.message.toList ++ before) after s' (done' ++ done) hleads'
          hlimit (List.append_assoc ..).symm (hdelivered.append hdelivered' hsame) hrest (by omega)
          hs' hheld' hactive'
          (hwritten.of_go hmoved (hrest.same.symm.trans rest.same).id.symm)
      · obtain ⟨r, hr⟩ := accepts es (c.intent m)
        cases hr.symm.trans hrefused

end

end Flow

/-! ## 3. Conversations that are left on the way -/

/-- A node at which a conversation waits for something: a reply, a form or a time. -/
def NodeKind.awaits : NodeKind → Bool
  | buttons _ _ _ => true
  | delay _ => true
  | form _ _ _ => true
  | _ => false

/-- A node of a flow that waits (`NodeKind.awaits`). -/
def Flow.Awaits (f : Flow) (node : String) : Prop :=
  ∃ n, f.node? node = some n ∧ n.kind.awaits = true

/-- An event of the same person for the same account as another one, at a time of a four-digit year
for which the window is open. -/
structure Event.Continues (e first : Event) (now : Instant) : Prop where
  workspace : e.workspace = first.workspace
  account : e.account = first.account
  phone : e.phone = first.phone
  year : e.received.FourDigitYear
  opens : Window.isOpen (some e.received) now = true

/-- A conversation that is kept where the budget of a pass ran out, with a `Walk` left. -/
structure Paused (first : Event) (now : Instant) (s : Store) (f : Flow) (c : Conversation) (k : Nat)
    (ms : List Message) (last : Conversation) (stop : Stop) : Prop
    extends Resting first s f c where
  opens : Window.isOpen c.lastInbound now = true
  resume : c.resumeAt = none
  walk : f.Walk now k c ms last stop

-- What is kept for one event of a person is kept for another one.
theorem Resting.congr {e e' : Event} {s : Store} {f : Flow} {c : Conversation}
    (h : Resting e s f c) (workspace : e.workspace = e'.workspace)
    (account : e.account = e'.account) (phone : e.phone = e'.phone) : Resting e' s f c where
  consistent := h.consistent
  held := h.held
  kept := h.kept
  active := h.active
  flow := h.flow
  workspace := h.workspace.trans workspace
  phone := h.phone.trans phone
  offered := by
    rw [← workspace, ← account]
    exact h.offered

theorem Resting.of_continues {e first : Event} {now : Instant} {s : Store} {f : Flow}
    {c : Conversation} (h : Resting first s f c) (he : e.Continues first now) :
    Resting e s f c :=
  h.congr he.workspace.symm he.account.symm he.phone.symm

/-- Handles events one after the other. -/
def handleEach (events : Nat → Event) : Environment → World → Nat → Outcome × World :=
  Act.series fun i => (events i).handle

theorem handleEach_succ (events : Nat → Event) (env : Environment) (w : World) (n : Nat) :
    handleEach events env w (n + 1) =
      handleEach (fun i => events (i + 1)) env ((events 0).handle env w).2 n :=
  Act.series_succ _ env w n

section

variable {first e : Event} {env : Environment} {s : Store} {es : List Exchange} {f g : Flow}
  {c last : Conversation} {k : Nat} {ms : List Message} {stop : Stop} {n : Node}

theorem Paused.fresh {now : Instant} (h : Paused first now s f c k ms last stop) :
    Window.isStale c.lastInbound now = false := by
  rw [Window.isStale, h.opens]
  rfl

-- The next event goes on from a node that waits for nothing.
theorem Paused.passes (h : Paused first env.now s f c k ms last stop) (smooth : env.Smooth)
    (he : e.Continues first env.now) (hnode : f.node? c.node = some n)
    (goes : n.kind.awaits = false) (es : List Exchange) (drawn : Nat) :
    ∃ d last', e.process.Passes env s es drawn f d (s.set d) (.flowAdvanced f.id d.id) ∧
      Ready e env.now f f d (s.set d) ∧ f.Walk env.now k d ms last' stop ∧ d.Same c ∧
      last'.unheard = last.unheard := by
  have hresting := h.toResting.of_continues he
  obtain ⟨sn, hsnapshot, hflow⟩ := hresting.offered
  rw [← h.flow] at hflow
  have htaken (d : Conversation) : f.taken? e env.now d n = some d := by
    unfold Flow.taken?
    cases hkind : n.kind with
    | trigger | message | finish => rfl
    | buttons | delay | form =>
      rw [hkind] at goes
      cases goes
  obtain ⟨hpasses, hready, -⟩ := passes_taken smooth.faultless h.consistent hsnapshot
    (Instant.kept_of_fourDigitYear he.year) es drawn hresting.activeState? h.fresh hflow hnode
    (htaken _)
  obtain ⟨last', hwalk, hlast⟩ := h.walk.of_unheard (c.unheard_recordInbound e.received env.now)
    (Conversation.isOpen_recordInbound h.opens he.opens)
  exact ⟨_, last', hpasses, hready, hwalk, c.same_after _ env.now, hlast⟩

-- At a node that waits for something, the next event is not taken unless it names a button there.
theorem Paused.untaken (h : Paused first env.now s f c k ms last stop) (smooth : env.Smooth)
    (he : e.Continues first env.now) (hnode : f.node? c.node = some n)
    (awaits : n.kind.awaits = true) (hchoice : f.continuation? c.node e.button e.text = none)
    (es : List Exchange) :
    ∃ o s' es', e.process.Leads env s es (.ok o) s' es' ∧ Conversation.Untaken env s es
      (c.after (.recordInbound e.received) env.now) n.kind o s' es' := by
  have hresting := h.toResting.of_continues he
  obtain ⟨sn, hsnapshot, hflow⟩ := hresting.offered
  rw [← h.flow] at hflow
  have htaken : f.taken? e env.now (c.after (.recordInbound e.received) env.now) n = none := by
    unfold Flow.taken?
    cases hkind : n.kind with
    | buttons =>
      dsimp only
      rw [Conversation.node_recordInbound, hchoice]
      rfl
    | delay | form => rfl
    | trigger | message | finish =>
      rw [hkind] at awaits
      cases awaits
  exact leads_untaken smooth.faultless h.consistent hsnapshot smooth.still es
    hresting.activeState? h.fresh hflow hnode htaken

theorem Conversation.Untaken.of_waits {heard : Conversation} {kind : NodeKind} {o : Outcome}
    {s' : Store} {es' : List Exchange} (h : Untaken env s es heard kind o s' es')
    (waits : (kind.isDelay || kind.isForm) = true) :
    o = .waiting heard.id heard.node ∧ s' = s.set heard ∧ es' = es := by
  cases h with
  | waits => exact ⟨rfl, rfl, rfl⟩
  | ends => cases waits

-- A conversation that hears an event and goes on waiting is left where it was.
theorem Paused.heard {now : Instant} (h : Paused first now s f c k ms last stop)
    (he : e.Continues first now) :
    ∃ d last', Paused first now (s.set (c.after (.recordInbound e.received) now)) f d k ms last'
      stop ∧ d.id = c.id ∧ d.node = c.node := by
  have hkept := Instant.kept_of_fourDigitYear he.year
  have hsame := c.same_after (.recordInbound e.received) now
  have hlasting : (c.after (.recordInbound e.received) now).Lasting :=
    Conversation.Lasting.after (congrArg Conversation.bare h.kept) (.inl ⟨_, rfl, hkept⟩)
  have hunheard : (c.after (.recordInbound e.received) now).kept.unheard = c.unheard :=
    (Conversation.unheard_of_bare hlasting).trans (c.unheard_recordInbound _ now)
  have hinbound : (c.after (.recordInbound e.received) now).kept.lastInbound =
      (c.after (.recordInbound e.received) now).lastInbound :=
    (congrArg Conversation.lastInbound hlasting :)
  have hopens : Window.isOpen (c.after (.recordInbound e.received) now).kept.lastInbound now =
      true := hinbound ▸ Conversation.isOpen_recordInbound h.opens he.opens
  obtain ⟨last', hwalk, -⟩ := h.walk.of_unheard hunheard hopens
  exact ⟨(c.after (.recordInbound e.received) now).kept, last', {
    consistent := h.consistent.set h.held h.active hsame
    held := (h.held.set hsame).kept
    kept := Conversation.kept_kept _
    active := (Conversation.isActive_after (by simp)).trans h.active
    flow := hsame.flow.trans h.flow
    workspace := hsame.workspace.trans h.workspace
    phone := hsame.phone.trans h.phone
    offered := h.offered.congr rfl rfl
    opens := hopens
    resume := (congrArg Conversation.resumeAt hunheard :).trans h.resume
    walk := hwalk }, c.id_after _ now, c.node_recordInbound _ now⟩

-- Only a message with buttons can be replied to.
theorem Flow.continuation?_of_waits (hnode : f.node? c.node = some n)
    (waits : (n.kind.isDelay || n.kind.isForm) = true) (button : Option String) (text : String) :
    f.continuation? c.node button text = none := by
  by_contra hsome
  obtain ⟨choice, hchoice⟩ := Option.ne_none_iff_exists'.mp hsome
  obtain ⟨n', prompt, bs, hn', hkind, -⟩ := continuation?_eq_some hchoice
  cases hnode.symm.trans hn'
  rw [hkind] at waits
  cases waits

/-- At a form that was never sent, or a delay that never began, a conversation that is `Paused`
waits whatever comes in. -/
theorem Paused.waits {w : World} (h : Paused first env.now w.store f c k ms last stop)
    (smooth : env.Smooth) {events : Nat → Event}
    (continues : ∀ i, (events i).Continues first env.now) (hnode : f.node? c.node = some n)
    (waits : (n.kind.isDelay || n.kind.isForm) = true) (j : Nat) :
    (handleEach events env w j).1 = .waiting c.id c.node := by
  have awaits : n.kind.awaits = true := by
    cases hkind : n.kind with
    | buttons | delay | form => rfl
    | _ =>
      rw [hkind] at waits
      cases waits
  induction j generalizing events w c last with
  | zero =>
    obtain ⟨o, s', es', hleads, huntaken⟩ :=
      h.untaken smooth (continues 0) hnode awaits (Flow.continuation?_of_waits hnode waits _ _)
        w.exchanges
    obtain ⟨houtcome, -⟩ := Event.leads_handle smooth.still hleads w rfl rfl
    obtain ⟨rfl, -⟩ := huntaken.of_waits waits
    rw [Conversation.id_after, Conversation.node_recordInbound] at houtcome
    exact houtcome
  | succ j ih =>
    obtain ⟨o, s', es', hleads, huntaken⟩ :=
      h.untaken smooth (continues 0) hnode awaits (Flow.continuation?_of_waits hnode waits _ _)
        w.exchanges
    obtain ⟨-, hstore, -⟩ := Event.leads_handle smooth.still hleads w rfl rfl
    obtain ⟨-, rfl, -⟩ := huntaken.of_waits waits
    obtain ⟨d, last', hpaused, hid, hnode'⟩ := h.heard (continues 0)
    rw [handleEach_succ, ← hid, ← hnode']
    rw [← hstore] at hpaused
    exact ih hpaused (fun i => continues (i + 1)) (hnode'.symm ▸ hnode)

-- The message of the node, or the end of its delay, is missing for good.
theorem Paused.lost {w : World} (h : Paused first env.now w.store f c k ms last stop)
    (smooth : env.Smooth) (he : e.Continues first env.now) (hnode : f.node? c.node = some n)
    (awaits : n.kind.awaits = true) (hchoice : f.continuation? c.node e.button e.text = none) :
    ((n.kind.isDelay || n.kind.isForm) = true ∨ (e.handle env w).1 = .recovered c.id c.node) ∧
      ∀ d : Conversation, d.id = c.id → d.resumeAt = last.resumeAt →
        ¬ (acceptedIntents (e.handle env w).2.exchanges =
            acceptedIntents w.exchanges ++ ms.map c.intent ∧
          (e.handle env w).2.store.unheard.states = (w.store.set d).unheard.states) := by
  obtain ⟨o, s', es', hleads, huntaken⟩ :=
    h.untaken smooth he hnode awaits hchoice w.exchanges
  obtain ⟨houtcome, hstore, hexchanges, -⟩ := Event.leads_handle smooth.still hleads w rfl rfl
  have hprompt {l : Leg} {m : Message} (hl : f.leg? env.now c = some l) (hm : l.message = some m)
      (prompt : m.isPrompt = true) {stop' : Stop} (hstop : l.stop = some stop') :
      acceptedIntents es' ≠ acceptedIntents w.exchanges ++ ms.map c.intent := by
    obtain ⟨rfl, -⟩ := h.walk.eq_of_stop hl hstop
    obtain ⟨extra, -, hne⟩ := huntaken.accepted_ne c prompt
    simpa [hm] using hne
  rw [houtcome, hstore, hexchanges]
  obtain ⟨l, hl⟩ := h.walk.leg
  have hkind := Flow.nodeLeg_of_leg? hl hnode
  generalize n.kind = kind at hkind awaits huntaken ⊢
  cases hkind with
  | buttons text bs variableName =>
    refine ⟨.inr ?_, fun _ _ _ heq => hprompt hl rfl rfl rfl heq.1⟩
    cases huntaken with
    | waits waits => cases waits
    | ends =>
      rw [Conversation.id_after, Conversation.node_recordInbound]
  | form id body callToAction => exact ⟨.inl rfl, fun _ _ _ heq => hprompt hl rfl rfl rfl heq.1⟩
  | delayed seconds resume => cases h.resume.symm.trans resume
  | delay seconds t resume ends =>
    refine ⟨.inl rfl, fun d hid hresume heq => ?_⟩
    -- The delay would have been given an end.
    obtain ⟨-, rfl, -⟩ := huntaken.of_waits rfl
    have hlast := h.walk.resumeAt (h.walk.eq_of_stop hl rfl).2
    have hheard : (c.after (.recordInbound e.received) env.now).resumeAt = none :=
      (congrArg Conversation.resumeAt (c.unheard_recordInbound _ env.now) :).trans h.resume
    have hends := h.held.resumeAt_eq (c.id_after _ env.now) hid heq.2
    rw [hresume, hlast, hheard] at hends
    cases hends
  | _ => cases awaits

/-! ## 4. One event after the other -/

def Outcome.stop? (o : Outcome) : Option Stop := o.pass?.map fun (_, _, pass) => pass.stop

/-- How handling an event goes that comes to a pass with a walk to make, where nothing is refused:
it arrives, or its budget runs out and the rest of the walk is left to the next event. -/
inductive Walked (e first : Event) (env : Environment) (w : World) (s : Store) (g : Flow)
    (c : Conversation) (k : Nat) (ms : List Message) (last : Conversation) (stop : Stop) :
    Prop where
  | arrived (stops : (e.handle env w).1.stop? = some stop)
      (states : (e.handle env w).2.store.states = (s.set last).states)
      (accepted : acceptedIntents (e.handle env w).2.exchanges =
        acceptedIntents w.exchanges ++ ms.map c.intent)
  | cut (before after : List Message) (k' : Nat) (c' last' : Conversation)
      (stops : (e.handle env w).1.stop? = some (.limitReached c'.node))
      (messages : ms = before ++ after)
      (accepted : acceptedIntents (e.handle env w).2.exchanges =
        acceptedIntents w.exchanges ++ before.map c.intent)
      (paused : Paused first env.now (e.handle env w).2.store g c' k' after last' stop)
      (shorter : k' < k) (same : c'.Same c) (bare : last'.bare = last.bare)
      (states : ∀ d : Conversation, d.id = c.id →
        ((e.handle env w).2.store.set d).states = (s.set d).states)

theorem walked_of_passes (smooth : env.Smooth) (accepts : env.sender.Accepts) {w : World}
    {report : Pass → Outcome}
    (hpasses : e.process.Passes env w.store w.exchanges w.drawn f c s report)
    (hreport : ∀ pass, (report pass).stop? = some pass.stop) (hready : Ready e env.now f g c s)
    (he : e.Continues first env.now) (hwalk : f.Walk env.now k c ms last stop) :
    Walked e first env w s g c k ms last stop := by
  by_cases hk : k ≤ max 1 env.policy.maxNodes
  · rcases Flow.course_passWithin smooth hwalk (max 1 env.policy.maxNodes) ⟨0, 0, .completed⟩
      w.exchanges hk hready.consistent hready.held hready.active hready.flow with
      ⟨pass, s', done, hleads, rfl, hdelivered, hwritten, -, -⟩ |
      ⟨left, er, m, -, -, -, -, done, -, hrefusal, -⟩
    · obtain ⟨houtcome, halike, hexchanges⟩ := hpasses.handle smooth.still hleads
      refine .arrived (houtcome ▸ hreport pass) ?_ (hexchanges ▸ hdelivered.acceptedIntents _)
      rcases hwritten with ⟨rfl, rfl⟩ | rfl
      · rw [halike.states, hready.written]
      · exact halike.states
    · obtain ⟨r, hr⟩ := accepts (done ++ w.exchanges) (left.intent m)
      cases hr.symm.trans hrefusal
  · obtain ⟨left, pass, k', before, after, s', done, hleads, hlimit, hmessages, hdelivered, hrest,
      hspent, hs', hheld', hactive', hwritten⟩ :=
      Flow.cut_passWithin smooth accepts hwalk (max 1 env.policy.maxNodes) ⟨0, 0, .completed⟩
        w.exchanges (by omega) hready.consistent hready.held hready.active hready.flow
    obtain ⟨houtcome, halike, hexchanges⟩ := hpasses.handle smooth.still hleads
    have hsame : left.Same c := hrest.same.symm.trans hwalk.same
    have shorter : k' < k := by omega
    have hmoved := hwritten.moved_of_lt shorter
    obtain ⟨hflows, hsettings⟩ := hwritten.rows_eq
    obtain ⟨hresting, hlasting, hinbound, last', hwalk', hlast⟩ :=
      hready.resting (.inr hmoved) hsame hrest (hs'.congr halike.states)
        (hheld'.congr halike.states) hactive' (halike.flows.trans hflows)
        (halike.settings.trans hsettings)
    have hresume : left.kept.resumeAt = none :=
      (congrArg Conversation.resumeAt hlasting :).trans (congrArg Conversation.resumeAt hmoved :)
    refine .cut before after k' left.kept last' (houtcome ▸ (hreport pass).trans ?_) hmessages
      (hexchanges ▸ hdelivered.acceptedIntents _) ?_ shorter
      ((Conversation.Same.kept left).trans hsame) hlast
      fun d hd => hwritten.states_set halike.states (hsame.id.trans hd.symm)
    · rw [hlimit]
      rfl
    · exact {
        toResting := hresting.congr he.workspace he.account he.phone
        opens := hinbound ▸ hready.opens he.opens
        resume := hresume
        walk := hwalk' }

/-- What `handleEach` comes to, up to the `n`-th event, counted from 0. Each one but the last stops
where its budget runs out. If that is never in front of a node that waits (`Flow.Awaits`), all ends
as it should: with the `intents` that are to be accepted, the `rows` that are to be stored, and the
`stop`. If it is, and the event that follows names no button there, the conversation waits for good
or ends, and something is missing. -/
structure Divided (events : Nat → Event) (env : Environment) (w : World) (f : Flow)
    (intents : List SendIntent) (rows : List Store.StateRow) (stop : Stop) (state : Uuid)
    (n : Nat) : Prop where
  earlier : ∀ i < n, ∃ node, (handleEach events env w i).1.stop? = some (.limitReached node)
  whole : (∀ i < n, ∀ node, (handleEach events env w i).1.stop? = some (.limitReached node) →
      ¬ f.Awaits node) →
    (handleEach events env w n).1.stop? = some stop ∧
      acceptedIntents (handleEach events env w n).2.exchanges = intents ∧
      (handleEach events env w n).2.store.unheard.states = rows
  stranded : ∀ i < n, ∀ node, (handleEach events env w i).1.stop? = some (.limitReached node) →
    f.Awaits node → i + 1 = n ∧
      (f.continuation? node (events n).button (events n).text = none →
        ((∀ j ≥ n, (handleEach events env w j).1 = .waiting state node) ∨
          (handleEach events env w n).1 = .recovered state node) ∧
        ¬ (acceptedIntents (handleEach events env w n).2.exchanges = intents ∧
          (handleEach events env w n).2.store.unheard.states = rows))

section

variable {events : Nat → Event} {w : World} {intents : List SendIntent}
  {rows : List Store.StateRow} {state : Uuid} {number : Nat}

-- An event whose budget runs out in front of a node that does not wait.
theorem Divided.succ {node : String}
    (h : Divided (fun i => events (i + 1)) env ((events 0).handle env w).2 f intents rows stop state
      number)
    (stops : ((events 0).handle env w).1.stop? = some (.limitReached node))
    (goes : ¬ f.Awaits node) :
    Divided events env w f intents rows stop state (number + 1) where
  earlier i hi := by
    cases i with
    | zero => exact ⟨node, stops⟩
    | succ i =>
      rw [handleEach_succ]
      exact h.earlier i (by omega)
  whole hgoes := by
    rw [handleEach_succ]
    refine h.whole fun i hi node' hstop => hgoes (i + 1) (by omega) node' ?_
    rwa [handleEach_succ]
  stranded i hi node' hstop hawaits := by
    cases i with
    | zero =>
      cases stops.symm.trans hstop
      exact absurd hawaits goes
    | succ i =>
      rw [handleEach_succ] at hstop
      obtain ⟨hi', hlost⟩ := h.stranded i (by omega) node' hstop hawaits
      refine ⟨by omega, fun hchoice => ?_⟩
      rw [handleEach_succ]
      refine ⟨(hlost hchoice).1.imp (fun hwaits j hj => ?_) id, (hlost hchoice).2⟩
      obtain ⟨j, rfl⟩ := Nat.exists_eq_add_one_of_ne_zero (by omega : j ≠ 0)
      rw [handleEach_succ]
      exact hwaits j (by omega)

-- An event whose budget runs out in front of a node that waits. The next one decides.
theorem Divided.of_awaits {node : String} (stops : ((events 0).handle env w).1.stop? =
      some (.limitReached node)) (awaits : f.Awaits node)
    (lost : f.continuation? node (events 1).button (events 1).text = none →
      ((∀ j ≥ 1, (handleEach events env w j).1 = .waiting state node) ∨
        (handleEach events env w 1).1 = .recovered state node) ∧
      ¬ (acceptedIntents (handleEach events env w 1).2.exchanges = intents ∧
        (handleEach events env w 1).2.store.unheard.states = rows)) :
    Divided events env w f intents rows stop state 1 where
  earlier i hi := by
    obtain rfl : i = 0 := by omega
    exact ⟨node, stops⟩
  whole hgoes := absurd awaits (hgoes 0 Nat.one_pos node stops)
  stranded i hi node' hstop _ := by
    obtain rfl : i = 0 := by omega
    cases stops.symm.trans hstop
    exact ⟨rfl, lost⟩

theorem Divided.of_graph (h : Divided events env w g intents rows stop state number)
    (hfg : f.SameGraph g) : Divided events env w f intents rows stop state number where
  earlier := h.earlier
  whole hgoes := h.whole fun i hi node hstop => by
    rw [Flow.Awaits, ← hfg.node?]
    exact hgoes i hi node hstop
  stranded i hi node hstop hawaits := by
    rw [Flow.Awaits, hfg.node?] at hawaits
    rw [hfg.continuation?]
    exact h.stranded i hi node hstop hawaits

end

/-- From wherever a `walk` is left the `events` that follow make the rest of it, unless it is left
in front of a node that waits. -/
theorem divided_of_passes (smooth : env.Smooth) (accepts : env.sender.Accepts)
    {events : Nat → Event} {w : World} {report : Pass → Outcome}
    (continues : ∀ i, (events i).Continues first env.now)
    (hpasses : (events 0).process.Passes env w.store w.exchanges w.drawn f c s report)
    (hreport : ∀ pass, (report pass).stop? = some pass.stop)
    (hready : Ready (events 0) env.now f g c s) (hwalk : f.Walk env.now k c ms last stop) :
    ∃ number, Divided events env w f (acceptedIntents w.exchanges ++ ms.map c.intent)
      (s.set last).unheard.states stop c.id number := by
  -- Each pass makes a leg at least.
  induction k using Nat.strong_induction_on generalizing events w f g c s report ms last with
  | _ k ih =>
  have hfg : f.SameGraph g := hready.graph.symm
  rcases walked_of_passes smooth accepts hpasses hreport hready (continues 0) hwalk with
    ⟨stops, states, accepted⟩ |
    ⟨before, after, k', c', last', stops, messages, accepted, paused, shorter, same, bare, states⟩
  · refine ⟨0, by simp, fun _ => ⟨stops, accepted, ?_⟩, by simp⟩
    exact Store.unheard_congr states
  · have hintents : acceptedIntents ((events 0).handle env w).2.exchanges ++ after.map c'.intent =
        acceptedIntents w.exchanges ++ ms.map c.intent := by
      rw [accepted, messages, same.intent_eq, List.map_append, List.append_assoc]
    have hrows (d : Conversation) (hd : d.id = c.id) :
        (((events 0).handle env w).2.store.set d).unheard.states = (s.set d).unheard.states :=
      Store.unheard_congr (states d hd)
    obtain ⟨l, hl⟩ := paused.walk.leg
    obtain ⟨n, hnode⟩ := Flow.node_of_leg?_eq_some hl
    cases awaits : n.kind.awaits with
    | false =>
      obtain ⟨d, last'', hpasses', hready', hwalk', hsame', hlast'⟩ :=
        paused.passes smooth (continues 1) hnode awaits
          ((events 0).handle env w).2.exchanges ((events 0).handle env w).2.drawn
      obtain ⟨number, h⟩ := ih k' shorter (fun i => continues (i + 1)) hpasses' (fun _ => rfl)
        hready' hwalk'
      -- What is left to be sent and stored is what was left before the budget ran out.
      have hrows' : ((((events 0).handle env w).2.store.set d).set last'').unheard.states =
          (s.set last).unheard.states := by
        rw [Store.set_set _ hwalk'.same.symm.id,
          Store.unheard_set (hlast'.trans (Conversation.unheard_of_bare bare))
            ((hwalk'.updated hready'.updated).trans (hwalk.updated hready.updated).symm),
          hrows last hwalk.same.id]
      rw [hsame'.intent_eq, hintents, hrows', (hsame'.trans same).id] at h
      refine ⟨number + 1, (h.of_graph hfg).succ stops ?_⟩
      rintro ⟨n', hn', hawaits⟩
      cases hnode.symm.trans ((hfg.node? _).symm.trans hn')
      rw [awaits] at hawaits
      cases hawaits
    | true =>
      refine ⟨1, .of_awaits stops ⟨n, (hfg.node? _).trans hnode, awaits⟩ fun hchoice => ?_⟩
      rw [hfg.continuation?] at hchoice
      obtain ⟨hwaits, hlost⟩ := paused.lost smooth (continues 1) hnode awaits hchoice
      rw [hintents] at hlost
      rw [← hrows last hwalk.same.id, ← same.id]
      refine ⟨hwaits.imp (fun hwaits j hj => ?_) id, hlost last ?_ ?_⟩
      · obtain ⟨j, rfl⟩ := Nat.exists_eq_add_one_of_ne_zero (by omega : j ≠ 0)
        rw [handleEach_succ]
        exact paused.waits smooth (fun i => continues (i + 1)) hnode hwaits j
      · exact hwalk.same.id.trans same.id.symm
      · exact (congrArg Conversation.resumeAt bare :).symm

end

abbrev Environment.withBudget (env : Environment) (limit : Nat) : Environment :=
  { env with policy := { env.policy with maxNodes := limit } }

/-- **A walk that is cut goes on with the next event, except in front of a node that waits.** Let
`events 0` start a flow or go on with it, with a budget that suffices. Then it is handled with any
other budget `env.budget`, and after it one more event of the person each time the budget ran out.
As long as that is never in front of a node that waits, the sender accepts the same messages in the
same order, the conversation stops where it did, and the store holds of conversations what it did,
but for versions and last messages. If it is in front of a node that waits, and the next event names
no button there, that event ends the conversation, or all events to come find it waiting; and what
the node has to send, or the end of its delay, is missing (`Divided`). -/
theorem handle_split {env : Environment} {limit : Nat} {events : Nat → Event} {w : World}
    {flow state : Uuid} {pass : Pass} (smooth : env.Smooth) (accepts : env.sender.Accepts)
    (hs : w.store.Consistent) (keyed : w.store.Keyed)
    (continues : ∀ i, (events i).Continues (events 0) env.now)
    (goes : ((events 0).handle (env.withBudget limit) w).1 = .flowStarted flow state pass ∨
      ((events 0).handle (env.withBudget limit) w).1 = .flowAdvanced flow state pass)
    (stops : ∀ node, pass.stop ≠ .limitReached node) :
    ∃ f number, w.store.Offers (events 0).workspace (events 0).account f ∧ f.id = flow ∧
      Divided events env w f
        (acceptedIntents ((events 0).handle (env.withBudget limit) w).2.exchanges)
        ((events 0).handle (env.withBudget limit) w).2.store.unheard.states pass.stop state
        number := by
  have hkept := Instant.kept_of_fourDigitYear (continues 0).year
  have smooth' : (env.withBudget limit).Smooth := smooth
  obtain ⟨f, g, c, s, report, k, ms, last, hpasses, hreport, hready, offered, hflow, rfl, -,
    hwalk⟩ := reports_of_handle smooth' hkept hs keyed goes stops
  have hreport' (p : Pass) : (report p).stop? = some p.stop := by
    rcases hreport with rfl | rfl <;> rfl
  obtain ⟨number, h⟩ := divided_of_passes smooth accepts continues hpasses hreport' hready hwalk
  -- With a budget that suffices the walk is made at once.
  rcases walked_of_passes smooth' accepts hpasses hreport' hready (continues 0) hwalk with
    ⟨-, states, accepted⟩ | ⟨-, -, -, c', -, limited, -⟩
  · refine ⟨f, number, offered, hflow, ?_⟩
    have hrows : ((events 0).handle (env.withBudget limit) w).2.store.unheard.states =
        (s.set last).unheard.states :=
      Store.unheard_congr states
    rw [accepted, hrows]
    exact h
  · have hstop : ((events 0).handle (env.withBudget limit) w).1.stop? = some pass.stop := by
      rcases goes with hgoes | hgoes <;> rw [hgoes] <;> rfl
    exact absurd (Option.some.inj (hstop.symm.trans limited)) (stops c'.node)

/-- The budget runs out in front of a message of `Flow.asking`, and then in front of a question. -/
theorem handle_split_asking :
    ∃ w env, w = (World.start {}).after [(.calm (.ofSeconds 0), .putFlow .asking)] ∧
      env = (Environment.calm (.ofSeconds 60)).withBudget 1 ∧
      (handleEach (fun _ => .hello) env w 0).1.stop? = some (.limitReached "hello") ∧
      (handleEach (fun _ => .hello) env w 1).1.stop? = some (.limitReached "ask") ∧
      (handleEach (fun _ => .hello) env w 2).1 = .recovered (.ofNat 0) "ask" ∧
      ∃ f number, w.store.Offers "shop" "main" f ∧ f.id = .ofNat 1 ∧
        Divided (fun _ => .hello) env w f
          (acceptedIntents (Event.hello.handle (.calm (.ofSeconds 60)) w).2.exchanges)
          (Event.hello.handle (.calm (.ofSeconds 60)) w).2.store.unheard.states (.waiting "ask")
          (.ofNat 0) number :=
  ⟨_, _, rfl, rfl, by decide +kernel, by decide +kernel, by decide +kernel,
    @handle_split ((Environment.calm (.ofSeconds 60)).withBudget 1) 64 (fun _ => .hello) _
      (.ofNat 1) (.ofNat 0) ⟨3, 2, .waiting "ask"⟩ ⟨fun _ _ => rfl, fun _ => rfl⟩
      (fun _ _ => ⟨_, rfl⟩) (World.traced_after rfl _).consistent
      (World.keyed_after rfl (Store.keyed_of_nil rfl) _)
      (fun _ => ⟨rfl, rfl, rfl, by decide, by decide⟩) (.inl (by decide +kernel))
      (fun _ => by simp)⟩

end Autoresponder
