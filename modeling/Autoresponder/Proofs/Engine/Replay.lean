import Autoresponder.Proofs.Engine.Entry
import Autoresponder.Proofs.Engine.Run
import Autoresponder.Proofs.Flow.Graph

/-!
# Events that are repeated

When a delivery fails, the event is repeated until it goes through. As long as nothing is refused
that asks for a reply, the person gets each message once, in the order of a run in which nothing is
refused, and the conversation ends up where it does in that run. A prompt that is refused is lost:
the event that is repeated is taken for a reply to it.
-/

namespace Autoresponder

open Step

/-! ## 1. States of one flow -/

namespace Flow

variable {f g : Flow}

theorem SameGraph.leg? (h : f.SameGraph g) (now : Instant) (c : Conversation) :
    f.leg? now c = g.leg? now c := by
  have hleave (m : Option Message) : f.leave c m = g.leave c m := by
    rw [leave, leave, h.next?]
  simp only [Flow.leg?, h.node?, hleave]

-- A walk depends on the graph of a flow alone.
theorem Walk.of_graph {now : Instant} {k : Nat} {c last : Conversation} {ms : List Message}
    {stop : Stop} (walk : f.Walk now k c ms last stop) (h : f.SameGraph g) :
    g.Walk now k c ms last stop := by
  induction walk with
  | stop leg window stops => exact .stop ((h.leg? _ _).symm.trans leg) window stops
  | go leg window goes _ ih => exact .go ((h.leg? _ _).symm.trans leg) window goes ih

end Flow

/-! ## 2. Interrupted walks -/

/-- A conversation that is kept for an event of its person, in a flow that is offered. -/
structure Resting (e : Event) (s : Store) (f : Flow) (c : Conversation) : Prop where
  consistent : s.Consistent
  held : s.Holds c
  kept : c.kept = c
  active : c.isActive = true
  flow : c.flow = f.id
  workspace : c.workspace = e.workspace
  phone : c.phone = e.phone
  offered : s.Offers e.workspace e.account f

theorem Resting.activeState? {e : Event} {s : Store} {f : Flow} {c : Conversation}
    (h : Resting e s f c) : s.activeState? e.workspace e.phone = .ok (some c) := by
  have hstate := h.held.activeState? h.consistent h.active
  rwa [h.kept, h.workspace, h.phone] at hstate

/-- A conversation that is kept where the message `m` was refused. The event that led there is about
to be repeated. -/
structure Interrupted (e : Event) (now : Instant) (s : Store) (f : Flow) (c : Conversation)
    (m : Message) (k : Nat) (ms : List Message) (last : Conversation) (stop : Stop) : Prop
    extends Resting e s f c where
  knows : c.Knows e.received
  leg : ∃ l, f.leg? now c = some l ∧ l.message = some m
  walk : f.Walk now k c (m :: ms) last stop

section

variable {e : Event} {env : Environment} {s : Store} {es : List Exchange} {f g : Flow}
  {c last : Conversation} {k : Nat} {m : Message} {ms : List Message} {stop : Stop}

-- The window of a message that a walk begins with is open.
theorem Flow.Walk.fresh {now : Instant} (h : f.Walk now k c ms last stop) {l : Leg}
    (hl : f.leg? now c = some l) (hm : l.message ≠ none) :
    Window.isStale c.lastInbound now = false := by
  have hopen : Window.isOpen c.lastInbound now = true := by
    cases h with
    | stop leg window _ =>
      rw [hl] at leg
      cases leg
      exact window hm
    | go leg window _ _ =>
      rw [hl] at leg
      cases leg
      exact window hm
  rw [Window.isStale, hopen]
  rfl

-- A walk goes no further than a leg that stops it.
theorem Flow.Walk.eq_of_stop {now : Instant} (h : f.Walk now k c ms last stop) {l : Leg}
    (hl : f.leg? now c = some l) {stop' : Stop} (hstop : l.stop = some stop') :
    ms = l.message.toList ∧ stop = stop' := by
  cases h with
  | stop leg _ stops =>
    rw [hl] at leg
    cases leg
    rw [hstop] at stops
    cases stops
    exact ⟨rfl, rfl⟩
  | go leg _ goes _ =>
    rw [hl] at leg
    cases leg
    rw [hstop] at goes
    cases goes

-- An event that is repeated goes on from a message that is no prompt.
theorem Interrupted.passes (h : Interrupted e env.now s f c m k ms last stop)
    (smooth : env.Smooth) (hkept : e.received.kept = e.received)
    (plain : m.isPrompt = false) (es : List Exchange) (drawn : Nat) :
    ∃ d last', e.process.Passes env s es drawn f d (s.set d) (.flowAdvanced f.id d.id) ∧
      Ready e env.now f f d (s.set d) ∧ f.Walk env.now k d (m :: ms) last' stop ∧
      d.Same c ∧ last'.bare = last.bare := by
  obtain ⟨l, hl, hm⟩ := h.leg
  obtain ⟨sn, hsnapshot, hflow⟩ := h.offered
  obtain ⟨n, hnode, -, hsends⟩ := Flow.node_of_leg? hl hm
  have fresh := h.walk.fresh hl (by simp [hm])
  have htaken (d : Conversation) : f.taken? e env.now d n = some d := by
    unfold Flow.taken?
    rcases hsends with ⟨-, ⟨text, hkind⟩ | ⟨text, hkind⟩⟩ | ⟨prompt, -⟩
    · rw [hkind]
    · rw [hkind]
    · rw [plain] at prompt
      cases prompt
  rw [← h.flow] at hflow
  obtain ⟨hpasses, hready, -⟩ := passes_taken smooth.faultless h.consistent hsnapshot hkept es drawn
    h.activeState? fresh hflow hnode (htaken _)
  obtain ⟨last', hwalk, hlast⟩ := h.walk.congr (h.knows.bare_after env.now)
  exact ⟨_, last', hpasses, hready, hwalk, c.same_after _ env.now, hlast⟩

-- An event that is repeated is taken for a reply to a prompt that was never delivered. If it stands
-- for no button there, the conversation goes on waiting or ends.
theorem Interrupted.misread (h : Interrupted e env.now s f c m k ms last stop)
    (smooth : env.Smooth) (prompt : m.isPrompt = true) (es : List Exchange)
    (hchoice : ∀ node, stop = .waiting node → f.continuation? node e.button e.text = none) :
    ms = [] ∧ ∃ kind o s' es', e.process.Leads env s es (.ok o) s' es' ∧
      Conversation.Untaken env s es (c.after (.recordInbound e.received) env.now) kind o s'
        es' := by
  obtain ⟨l, hl, hm⟩ := h.leg
  obtain ⟨sn, hsnapshot, hflow⟩ := h.offered
  obtain ⟨n, hnode, -, hsends⟩ := Flow.node_of_leg? hl hm
  have fresh := h.walk.fresh hl (by simp [hm])
  obtain ⟨⟨plain, -⟩⟩ | ⟨-, hstop, hkind⟩ := hsends
  · rw [prompt] at plain
    cases plain
  · -- A prompt stops the walk, so there was nothing left to be sent after it.
    obtain ⟨hms, hwaiting⟩ := h.walk.eq_of_stop hl hstop
    rw [hm, Option.toList_some, List.cons_inj_right] at hms
    have hheard := c.node_recordInbound e.received env.now
    have htaken : f.taken? e env.now (c.after (.recordInbound e.received) env.now) n = none := by
      unfold Flow.taken?
      rcases hkind with ⟨text, bs, variableName, hkind⟩ | ⟨id, body, callToAction, hkind⟩
      · rw [hkind, hheard]
        simp only [hchoice c.node hwaiting, Option.map_none]
      · rw [hkind]
    rw [← h.flow] at hflow
    exact ⟨hms, n.kind, leads_untaken smooth.faultless h.consistent hsnapshot smooth.still es
      h.activeState? fresh hflow hnode htaken⟩

/-! ## 3. One call -/

-- A copy that only moved lasts as the one it came from does.
theorem Conversation.Lasting.moved {c d : Conversation} (h : c.Lasting) (hd : d.Moved c) :
    d.Lasting ∧ d.lastInbound = c.lastInbound := by
  have hbare : d.bare = { c with node := d.node, resumeAt := none }.bare := hd
  refine ⟨?_, (congrArg Conversation.lastInbound hd :)⟩
  calc d.kept.bare
      = { c with node := d.node, resumeAt := none }.kept.bare := Conversation.kept_congr hbare
    _ = { c.kept.bare with node := d.node, resumeAt := none } := rfl
    _ = d.bare := by rw [h, hd]

-- Where the pass of an event is left, the rest of its walk is kept for an event to come.
theorem Ready.resting {now : Instant} (h : Ready e now f g c s) {left : Conversation}
    (hleft : left = c ∨ left.Moved c) (hsame : left.Same c)
    (hwalk : f.Walk now k left ms last stop) {s' : Store} (hs' : s'.Consistent)
    (held : s'.Holds left) (active : left.isActive = true) (hflows : s'.flows = s.flows)
    (hsettings : s'.settings = s.settings) :
    Resting e s' g left.kept ∧ left.Lasting ∧ left.kept.lastInbound = c.lastInbound ∧
      ∃ last', g.Walk now k left.kept ms last' stop ∧ last'.bare = last.bare := by
  have hlasting : left.Lasting ∧ left.lastInbound = c.lastInbound := by
    rcases hleft with rfl | hmoved
    · exact ⟨h.lasting, rfl⟩
    · exact h.lasting.moved hmoved
  have hinbound : left.kept.lastInbound = left.lastInbound :=
    (congrArg Conversation.lastInbound hlasting.1 :)
  have hresting : Resting e s' g left.kept := {
    consistent := hs'
    held := held.kept
    kept := left.kept_kept
    active := active
    flow := (hsame.flow.trans h.flow).trans h.graph.id.symm
    workspace := hsame.workspace.trans h.workspace
    phone := hsame.phone.trans h.phone
    offered := h.offered.congr hflows hsettings }
  exact ⟨hresting, hlasting.1, hinbound.trans hlasting.2,
    (hwalk.of_graph h.graph.symm).congr hlasting.1⟩

-- Where it is left by a refusal, the event can be repeated.
theorem Ready.interrupted {now : Instant} (h : Ready e now f g c s) {left : Conversation}
    (hleft : left = c ∨ left.Moved c) (hsame : left.Same c) {l : Leg}
    (hl : f.leg? now left = some l) (hm : l.message = some m)
    (hwalk : f.Walk now k left (m :: ms) last stop) {s' : Store} (hs' : s'.Consistent)
    (held : s'.Holds left) (active : left.isActive = true) (hflows : s'.flows = s.flows)
    (hsettings : s'.settings = s.settings) :
    ∃ last', Interrupted e now s' g left.kept m k ms last' stop ∧ last'.bare = last.bare := by
  obtain ⟨hresting, hlasting, hinbound, last', hwalk', hlast⟩ :=
    h.resting hleft hsame hwalk hs' held active hflows hsettings
  have hfg : f.SameGraph g := h.graph.symm
  obtain ⟨t, ht, hle⟩ := h.knows
  exact ⟨last', {
    toResting := hresting
    knows := ⟨t, hinbound.trans ht, hle⟩
    leg := ⟨l, (Flow.leg?_congr hlasting).trans ((hfg.leg? now left).symm.trans hl), hm⟩
    walk := hwalk' }, hlast⟩

-- While the clock stands still it makes no difference that an event is handled by what it shows.
theorem Event.run_handle (still : env.Still) (e : Event) (w : World) : e.handle env w =
    (.ofExcept (e.process env w.reading).1, (e.process env w.reading).2) := by
  have hhandle : e.handle env w = (.ofExcept (e.process (env.asOf w) w.reading).1,
    (e.process (env.asOf w) w.reading).2) := rfl
  rw [hhandle, still.asOf]

theorem Event.leads_handle (still : env.Still) {es es' : List Exchange} {s s' : Store}
    {o : Outcome} (h : e.process.Leads env s es (.ok o) s' es') :
    e.handle.Leads env s es o s' es' := by
  intro w hs hes
  obtain ⟨hresult, hrest⟩ := h w.reading hs hes
  rw [e.run_handle still]
  exact ⟨congrArg Outcome.ofExcept hresult, hrest⟩

-- An event that comes to a pass is handled as the pass goes.
theorem Step.Passes.handle (still : env.Still) {w : World} {report : Pass → Outcome}
    (h : e.process.Passes env w.store w.exchanges w.drawn f c s report)
    {r : Conversation × Except AutomationError Pass} {s' : Store} {es' : List Exchange}
    (hpass : (f.runPass c).Leads env s w.exchanges r s' es') :
    (e.handle env w).1 = .ofExcept (r.2.map report) ∧
      (e.handle env w).2.store.Alike s' ∧ (e.handle env w).2.exchanges = es' := by
  obtain ⟨hresult, halike, hexchanges⟩ :=
    h (env.sender, env.policy.maxNodes) w.reading rfl rfl rfl hpass
  rw [e.run_handle still]
  exact ⟨congrArg Outcome.ofExcept hresult, halike, hexchanges⟩

/-- How `Event.handle` goes when it comes to a pass with a `Walk` to make: it arrives, or a message
is refused and the rest of the walk is left to the next time. -/
inductive Handled (e : Event) (env : Environment) (w : World) (s : Store) (g : Flow)
    (c : Conversation) (k : Nat) (ms : List Message) (last : Conversation) (stop : Stop) :
    Prop where
  | arrived (done : List Exchange) (outcome : ¬ (e.handle env w).1.IsDeliveryFailure)
      (states : (e.handle env w).2.store.states = (s.set last).states)
      (exchanges : (e.handle env w).2.exchanges = done ++ w.exchanges)
      (delivered : Delivered c ms done)
  | refused (m : Message) (before after : List Message) (done : List Exchange) (k' : Nat)
      (c' last' : Conversation) (er : DeliveryError)
      (outcome : (e.handle env w).1.IsDeliveryFailure)
      (exchanges : (e.handle env w).2.exchanges =
        c.exchange env (done ++ w.exchanges) m :: (done ++ w.exchanges))
      (refusal : env.sender (done ++ w.exchanges) (c.intent m) = .error er)
      (messages : ms = before ++ m :: after) (delivered : Delivered c before done)
      (interrupted : Interrupted e env.now (e.handle env w).2.store g c' m k' after last' stop)
      (shorter : k' ≤ k) (same : c'.Same c) (bare : last'.bare = last.bare)
      (states : ∀ d : Conversation, d.id = c.id →
        ((e.handle env w).2.store.set d).states = (s.set d).states)

theorem handled_of_passes (smooth : env.Smooth) {w : World} {report : Pass → Outcome}
    (hpasses : e.process.Passes env w.store w.exchanges w.drawn f c s report)
    (hreport : ∀ pass, ¬ (report pass).IsDeliveryFailure) (hready : Ready e env.now f g c s)
    (hwalk : f.Walk env.now k c ms last stop) (hk : k ≤ max 1 env.policy.maxNodes) :
    Handled e env w s g c k ms last stop := by
  rcases Flow.course_passWithin smooth hwalk (max 1 env.policy.maxNodes) ⟨0, 0, .completed⟩
    w.exchanges hk hready.consistent hready.held hready.active hready.flow with
    ⟨pass, s', done, hleads, -, hdelivered, hwritten, -, -⟩ |
    ⟨left, er, m, k', before, after, s', done, hleads, hrefusal, ⟨l, hl, hm⟩, hmessages,
      hdelivered, hrest, hs', hheld', hactive', hwritten⟩
  · obtain ⟨houtcome, halike, hexchanges⟩ := hpasses.handle smooth.still hleads
    refine .arrived done (houtcome ▸ hreport pass) ?_ hexchanges hdelivered
    rcases hwritten with ⟨rfl, rfl⟩ | rfl
    · rw [halike.states, hready.written]
    · exact halike.states
  · obtain ⟨houtcome, halike, hexchanges⟩ := hpasses.handle smooth.still hleads
    have hsame : left.Same c := hrest.same.symm.trans hwalk.same
    obtain ⟨hflows, hsettings⟩ := hwritten.rows_eq
    -- Whatever is written of the conversation later is written over the same rows.
    have hstates (d : Conversation) (hd : d.id = c.id) :
        ((e.handle env w).2.store.set d).states = (s.set d).states :=
      hwritten.states_set halike.states (hsame.id.trans hd.symm)
    obtain ⟨last', hinterrupted, hlast⟩ := hready.interrupted hwritten.eq_or_moved hsame hl hm
      hrest (hs'.congr halike.states) (hheld'.congr halike.states) hactive'
      (halike.flows.trans hflows) (halike.settings.trans hsettings)
    have hexchange : left.exchange env (done ++ w.exchanges) m =
        c.exchange env (done ++ w.exchanges) m := by
      simp only [Conversation.exchange, hsame.intent_eq]
    rw [hexchange] at hexchanges
    rw [hsame.intent_eq] at hrefusal
    exact .refused m before after done k' left.kept last' er (houtcome ▸ ⟨_, rfl⟩) hexchanges
      hrefusal hmessages hdelivered hinterrupted hwritten.le
      ((Conversation.Same.kept left).trans hsame) hlast hstates

/-! ## 4. Calls again and again -/

-- What is handed over to tell that an event was not taken is a text and no prompt.
theorem Conversation.Untaken.accepted_ne {heard : Conversation} {kind : NodeKind} {o : Outcome}
    {s' : Store} {es' : List Exchange} (h : Untaken env s es heard kind o s' es')
    (c : Conversation) (prompt : m.isPrompt = true) :
    ∃ extra, es' = extra ++ es ∧ acceptedIntents es' ≠ acceptedIntents es ++ [c.intent m] := by
  have hnone : acceptedIntents es ≠ acceptedIntents es ++ [c.intent m] := by simp
  cases h with
  | waits => exact ⟨[], rfl, hnone⟩
  | ends handed =>
    rcases handed with rfl | ⟨d, body, rfl⟩
    · exact ⟨[], rfl, hnone⟩
    · refine ⟨[_], rfl, fun heq => ?_⟩
      rw [acceptedIntents_cons] at heq
      have hlast := List.append_cancel_left heq
      split at hlast
      · have hmessage : Message.text body = m :=
          congrArg SendIntent.message (List.head_eq_of_cons_eq hlast)
        rw [← hmessage] at prompt
        cases prompt
      · cases hlast

-- After a refusal the event finds a prompt that it is no reply to: nothing more is delivered of the
-- walk.
theorem Interrupted.accepted_ne {w : World}
    (h : Interrupted e env.now w.store f c m k ms last stop) (smooth : env.Smooth)
    (prompt : m.isPrompt = true)
    (hchoice : ∀ node, stop = .waiting node → f.continuation? node e.button e.text = none) :
    ms = [] ∧ ¬ (e.handle env w).1.IsDeliveryFailure ∧
      ∃ extra, (e.handle env w).2.exchanges = extra ++ w.exchanges ∧
        acceptedIntents (e.handle env w).2.exchanges ≠
          acceptedIntents w.exchanges ++ [c.intent m] := by
  obtain ⟨hms, kind, o, s', es', hleads, huntaken⟩ :=
    h.misread smooth prompt w.exchanges hchoice
  obtain ⟨houtcome, -, hexchanges, -⟩ := Event.leads_handle smooth.still hleads w rfl rfl
  refine ⟨hms, ?_, ?_⟩
  · rw [houtcome]
    cases huntaken <;> exact Outcome.not_isDeliveryFailure (by simp)
  · rw [hexchanges]
    exact huntaken.accepted_ne c prompt

/-- What an event comes to that is repeated `n` times, where `handed` is what is handed over. If no
prompt was refused, the messages to be sent are accepted and the rows to be stored are; if one was,
and the event is no choice, it is not so. -/
structure Repeated (e : Event) (env : Environment) (w : World) (intents : List SendIntent)
    (rows : List Store.StateRow) (choice : Prop) (n : Nat) (handed : List Exchange) : Prop where
  exchanges : (e.handle.again env w n).2.exchanges = handed ++ w.exchanges
  earlier : ∀ i < n, (e.handle.again env w i).1.IsDeliveryFailure
  whole : (∀ x ∈ handed, x.intent.message.isPrompt = true → x.accepted = true) →
    ¬ (e.handle.again env w n).1.IsDeliveryFailure ∧
      acceptedIntents (e.handle.again env w n).2.exchanges = intents ∧
      (e.handle.again env w n).2.store.versionless.states = rows
  lost : (∃ x ∈ handed, x.intent.message.isPrompt = true ∧ x.accepted = false) → ¬ choice →
    ¬ (e.handle.again env w n).1.IsDeliveryFailure ∧
      acceptedIntents (e.handle.again env w n).2.exchanges ≠ intents

-- An event that goes through at once.
theorem repeated_arrived {w : World} {intents : List SendIntent} {rows : List Store.StateRow}
    {choice : Prop} {done : List Exchange} (outcome : ¬ (e.handle env w).1.IsDeliveryFailure)
    (exchanges : (e.handle env w).2.exchanges = done ++ w.exchanges)
    (delivered : Delivered c ms done)
    (intents_eq : acceptedIntents w.exchanges ++ ms.map c.intent = intents)
    (rows_eq : (e.handle env w).2.store.versionless.states = rows) :
    Repeated e env w intents rows choice 0 done where
  exchanges := exchanges
  earlier := by simp
  whole _ := by
    refine ⟨outcome, ?_, rows_eq⟩
    rw [Act.again, exchanges, delivered.acceptedIntents, intents_eq]
  lost := by
    rintro ⟨x, hx, -, hrefused⟩
    rw [delivered.accepted x hx] at hrefused
    cases hrefused

-- An event that goes on after a refusal, which was no prompt's.
theorem Repeated.succ {w : World} {intents : List SendIntent} {rows : List Store.StateRow}
    {choice : Prop} {n : Nat} {handed done : List Exchange} {x : Exchange}
    (h : Repeated e env (e.handle env w).2 intents rows choice n handed)
    (outcome : (e.handle env w).1.IsDeliveryFailure)
    (exchanges : (e.handle env w).2.exchanges = x :: (done ++ w.exchanges))
    (plain : x.intent.message.isPrompt = false) (accepted : ∀ y ∈ done, y.accepted = true) :
    Repeated e env w intents rows choice (n + 1) (handed ++ x :: done) where
  exchanges := by
    rw [Act.again_succ, h.exchanges, exchanges]
    simp
  earlier i hi := by
    cases i with
    | zero => exact outcome
    | succ i =>
      rw [Act.again_succ]
      exact h.earlier i (by omega)
  whole hprompts := by
    rw [Act.again_succ]
    exact h.whole fun y hy => hprompts y (List.mem_append_left _ hy)
  lost := by
    rintro ⟨y, hy, hprompt, hrefused⟩ hchoice
    rw [Act.again_succ]
    rcases List.mem_append.mp hy with hy | hy
    · exact h.lost ⟨y, hy, hprompt, hrefused⟩ hchoice
    · rcases List.mem_cons.mp hy with rfl | hy
      · cases plain.symm.trans hprompt
      · rw [accepted y hy] at hrefused
        cases hrefused

-- An event that is repeated after a prompt was refused.
theorem repeated_lost {w : World} {intents : List SendIntent} {rows : List Store.StateRow}
    {choice : Prop} {done : List Exchange} {x : Exchange}
    (outcome : (e.handle env w).1.IsDeliveryFailure)
    (exchanges : (e.handle env w).2.exchanges = x :: (done ++ w.exchanges))
    (prompt : x.intent.message.isPrompt = true) (refused : x.accepted = false)
    (again : ¬ choice → ¬ (e.handle.again env w 1).1.IsDeliveryFailure ∧
      ∃ extra, (e.handle.again env w 1).2.exchanges = extra ++ (e.handle env w).2.exchanges ∧
        acceptedIntents (e.handle.again env w 1).2.exchanges ≠ intents) :
    ∃ n handed, Repeated e env w intents rows choice n handed := by
  have hlost (extra : List Exchange) (h : ∀ y ∈ extra ++ x :: done,
      y.intent.message.isPrompt = true → y.accepted = true) : False := by
    have hx := h x (by simp) prompt
    rw [refused] at hx
    cases hx
  by_cases hchoice : choice
  · exact ⟨0, x :: done, exchanges, by simp, fun h => (hlost [] h).elim,
      fun _ h => absurd hchoice h⟩
  · obtain ⟨hgood, extra, hextra, hne⟩ := again hchoice
    refine ⟨1, extra ++ x :: done, ?_, fun i hi => ?_, fun h => (hlost extra h).elim,
      fun _ _ => ⟨hgood, hne⟩⟩
    · rw [hextra, exchanges]
      simp
    · obtain rfl : i = 0 := by omega
      exact outcome

/-- From wherever a `walk` is left an event that is repeated makes it once, unless a prompt is
refused. -/
theorem again_of_passes (smooth : env.Smooth) (hkept : e.received.kept = e.received)
    {limit : Nat} (relents : env.sender.Relents limit) {w : World} {report : Pass → Outcome}
    (hpasses : e.process.Passes env w.store w.exchanges w.drawn f c s report)
    (hreport : ∀ pass, ¬ (report pass).IsDeliveryFailure) (hready : Ready e env.now f g c s)
    (hwalk : f.Walk env.now k c ms last stop) (hk : k ≤ max 1 env.policy.maxNodes) :
    ∃ n handed, Repeated e env w (acceptedIntents w.exchanges ++ ms.map c.intent)
      (s.set last).versionless.states
      (∃ node, stop = .waiting node ∧ f.continuation? node e.button e.text ≠ none) n handed := by
  -- Each refusal uses up one of the exchanges after which the sender relents.
  induction hd : limit - w.exchanges.length using Nat.strong_induction_on
    generalizing w f g c s report k ms last with
  | _ d ih =>
  have hfg : f.SameGraph g := hready.graph.symm
  have hchoice (node : String) :
      g.continuation? node e.button e.text = f.continuation? node e.button e.text :=
    (hfg.continuation? node _ _).symm
  rcases handled_of_passes smooth hpasses hreport hready hwalk hk with
    ⟨done, houtcome, hstates, hexchanges, hdelivered⟩ |
    ⟨m, before, after, done, k', c', last', er, houtcome, hexchanges, hrefusal, hmessages,
      hdelivered, hinterrupted, hk', hsame, hlast, hstates⟩
  · exact ⟨0, done, repeated_arrived houtcome hexchanges hdelivered rfl
      (by simp only [Store.versionless, hstates])⟩
  · have haccepted : acceptedIntents (e.handle env w).2.exchanges =
        acceptedIntents w.exchanges ++ before.map c.intent := by
      rw [hexchanges, acceptedIntents_refused hrefusal, hdelivered.acceptedIntents]
    cases prompt : m.isPrompt with
    | true =>
      refine repeated_lost houtcome hexchanges prompt (Conversation.accepted_exchange hrefusal)
        fun hno => ?_
      obtain ⟨hafter, hgood, extra, hextra, hne⟩ := hinterrupted.accepted_ne smooth prompt
        fun node hstop => by
          by_contra hsome
          exact hno ⟨node, hstop, hchoice node ▸ hsome⟩
      refine ⟨hgood, extra, hextra, ?_⟩
      rw [haccepted, hsame.intent_eq] at hne
      rw [hmessages, hafter, List.map_append, ← List.append_assoc]
      exact hne
    | false =>
      obtain ⟨c₁, last₁, hpasses₁, hready₁, hwalk₁, hsame₁, hlast₁⟩ := hinterrupted.passes smooth
        hkept prompt (e.handle env w).2.exchanges (e.handle env w).2.drawn
      have hlength : limit - (e.handle env w).2.exchanges.length < d := by
        rw [hexchanges, ← hd]
        exact relents.refusals_lt hrefusal _
      obtain ⟨n, handed, hrepeated⟩ := ih _ hlength hpasses₁
        (fun _ => Outcome.not_isDeliveryFailure (by simp)) hready₁ hwalk₁ (hk'.trans hk) rfl
      have hsame' : c₁.Same c := hsame₁.trans hsame
      -- What is left to be sent and stored is what was left before the refusal.
      have hintents : acceptedIntents (e.handle env w).2.exchanges ++
          (m :: after).map c₁.intent = acceptedIntents w.exchanges ++ ms.map c.intent := by
        rw [haccepted, hsame'.intent_eq, hmessages, List.map_append, List.append_assoc]
      have hrows : (((e.handle env w).2.store.set c₁).set last₁).versionless.states =
          (s.set last).versionless.states := by
        have hlast' : ((e.handle env w).2.store.set last₁).states = (s.set last₁).states :=
          hstates last₁ (hwalk₁.same.trans hsame').id
        rw [Store.set_set _ hwalk₁.same.symm.id, ← Store.versionless_set (hlast₁.trans hlast)
          ((hwalk₁.updated hready₁.updated).trans (hwalk.updated hready.updated).symm)]
        simp only [Store.versionless, hlast']
      simp only [hintents, hrows, hchoice] at hrepeated
      exact ⟨n + 1, _, hrepeated.succ houtcome hexchanges prompt hdelivered.accepted⟩

end

/-- An event stands for a button of a node (`continuation?`), in a flow that its account offers. -/
def Event.Chooses (e : Event) (s : Store) (flow : Uuid) (node : String) : Prop :=
  ∃ f, s.Offers e.workspace e.account f ∧ f.id = flow ∧
    f.continuation? node e.button e.text ≠ none

-- An event that starts a flow or goes on with it comes to a pass with a walk to make, and tells of
-- that pass.
theorem reports_of_handle {env : Environment} {e : Event} {w : World} {flow state : Uuid}
    {pass : Pass} (smooth : env.Smooth) (hkept : e.received.kept = e.received)
    (hs : w.store.Consistent) (keyed : w.store.Keyed)
    (goes : (e.handle env w).1 = .flowStarted flow state pass ∨
      (e.handle env w).1 = .flowAdvanced flow state pass)
    (stops : ∀ node, pass.stop ≠ .limitReached node) :
    ∃ f g c s report k ms last, e.process.Passes env w.store w.exchanges w.drawn f c s report ∧
      (report = .flowStarted f.id c.id ∨ report = .flowAdvanced f.id c.id) ∧
      Ready e env.now f g c s ∧ w.store.Offers e.workspace e.account f ∧ f.id = flow ∧
      c.id = state ∧ k ≤ max 1 env.policy.maxNodes ∧ f.Walk env.now k c ms last pass.stop := by
  have htells : (Outcome.ofExcept (e.process env w.reading).1).pass? =
      some (flow, state, pass) := by
    rw [e.run_handle smooth.still] at goes
    rcases goes with hgoes | hgoes
    · exact congrArg Outcome.pass? hgoes
    · exact congrArg Outcome.pass? hgoes
  rcases fares_process smooth hs keyed hkept w.exchanges w.drawn with
    @⟨f, g, c, s, report, hpasses, hready, offered, hreport⟩ | hfruitless
  · obtain ⟨last, outcome, s', es', hleads, hwalk⟩ := Flow.leads_passWithin smooth
      (max 1 env.policy.maxNodes) ⟨0, 0, .completed⟩ w.exchanges hready.consistent hready.held
      hready.active hready.flow
    obtain ⟨hresult, -⟩ := hpasses (env.sender, env.policy.maxNodes) w.reading rfl rfl rfl hleads
    have hresult' : (e.process env w.reading).1 = outcome.map report := hresult
    rw [hresult'] at htells
    cases outcome with
    | error err =>
      rw [Except.map, Outcome.pass?_ofError] at htells
      cases htells
    | ok pass' =>
      have hreport' : (report pass').pass? = some (f.id, c.id, pass') := by
        rcases hreport with rfl | rfl <;> rfl
      have heq : some (f.id, c.id, pass') = some (flow, state, pass) := hreport'.symm.trans htells
      cases heq
      rcases hwalk pass rfl with ⟨node, hnode⟩ | ⟨k, ms, last', hk, hwalk⟩
      · exact absurd hnode (stops node)
      · exact ⟨f, g, c, s, report, k, ms, last', hpasses, hreport, hready, offered, rfl, rfl, hk,
          hwalk⟩
  · have hnone := hfruitless (env.sender, env.policy.maxNodes) w.reading rfl rfl rfl
    cases htells.symm.trans hnone

-- No such report is that a delivery failed.
theorem passes_of_handle {env : Environment} {e : Event} {w : World} {flow state : Uuid}
    {pass : Pass} (smooth : env.Smooth) (hkept : e.received.kept = e.received)
    (hs : w.store.Consistent) (keyed : w.store.Keyed)
    (goes : (e.handle env w).1 = .flowStarted flow state pass ∨
      (e.handle env w).1 = .flowAdvanced flow state pass)
    (stops : ∀ node, pass.stop ≠ .limitReached node) :
    ∃ f g c s report k ms last, e.process.Passes env w.store w.exchanges w.drawn f c s report ∧
      (∀ pass, ¬ (report pass).IsDeliveryFailure) ∧ Ready e env.now f g c s ∧
      w.store.Offers e.workspace e.account f ∧ f.id = flow ∧ k ≤ max 1 env.policy.maxNodes ∧
      f.Walk env.now k c ms last pass.stop := by
  obtain ⟨f, g, c, s, report, k, ms, last, hpasses, hreport, hready, offered, hflow, -, hk,
    hwalk⟩ := reports_of_handle smooth hkept hs keyed goes stops
  refine ⟨f, g, c, s, report, k, ms, last, hpasses, fun _ => ?_, hready, offered, hflow, hk, hwalk⟩
  rcases hreport with rfl | rfl <;> exact Outcome.not_isDeliveryFailure (by simp)

/-- **An event that is repeated has one effect, unless a prompt was refused.** Let an event start a
flow or go on with it (`goes`), where nothing is refused, and not spend its budget (`stops`). Then
the event is repeated, whatever is refused as long as the sender `Relents`. If no message that
`isPrompt` was refused, it goes through at last: what the sender has accepted by then, and what the
store holds of conversations but for versions, are what they are where nothing is refused. If one
was refused, and the event stands for none of its buttons, it ends as well, but other messages were
accepted. -/
theorem handle_again {env : Environment} {calm : Sender} {e : Event} {w : World}
    {flow state : Uuid} {pass : Pass} {limit : Nat} (smooth : env.Smooth)
    (year : e.received.FourDigitYear) (hs : w.store.Consistent) (keyed : w.store.Keyed)
    (accepts : calm.Accepts) (relents : env.sender.Relents limit)
    (goes : (e.handle { env with sender := calm } w).1 = .flowStarted flow state pass ∨
      (e.handle { env with sender := calm } w).1 = .flowAdvanced flow state pass)
    (stops : ∀ node, pass.stop ≠ .limitReached node) :
    ∃ n handed, (e.handle.again env w n).2.exchanges = handed ++ w.exchanges ∧
      (∀ i < n, (e.handle.again env w i).1.IsDeliveryFailure) ∧
      ((∀ x ∈ handed, x.intent.message.isPrompt = true → x.accepted = true) →
        ¬ (e.handle.again env w n).1.IsDeliveryFailure ∧
          acceptedIntents (e.handle.again env w n).2.exchanges =
            acceptedIntents (e.handle { env with sender := calm } w).2.exchanges ∧
          (e.handle.again env w n).2.store.versionless.states =
            (e.handle { env with sender := calm } w).2.store.versionless.states) ∧
      ((∃ x ∈ handed, x.intent.message.isPrompt = true ∧ x.accepted = false) →
        (∀ node, pass.stop = .waiting node → ¬ e.Chooses w.store flow node) →
        ¬ (e.handle.again env w n).1.IsDeliveryFailure ∧
          acceptedIntents (e.handle.again env w n).2.exchanges ≠
            acceptedIntents (e.handle { env with sender := calm } w).2.exchanges) := by
  have hkept := Instant.kept_of_fourDigitYear year
  obtain ⟨f, g, c, s, report, k, ms, last, hpasses, hreport, hready, offered, hflow, hk, hwalk⟩ :=
    passes_of_handle (smooth.withSender calm) hkept hs keyed goes stops
  -- Where nothing is refused, the walk is made at once.
  obtain ⟨hintents, hrows⟩ :
      acceptedIntents (e.handle { env with sender := calm } w).2.exchanges =
        acceptedIntents w.exchanges ++ ms.map c.intent ∧
      (e.handle { env with sender := calm } w).2.store.versionless.states =
        (s.set last).versionless.states := by
    rcases handled_of_passes (smooth.withSender calm) hpasses hreport hready hwalk hk with
      ⟨done, -, hstates, hexchanges, hdelivered⟩ | ⟨m, _, _, done, _, _, _, er, -, -, hrefusal, -⟩
    · refine ⟨?_, by simp only [Store.versionless, hstates]⟩
      rw [hexchanges, hdelivered.acceptedIntents]
    · obtain ⟨r, hr⟩ := accepts (done ++ w.exchanges) (c.intent m)
      cases hr.symm.trans hrefusal
  obtain ⟨n, handed, h⟩ :=
    again_of_passes smooth hkept relents hpasses hreport hready hwalk hk
  rw [hintents, hrows]
  refine ⟨n, handed, h.exchanges, h.earlier, h.whole, fun hrefused hchooses => ?_⟩
  refine h.lost hrefused ?_
  rintro ⟨node, hstop, hchoice⟩
  exact hchooses node hstop ⟨f, offered, hflow, hchoice⟩

/-! ## 5. A prompt that is lost -/

/-- Greets whoever writes, and asks a question (`handle_again_asking`). -/
def Flow.asking : Flow :=
  { Flow.new (.ofNat 1) "shop" "main" "asking" .anyMessage (.ofSeconds 0) with
    nodes := [⟨"start", .trigger⟩, ⟨"hello", .message "Hello"⟩,
      ⟨"ask", .buttons "Shall we call you?" [⟨"yes", "Yes"⟩] none⟩]
    edges := [⟨"start", "hello", none⟩, ⟨"hello", "ask", none⟩] }

/-- Refuses nothing but what is handed over after `n` other messages. -/
def Sender.refusing (n : Nat) : Sender := fun earlier _ =>
  if earlier.length = n then .error (.transport "refused") else .ok ⟨none⟩

theorem Sender.relents_refusing (n : Nat) : (Sender.refusing n).Relents (n + 1) := by
  intro earlier intent h
  exact ⟨⟨none⟩, if_neg (by omega)⟩

/-- The question of `Flow.asking` is refused, and the event that is repeated ends the
conversation. -/
theorem handle_again_asking :
    ∃ w env, w = (World.start {}).after [(.calm (.ofSeconds 0), .putFlow .asking)] ∧
      env = { Environment.calm (.ofSeconds 60) with sender := .refusing 1 } ∧
      (Event.hello.handle (.calm (.ofSeconds 60)) w).1 =
        .flowStarted (.ofNat 1) (.ofNat 0) ⟨3, 2, .waiting "ask"⟩ ∧
      (Event.hello.handle.again env w 1).1 = .recovered (.ofNat 0) "ask" ∧
      ∃ n handed, (Event.hello.handle.again env w n).2.exchanges = handed ++ w.exchanges ∧
        (∀ i < n, (Event.hello.handle.again env w i).1.IsDeliveryFailure) ∧
        ((∀ x ∈ handed, x.intent.message.isPrompt = true → x.accepted = true) →
          ¬ (Event.hello.handle.again env w n).1.IsDeliveryFailure ∧
            acceptedIntents (Event.hello.handle.again env w n).2.exchanges =
              acceptedIntents (Event.hello.handle (.calm (.ofSeconds 60)) w).2.exchanges ∧
            (Event.hello.handle.again env w n).2.store.versionless.states =
              (Event.hello.handle (.calm (.ofSeconds 60)) w).2.store.versionless.states) ∧
        ((∃ x ∈ handed, x.intent.message.isPrompt = true ∧ x.accepted = false) →
          (∀ node, Stop.waiting "ask" = .waiting node →
            ¬ Event.hello.Chooses w.store (.ofNat 1) node) →
          ¬ (Event.hello.handle.again env w n).1.IsDeliveryFailure ∧
            acceptedIntents (Event.hello.handle.again env w n).2.exchanges ≠
              acceptedIntents (Event.hello.handle (.calm (.ofSeconds 60)) w).2.exchanges) :=
  ⟨_, _, rfl, rfl, by decide +kernel, by decide +kernel,
    @handle_again { Environment.calm (.ofSeconds 60) with sender := .refusing 1 }
      (Environment.calm (.ofSeconds 60)).sender .hello _ (.ofNat 1) (.ofNat 0)
      ⟨3, 2, .waiting "ask"⟩ 2 ⟨fun _ _ => rfl, fun _ => rfl⟩ (by decide)
      (World.traced_after rfl _).consistent (World.keyed_after rfl (Store.keyed_of_nil rfl) _)
      (fun _ _ => ⟨_, rfl⟩) (Sender.relents_refusing 1) (.inl (by decide +kernel)) (fun _ => by simp)⟩

end Autoresponder
