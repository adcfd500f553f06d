import Autoresponder.Proofs.Engine.Conduct

/-!
# Deeds

An event, a delay that is over and a form that was filled in are occasions on which conversations
change. A deed is an effect together with its cause: what gave occasion to it, and what the flow of
the conversation says about the node on which it stands.
-/

namespace Autoresponder

/-! ## 1. Occasions -/

/-- What gives occasion to changes. -/
inductive Occasion where
  | event (e : Event)
  | resume (id : Uuid)
  | form (id : Uuid) (fields : List (String × Json))

namespace Occasion

/-- The account whose flows are loaded to go on with a conversation. -/
def account (c : Conversation) : Occasion → String
  | event e => e.account
  | resume _ => c.account
  | form _ _ => c.account

/-- The conversation that is called for. -/
def conversation? : Occasion → Option Uuid
  | event _ => none
  | resume id => some id
  | form id _ => some id

/-- A conversation is of the person whose event it is, or the one that is called for. -/
def Meets (c : Conversation) : Occasion → Prop
  | event e => c.workspace = e.workspace ∧ c.phone = e.phone
  | resume id => c.id = id
  | form id _ => c.id = id

theorem Meets.of_same {o : Occasion} {c d : Conversation} (h : o.Meets c) (hsame : d.Same c) :
    o.Meets d := by
  cases o with
  | event e => exact ⟨hsame.workspace.trans h.1, hsame.phone.trans h.2⟩
  | resume id => exact hsame.id.trans h
  | form id fields => exact hsame.id.trans h

end Occasion

/-! ## 2. Places in a flow -/

/-- An account has a flow to answer with, in the `Store.snapshot` of it: it is active and can be
walked. -/
def Store.Charts (s : Store) (workspace account : String) (f : Flow) : Prop :=
  ∃ sn, s.snapshot workspace account = .ok sn ∧ f ∈ sn.flows

/-- A conversation stands on the node `n` of its flow, as that was loaded on an occasion. -/
structure Conversation.Stands (before : Store) (o : Occasion) (c : Conversation) (f : Flow)
    (n : Node) : Prop where
  charted : before.Charts c.workspace (o.account c) f
  flow : f.id = c.flow
  node : f.node? c.node = some n

/-- A node that is left as soon as it has been executed. -/
def NodeKind.isPlain : NodeKind → Bool
  | trigger => true
  | message _ => true
  | _ => false

/-- A change that takes note of something, and concerns neither where a conversation stands nor when
it is resumed nor which button was chosen. -/
def Conversation.Change.Notes : Conversation.Change → Prop
  | recordInbound _ => True
  | mergeVariables _ => True
  | markWaiting => True
  | _ => False

theorem Conversation.Change.Notes.after {ch : Conversation.Change} (h : ch.Notes)
    (c : Conversation) (now : Instant) :
    (c.after ch now).node = c.node ∧ (c.after ch now).resumeAt = c.resumeAt ∧
      (c.after ch now).lastButton = c.lastButton := by
  cases ch with
  | recordInbound time =>
    unfold Conversation.after
    rcases Conversation.apply_recordInbound now time c with heq | heq <;> rw [heq] <;>
      exact ⟨rfl, rfl, rfl⟩
  | mergeVariables entries => exact ⟨rfl, rfl, rfl⟩
  | markWaiting => exact ⟨rfl, rfl, rfl⟩
  | _ => exact h.elim

/-! ## 3. Causes -/

/-- Why a conversation changes at the time `now`, given the store as it was `before`, when the
occasion arose, and the time `called` at which that was. -/
inductive Cause (before : Store) (o : Occasion) (called now : Instant) (c : Conversation) :
    Conversation.Change → Prop where
  | notes {ch : Conversation.Change} (h : ch.Notes) : Cause before o called now c ch
  | complete : Cause before o called now c .complete
  /-- An event stands for a button, and that is taken note of. -/
  | record {f : Flow} {n : Node} {e : Event} {choice : Continuation} (occasion : o = .event e)
      (stands : c.Stands before o f n)
      (chosen : f.continuation? c.node e.button e.text = some choice) :
      Cause before o called now c (.recordButton choice.button.id)
  /-- A node was executed that needs no reply. -/
  | pass {f : Flow} {n : Node} {next : String} (stands : c.Stands before o f n)
      (plain : n.kind.isPlain = true) (edge : f.next? c.node = some next) :
      Cause before o called now c (.advance next)
  /-- A delay begins that has not begun before. -/
  | delay {f : Flow} {n : Node} {seconds : UInt64} {t : Instant} (stands : c.Stands before o f n)
      (kind : n.kind = .delay seconds) (fresh : c.resumeAt = none)
      (ends : now.add? (Span.ofSeconds seconds.toNat) = some t) :
      Cause before o called now c (.scheduleResume t)
  /-- An event stands for a button. -/
  | answer {f : Flow} {n : Node} {e : Event} {choice : Continuation} (occasion : o = .event e)
      (stands : c.Stands before o f n)
      (chosen : f.continuation? c.node e.button e.text = some choice)
      (recorded : c.lastButton = some choice.button.id) :
      Cause before o called now c (.advance choice.target)
  /-- A delay is over. -/
  | wake {f : Flow} {n : Node} {next : String} (occasion : o = .resume c.id)
      (stands : c.Stands before o f n) (kind : n.kind.isDelay = true) (read : c.kept = c)
      (due : Window.delayDue c.resumeAt called = true) (edge : f.next? c.node = some next) :
      Cause before o called now c (.advance next)
  /-- A form was filled in. -/
  | fill {f : Flow} {n : Node} {next : String} {fields : List (String × Json)}
      (occasion : o = .form c.id fields) (stands : c.Stands before o f n)
      (kind : n.kind.isForm = true) (edge : f.next? c.node = some next) :
      Cause before o called now c (.advance next)
  /-- A delivery that failed is tried again. -/
  | retry {f : Flow} {n : Node} (occasion : o = .resume c.id) (stands : c.Stands before o f n)
      (kind : n.kind.isDelay = false) : Cause before o called now c .clearResume

/-! ## 4. Messages -/

/-- What `executeNode` sends to the person of a conversation from a node. -/
def NodeKind.tells (c : Conversation) : NodeKind → Option Message
  | trigger => none
  | message text => some (.text (c.render text))
  | buttons text bs _ => some (.buttons (c.render text) (shownButtons bs c.collected c.phone))
  | delay _ => none
  | form id body callToAction => some (.form id (c.render body) callToAction c.id)
  | finish text => (text.filter fun t => !Text.blank t).map fun t => .text (c.render t)

/-- What is said to a reply for which a conversation has no use. -/
def AccountSettings.recoveryText (settings : AccountSettings) (policy : Policy) : String :=
  (settings.recovery.filter fun m => !Text.blank m).getD policy.recovery

/-- Why a message goes to the person of a conversation: the node on which the conversation stands
tells it (`NodeKind.tells`), or its flow has no use for a reply (`recoveryText`). -/
inductive Purpose (before : Store) (o : Occasion) (env : Environment) (c : Conversation) :
    Message → Prop where
  | node {f : Flow} {n : Node} {m : Message} (stands : c.Stands before o f n)
      (told : n.kind.tells c = some m) : Purpose before o env c m
  | recovery {f : Flow} {sn : Snapshot}
      (loaded : before.snapshot c.workspace (o.account c) = .ok sn) (charted : f ∈ sn.flows)
      (flow : f.id = c.flow) : Purpose before o env c (.text (sn.settings.recoveryText env.policy))

/-- An event is answered by a rule. -/
structure Event.Selects (before : Store) (env : Environment) (e : Event) (r : Rule)
    (selected : Selected) : Prop where
  chosen : ∃ sn, before.snapshot e.workspace e.account = .ok sn ∧
    (sn.select env.matcher ⟨e.text, e.isFirst, env.now⟩).1 = some selected
  rule : selected.candidate = .rule r

/-- What a rule answers an event with. An answer of the knowledge base goes before its response. -/
inductive Rule.Answers (env : Environment) (e : Event) (r : Rule) :
    Option FaqAnswer → Message → Prop where
  | faq (answer : FaqAnswer) : Answers env e r (some answer) (.text answer.answer)
  | text {text : String} (response : r.response = .text text) :
      Answers env e r none (.text (Variables.empty.render e.phone text))
  | buttons {text : String} {bs : List Button} (response : r.response = .buttons text bs) :
      Answers env e r none
        (.buttons (Variables.empty.render e.phone text) (shownButtons bs .empty e.phone))
  | template {name language : String} {parameters : List String}
      (response : r.response = .template name language parameters) :
      Answers env e r none (.template name language parameters)
  | ai {instructions : Option String} {respond : Responder} {body : String}
      (response : r.response = .ai instructions) (asked : env.responder = some respond)
      (replied : respond ⟨e.workspace, e.account, e.phone, e.text, instructions⟩ =
        .ok (some body)) : Answers env e r none (.text body)

/-! ## 5. Deeds -/

/-- The effects on a world on an occasion that arose at the time of `env`, with their causes. What
is done later goes by what the clock has shown since its reading `first`. -/
inductive Deed (events : List Event) (o : Occasion) (before : Store) (env : Environment)
    (first : Nat) (w : World) : World → Prop where
  /-- Something is asked, drawn, read or called in vain. -/
  | quiet {w' : World} (idles : w.Idles w') : Deed events o before env first w w'
  /-- An active conversation changes. -/
  | change (c : Conversation) (ch : Conversation.Change) (now : Instant)
      (told : env.Told first w now) (live : Live events c w.store) (active : c.isActive = true)
      (heard : (c.after ch now).Heard events) (cause : Cause before o env.now now c ch) :
      Deed events o before env first w (w.write (w.store.set (c.after ch now)))
  /-- A conversation begins with an event. -/
  | begin {f : Flow} {start : Node} (e : Event) (id : Uuid) (now : Instant) (s : Store)
      (told : env.Told first w now) (occasion : o = .event e) (handled : e ∈ events)
      (charted : before.Charts e.workspace e.account f) (starts : f.start? = some start)
      (created : w.store.createState (.begun id e.workspace e.account e.phone f.id start.id
        (some e.received) now) = .ok s) :
      Deed events o before env first w (w.write s)
  /-- A message goes to the person of a conversation. -/
  | send (c : Conversation) (m : Message) (now : Instant) (told : env.Told first w now)
      (live : Live events c w.store)
      (window : m.requiresWindow = true →
        Window.isOpen c.lastInbound (env.clock w.readings) = true)
      (meets : o.Meets c) (purpose : Purpose before o env c m) :
      Deed events o before env first w (w.handing (env.atTime now) (c.intent m))
  /-- A rule answers an event. -/
  | reply {r : Rule} {selected : Selected} (e : Event) (m : Message) (now : Instant)
      (told : env.Told first w now) (handled : e ∈ events)
      (window : m.requiresWindow = true →
        Window.isOpen (some e.received) (env.clock w.readings) = true)
      (occasion : o = .event e) (selects : e.Selects before env r selected)
      (answers : r.Answers env e selected.faq m) :
      Deed events o before env first w (w.handing (env.atTime now) (e.intent m))
  /-- The start of a flow is counted. -/
  | countStart (flow : Uuid) (now : Instant) :
      Deed events o before env first w (w.write (w.store.countFlowStart flow now))

/-- What may be done for a conversation that is called for when a delivery has failed. That goes by
`env.now`, the time at which the occasion arose. -/
inductive Keep (events : List Event) (o : Occasion) (before : Store) (env : Environment)
    (first : Nat) (w : World) : World → Prop where
  /-- The conversation goes back to where it was found. -/
  | rewind (c found : Conversation) (told : env.Told first w env.now)
      (occasion : o.conversation? = some c.id) (live : Live events c w.store)
      (active : c.isActive = true) (stored : before.state? c.id = .ok (some found)) :
      Keep events o before env first w
        (w.write (w.store.set (c.after (.rewind found.node found.resumeAt) env.now)))
  /-- The conversation stays on the node whose message was refused, and is due at once. -/
  | postpone {f : Flow} {n : Node} (c : Conversation) (told : env.Told first w env.now)
      (occasion : o.conversation? = some c.id) (live : Live events c w.store)
      (active : c.isActive = true) (stands : c.Stands before o f n)
      (kind : n.kind.isDelay = false) :
      Keep events o before env first w
        (w.write (w.store.set (c.after (.scheduleResume env.now) env.now)))

structure Store.SameRecords (s s' : Store) : Prop where
  firings : s.firings = s'.firings
  rules : s.rules = s'.rules
  settings : s.settings = s'.settings

section

variable {events : List Event} {o : Occasion} {before : Store} {env : Environment} {first : Nat}
  {w w' : World}

/-- A `Deed` is an `Effect`. -/
theorem Deed.effect (h : Deed events o before env first w w') : Effect events env first w w' := by
  cases h with
  | quiet idles => exact .quiet idles
  | change c ch now told live active heard _ => exact .change c ch now told live active heard
  | begin e id now s told _ handled _ _ created => exact .begin e id _ _ now s told handled created
  | send c m now told live window _ _ => exact .send c m now told live window
  | reply e m now told handled window _ _ _ => exact .reply e m now told handled window
  | countStart flow now => exact .countStart flow now

theorem Keep.effect (h : Keep events o before env first w w') : Effect events env first w w' := by
  cases h with
  | rewind c found told _ live active _ =>
    exact .change c _ env.now told live active (live.heard.after (by simp))
  | postpone c told _ live active _ _ =>
    exact .change c _ env.now told live active (live.heard.after (by simp))

-- Firings, rules and settings are not touched.
theorem Deed.sameRecords (h : Deed events o before env first w w') :
    w'.store.SameRecords w.store := by
  cases h with
  | quiet idles => exact idles.store ▸ ⟨rfl, rfl, rfl⟩
  | begin e id now s _ _ _ _ _ created =>
    rw [World.write, (Store.states_createState created).1]
    exact ⟨rfl, rfl, rfl⟩
  | _ => exact ⟨rfl, rfl, rfl⟩

theorem Effect.readings (h : Effect events env first w w') : w.readings ≤ w'.readings := by
  cases h with
  | quiet idles => exact idles.readings
  | send | reply =>
    change w.readings ≤ if _ then w.readings + 1 else w.readings
    split
    · exact Nat.le_succ _
    · exact le_refl _
  | _ => exact le_refl _

/-- What happens on an occasion, as far as it concerns conversations: every `Deed`, in a store that
is `Traced`. -/
def Occasion.conduct (events : List Event) (o : Occasion) (before : Store) (env : Environment)
    (first : Nat) : Conduct where
  Deed := Deed events o before env first
  Sound s := Traced events s ∧ s.SameRecords before
  first
  quiet := .quiet
  sound h hs := by
    obtain ⟨traced, firings, rules, settings⟩ := hs
    obtain ⟨firings', rules', settings'⟩ := h.sameRecords
    exact ⟨h.effect.traced traced, firings'.trans firings, rules'.trans rules,
      settings'.trans settings⟩
  readings h := h.effect.readings

end

end Autoresponder
