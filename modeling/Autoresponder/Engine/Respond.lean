import Autoresponder.Conversation.Event
import Autoresponder.Engine.Limit
import Autoresponder.Engine.Outcome

/-!
# Answering events

An event goes to the active conversation of its person if there is one that can take it. Otherwise
the flow or rule that is selected answers it.
-/

namespace Autoresponder

open Step

/-- Starts a flow for the person of an event. -/
def Flow.begin (f : Flow) (e : Event) : Step AutomationError Outcome := do
  match f.start? with
  | none => throw (.flow (.invalidGraph f.id "no start node"))
  | some start =>
    let c ← stored (Conversation.create e.workspace e.account e.phone f.id start.id
      (some e.received))
    stored (Calls.countFlowStart f.id (← now))
    let (_, outcome) ← ofAct (f.runPass c)
    return .flowStarted f.id c.id (← ofResult outcome)

/-- Runs a pass for a conversation in progress. -/
def Flow.proceed (f : Flow) (c : Conversation) : Step AutomationError Outcome := do
  let (_, outcome) ← ofAct (f.runPass c)
  return .flowAdvanced f.id c.id (← ofResult outcome)

namespace Event

/-- Asks for a reply to the message of an event. A blank reply is none. -/
def askResponder (e : Event) (instructions : Option String) :
    Step AutomationError (Option String) := fun env w =>
  match env.responder with
  | none => (.error (.collaborator "ai" "no AI responder configured"), w)
  | some respond =>
    let request : AiRequest := ⟨e.workspace, e.account, e.phone, e.text, instructions⟩
    ((respond request).map fun reply => reply.filter fun text => !Text.blank text,
      { w with requests := request :: w.requests })

/-- Sends a reply to the person of an event. -/
def reply (e : Event) (rule : Uuid) (message : Message) : Step AutomationError Outcome := do
  let receipt ← sendGuarded e.workspace e.account e.phone (some e.received) message
  return .responded rule receipt.messageId

/-- Does what a rule says. An answer of the knowledge base goes before the response of the rule. -/
def respond (e : Event) (s : Snapshot) (r : Rule) (faq : Option FaqAnswer) :
    Step AutomationError Outcome := do
  let fill (template : String) : String := Variables.empty.render e.phone template
  match faq, r.response with
  | some answer, _ => e.reply r.id (.text answer.answer)
  | none, .text text => e.reply r.id (.text (fill text))
  | none, .buttons text bs =>
    e.reply r.id (.buttons (fill text) (shownButtons bs .empty e.phone))
  | none, .template name language parameters =>
    e.reply r.id (.template name language parameters)
  | none, .startFlow id =>
    match s.flow? id with
    | some f => f.begin e
    | none => throw (.flow (.flowNotFound id))
  | none, .ai instructions =>
    match ← e.askResponder instructions with
    | some body => e.reply r.id (.text body)
    | none => return .ignored "AI responder returned no reply"

/-- Fires a rule if its limits allow it, and logs what came of it. -/
def fire (e : Event) (s : Snapshot) (r : Rule) (selected : Selected) :
    Step AutomationError Outcome := do
  match ← stored (r.limitHit? e.conversation (s.settings.zone (← zones))) with
  | some hit => throw (.rateLimited r.id hit.message)
  | none =>
    let outcome ← ofAct (attempt (e.respond s r selected.faq))
    let success := match outcome with
      | .ok o => o.isSuccess
      | .error _ => false
    let record : FiringRecord :=
      { conversation := e.conversation, messageId := e.messageId, text := e.text,
        keyword := selected.keyword }
    -- A firing that cannot be logged is answered all the same.
    let _ ← ofAct (attempt (logFiring r.id record success))
    ofResult outcome

/-- Selects what answers an event. -/
def selected? (e : Event) (s : Snapshot) : Act (Option Selected) := fun env w =>
  let (found, asked) := s.select env.matcher ⟨e.text, e.isFirst, env.now⟩
  (found, { w with lookups := asked ++ w.lookups })

end Event

namespace Conversation

/-- Completes a conversation that is stale, and says whether it was. -/
def expireIfStale (c : Conversation) : Step AutomationError Bool := do
  if Window.isStale c.lastInbound (← now) then
    let _ ← stored c.finish
    return true
  else return false

/-- Ends a conversation that has no use for what came in, and says so. Whether that is delivered
does not matter. -/
def recover (c : Conversation) (settings : AccountSettings) : Step AutomationError Outcome := do
  let node := c.node
  let c ← stored c.finish
  let body := (settings.recovery.filter fun m => !Text.blank m).getD (← policy).recovery
  let _ ← ofAct (attempt (c.deliver (.text body)))
  return .recovered c.id node

/-- Takes a reply to a message with buttons. -/
def takeReply (c : Conversation) (s : Snapshot) (f : Flow) (e : Event) :
    Step AutomationError Outcome := do
  match f.continuation? c.node e.button e.text with
  | none => c.recover s.settings
  | some choice =>
    let c ← stored (c.change (.recordButton choice.button.id))
    let c ← match choice.variableName with
      | some name => stored (c.change (.mergeVariables [(name, choice.button.title)]))
      | none => pure c
    let c ← stored (c.change (.advance choice.target))
    f.proceed c

/-- Feeds an event to the active conversation. No outcome means that the conversation was closed and
something else may answer. -/
def takeEvent (c : Conversation) (s : Snapshot) (e : Event) :
    Step AutomationError (Option Outcome) := do
  if ← c.expireIfStale then return none
  else
    match (s.flow? c.flow).bind fun f => (f.node? c.node).map fun n => (f, n) with
    | none =>
      let _ ← stored c.finish
      return none
    | some (f, n) =>
      let c ← stored (c.change (.recordInbound e.received))
      match n.kind with
      -- Only buttons take a reply; a delay and a form go on waiting.
      | .buttons _ _ _ => some <$> c.takeReply s f e
      | .delay _ => return some (.waiting c.id n.id)
      | .form _ _ _ => return some (.waiting c.id n.id)
      -- A node that needs no reply was left when a delivery failed or the budget was spent.
      | .trigger => some <$> f.proceed c
      | .message _ => some <$> f.proceed c
      | .finish _ => some <$> f.proceed c

end Conversation

namespace Event

/-- Selects something to answer an event, and lets it. -/
def answer (e : Event) (s : Snapshot) : Step AutomationError Outcome := do
  match ← ofAct (e.selected? s) with
  | none => return .noMatch
  | some selected =>
    match selected.candidate with
    | .flow f => f.begin e
    | .rule r => e.fire s r selected

/-- Handles an event, and may fail. -/
def process (e : Event) : Step AutomationError Outcome := do
  let s ← stored (Calls.snapshot e.workspace e.account)
  match ← stored (Calls.activeState? e.workspace e.phone) with
  | none => e.answer s
  | some c =>
    match ← c.takeEvent s e with
    | some outcome => return outcome
    | none => e.answer s

/-- Handles an event, by the time at which that begins. -/
def handle (e : Event) : Act Outcome := Act.timed do
  return .ofExcept (← attempt e.process)

end Event

end Autoresponder
