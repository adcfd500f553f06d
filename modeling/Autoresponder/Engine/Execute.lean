import Autoresponder.Engine.Progress
import Autoresponder.Flow.Continuation
import Autoresponder.Message.Window

/-!
# Walking a flow

A pass executes one node after the other until a conversation has to wait or ends. Nothing moves
past a message before the sender has accepted it, and a copy that is no longer up to date executes
nothing.
-/

namespace Autoresponder

open Step

/-- What came of a node. -/
structure NodeResult where
  /-- Where the conversation goes from here. -/
  next : Option String := none
  waits : Bool := false
  resumeAt : Option Instant := none
  terminal : Bool := false
  sent : Bool := false
  messageId : Option String := none
  /-- The conversation had moved on before; nothing was done. -/
  alreadyDone : Bool := false
  deriving DecidableEq

namespace NodeResult

def advanced (next : String) (receipt : Option Receipt) : NodeResult :=
  { next := some next, sent := receipt.isSome, messageId := receipt.bind (·.messageId) }

def waiting (receipt : Receipt) : NodeResult :=
  { waits := true, sent := true, messageId := receipt.messageId }

def ended (receipt : Option Receipt) : NodeResult :=
  { terminal := true, sent := receipt.isSome, messageId := receipt.bind (·.messageId) }

end NodeResult

/-- Why a pass stopped. -/
inductive Stop where
  | waiting (node : String)
  | delayed (node : String) (resumeAt : Instant)
  | completed
  | limitReached (node : String)
  deriving DecidableEq

/-- What came of a pass. -/
structure Pass where
  executed : Nat
  sent : Nat
  stop : Stop
  deriving DecidableEq

/-- Hands a message to the sender. -/
def send (intent : SendIntent) : Step AutomationError Receipt := fun env w =>
  let verdict := env.sender w.exchanges intent
  (verdict.mapError .delivery, { w with exchanges := ⟨intent, verdict, env.now⟩ :: w.exchanges })

/-- Sends a message if the window allows it, by the time at which it is sent. -/
def sendGuarded (workspace account phone : String) (lastInbound : Option Instant)
    (message : Message) : Step AutomationError Receipt :=
  let intent : SendIntent := ⟨workspace, account, phone, message⟩
  if message.requiresWindow then
    timed do
      if Window.isOpen lastInbound (← now) then send intent
      else throw (.windowClosed phone lastInbound)
  else send intent

namespace Conversation

/-- Sends a message to the person of a conversation. -/
def deliver (c : Conversation) (message : Message) : Step AutomationError Receipt :=
  sendGuarded c.workspace c.account c.phone c.lastInbound message

/-- Fills a text with what the conversation has collected. -/
def render (c : Conversation) (template : String) : String := c.collected.render c.phone template

end Conversation

namespace Flow

/-- Moves to the node that follows, or ends the conversation if none does. -/
def followEdge (f : Flow) (c : Conversation) (node : String) (receipt : Option Receipt) :
    Step AutomationError (Conversation × NodeResult) := do
  match f.next? node with
  | some next =>
    let c ← stored (c.change (.advance next))
    return (c, .advanced next receipt)
  | none =>
    let c ← stored c.finish
    return (c, .ended receipt)

/-- Sends a message that needs an answer, and waits. -/
def prompt (c : Conversation) (message : Message) :
    Step AutomationError (Conversation × NodeResult) := do
  let receipt ← c.deliver message
  let c ← stored (c.change .markWaiting)
  return (c, .waiting receipt)

/-- Whether a copy may execute a node: the conversation is active, it is in this flow and on this
node, and the copy is of the expected version. -/
def admits (f : Flow) (c : Conversation) (node : String) (version : Int) : Bool :=
  c.isActive && c.flow == f.id && c.node == node && c.version == version

/-- The end of a delay that begins now. -/
def deadline (f : Flow) (node : String) (seconds : UInt64) : Step AutomationError Instant := do
  match (← now).add? (Span.ofSeconds seconds.toNat) with
  | some t => return t
  | none =>
    throw (.flow (.invalidGraph f.id ("delay node '" ++ node ++ "' duration out of range")))

/-- Executes a node. -/
def executeNode (f : Flow) (c : Conversation) (node : Node) :
    Step AutomationError (Conversation × NodeResult) := do
  match node.kind with
  | .trigger => f.followEdge c node.id none
  | .message text =>
    let receipt ← c.deliver (.text (c.render text))
    f.followEdge c node.id (some receipt)
  | .buttons text bs _ =>
    prompt c (.buttons (c.render text) (shownButtons bs c.collected c.phone))
  | .delay seconds =>
    let next := f.next? node.id
    match c.resumeAt with
    -- A delay that has begun keeps its end.
    | some t => return (c, { next, resumeAt := some t })
    | none =>
      let t ← f.deadline node.id seconds
      let c ← stored (c.change (.scheduleResume t))
      return (c, { next, resumeAt := some t })
  | .form id body callToAction => prompt c (.form id (c.render body) callToAction c.id)
  | .finish message =>
    let receipt ← match message with
      | some text =>
        if Text.blank text then pure none
        else some <$> c.deliver (.text (c.render text))
      | none => pure none
    let c ← stored c.finish
    return (c, .ended receipt)

/-- Executes a node for a copy that may do so, by the time at which it is executed, and does nothing
for any other. -/
def execute (f : Flow) (c : Conversation) (node : String) (version : Int) :
    Step AutomationError (Conversation × NodeResult) := do
  if f.admits c node version then
    match f.node node with
    | .ok n => timed (f.executeNode c n)
    | .error e => throw (.flow e)
  else return (c, { next := some c.node, alreadyDone := true })

/-- Why a pass stops after a node, if it does. -/
def stopAfter (node : String) (r : NodeResult) : Option Stop :=
  if r.terminal then some .completed
  else if r.waits then some (.waiting node)
  else r.resumeAt.map (.delayed node)

/-- Executes nodes until there is a reason to stop or the budget is spent. The copy is that of the
last node that went well. -/
def passWithin (f : Flow) : Nat → Pass → Conversation →
    Act (Conversation × Except AutomationError Pass)
  | budget, sofar, c => do
    if !c.isActive then return (c, .ok { sofar with stop := .completed })
    else
      match budget with
      | 0 => return (c, .ok { sofar with stop := .limitReached c.node })
      | budget + 1 =>
        match ← attempt (f.execute c c.node c.version) with
        | .error e => return (c, .error e)
        | .ok (next, r) =>
          let pass : Pass :=
            { sofar with executed := sofar.executed + 1,
                         sent := if r.sent then sofar.sent + 1 else sofar.sent }
          match stopAfter c.node r with
          | some stop => return (next, .ok { pass with stop })
          | none => passWithin f budget pass next

/-- Runs a pass from where the conversation stands. -/
def runPass (f : Flow) (c : Conversation) :
    Act (Conversation × Except AutomationError Pass) := fun env w =>
  f.passWithin (max 1 env.policy.maxNodes) ⟨0, 0, .completed⟩ c env w

end Flow

end Autoresponder
