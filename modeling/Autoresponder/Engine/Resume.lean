import Autoresponder.Engine.Respond
import Autoresponder.Json.Printer

/-!
# Callbacks

A delay that is over and a form that was filled in move a conversation on. If a delivery then fails,
the conversation is kept so that repeating the callback repeats what failed: back on the node where
it waited if nothing was delivered yet, and otherwise on the node that failed, due at once.
-/

namespace Autoresponder

open Step

/-- Where a conversation goes back to when nothing was delivered. -/
structure Return where
  node : String
  resumeAt : Option Instant
  deriving DecidableEq

namespace Flow

/-- Keeps a conversation whose delivery failed for another attempt. -/
def keep (c : Conversation) (entry : String) (back : Option Return) :
    Step AutomationError Unit := do
  if c.isActive then
    -- The conversation is still on the first node of the pass when nothing was delivered.
    let retry (time : Instant) : Conversation.Change :=
      match back with
      | some r => if c.node == entry then .rewind r.node r.resumeAt else .scheduleResume time
      | none => .scheduleResume time
    let _ ← stored (c.change (retry (← now)))
    return ()
  else return ()

/-- Runs a pass for a callback. -/
def callbackPass (f : Flow) (c : Conversation) (back : Option Return) :
    Step AutomationError Outcome := do
  match ← ofAct (f.runPass c) with
  | (_, .ok pass) => return .flowAdvanced f.id c.id pass
  | (last, .error (.delivery e)) =>
    keep last c.node back
    throw (.delivery e)
  | (_, .error e) => throw e

/-- Moves past the node where a conversation waits, and runs a pass from there. -/
def stepPast (f : Flow) (c : Conversation) (node : String) : Step AutomationError Outcome := do
  match f.next? node with
  | some next =>
    let moved ← stored (c.change (.advance next))
    f.callbackPass moved (some ⟨node, c.resumeAt⟩)
  | none =>
    let _ ← stored c.finish
    return .flowAdvanced f.id c.id ⟨0, 0, .completed⟩

end Flow

namespace Conversation

/-- The flow of a conversation and the node where it waits, if that is of a wanted kind. A
conversation whose flow is gone is closed. -/
def waitingNode (c : Conversation) (wanted : NodeKind → Bool) :
    Step AutomationError (Option (Flow × Node)) := do
  let s ← stored (Calls.snapshot c.workspace c.account)
  match s.flow? c.flow with
  | none =>
    let _ ← stored c.finish
    return none
  | some f =>
    return ((f.node? c.node).filter fun n => wanted n.kind).map fun n => (f, n)

end Conversation

def NodeKind.isDelay : NodeKind → Bool
  | delay _ => true
  | _ => false

def NodeKind.isForm : NodeKind → Bool
  | form _ _ _ => true
  | _ => false

/-- Continues a conversation whose delay is over or whose delivery failed. -/
def resumeStep (id : Uuid) : Step AutomationError Outcome := do
  match ← stored (Calls.state? id) with
  | none => return .ignored "state disappeared"
  | some c =>
    if !c.isActive then return .ignored "state is no longer active"
    else if !Window.delayDue c.resumeAt (← now) then return .ignored "delay not due"
    else if ← c.expireIfStale then return .ignored "state expired"
    else
      match ← c.waitingNode fun _ => true with
      | none => return .ignored "state is not waiting on a delay"
      | some (f, n) =>
        if n.kind.isDelay then f.stepPast c n.id
        else
          let c ← stored (c.change .clearResume)
          f.callbackPass c none

/-- The text of a value that was filled into a form. -/
def formText : Json → String
  | .str s => s
  | .null => ""
  | j => j.compact

/-- Takes what was filled into a form. -/
def completeFormStep (id : Uuid) (fields : List (String × Json)) :
    Step AutomationError Outcome := do
  match ← stored (Calls.state? id) with
  | none => return .ignored "state disappeared"
  | some c =>
    if !c.isActive then return .ignored "state is no longer active"
    else if ← c.expireIfStale then return .ignored "state expired"
    else
      match ← c.waitingNode NodeKind.isForm with
      | none => return .ignored "state is not waiting on a form"
      | some (f, n) =>
        let values := fields.map fun m => (m.1, formText m.2)
        let c ← stored (c.change (.mergeVariables values))
        f.stepPast c n.id

/-- Does something for a conversation that the store knows. -/
def forState (id : Uuid) (step : Step AutomationError Outcome) : Act Outcome := do
  match ← attempt (stored (Calls.state? id)) with
  | .error e => return .ofError e
  | .ok none => return .ignored ("unknown state " ++ toString id)
  | .ok (some _) => return .ofExcept (← attempt step)

/-- Resumes a conversation. What is not due is left alone. -/
def resume (id : Uuid) : Act Outcome := forState id (timed (resumeStep id))

/-- Hands a form that was filled in to the conversation that waits for it. -/
def completeForm (id : Uuid) (fields : List (String × Json)) : Act Outcome :=
  forState id (timed (completeFormStep id fields))

/-- Resumes conversations one after the other, and counts those that went on. -/
def resumeAll : List Conversation → Act Nat
  | [] => return 0
  | c :: rest => do
    let outcome ← resume c.id
    let others ← resumeAll rest
    match outcome with
    | .flowAdvanced _ _ _ => return others + 1
    | _ => return others

/-- Resumes all conversations that are due, and counts those that went on. -/
def tick : Act Nat := do
  let due : Step StoreError (List Conversation) := timed do Calls.dueStates (← now)
  match ← attempt due with
  | .error _ => return 0
  | .ok found => resumeAll found

end Autoresponder
