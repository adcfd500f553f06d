import Autoresponder.Engine.Calls

/-!
# Conversations in progress

Conversations are begun and changed through copies. A change writes the copy with its next version,
but only over the version that was read; when somebody else has been faster it fails, and the copy
stays as it was.
-/

namespace Autoresponder.Conversation

open Step

/-- A conversation that begins at a node. -/
def begun (id : Uuid) (workspace account phone : String) (flow : Uuid) (node : String)
    (lastInbound : Option Instant) (now : Instant) : Conversation where
  id
  workspace
  account
  phone
  flow
  node
  lastButton := none
  collected := .empty
  lastInbound
  resumeAt := none
  isActive := true
  version := 1
  created := now
  updated := now
  completed := none

/-- Begins a conversation. The active one of the same person ends. -/
def create (workspace account phone : String) (flow : Uuid) (node : String)
    (lastInbound : Option Instant) : Step StoreError Conversation := do
  let id ← freshId
  let c := begun id workspace account phone flow node lastInbound (← now)
  Calls.createState c
  return c

/-- What is said when somebody else has changed a conversation. -/
def outdated (c : Conversation) : StoreError :=
  .constraint ("conversation state " ++ toString c.id ++
    " was modified concurrently (expected version " ++ toString c.version ++ ")")

/-- Changes a conversation and yields the new copy. -/
def change (c : Conversation) (change : Change) : Step StoreError Conversation := do
  let next := c.after change (← now)
  if ← Calls.updateState next c.version then return next
  else throw c.outdated

/-- Completes a conversation, unless it is completed already. -/
def finish (c : Conversation) : Step StoreError Conversation :=
  if c.isActive then c.change .complete else pure c

end Autoresponder.Conversation
