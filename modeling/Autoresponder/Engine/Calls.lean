import Autoresponder.Engine.World

/-!
# Calls to the store

Each operation of the store as a step that may go wrong.
-/

namespace Autoresponder.Calls

open Step

/-- Brings the tables up to date. They always are. -/
def migrate : Step StoreError Unit := tell .migrate .ok

def putFlow (f : Flow) : Step StoreError Unit := tell .putFlow fun s => .ok (s.putFlow f)

def flow? (id : Uuid) : Step StoreError (Option Flow) := ask .getFlow (·.flow? id)

def activeFlows (workspace account : String) : Step StoreError (List Flow) :=
  ask .activeFlows fun s => .ok (s.activeFlows workspace account)

def setFlowStatus (id : Uuid) (status : FlowStatus) (time : Instant) : Step StoreError Unit :=
  tell .setFlowStatus (·.setFlowStatus id status time)

def countFlowStart (id : Uuid) (time : Instant) : Step StoreError Unit :=
  tell .countFlowStart fun s => .ok (s.countFlowStart id time)

def putRule (r : Rule) : Step StoreError Unit := tell .putRule fun s => .ok (s.putRule r)

def rule? (id : Uuid) : Step StoreError (Option Rule) := ask .getRule (·.rule? id)

def activeRules (workspace account : String) : Step StoreError (List Rule) :=
  ask .activeRules fun s => .ok (s.activeRules workspace account)

def logFiring (e : Firing) : Step StoreError Unit := tell .logFiring (·.logFiring e)

def lastFiring (rule : Uuid) (conversation : String) : Step StoreError (Option Instant) :=
  ask .lastFiring fun s => .ok (s.lastFiring rule conversation)

def countFirings (rule : Uuid) (conversation : String) (since : Instant) : Step StoreError Nat :=
  ask .countFirings fun s => .ok (s.countFirings rule conversation since)

def ruleFirings (rule : Uuid) : Step StoreError (List Firing) :=
  ask .ruleFirings fun s => .ok (s.ruleFirings rule)

def createState (c : Conversation) : Step StoreError Unit := tell .createState (·.createState c)

/-- Whoever is too late finds no conversation. -/
def state? (id : Uuid) : Step StoreError (Option Conversation) :=
  call .getState (some none) fun s => (s.state? id).map (·, none)

def activeState? (workspace phone : String) : Step StoreError (Option Conversation) :=
  ask .getActiveState (·.activeState? workspace phone)

/-- Writes a conversation over the stored one, and says whether that still had the version. Whoever
is too late finds another version. -/
def updateState (c : Conversation) (version : Int) : Step StoreError Bool :=
  call .updateState (some false) fun s =>
    (s.updateState c version).map fun written => (written.isSome, written)

def dueStates (now : Instant) : Step StoreError (List Conversation) :=
  ask .dueStates fun s => .ok (s.dueStates now)

def countActive (workspace phone : String) : Step StoreError Nat :=
  ask .countActive fun s => .ok (s.countActive workspace phone)

def settings? (workspace account : String) : Step StoreError (Option AccountSettings) :=
  ask .getSettings (·.settings? workspace account)

def putSettings (workspace account : String) (settings : AccountSettings) : Step StoreError Unit :=
  tell .putSettings fun s => .ok (s.putSettings workspace account settings)

/-- Loads what an account has to answer messages with. -/
def snapshot (workspace account : String) : Step StoreError Snapshot := do
  let flows ← activeFlows workspace account
  let rules ← activeRules workspace account
  let settings ← settings? workspace account
  return .ofAccount workspace account flows rules (settings.getD {})

end Autoresponder.Calls
