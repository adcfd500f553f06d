import Autoresponder.Conversation.Document
import Autoresponder.Rule.Document
import Autoresponder.Schedule.Document
import Autoresponder.Store.Cell

/-!
# Rows

How flows, rules, firings and conversations are kept. Identifiers, names and timestamps are text,
and a timestamp is text of a fixed width. What has a structure of its own is kept as a document; a
document that cannot be parsed is missing. A row that another program wrote need not be readable.
-/

namespace Autoresponder.Store

/-- The timestamp of an instant that may be missing. -/
def optionalStored (t : Option Instant) : Option String := t.map Instant.stored

/-- Reads an identifier. -/
def readUuid (text : String) : Except StoreError Uuid :=
  match Uuid.ofString? text with
  | some u => .ok u
  | none => .error (.serialization ("invalid uuid '" ++ text ++ "'"))

/-- Reads the document in a column. -/
def readDocument {α : Type} (column : Nat) (decode : Json.Decoder α) (document : Option Json) :
    Except StoreError α :=
  match document.bind decode with
  | some a => .ok a
  | none => .error (.serialization ("column " ++ toString column))

/-- Reads the kind of a trigger. -/
def readTrigger (name : String) : Except StoreError TriggerKind :=
  match TriggerKind.ofStored? name with
  | some k => .ok k
  | none => .error (.serialization (TriggerKind.unknown name))

/-- A stored flow. -/
structure FlowRow where
  id : String
  workspace : String
  account : String
  name : String
  trigger : String
  config : Option Json
  nodes : Option Json
  edges : Option Json
  status : String
  priority : IntCell
  version : IntCell
  triggerCount : IntCell
  lastTriggered : Option String
  created : String
  updated : String

namespace FlowRow

def ofFlow (f : Flow) : FlowRow where
  id := toString f.id
  workspace := f.workspace
  account := f.account
  name := f.name
  trigger := f.trigger.tag
  config := some f.config.settled.toJson
  nodes := some (.arr (f.nodes.map Node.toJson))
  edges := some (.arr (f.edges.map Edge.toJson))
  status := f.status.tag
  priority := .int f.priority
  version := .int f.version
  triggerCount := .ofUInt64 f.triggerCount
  lastTriggered := optionalStored f.lastTriggered
  created := f.created.stored
  updated := f.updated.stored

/-- Takes over what a new definition says. To whom the flow belongs, when it was created and its
statistics stay. -/
def revised (old new : FlowRow) : FlowRow :=
  { new with workspace := old.workspace, account := old.account, created := old.created,
             triggerCount := old.triggerCount, lastTriggered := old.lastTriggered }

def readStatus (name : String) : Except StoreError FlowStatus :=
  match FlowStatus.ofTag? name with
  | some s => .ok s
  | none => .error (.serialization (FlowStatus.unknown name))

def read (r : FlowRow) : Except StoreError Flow := do
  let trigger ← readTrigger r.trigger
  let status ← readStatus r.status
  let id ← readUuid r.id
  let config ← readDocument 5 TriggerConfig.fromJson r.config
  let nodes ← readDocument 6 (Json.asList Node.fromJson) r.nodes
  let edges ← readDocument 7 (Json.asList Edge.fromJson) r.edges
  return {
    id, trigger, config, nodes, edges, status
    workspace := r.workspace
    account := r.account
    name := r.name
    priority := r.priority.value
    version := r.version.value
    triggerCount := r.triggerCount.asUInt64
    lastTriggered := r.lastTriggered.map TimeText.readStored
    created := TimeText.readStored r.created
    updated := TimeText.readStored r.updated }

end FlowRow

/-- A stored rule. -/
structure RuleRow where
  id : String
  workspace : String
  account : String
  name : String
  trigger : String
  config : Option Json
  responseTag : String
  response : Option Json
  isActive : IntCell
  priority : IntCell
  cooldown : IntCell
  dailyCap : IntCell
  triggerCount : IntCell
  lastTriggered : Option String
  created : String
  updated : String

namespace RuleRow

def ofRule (r : Rule) : RuleRow where
  id := toString r.id
  workspace := r.workspace
  account := r.account
  name := r.name
  trigger := r.trigger.tag
  config := some r.config.settled.toJson
  responseTag := r.response.tag
  response := some r.response.toConfig
  isActive := .ofBool r.isActive
  priority := .int r.priority
  cooldown := .ofUInt64 r.cooldown
  dailyCap := .int r.dailyCap.toNat
  triggerCount := .ofUInt64 r.triggerCount
  lastTriggered := optionalStored r.lastTriggered
  created := r.created.stored
  updated := r.updated.stored

/-- Takes over what a new definition says. To whom the rule belongs, when it was created and its
statistics stay. -/
def revised (old new : RuleRow) : RuleRow :=
  { new with workspace := old.workspace, account := old.account, created := old.created,
             triggerCount := old.triggerCount, lastTriggered := old.lastTriggered }

def readResponse (r : RuleRow) : Except StoreError Response := do
  let config ← readDocument 7 (fun j => some j.canonical) r.response
  match Response.ofStored r.responseTag config with
  | .ok response => .ok response
  | .error e => .error (.serialization e.message)

def read (r : RuleRow) : Except StoreError Rule := do
  let trigger ← readTrigger r.trigger
  let response ← r.readResponse
  let id ← readUuid r.id
  let config ← readDocument 5 TriggerConfig.fromJson r.config
  return {
    id, trigger, config, response
    workspace := r.workspace
    account := r.account
    name := r.name
    isActive := r.isActive.isSet
    priority := r.priority.value
    cooldown := r.cooldown.asUInt64
    dailyCap := r.dailyCap.asUInt32
    triggerCount := r.triggerCount.asUInt64
    lastTriggered := r.lastTriggered.map TimeText.readStored
    created := TimeText.readStored r.created
    updated := TimeText.readStored r.updated }

end RuleRow

/-- A stored firing. -/
structure FiringRow where
  id : String
  rule : String
  conversation : String
  messageId : Option String
  text : String
  keyword : Option String
  success : IntCell
  time : String

namespace FiringRow

def ofFiring (e : Firing) : FiringRow where
  id := toString e.id
  rule := toString e.rule
  conversation := e.conversation
  messageId := e.messageId
  text := e.text
  keyword := e.keyword
  success := .ofBool e.success
  time := e.time.stored

def read (r : FiringRow) : Except StoreError Firing := do
  let id ← readUuid r.id
  let rule ← readUuid r.rule
  return {
    id, rule
    conversation := r.conversation
    messageId := r.messageId
    text := r.text
    keyword := r.keyword
    success := r.success.isSet
    time := TimeText.readStored r.time }

end FiringRow

/-- A stored conversation. -/
structure StateRow where
  id : String
  workspace : String
  account : String
  phone : String
  flow : String
  node : String
  lastButton : Option String
  collected : Option Json
  lastInbound : Option String
  resumeAt : Option String
  isActive : IntCell
  version : IntCell
  created : String
  updated : String
  completed : Option String

namespace StateRow

def ofConversation (c : Conversation) : StateRow where
  id := toString c.id
  workspace := c.workspace
  account := c.account
  phone := c.phone
  flow := toString c.flow
  node := c.node
  lastButton := c.lastButton
  collected := some c.collected.toJson
  lastInbound := optionalStored c.lastInbound
  resumeAt := optionalStored c.resumeAt
  isActive := .ofBool c.isActive
  version := .int c.version
  created := c.created.stored
  updated := c.updated.stored
  completed := optionalStored c.completed

/-- Takes over what may change in a conversation. -/
def revised (old new : StateRow) : StateRow :=
  { new with id := old.id, workspace := old.workspace, account := old.account,
             phone := old.phone, flow := old.flow, created := old.created }

/-- Ends a conversation because another one begins. -/
def displaced (r : StateRow) (time : String) : StateRow :=
  { r with isActive := .int 0, resumeAt := none, completed := some time, updated := time,
           version := r.version.next }

def read (r : StateRow) : Except StoreError Conversation := do
  let id ← readUuid r.id
  let flow ← readUuid r.flow
  let collected ← readDocument 7 Variables.fromJson r.collected
  return {
    id, flow, collected
    workspace := r.workspace
    account := r.account
    phone := r.phone
    node := r.node
    lastButton := r.lastButton
    lastInbound := r.lastInbound.map TimeText.readStored
    resumeAt := r.resumeAt.map TimeText.readStored
    isActive := r.isActive.isSet
    version := r.version.value
    created := TimeText.readStored r.created
    updated := TimeText.readStored r.updated
    completed := r.completed.map TimeText.readStored }

end StateRow

/-- The stored settings of an account. -/
structure SettingsRow where
  workspace : String
  account : String
  settings : Option Json

end Autoresponder.Store
