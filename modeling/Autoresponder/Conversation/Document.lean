import Autoresponder.Conversation.Basic
import Autoresponder.Flow.Document

/-!
# Conversations as documents
-/

namespace Autoresponder

open Json RecordReader

namespace Variables

def toJson (vs : Variables) : Json := .obj (vs.entries.map fun e => (e.1, .str e.2))

def fromJson : Decoder Variables := fun j => (asEntries asString j).map ofList

end Variables

namespace Conversation

def toJson (c : Conversation) : Json := .obj
  [("id", c.id.toJson),
   ("workspace_id", .str c.workspace),
   ("account_id", .str c.account),
   ("phone_number", .str c.phone),
   ("flow_id", c.flow.toJson),
   ("current_node_id", .str c.node),
   ("last_button_clicked", Json.ofString? c.lastButton),
   ("collected_variables", c.collected.toJson),
   ("last_inbound_at", Instant.optionalJson c.lastInbound),
   ("resume_at", Instant.optionalJson c.resumeAt),
   ("is_active", .bool c.isActive),
   ("version", .int c.version),
   ("created_at", c.created.toJson),
   ("updated_at", c.updated.toJson),
   ("completed_at", Instant.optionalJson c.completed)]

def fromJson : Decoder Conversation := asRecord do
  let id ← field "id" Uuid.fromJson
  let workspace ← field "workspace_id" asString
  let account ← field "account_id" asString
  let phone ← field "phone_number" asString
  let flow ← field "flow_id" Uuid.fromJson
  let node ← field "current_node_id" asString
  let lastButton ← nullable "last_button_clicked" asString
  let collected ← field "collected_variables" Variables.fromJson
  let lastInbound ← nullable "last_inbound_at" Instant.fromJson
  let resumeAt ← nullable "resume_at" Instant.fromJson
  let isActive ← field "is_active" asBool
  let version ← field "version" asInt
  let created ← field "created_at" Instant.fromJson
  let updated ← field "updated_at" Instant.fromJson
  let completed ← nullable "completed_at" Instant.fromJson
  return { id, workspace, account, phone, flow, node, lastButton, collected, lastInbound, resumeAt,
           isActive, version, created, updated, completed }

end Conversation

end Autoresponder
