import Autoresponder.Flow.Document
import Autoresponder.Json.Printer
import Autoresponder.Rule.Basic

/-!
# Rules as documents

In the store the kind of a response stands beside the document with its settings, which then holds
no kind of its own.
-/

namespace Autoresponder

open Json RecordReader

/-- Why a stored response cannot be read. -/
inductive ResponseError where
  | noObject (config : Json)
  | invalid (tag : String)

def ResponseError.message : ResponseError → String
  | noObject config => "response config must be an object, got " ++ config.compact
  | invalid tag => "invalid " ++ tag ++ " response"

namespace Response

/-- The settings of a response. -/
def members : Response → List (String × Json)
  | text body => [("text", .str body)]
  | buttons body bs => [("text", .str body), ("buttons", .arr (bs.map Button.toJson))]
  | template name language parameters =>
    [("name", .str name), ("language", .str language), ("parameters", Json.ofStrings parameters)]
  | startFlow flow => [("flow_id", flow.toJson)]
  | ai instructions => optionalMember "instructions" instructions

def toJson (r : Response) : Json := .obj (("type", .str r.tag) :: r.members)

def reader : String → RecordReader Response
  | "text" => return .text (← field "text" asString)
  | "buttons" => do
    let body ← field "text" asString
    return .buttons body (← field "buttons" (asList Button.fromJson))
  | "template" => do
    let name ← field "name" asString
    let language ← fieldOr "language" asString defaultLanguage
    return .template name language (← fieldOr "parameters" (asList asString) [])
  | "start_flow" => return .startFlow (← field "flow_id" Uuid.fromJson)
  | "ai" => return .ai (← nullableOr "instructions" asString)
  | _ => failure

def fromJson : Decoder Response := asTagged "type" reader

/-- The document that stands beside the kind of a stored response. -/
def toConfig (r : Response) : Json := .obj r.members

/-- Reads a stored response from its kind and its settings. A kind among the settings is passed
over. -/
def ofStored (tag : String) (config : Json) : Except ResponseError Response :=
  let read (members : List (String × Json)) : Except ResponseError Response :=
    match (reader tag).finish (.named (members.filter (·.1 != "type"))) with
    | some r => .ok r
    | none => .error (.invalid tag)
  match config with
  | .obj members => read members
  | .null => read []
  | other => .error (.noObject other)

end Response

namespace Rule

def toJson (r : Rule) : Json := .obj
  [("id", r.id.toJson),
   ("workspace_id", .str r.workspace),
   ("account_id", .str r.account),
   ("name", .str r.name),
   ("trigger", r.trigger.toJson),
   ("trigger_config", r.config.toJson),
   ("response", r.response.toJson),
   ("is_active", .bool r.isActive),
   ("priority", .int r.priority),
   ("cooldown_seconds", .int r.cooldown.toNat),
   ("max_triggers_per_day", .int r.dailyCap.toNat),
   ("trigger_count", .int r.triggerCount.toNat),
   ("last_triggered_at", Instant.optionalJson r.lastTriggered),
   ("created_at", r.created.toJson),
   ("updated_at", r.updated.toJson)]

def fromJson : Decoder Rule := asRecord do
  let id ← field "id" Uuid.fromJson
  let workspace ← field "workspace_id" asString
  let account ← field "account_id" asString
  let name ← field "name" asString
  let trigger ← field "trigger" TriggerKind.fromJson
  let config ← field "trigger_config" TriggerConfig.fromJson
  let response ← field "response" Response.fromJson
  let isActive ← field "is_active" asBool
  let priority ← field "priority" asInt
  let cooldown ← field "cooldown_seconds" asUInt64
  let dailyCap ← field "max_triggers_per_day" asUInt32
  let triggerCount ← field "trigger_count" asUInt64
  let lastTriggered ← nullable "last_triggered_at" Instant.fromJson
  let created ← field "created_at" Instant.fromJson
  let updated ← field "updated_at" Instant.fromJson
  return { id, workspace, account, name, trigger, config, response, isActive, priority, cooldown,
           dailyCap, triggerCount, lastTriggered, created, updated }

end Rule

namespace Firing

def toJson (e : Firing) : Json := .obj
  [("id", e.id.toJson),
   ("rule_id", e.rule.toJson),
   ("conversation_id", .str e.conversation),
   ("trigger_message_id", Json.ofString? e.messageId),
   ("trigger_text", .str e.text),
   ("matched_keyword", Json.ofString? e.keyword),
   ("response_success", .bool e.success),
   ("created_at", e.time.toJson)]

def fromJson : Decoder Firing := asRecord do
  let id ← field "id" Uuid.fromJson
  let rule ← field "rule_id" Uuid.fromJson
  let conversation ← field "conversation_id" asString
  let messageId ← nullable "trigger_message_id" asString
  let text ← field "trigger_text" asString
  let keyword ← nullable "matched_keyword" asString
  let success ← field "response_success" asBool
  return { id, rule, conversation, messageId, text, keyword, success,
           time := ← field "created_at" Instant.fromJson }

end Firing

end Autoresponder
