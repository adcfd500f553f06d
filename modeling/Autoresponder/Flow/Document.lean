import Autoresponder.Flow.Basic
import Autoresponder.Time.Reader
import Autoresponder.Trigger.Document

/-!
# Flows as documents
-/

namespace Autoresponder

open Json RecordReader

def Uuid.toJson (u : Uuid) : Json := .str (toString u)

def Uuid.fromJson : Decoder Uuid := fun j => (asString j).bind Uuid.ofString?

def Instant.toJson (t : Instant) : Json := .str t.text

def Instant.fromJson : Decoder Instant := fun j => (asString j).bind TimeText.lenient

/-- An instant or null. -/
def Instant.optionalJson : Option Instant → Json
  | some t => t.toJson
  | none => .null

namespace Button

def toJson (b : Button) : Json := .obj [("id", .str b.id), ("title", .str b.title)]

def fromJson : Decoder Button := asRecord do
  let id ← field "id" asString
  let title ← field "title" asString
  return { id, title }

end Button

/-- A member that is left out if there is no value. -/
def optionalMember (key : String) (value : Option String) : List (String × Json) :=
  (value.map fun s => (key, Json.str s)).toList

namespace NodeKind

def members : NodeKind → List (String × Json)
  | trigger => []
  | message text => [("text", .str text)]
  | buttons text bs variableName =>
    [("text", .str text), ("buttons", .arr (bs.map Button.toJson))] ++
      optionalMember "variable" variableName
  | delay seconds => [("delay_seconds", .int seconds.toNat)]
  | form id body callToAction =>
    [("form_id", .str id), ("body", .str body), ("cta", .str callToAction)]
  | finish text => optionalMember "message" text

/-- Reads what belongs to a kind. -/
def reader : String → RecordReader NodeKind
  | "trigger" => pure .trigger
  | "message" => return .message (← field "text" asString)
  | "buttons" => do
    let text ← field "text" asString
    let bs ← field "buttons" (asList Button.fromJson)
    return .buttons text bs (← nullableOr "variable" asString)
  | "delay" => return .delay (← fieldOf ["delay_seconds", "delaySeconds"] asUInt64)
  | "subflow" => do
    let id ← field "form_id" asString
    let body ← fieldOr "body" asString ""
    return .form id body (← fieldOr "cta" asString defaultCallToAction)
  | "end" => return .finish (← nullableOr "message" asString)
  | _ => failure

/-- The kinds in order; a kind may be given by its place among them. -/
def tags : List String := ["trigger", "message", "buttons", "delay", "subflow", "end"]

def tagOf? : Json → Option String
  | .str s => some s
  | .int n => if 0 ≤ n then tags[n.toNat]? else none
  | _ => none

end NodeKind

namespace Node

def toJson (n : Node) : Json :=
  .obj (("id", .str n.id) :: ("type", .str n.kind.tag) :: n.kind.members)

/-- A node is an object that holds its name, its kind and what belongs to the kind. -/
def fromJson : Decoder Node
  | .obj members => do
    let body := members.filter (·.1 != "id")
    let id ← match members.filter (·.1 == "id") with
      | [(_, .str id)] => some id
      | _ => none
    let tag ← match body.filter (·.1 == "type") with
      | [(_, j)] => NodeKind.tagOf? j
      | _ => none
    let kind ← (NodeKind.reader tag).finish (.named (body.filter (·.1 != "type")))
    some ⟨id, kind⟩
  | _ => none

end Node

namespace Edge

def toJson (e : Edge) : Json :=
  .obj <|
    [("source_node_id", .str e.source), ("target_node_id", .str e.target)] ++
      optionalMember "source_handle" e.handle

def fromJson : Decoder Edge := asRecord do
  let source ← field "source_node_id" asString
  let target ← field "target_node_id" asString
  return { source, target, handle := ← nullableOr "source_handle" asString }

end Edge

def FlowStatus.toJson (s : FlowStatus) : Json := .str s.tag

def FlowStatus.fromJson : Decoder FlowStatus := asName FlowStatus.ofTag?

namespace Flow

def toJson (f : Flow) : Json := .obj
  [("id", f.id.toJson),
   ("workspace_id", .str f.workspace),
   ("account_id", .str f.account),
   ("name", .str f.name),
   ("trigger", f.trigger.toJson),
   ("trigger_config", f.config.toJson),
   ("nodes", .arr (f.nodes.map Node.toJson)),
   ("edges", .arr (f.edges.map Edge.toJson)),
   ("status", f.status.toJson),
   ("priority", .int f.priority),
   ("version", .int f.version),
   ("trigger_count", .int f.triggerCount.toNat),
   ("last_triggered_at", Instant.optionalJson f.lastTriggered),
   ("created_at", f.created.toJson),
   ("updated_at", f.updated.toJson)]

def fromJson : Decoder Flow := asRecord do
  let id ← field "id" Uuid.fromJson
  let workspace ← field "workspace_id" asString
  let account ← field "account_id" asString
  let name ← field "name" asString
  let trigger ← field "trigger" TriggerKind.fromJson
  let config ← field "trigger_config" TriggerConfig.fromJson
  let nodes ← field "nodes" (asList Node.fromJson)
  let edges ← field "edges" (asList Edge.fromJson)
  let status ← field "status" FlowStatus.fromJson
  let priority ← field "priority" asInt
  let version ← field "version" asInt
  let triggerCount ← field "trigger_count" asUInt64
  let lastTriggered ← nullable "last_triggered_at" Instant.fromJson
  let created ← field "created_at" Instant.fromJson
  let updated ← field "updated_at" Instant.fromJson
  return { id, workspace, account, name, trigger, config, nodes, edges, status, priority, version,
           triggerCount, lastTriggered, created, updated }

end Flow

end Autoresponder
