import Autoresponder.Flow.Document
import Autoresponder.Message.Basic

/-!
# Messages as documents
-/

namespace Autoresponder

open Json RecordReader

namespace Message

def members : Message → List (String × Json)
  | text body => [("body", .str body)]
  | buttons body bs => [("body", .str body), ("buttons", .arr (bs.map Button.toJson))]
  | template name language parameters =>
    [("name", .str name), ("language", .str language), ("parameters", Json.ofStrings parameters)]
  | form id body callToAction state =>
    [("form_id", .str id), ("body", .str body), ("cta", .str callToAction),
     ("state_id", state.toJson)]

def toJson (m : Message) : Json := .obj (("type", .str m.tag) :: m.members)

def reader : String → RecordReader Message
  | "text" => return .text (← field "body" asString)
  | "buttons" => do
    let body ← field "body" asString
    return .buttons body (← field "buttons" (asList Button.fromJson))
  | "template" => do
    let name ← field "name" asString
    let language ← field "language" asString
    return .template name language (← field "parameters" (asList asString))
  | "form" => do
    let id ← field "form_id" asString
    let body ← field "body" asString
    let callToAction ← field "cta" asString
    return .form id body callToAction (← field "state_id" Uuid.fromJson)
  | _ => failure

def fromJson : Decoder Message := asTagged "type" reader

end Message

namespace SendIntent

def toJson (i : SendIntent) : Json := .obj
  [("workspace_id", .str i.workspace),
   ("account_id", .str i.account),
   ("phone_number", .str i.phone),
   ("message", i.message.toJson)]

def fromJson : Decoder SendIntent := asRecord do
  let workspace ← field "workspace_id" asString
  let account ← field "account_id" asString
  let phone ← field "phone_number" asString
  return { workspace, account, phone, message := ← field "message" Message.fromJson }

end SendIntent

def Receipt.toJson (r : Receipt) : Json :=
  .obj [("provider_message_id", Json.ofString? r.messageId)]

end Autoresponder
