import Autoresponder.Flow.Document

/-!
# Inbound events

A message or the click of a button that came in from a person.
-/

namespace Autoresponder

open Json RecordReader

/-- What came in. -/
structure Event where
  workspace : String
  account : String
  conversation : String
  phone : String
  text : String := ""
  isFirst : Bool := false
  isButton : Bool := false
  payload : Option String := none
  messageId : Option String := none
  received : Instant
  deriving DecidableEq

namespace Event

/-- The button that was clicked, if this is a click. -/
def button (e : Event) : Option String := if e.isButton then e.payload else none

def members (e : Event) : List (String × Json) :=
  [("workspace_id", .str e.workspace),
   ("account_id", .str e.account),
   ("conversation_id", .str e.conversation),
   ("phone_number", .str e.phone),
   ("text", .str e.text),
   ("is_first_message", .bool e.isFirst),
   ("is_button_reply", .bool e.isButton),
   ("button_payload", Json.ofString? e.payload),
   ("message_id", Json.ofString? e.messageId),
   ("received_at", e.received.toJson)]

def toJson (e : Event) : Json := .obj e.members

def fromJson : Decoder Event := asRecord do
  let workspace ← field "workspace_id" asString
  let account ← field "account_id" asString
  let conversation ← field "conversation_id" asString
  let phone ← field "phone_number" asString
  let text ← fieldOr "text" asString ""
  let isFirst ← fieldOr "is_first_message" asBool false
  let isButton ← fieldOr "is_button_reply" asBool false
  let payload ← nullableOr "button_payload" asString
  let messageId ← nullableOr "message_id" asString
  let received ← field "received_at" Instant.fromJson
  return { workspace, account, conversation, phone, text, isFirst, isButton, payload, messageId,
           received }

end Event

end Autoresponder
