import Autoresponder.Json.Reader
import Autoresponder.Message.Document

/-!
# Delivery over HTTP

A message is posted as a document to the address of the provider, whose response says whether it
was accepted.
-/

namespace Autoresponder.Http

open Json RecordReader

/-- What is posted. -/
structure Post where
  authorization : Option String
  contentType : String
  body : Json

/-- The post for a message, if the message keeps within the limits. -/
def Post.ofIntent (token : Option String) (intent : SendIntent) : Except DeliveryError Post := do
  intent.message.validate
  return ⟨token.map ("Bearer " ++ ·), "application/json", intent.toJson⟩

/-- What the provider says. -/
structure Reply where
  success : Bool
  messageId : Option String
  error : Option String

def Reply.fromJson : Decoder Reply := asRecord do
  let success ← fieldOr "success" asBool true
  let messageId ← nullableOr "provider_message_id" asString
  return { success, messageId, error := ← nullableOr "error" asString }

/-- The statuses of responses without a body. -/
def isBodyless (status : Nat) : Bool := status < 200 || status == 204 || status == 304

/-- A text without a byte order mark in front. -/
def withoutMark (text : String) : String :=
  match text.toList with
  | '\uFEFF' :: rest => String.ofList rest
  | _ => text

/-- What a response means for the message. -/
def receipt (status : Nat) (body : String) : Except DeliveryError Receipt :=
  let body := if isBodyless status then "" else body
  if status < 200 || 300 ≤ status then .error (.rejected status (withoutMark body))
  else
    match (Json.parse body).bind Reply.fromJson with
    | none => .error (.transport "unreadable delivery response")
    | some reply =>
      if reply.success then .ok ⟨reply.messageId⟩
      else .error (.rejected status (reply.error.getD "unspecified"))

/-- The sender that only logs: it checks a message and makes up its identifier. -/
def logged (id : Uuid) (intent : SendIntent) : Except DeliveryError Receipt := do
  intent.message.validate
  return ⟨some ("log-" ++ toString id)⟩

end Autoresponder.Http
