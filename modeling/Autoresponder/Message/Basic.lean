import Autoresponder.Error
import Autoresponder.Flow.Node
import Autoresponder.Text.Blank

/-!
# Messages

What is sent to a person, and the limits that the provider sets.
-/

namespace Autoresponder

/-- A message to a person. -/
inductive Message where
  | text (body : String)
  | buttons (body : String) (buttons : List Button)
  | template (name language : String) (parameters : List String)
  /-- A form, and the conversation that waits for it. -/
  | form (id body callToAction : String) (state : Uuid)
  deriving DecidableEq

namespace Message

def tag : Message → String
  | text _ => "text"
  | buttons _ _ => "buttons"
  | template _ _ _ => "template"
  | form _ _ _ _ => "form"

/-- All messages but templates need an open window. -/
def requiresWindow : Message → Bool
  | template _ _ _ => false
  | _ => true

/-- The most buttons that a message may have. -/
def maxButtons : Nat := 3

/-- The most characters that the title of a button may have. -/
def maxTitle : Nat := 20

/-- Checks a message against the limits. -/
def validate : Message → Except DeliveryError Unit
  | text body =>
    if Text.blank body then .error (.invalidIntent "text message body is empty") else .ok ()
  | buttons _ bs =>
    if bs.isEmpty || maxButtons < bs.length then
      .error (.invalidIntent ("buttons message needs 1..=" ++ toString maxButtons ++
        " buttons, got " ++ toString bs.length))
    else
      match bs.find? fun b => maxTitle < b.title.length with
      | some b =>
        .error (.invalidIntent ("button '" ++ b.id ++ "' title exceeds " ++ toString maxTitle ++
          " characters"))
      | none => .ok ()
  | template _ _ _ => .ok ()
  | form _ _ _ _ => .ok ()

end Message

/-- The wish to send a message to a phone number. -/
structure SendIntent where
  workspace : String
  account : String
  phone : String
  message : Message
  deriving DecidableEq

/-- What comes back for a message that was accepted. -/
structure Receipt where
  messageId : Option String
  deriving DecidableEq, Repr, Inhabited

end Autoresponder
