/-!
# Trigger kinds

The condition on which a flow or a rule takes up a message.
-/

namespace Autoresponder

/-- What takes up a message. -/
inductive TriggerKind where
  | anyMessage
  | keyword
  | exactMatch
  | welcome
  | away
  | command
  | faq
  | aiChat
  | fallback
  deriving DecidableEq, Repr

namespace TriggerKind

/-- The name under which a kind is stored. -/
def tag : TriggerKind → String
  | anyMessage => "any_message"
  | keyword => "keyword"
  | exactMatch => "exact_match"
  | welcome => "welcome"
  | away => "away"
  | command => "command"
  | faq => "faq"
  | aiChat => "ai_chat"
  | fallback => "default"

/-- The order among candidates of one priority: the more specific kind comes first, and what takes
up any message comes last. -/
def rank : TriggerKind → Nat
  | welcome => 0
  | away => 1
  | command => 2
  | exactMatch => 3
  | keyword => 4
  | faq => 5
  | anyMessage => 6
  | aiChat => 7
  | fallback => 8

/-- The kind of a name. -/
def ofTag? : String → Option TriggerKind
  | "any_message" => some anyMessage
  | "keyword" => some keyword
  | "exact_match" => some exactMatch
  | "welcome" => some welcome
  | "away" => some away
  | "command" => some command
  | "faq" => some faq
  | "ai_chat" => some aiChat
  | "default" => some fallback
  | _ => none

/-- The kind of a name in a stored row, where `ai` also stands for the chat. -/
def ofStored? (name : String) : Option TriggerKind :=
  if name = "ai" then some aiChat else ofTag? name

/-- The wording for a name without a kind. -/
def unknown (name : String) : String := "unknown trigger type: " ++ name

theorem ofStored?_tag (k : TriggerKind) : ofStored? k.tag = some k := by cases k <;> rfl

end TriggerKind

end Autoresponder
