import Autoresponder.Error
import Autoresponder.Flow.Node
import Autoresponder.Trigger.Config
import Autoresponder.Trigger.Kind

/-!
# Rules

A rule answers a message at once and keeps no conversation. How often it may do so is limited for
each conversation, and each time it does is logged.
-/

namespace Autoresponder

/-- What a rule does with a message. -/
inductive Response where
  | text (text : String)
  | buttons (text : String) (buttons : List Button)
  | template (name language : String) (parameters : List String)
  | startFlow (flow : Uuid)
  | ai (instructions : Option String)
  deriving DecidableEq

namespace Response

def tag : Response → String
  | text _ => "text"
  | buttons _ _ => "buttons"
  | template _ _ _ => "template"
  | startFlow _ => "start_flow"
  | ai _ => "ai"

/-- The language of a template that names none. -/
def defaultLanguage : String := "en"

end Response

/-- A rule of an account. Of two rules the one with the lower priority goes first. -/
structure Rule where
  id : Uuid
  workspace : String
  account : String
  name : String
  trigger : TriggerKind
  config : TriggerConfig
  response : Response
  isActive : Bool
  priority : Int
  /-- The seconds that must pass before the rule answers the same conversation again. -/
  cooldown : UInt64
  /-- How often the rule may answer a conversation in a day. Zero is no limit. -/
  dailyCap : UInt32
  triggerCount : UInt64
  lastTriggered : Option Instant
  created : Instant
  updated : Instant
  deriving DecidableEq

/-- A new active rule without limits. -/
def Rule.new (id : Uuid) (workspace account name : String) (trigger : TriggerKind)
    (response : Response) (now : Instant) : Rule where
  id
  workspace
  account
  name
  trigger
  config := {}
  response
  isActive := true
  priority := 100
  cooldown := 0
  dailyCap := 0
  triggerCount := 0
  lastTriggered := none
  created := now
  updated := now

/-- Whether a rule may not answer as often as it likes. -/
def Rule.hasLimits (r : Rule) : Bool := 0 < r.cooldown || 0 < r.dailyCap

/-- One use of a rule. Only those that delivered something count towards its limits. -/
structure Firing where
  id : Uuid
  rule : Uuid
  conversation : String
  messageId : Option String
  text : String
  keyword : Option String
  success : Bool
  time : Instant
  deriving DecidableEq

end Autoresponder
