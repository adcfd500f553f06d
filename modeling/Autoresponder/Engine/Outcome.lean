import Autoresponder.Engine.Execute

/-!
# Outcomes

What came of an event. Every event has an outcome; at worst it says that nobody was answered.
-/

namespace Autoresponder

/-- What came of an event. -/
inductive Outcome where
  | noMatch
  | ignored (reason : String)
  | rateLimited (rule : Uuid) (reason : String)
  | windowClosed (phone : String)
  | responded (rule : Uuid) (messageId : Option String)
  | flowStarted (flow state : Uuid) (pass : Pass)
  | flowAdvanced (flow state : Uuid) (pass : Pass)
  | waiting (state : Uuid) (node : String)
  | recovered (state : Uuid) (node : String)
  | degraded (kind reason : String)
  deriving DecidableEq

namespace Outcome

def tag : Outcome → String
  | noMatch => "no_match"
  | ignored _ => "ignored"
  | rateLimited _ _ => "rate_limited"
  | windowClosed _ => "window_closed"
  | responded _ _ => "responded"
  | flowStarted _ _ _ => "flow_started"
  | flowAdvanced _ _ _ => "flow_advanced"
  | waiting _ _ => "waiting"
  | recovered _ _ => "recovered"
  | degraded _ _ => "degraded"

/-- The outcome of a failure. -/
def ofError : AutomationError → Outcome
  | .windowClosed phone _ => windowClosed phone
  | .rateLimited rule reason => rateLimited rule reason
  | e => degraded e.kind e.message

/-- The outcome, or that of the failure. -/
def ofExcept : Except AutomationError Outcome → Outcome
  | .ok outcome => outcome
  | .error e => ofError e

/-- Whether a rule with this outcome has fired successfully. -/
def isSuccess : Outcome → Bool
  | responded _ _ => true
  | flowStarted _ _ _ => true
  | _ => false

end Outcome

end Autoresponder
