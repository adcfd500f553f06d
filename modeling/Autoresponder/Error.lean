import Autoresponder.Uuid
import Autoresponder.Time.Stamp

/-!
# Errors

What can go wrong, by cause, and how each cause is worded.
-/

namespace Autoresponder

/-- The store could not do what it was asked for. -/
inductive StoreError where
  | pool (reason : String)
  | query (reason : String)
  | notFound (entity id : String)
  | constraint (reason : String)
  | migration (reason : String)
  | serialization (reason : String)
  deriving DecidableEq, Repr

namespace StoreError

def kind : StoreError → String
  | pool _ => "pool"
  | query _ => "query"
  | notFound _ _ => "not_found"
  | constraint _ => "constraint"
  | migration _ => "migration"
  | serialization _ => "serialization"

def message : StoreError → String
  | pool reason => "Connection pool error: " ++ reason
  | query reason => "Query failed: " ++ reason
  | notFound entity id => "Entity not found: " ++ entity ++ " with id " ++ id
  | constraint reason => "Constraint violation: " ++ reason
  | migration reason => "Migration failed: " ++ reason
  | serialization reason => "Serialization error: " ++ reason

end StoreError

/-- A message could not be handed over for delivery. -/
inductive DeliveryError where
  | rejected (status : Nat) (reason : String)
  | transport (reason : String)
  | invalidIntent (reason : String)
  deriving DecidableEq, Repr

namespace DeliveryError

def kind : DeliveryError → String
  | rejected _ _ => "rejected"
  | transport _ => "transport"
  | invalidIntent _ => "invalid_intent"

def message : DeliveryError → String
  | rejected status reason =>
    "Provider rejected message (" ++ toString status ++ "): " ++ reason
  | transport reason => "Transport failure: " ++ reason
  | invalidIntent reason => "Invalid send intent: " ++ reason

end DeliveryError

/-- A flow cannot be walked. -/
inductive FlowError where
  | invalidGraph (flow : Uuid) (reason : String)
  | nodeNotFound (flow : Uuid) (node : String)
  | flowNotFound (flow : Uuid)
  deriving DecidableEq

namespace FlowError

def kind : FlowError → String
  | invalidGraph _ _ => "invalid_graph"
  | nodeNotFound _ _ => "node_not_found"
  | flowNotFound _ => "flow_not_found"

def message : FlowError → String
  | invalidGraph flow reason => "Flow " ++ toString flow ++ " is invalid: " ++ reason
  | nodeNotFound flow node => "Node " ++ node ++ " not found in flow " ++ toString flow
  | flowNotFound flow => "Flow " ++ toString flow ++ " not found"

end FlowError

/-- An event could not be handled. That nothing matches it is no error. -/
inductive AutomationError where
  | windowClosed (phone : String) (lastInbound : Option Instant)
  | rateLimited (rule : Uuid) (reason : String)
  | unmatchedContinuation (state : Uuid) (node input : String)
  | delivery (cause : DeliveryError)
  | staleState (state : Uuid) (idleHours : Int)
  | flow (cause : FlowError)
  | store (cause : StoreError)
  | collaborator (name reason : String)
  deriving DecidableEq

namespace AutomationError

/-- A short label. -/
def kind : AutomationError → String
  | windowClosed _ _ => "window_closed"
  | rateLimited _ _ => "rate_limited"
  | unmatchedContinuation _ _ _ => "unmatched_continuation"
  | delivery _ => "delivery_failure"
  | staleState _ _ => "stale_state"
  | flow _ => "flow"
  | store _ => "database"
  | collaborator _ _ => "collaborator"

def message : AutomationError → String
  | windowClosed phone lastInbound =>
    "Messaging window closed for " ++ phone ++ " (last inbound " ++
      (match lastInbound with
        | some t => "Some(" ++ t.text ++ ")"
        | none => "None") ++ ")"
  | rateLimited rule reason => "Rule " ++ toString rule ++ " rate limited: " ++ reason
  | unmatchedContinuation state node input =>
    "Input '" ++ input ++ "' matches no continuation of node " ++ node ++
      " (state " ++ toString state ++ ")"
  | delivery cause => "Delivery failed: " ++ cause.message
  | staleState state idleHours =>
    "State " ++ toString state ++ " is stale (" ++ toString idleHours ++ "h since last inbound)"
  | flow cause => cause.message
  | store cause => "Database error: " ++ cause.message
  | collaborator name reason => "Collaborator " ++ name ++ " failed: " ++ reason

end AutomationError

/-- The configuration cannot be used. -/
inductive ConfigError where
  | missing (key : String)
  | invalid (key reason : String)
  deriving DecidableEq, Repr

def ConfigError.message : ConfigError → String
  | missing key => "Missing required environment variable: " ++ key
  | invalid key reason => "Invalid configuration value for " ++ key ++ ": " ++ reason

/-- Any of these errors. -/
inductive Error where
  | config (cause : ConfigError)
  | store (cause : StoreError)
  | delivery (cause : DeliveryError)
  | flow (cause : FlowError)
  | automation (cause : AutomationError)
  deriving DecidableEq

def Error.message : Error → String
  | config cause => "Configuration error: " ++ cause.message
  | store cause => "Database error: " ++ cause.message
  | delivery cause => "Delivery error: " ++ cause.message
  | flow cause => "Flow error: " ++ cause.message
  | automation cause => "Automation error: " ++ cause.message

end Autoresponder
