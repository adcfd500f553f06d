import Autoresponder.Config.Number
import Autoresponder.Engine.World

/-!
# Configuration

What a deployment sets through variables of its environment.
-/

namespace Autoresponder

/-- The configuration of a deployment. -/
structure Config where
  database : String := "./data/autoflow.db"
  port : Nat := 8080
  /-- Where messages go. Without it they are only logged. -/
  deliveryUrl : Option String := none
  deliveryToken : Option String := none
  maxNodes : Nat := 10
  /-- The seconds from one search for conversations that are due to the next. -/
  pollSeconds : Nat := 15
  recovery : String :=
    "Sorry, I didn't catch that option. Send us a new message to start again."
  threshold : Decimal.Single := ⟨false, Decimal.single.ofRatio 7 10⟩

namespace Config

/-- What the engine goes by. -/
def policy (c : Config) : Policy := ⟨c.maxNodes, c.recovery, c.threshold⟩

/-- Reads the number of a variable, if it is set. -/
def number {α : Type} (env : String → Option String)
    (read : String → Except NumberError α) (key : String) (default : α) :
    Except ConfigError α :=
  match env key with
  | none => .ok default
  | some raw => (read (Text.trim raw)).mapError fun e => .invalid key e.message

/-- Whether a similarity lies between zero and one. -/
def isShare (x : Decimal.Single) : Bool :=
  let zero : Decimal.Single := ⟨false, .finite 0 Decimal.single.minUnit⟩
  let one : Decimal.Single := ⟨false, Decimal.single.ofRatio 1 1⟩
  x.atLeast zero && one.atLeast x

/-- The variables that are looked up. -/
def keys : List String :=
  ["AUTOFLOW_DB_PATH", "AUTOFLOW_PORT", "AUTOFLOW_DELIVERY_URL", "AUTOFLOW_DELIVERY_TOKEN",
   "AUTOFLOW_MAX_NODES_PER_PASS", "AUTOFLOW_DELAY_POLL_SECS", "AUTOFLOW_RECOVERY_MESSAGE",
   "AUTOFLOW_FAQ_THRESHOLD"]

/-- The greatest number of 64 bits. -/
def word : Nat := UInt64.size - 1

/-- Reads the configuration. -/
def ofVariables (env : String → Option String) : Except ConfigError Config := do
  let defaults : Config := {}
  let nodesKey := "AUTOFLOW_MAX_NODES_PER_PASS"
  let thresholdKey := "AUTOFLOW_FAQ_THRESHOLD"
  let maxNodes ← number env (readWhole word) nodesKey defaults.maxNodes
  if maxNodes = 0 then throw (.invalid nodesKey "must be at least 1")
  let threshold ← number env readDecimal thresholdKey defaults.threshold
  if !isShare threshold then
    throw (.invalid thresholdKey (threshold.plain ++ " is outside 0.0..=1.0"))
  let port ← number env (readWhole 65535) "AUTOFLOW_PORT" defaults.port
  let pollSeconds ←
    number env (readWhole word) "AUTOFLOW_DELAY_POLL_SECS" defaults.pollSeconds
  return {
    database := (env "AUTOFLOW_DB_PATH").getD defaults.database
    port
    deliveryUrl := (env "AUTOFLOW_DELIVERY_URL").filter fun s => !Text.blank s
    deliveryToken := (env "AUTOFLOW_DELIVERY_TOKEN").filter fun s => !s.isEmpty
    maxNodes
    pollSeconds
    recovery := (env "AUTOFLOW_RECOVERY_MESSAGE").getD defaults.recovery
    threshold }

end Config

end Autoresponder
