import Autoresponder.Message.Sender
import Autoresponder.Selection.Basic
import Autoresponder.Store.Basic

/-!
# The world

What the engine works with. Its environment says how the others behave while something is done: what
the clock will show, what is answered to those that are asked, and which calls to the store fail. Its
world changes: the store, and what was sent and asked. A step may read the one and change the other,
and may fail; what it has done by then stays done.
-/

namespace Autoresponder

/-- A request for a reply to a message. -/
structure AiRequest where
  workspace : String
  account : String
  phone : String
  message : String
  instructions : Option String
  deriving DecidableEq, Repr

/-- Replies to messages, may stay silent, and may fail. -/
abbrev Responder := AiRequest → Except AutomationError (Option String)

/-- What the engine goes by. -/
structure Policy where
  /-- The most nodes that one pass executes. At least one is executed. -/
  maxNodes : Nat
  /-- What is answered to input that a conversation has no use for. -/
  recovery : String
  /-- The similarity that an answer of the knowledge base needs unless a trigger says otherwise. -/
  threshold : Decimal.Single

/-- The calls to the store. -/
inductive Call where
  | migrate
  | putFlow
  | getFlow
  | activeFlows
  | setFlowStatus
  | countFlowStart
  | putRule
  | getRule
  | activeRules
  | logFiring
  | lastFiring
  | countFirings
  | ruleFirings
  | createState
  | getState
  | getActiveState
  | updateState
  | dueStates
  | countActive
  | getSettings
  | putSettings
  deriving DecidableEq, Repr

/-- The name under which a call is reported. -/
def Call.name : Call → String
  | migrate => "run_migrations"
  | putFlow => "upsert_flow"
  | getFlow => "get_flow"
  | activeFlows => "list_active_flows"
  | setFlowStatus => "set_flow_status"
  | countFlowStart => "record_flow_triggered"
  | putRule => "upsert_rule"
  | getRule => "get_rule"
  | activeRules => "list_active_rules"
  | logFiring => "log_rule_trigger"
  | lastFiring => "last_rule_trigger_at"
  | countFirings => "count_rule_triggers_since"
  | ruleFirings => "list_rule_triggers"
  | createState => "create_state"
  | getState => "get_state"
  | getActiveState => "get_active_state"
  | updateState => "update_state"
  | dueStates => "list_due_delays"
  | countActive => "count_active_states"
  | getSettings => "get_account_settings"
  | putSettings => "set_account_settings"

/-- All calls. -/
def Call.all : List Call :=
  [migrate, putFlow, getFlow, activeFlows, setFlowStatus, countFlowStart, putRule, getRule,
   activeRules, logFiring, lastFiring, countFirings, ruleFirings, createState, getState,
   getActiveState, updateState, dueStates, countActive, getSettings, putSettings]

/-- The call of a name. -/
def Call.ofName? (name : String) : Option Call := Call.all.find? (·.name == name)

/-- How a call goes wrong: it fails, or it is answered as if somebody else had been faster. -/
inductive Fault where
  | failure
  | conflict
  deriving DecidableEq, Repr

/-- How everything around the engine behaves while something is done. -/
structure Environment where
  /-- The time that is gone by. Whatever begins reads it from the clock, see `Step.timed`. -/
  now : Instant
  /-- What the clock shows when it is read for the `n`-th time, counted from 0. -/
  clock : Nat → Instant
  sender : Sender
  knowledge : Option KnowledgeBase
  responder : Option Responder
  zones : Zones
  patterns : PatternReader
  policy : Policy
  /-- The fault of the `n`-th call of a kind, counted from 0. -/
  fault : Call → Nat → Option Fault
  /-- The `n`-th new identifier. -/
  freshId : Nat → Uuid

namespace Environment

/-- What messages are matched with. -/
def matcher (env : Environment) : Matcher :=
  ⟨env.knowledge, env.policy.threshold, env.zones, env.patterns⟩

/-- The same at another time. -/
def atTime (env : Environment) (now : Instant) : Environment := { env with now }

end Environment

/-- What changes. What was stored before, sent and asked stands newest first. -/
structure World where
  store : Store
  /-- The stores that there were before. -/
  past : List Store
  calls : List (Call × Nat)
  drawn : Nat
  /-- How often the clock was read. -/
  readings : Nat
  exchanges : List Exchange
  lookups : List Lookup
  requests : List AiRequest

/-- A world in which nothing has happened. -/
def World.start (store : Store) : World := ⟨store, [], [], 0, 0, [], [], []⟩

/-- Something that is done and may fail. -/
abbrev Step (ε α : Type) := ReaderT Environment (ExceptT ε (StateM World)) α

/-- Something that is done and does not fail. -/
abbrev Act (α : Type) := ReaderT Environment (StateM World) α

namespace World

/-- How many calls of a kind there were. -/
def callsOf (w : World) (c : Call) : Nat := (w.calls.lookup c).getD 0

/-- Puts a number beside a kind of call. -/
def setCount (c : Call) (n : Nat) : List (Call × Nat) → List (Call × Nat)
  | [] => [(c, n)]
  | (d, m) :: rest => if c = d then (c, n) :: rest else (d, m) :: setCount c n rest

/-- Counts a call. -/
def counting (w : World) (c : Call) : World :=
  { w with calls := setCount c (w.callsOf c + 1) w.calls }

/-- Counts a reading of the clock. -/
def reading (w : World) : World := { w with readings := w.readings + 1 }

/-- Puts another store in the place of the one that there was. -/
def write (w : World) (s : Store) : World := { w with store := s, past := w.store :: w.past }

/-- Writes what is to be written, if anything is. -/
def writeAny (w : World) : Option Store → World
  | some s => w.write s
  | none => w

end World

/-- The environment at the time that the clock shows next. -/
def Environment.asOf (env : Environment) (w : World) : Environment :=
  env.atTime (env.clock w.readings)

/-- Reads the clock, and goes by what it shows. -/
def Act.timed {α : Type} (act : Act α) : Act α := fun env w => act (env.asOf w) w.reading

namespace Step

/-- Does something and keeps the failure as a value. -/
def attempt {ε α : Type} (step : Step ε α) : Act (Except ε α) := fun env w => step env w

/-- Does something that does not fail. -/
def ofAct {ε α : Type} (act : Act α) : Step ε α := fun env w =>
  let (a, w) := act env w
  (.ok a, w)

/-- Takes an outcome as it is. -/
def ofResult {ε α : Type} (outcome : Except ε α) : Step ε α := fun _ w => (outcome, w)

/-- Fails for another reason. -/
def mapError {ε δ α : Type} (f : ε → δ) (step : Step ε α) : Step δ α := fun env w =>
  let (outcome, w) := step env w
  (outcome.mapError f, w)

/-- A failure of the store is a failure of the engine. -/
def stored {α : Type} (step : Step StoreError α) : Step AutomationError α :=
  step.mapError AutomationError.store

/-- What the engine goes by. -/
def policy {ε : Type} : Step ε Policy := fun env w => (.ok env.policy, w)

/-- The zones that can be named. -/
def zones {ε : Type} : Step ε Zones := fun env w => (.ok env.zones, w)

/-- The time that is gone by. -/
def now {ε : Type} : Step ε Instant := fun env w => (.ok env.now, w)

/-- Reads the clock, and goes by what it shows. -/
def timed {ε α : Type} (step : Step ε α) : Step ε α := fun env w => step (env.asOf w) w.reading

/-- Draws a new identifier. -/
def freshId {ε : Type} : Step ε Uuid := fun env w =>
  (.ok (env.freshId w.drawn), { w with drawn := w.drawn + 1 })

/-- Calls the store, for an answer and, if the call writes, for another store. A call that goes
wrong does not reach it. Where a call can be answered as if somebody else had been faster,
`conflict` is that answer. -/
def call {α : Type} (c : Call) (conflict : Option α)
    (run : Store → Except StoreError (α × Option Store)) : Step StoreError α := fun env w =>
  let counted := w.counting c
  match env.fault c (w.callsOf c), conflict with
  | none, _ =>
    match run w.store with
    | .ok (a, written) => (.ok a, counted.writeAny written)
    | .error e => (.error e, counted)
  | some .conflict, some a => (.ok a, counted)
  | some _, _ => (.error (.query (c.name ++ ": injected fault")), counted)

/-- Asks the store. -/
def ask {α : Type} (c : Call) (run : Store → Except StoreError α) : Step StoreError α :=
  call c none fun s => (run s).map (·, none)

/-- Changes the store. -/
def tell (c : Call) (run : Store → Except StoreError Store) : Step StoreError Unit :=
  call c none fun s => (run s).map ((), some ·)

end Step

end Autoresponder
