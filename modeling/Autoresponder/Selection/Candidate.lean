import Autoresponder.Flow.Basic
import Autoresponder.Rule.Basic
import Autoresponder.Schedule.Hours

/-!
# Candidates

What may answer a message: the active flows and rules of an account, in the order in which they are
tried.
-/

namespace Autoresponder

/-- Something that may answer a message. -/
inductive Candidate where
  | flow (flow : Flow)
  | rule (rule : Rule)
  deriving DecidableEq

namespace Candidate

def tag : Candidate → String
  | flow _ => "flow"
  | rule _ => "rule"

def id : Candidate → Uuid
  | flow f => f.id
  | rule r => r.id

def name : Candidate → String
  | flow f => f.name
  | rule r => r.name

def priority : Candidate → Int
  | flow f => f.priority
  | rule r => r.priority

def trigger : Candidate → TriggerKind
  | flow f => f.trigger
  | rule r => r.trigger

def config : Candidate → TriggerConfig
  | flow f => f.config
  | rule r => r.config

def created : Candidate → Instant
  | flow f => f.created
  | rule r => r.created

/-- Flows go before rules. -/
def isRule : Candidate → Bool
  | flow _ => false
  | rule _ => true

/-- Whether `a` need not stand behind `b`: the lower priority goes first, then the more specific
trigger, then the older one, then a flow. -/
def notBehind (a b : Candidate) : Bool :=
  if a.priority ≠ b.priority then a.priority < b.priority
  else if a.trigger.rank ≠ b.trigger.rank then a.trigger.rank < b.trigger.rank
  else if a.created ≠ b.created then a.created < b.created
  else !a.isRule || b.isRule

end Candidate

/-- What an account has to answer messages with. -/
structure Snapshot where
  workspace : String
  account : String
  flows : List Flow
  rules : List Rule
  settings : AccountSettings
  deriving DecidableEq

namespace Snapshot

/-- Keeps what is active, and of the flows those that can be walked. -/
def ofAccount (workspace account : String) (flows : List Flow) (rules : List Rule)
    (settings : AccountSettings) : Snapshot where
  workspace
  account
  flows := flows.filter fun f => f.isActive && f.problem?.isNone
  rules := rules.filter (·.isActive)
  settings

/-- The flow of an identifier. -/
def flow? (s : Snapshot) (id : Uuid) : Option Flow := s.flows.find? (·.id == id)

/-- The candidates in the order in which they are tried. -/
def candidates (s : Snapshot) : List Candidate :=
  (s.flows.map Candidate.flow ++ s.rules.map Candidate.rule).mergeSort Candidate.notBehind

end Snapshot

end Autoresponder
