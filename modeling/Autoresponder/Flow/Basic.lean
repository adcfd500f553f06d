import Autoresponder.Error
import Autoresponder.Flow.Node
import Autoresponder.Trigger.Config
import Autoresponder.Trigger.Kind

/-!
# Flows

A flow is a graph of steps that a trigger starts. A graph can be walked if its nodes have different
names, just one of them is the start, every edge joins two of them, and only buttons lead to more
than one place.
-/

namespace Autoresponder

/-- Whether a flow takes up messages. -/
inductive FlowStatus where
  | draft
  | active
  | paused
  deriving DecidableEq, Repr

namespace FlowStatus

def tag : FlowStatus → String
  | draft => "draft"
  | active => "active"
  | paused => "paused"

def ofTag? : String → Option FlowStatus
  | "draft" => some draft
  | "active" => some active
  | "paused" => some paused
  | _ => none

/-- The wording for a name without a status. -/
def unknown (name : String) : String := "unknown flow status: " ++ name

theorem ofTag?_tag (s : FlowStatus) : ofTag? s.tag = some s := by cases s <;> rfl

end FlowStatus

/-- A flow of an account. Of two flows the one with the lower priority goes first. -/
structure Flow where
  id : Uuid
  workspace : String
  account : String
  name : String
  trigger : TriggerKind
  config : TriggerConfig
  nodes : List Node
  edges : List Edge
  status : FlowStatus
  priority : Int
  version : Int
  triggerCount : UInt64
  lastTriggered : Option Instant
  created : Instant
  updated : Instant
  deriving DecidableEq

/-- A new active flow with an empty graph. -/
def Flow.new (id : Uuid) (workspace account name : String) (trigger : TriggerKind)
    (now : Instant) : Flow where
  id
  workspace
  account
  name
  trigger
  config := {}
  nodes := []
  edges := []
  status := .active
  priority := 100
  version := 1
  triggerCount := 0
  lastTriggered := none
  created := now
  updated := now

/-- What is wrong with a graph. -/
inductive GraphProblem where
  | duplicateNode (id : String)
  | starts (count : Nat)
  | unknownNode (id : String)
  | fanOut (kind : NodeKind) (id : String) (count : Nat)
  deriving DecidableEq, Repr

def GraphProblem.message : GraphProblem → String
  | duplicateNode id => "duplicate node id '" ++ id ++ "'"
  | starts count => "expected exactly one start node, found " ++ toString count
  | unknownNode id => "edge references unknown node '" ++ id ++ "'"
  | fanOut kind id count =>
    kind.tag ++ " node '" ++ id ++ "' has " ++ toString count ++ " outgoing edges"

namespace Flow

def isActive (f : Flow) : Bool := f.status = .active

/-- The node of a name. -/
def node? (f : Flow) (id : String) : Option Node := f.nodes.find? (·.id == id)

/-- The node of a name, which should be there. -/
def node (f : Flow) (id : String) : Except FlowError Node :=
  match f.node? id with
  | some n => .ok n
  | none => .error (.nodeNotFound f.id id)

/-- The node where a conversation starts. -/
def start? (f : Flow) : Option Node := f.nodes.find? (·.kind.isTrigger)

/-- The edges that leave a node. -/
def outgoing (f : Flow) (id : String) : List Edge := f.edges.filter (·.source == id)

/-- Where the first edge of a node leads. -/
def next? (f : Flow) (id : String) : Option String := (f.outgoing id).head?.map (·.target)

/-- Where the edge of a button leads. -/
def target? (f : Flow) (id button : String) : Option String :=
  ((f.outgoing id).find? (·.handle == some button)).map (·.target)

def hasNode (f : Flow) (id : String) : Bool := f.nodes.any (·.id == id)

/-- The first name that stands before. -/
def firstRepeated : List String → List String → Option String
  | _, [] => none
  | before, id :: rest =>
    if before.contains id then some id else firstRepeated (id :: before) rest

/-- The first thing that is wrong with the graph. -/
def problem? (f : Flow) : Option GraphProblem :=
  let starts := (f.nodes.filter (·.kind.isTrigger)).length
  match firstRepeated [] (f.nodes.map (·.id)) with
  | some id => some (.duplicateNode id)
  | none =>
    if starts ≠ 1 then some (.starts starts)
    else
      match (f.edges.flatMap fun e => [e.source, e.target]).find? fun id => !f.hasNode id with
      | some id => some (.unknownNode id)
      | none =>
        (f.nodes.find? fun n => !n.kind.isButtons && 1 < (f.outgoing n.id).length).map fun n =>
          .fanOut n.kind n.id (f.outgoing n.id).length

/-- Accepts a graph that can be walked. -/
def validate (f : Flow) : Except FlowError Unit :=
  match f.problem? with
  | none => .ok ()
  | some p => .error (.invalidGraph f.id p.message)

end Flow

end Autoresponder
