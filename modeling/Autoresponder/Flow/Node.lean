/-!
# Nodes and edges

The steps of a conversation and the ways from one to the next.
-/

namespace Autoresponder

/-- A button that a message offers. -/
structure Button where
  id : String
  title : String
  deriving DecidableEq, Repr

/-- What a step does. -/
inductive NodeKind where
  /-- Where a conversation starts. -/
  | trigger
  | message (text : String)
  /-- Offers buttons and waits for one. The title of the button goes into the variable. -/
  | buttons (text : String) (buttons : List Button) (variableName : Option String)
  | delay (seconds : UInt64)
  /-- Shows a form and waits until it is filled in. -/
  | form (id body callToAction : String)
  /-- Ends the conversation. -/
  | finish (message : Option String)
  deriving DecidableEq, Repr

namespace NodeKind

def tag : NodeKind → String
  | trigger => "trigger"
  | message _ => "message"
  | buttons _ _ _ => "buttons"
  | delay _ => "delay"
  | form _ _ _ => "subflow"
  | finish _ => "end"

/-- What a form is opened with unless it says otherwise. -/
def defaultCallToAction : String := "Open"

/-- A form without a text of its own. -/
def plainForm (id : String) : NodeKind := form id "" defaultCallToAction

def isTrigger : NodeKind → Bool
  | trigger => true
  | _ => false

def isButtons : NodeKind → Bool
  | buttons _ _ _ => true
  | _ => false

end NodeKind

/-- A step. -/
structure Node where
  id : String
  kind : NodeKind
  deriving DecidableEq, Repr

/-- A way from one step to another. The handle names the button that takes it. -/
structure Edge where
  source : String
  target : String
  handle : Option String := none
  deriving DecidableEq, Repr

end Autoresponder
