import Autoresponder.Time.Instant
import Autoresponder.Text.Variables
import Autoresponder.Uuid

/-!
# Conversations

Where a person stands in a flow. A conversation changes only as a whole: each change gives it the
next version, so that a copy that is no longer up to date can be told.
-/

namespace Autoresponder

/-- The state of a conversation. -/
structure Conversation where
  id : Uuid
  workspace : String
  account : String
  phone : String
  flow : Uuid
  node : String
  lastButton : Option String
  collected : Variables
  lastInbound : Option Instant
  /-- When a delay ends, or a delivery that failed is to be tried again. -/
  resumeAt : Option Instant
  isActive : Bool
  /-- Counted from 1, up to `Int64.maxValue`: no run of fewer writes leaves it, see
  `World.numbered_after`. -/
  version : Int
  created : Instant
  updated : Instant
  completed : Option Instant
  deriving DecidableEq

namespace Conversation

/-- Hours since the last message came in, or since the conversation began. -/
def idleHours (c : Conversation) (now : Instant) : Int :=
  (Span.wholeSeconds (now.since (c.lastInbound.getD c.created))).tdiv 3600

/-- What can happen to a conversation. -/
inductive Change where
  | advance (node : String)
  | rewind (node : String) (resumeAt : Option Instant)
  | recordInbound (time : Instant)
  | recordButton (button : String)
  | mergeVariables (entries : List (String × String))
  | scheduleResume (time : Instant)
  | markWaiting
  | clearResume
  | complete
  deriving DecidableEq

/-- The content of a conversation after a change. The last message never moves back in time. -/
def Change.apply (now : Instant) (c : Conversation) : Change → Conversation
  | advance node => { c with node, resumeAt := none }
  | rewind node resumeAt => { c with node, resumeAt }
  | recordInbound time =>
    match c.lastInbound with
    | some last => if last < time then { c with lastInbound := some time } else c
    | none => { c with lastInbound := some time }
  | recordButton button => { c with lastButton := some button }
  | mergeVariables entries => { c with collected := c.collected.putAll entries }
  | scheduleResume time => { c with resumeAt := some time }
  | markWaiting => c
  | clearResume => { c with resumeAt := none }
  | complete => { c with isActive := false, resumeAt := none, completed := some now }

/-- A conversation after a change, in its next version. -/
def after (c : Conversation) (change : Change) (now : Instant) : Conversation :=
  { change.apply now c with version := c.version + 1, updated := now }

@[simp] theorem version_after (c : Conversation) (change : Change) (now : Instant) :
    (c.after change now).version = c.version + 1 := rfl

@[simp] theorem id_after (c : Conversation) (change : Change) (now : Instant) :
    (c.after change now).id = c.id := by
  cases change <;> simp only [after, Change.apply]
  case recordInbound time =>
    split
    · split <;> rfl
    · rfl

end Conversation

end Autoresponder
