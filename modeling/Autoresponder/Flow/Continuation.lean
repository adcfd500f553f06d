import Autoresponder.Flow.Basic
import Autoresponder.Message.Basic
import Autoresponder.Text.Variables

/-!
# Buttons and replies

The buttons of a node as a person sees them, and which button a reply stands for: the one that was
clicked, or the one whose title was typed. Nothing is guessed.
-/

namespace Autoresponder

open Text

/-- The buttons that are shown: at most as many as a message may have, with titles that are filled
in and cut to their greatest length. -/
def shownButtons (bs : List Button) (values : Variables) (phone : String) : List Button :=
  (bs.take Message.maxButtons).map fun b =>
    { b with title := truncate Message.maxTitle (values.render phone b.title) }

/-- Where a reply leads. -/
structure Continuation where
  button : Button
  target : String
  /-- The variable that takes the title of the button. -/
  variableName : Option String
  deriving DecidableEq

/-- Whether a typed text names a button: its title, whole or cut to its greatest length. Case and
blanks around it do not matter. -/
def Button.isNamedBy (b : Button) (text : String) : Bool :=
  let title := lower (trim b.title)
  let wanted := lower (trim text)
  title == wanted || truncate Message.maxTitle title == wanted

/-- The button that a reply stands for. -/
def chosen? (bs : List Button) (payload : Option String) (text : String) : Option Button :=
  match payload with
  | some id => bs.find? (·.id == id)
  | none => bs.find? (·.isNamedBy text)

/-- Where a reply to a node leads. -/
def Flow.continuation? (f : Flow) (node : String) (payload : Option String) (text : String) :
    Option Continuation := do
  let n ← f.node? node
  match n.kind with
  | .buttons _ bs variableName => do
    let b ← chosen? bs payload text
    let target ← f.target? node b.id
    return ⟨b, target, variableName⟩
  | _ => none

end Autoresponder
