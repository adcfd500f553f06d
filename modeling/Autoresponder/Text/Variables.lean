import Autoresponder.Text.Dictionary
import Autoresponder.Text.Placeholder

/-!
# Variables

The values that a conversation has collected, by name, and how they fill the placeholders of a
text.
-/

namespace Autoresponder

/-- Values by name. -/
structure Variables where
  entries : List (String × String)
  sorted : Text.Sorted entries
  deriving DecidableEq

namespace Variables

/-- No values. -/
def empty : Variables := ⟨[], .nil⟩

instance : Inhabited Variables := ⟨empty⟩

/-- The value of a name. -/
def get? (vs : Variables) (name : String) : Option String := vs.entries.lookup name

/-- Gives a name a value. -/
def put (vs : Variables) (name value : String) : Variables :=
  ⟨Text.put name value vs.entries, vs.sorted.put name value⟩

/-- Gives names values, one after the other. -/
def putAll (vs : Variables) (entries : List (String × String)) : Variables :=
  ⟨Text.putAll vs.entries entries, vs.sorted.putAll⟩

def ofList (entries : List (String × String)) : Variables := empty.putAll entries

/-- What a placeholder stands for: the phone number under its own name, else the value of a
variable, else nothing. -/
def placeholder (vs : Variables) (phone : String) (name : List Char) : List Char :=
  if name = "phone_number".toList then phone.toList
  else ((vs.get? (String.ofList name)).getD "").toList

/-- Fills the placeholders of a text. -/
def render (vs : Variables) (phone template : String) : String :=
  String.ofList (Text.fill (vs.placeholder phone) template.toList)

theorem putAll_entries (vs : Variables) : empty.putAll vs.entries = vs := by
  have h : Text.putAll [] vs.entries = vs.entries := Text.putAll_of_sorted vs.sorted
  obtain ⟨entries, sorted⟩ := vs
  simpa [putAll, empty] using h

theorem putAll_putAll (vs : Variables) (entries : List (String × String)) :
    (vs.putAll entries).putAll entries = vs.putAll entries := by
  simp only [putAll, Text.putAll_putAll]

end Variables

end Autoresponder
