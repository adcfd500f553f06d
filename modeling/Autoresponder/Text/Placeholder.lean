import Autoresponder.Text.Blank
import Autoresponder.Text.Search

/-!
# Placeholders

A message text names values as `{{name}}`. Filling it replaces each placeholder by its value in
one pass from left to right, so a value is never searched for placeholders itself. An opening pair
of braces that is never closed is plain text.
-/

namespace Autoresponder.Text

/-- Fills the placeholders of `cs`. A name is looked up without the blanks around it. -/
def fill (value : List Char → List Char) (cs : List Char) : List Char :=
  match _opened : splitAt? ['{', '{'] cs with
  | none => cs
  | some (plain, body) =>
    match _closed : splitAt? ['}', '}'] body with
    | none => cs
    | some (name, rest) => plain ++ value (trimChars name) ++ fill value rest
termination_by cs.length
decreasing_by
  have := length_of_splitAt? _opened
  have := length_of_splitAt? _closed
  simp only [List.length_cons, List.length_nil] at *
  omega

end Autoresponder.Text
