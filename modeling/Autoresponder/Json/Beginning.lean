import Autoresponder.Json.Decode
import Autoresponder.Json.Reader

/-!
# The beginning of a document

What a text says before its first fault. A container that the text leaves open is taken as it is at
the fault; a key without its value and a string without its end are dropped. So it can be told
whether a faulty text has begun as a document that is wanted.
-/

namespace Autoresponder.Json

/-- Takes steps as long as they can be taken. -/
def stepWhile {σ α : Type} (step : σ → α → Option σ) (s : σ) : List α → σ
  | [] => s
  | a :: rest =>
    match step s a with
    | some t => stepWhile step t rest
    | none => s

/-- The characters of numbers. -/
def isNumberChar (c : Char) : Bool := c.isDigit || ['+', '-', '.', 'e', 'E'].contains c

/-- The token that a word begins with. -/
def wordBeginning? (chars : List Char) : Option Token :=
  if "true".toList.isPrefixOf chars then some (.scalar (.bool true))
  else if "false".toList.isPrefixOf chars then some (.scalar (.bool false))
  else if "null".toList.isPrefixOf chars then some (.scalar .null)
  else (readNumber (chars.takeWhile isNumberChar)).map .scalar

/-- The tokens of a text up to its first fault. -/
def tokensBefore (cs : List Char) : List Token :=
  let step := fun ((state, found) : Scan × List Token) c =>
    (scanStep state c).map fun (next, tokens) => (next, tokens.reverse ++ found)
  let (last, found) := stepWhile step (.between, []) cs
  match last with
  | .word chars => ((wordBeginning? chars.reverse).toList ++ found).reverse
  | _ => found.reverse

/-- Closes the containers around what has been read. -/
def closeAll (inner : Option Json) : List Frame → Option Json
  | [] => inner
  | .list items :: rest => closeAll (some (.arr (inner.toList ++ items).reverse)) rest
  | .object members key :: rest =>
    closeAll (some (.obj (inner.toList.map (key, ·) ++ members).reverse)) rest

/-- What a text says before its first fault. -/
inductive Beginning where
  | nothing
  | whole (document : Json)
  /-- The text has a fault inside the document. -/
  | part (document : Json)

/-- The beginning of a text. -/
def beginning (text : String) : Beginning :=
  let last := stepWhile readStep ⟨[], .value⟩ (tokensBefore text.toList)
  match last.want, closeAll none last.frames with
  | .nothing document, _ => .whole document
  | _, some document => .part document
  | _, none => .nothing

/-- Adds what is not in a record yet, from a sample of it. -/
def completed (sample : List (String × Json)) : Json → Json
  | .obj members =>
    .obj (members ++ sample.filter fun (k, _) => !members.any fun (k', _) => k' == k)
  | .arr items => .arr (items ++ (sample.drop items.length).map (·.2))
  | j => j

/-- Whether a document is wanted up to the point at which it goes on for too long. -/
def wantedAtFirst {α : Type} (decode : Decoder α) (j : Json) : Bool :=
  (decode j).isSome || match j with
    | .arr items => (List.range items.length).any fun n => (decode (.arr (items.take n))).isSome
    | _ => false

/-- Whether a beginning may be that of a wanted document. -/
def Beginning.wanted {α : Type} (decode : Decoder α) (sample : List (String × Json)) :
    Beginning → Bool
  | nothing => true
  | whole j => wantedAtFirst decode j
  | part j => wantedAtFirst decode (completed sample j)

end Autoresponder.Json
