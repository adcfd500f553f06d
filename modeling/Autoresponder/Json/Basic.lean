import Autoresponder.Decimal.Binary
import Autoresponder.Text.Dictionary

/-!
# JSON documents

Documents keep their members in the order in which they were written, repetitions included. The
canonical form of a document has each object's keys in the order of their code points, each once,
with the value written last.
-/

namespace Autoresponder

open Decimal

/-- A JSON document. A number written without point and exponent is an integer as long as 64 bits
can hold it. -/
inductive Json where
  | null
  | bool (b : Bool)
  | int (n : Int)
  | float (x : Double)
  | str (s : String)
  | arr (items : List Json)
  | obj (members : List (String × Json))
  deriving Inhabited

namespace Json

/-- Sorts members by key; of equal keys the last one stays. -/
def arrange (members : List (String × Json)) : List (String × Json) := Text.putAll [] members

mutual

/-- Sorts the members of every object in a document. -/
def canonical : Json → Json
  | .arr items => .arr (canonicalItems items)
  | .obj members => .obj (arrange (canonicalMembers members))
  | .null => .null
  | .bool b => .bool b
  | .int n => .int n
  | .float x => .float x
  | .str s => .str s

def canonicalItems : List Json → List Json
  | [] => []
  | j :: rest => canonical j :: canonicalItems rest

def canonicalMembers : List (String × Json) → List (String × Json)
  | [] => []
  | (k, j) :: rest => (k, canonical j) :: canonicalMembers rest

end

/-- The value of the last member with a key. -/
def get? (key : String) : Json → Option Json
  | .obj members => (members.reverse.find? (·.1 == key)).map (·.2)
  | _ => none

/-- An object without the members of a key. -/
def erase (key : String) : Json → Json
  | .obj members => .obj (members.filter (·.1 != key))
  | j => j

/-- Writes a member behind the others of an object. -/
def append (j : Json) (key : String) (value : Json) : Json :=
  match j with
  | .obj members => .obj (members ++ [(key, value)])
  | j => j

/-- A list of strings. -/
def ofStrings (xs : List String) : Json := .arr (xs.map .str)

/-- A string, or null. -/
def ofString? : Option String → Json
  | some s => .str s
  | none => .null

end Json

end Autoresponder
