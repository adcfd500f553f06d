import Autoresponder.Text.Blank
import Autoresponder.Pattern.FoldTable
import Autoresponder.Pattern.PropertyTable

/-!
# Sets of characters

The sets that a pattern can name, with the operations on them. Membership is decided character by
character.
-/

namespace Autoresponder.Pattern

/-- A set of characters. -/
inductive CharSet where
  | none
  | range (first last : Nat)
  | rows (rows : List (Nat × Nat × Nat))
  | blanks
  | union (a b : CharSet)
  | inter (a b : CharSet)
  | diff (a b : CharSet)
  | symm (a b : CharSet)
  | compl (a : CharSet)
  /-- The characters that are the same letter as one of the set, without regard to case. -/
  | folded (a : CharSet)
  deriving Inhabited

/-- Whether a code point is on one of the rows. -/
def onRows (rows : List (Nat × Nat × Nat)) (n : Nat) : Bool :=
  rows.any fun (first, last, step) => first ≤ n && n ≤ last && (n - first) % step == 0

/-- The simple folding of a code point. -/
def fold (n : Nat) : Nat :=
  match foldRows.find? fun (first, last, step, _) =>
      first ≤ n && n ≤ last && (n - first) % step == 0 with
  | some (_, _, _, shift) => ((n : Int) + shift).toNat
  | .none => n

/-- The code points with the same folding as a code point. -/
def sameLetter (n : Nat) : List Nat :=
  let f := fold n
  f :: foldRows.filterMap fun (first, last, step, shift) =>
    let source := ((f : Int) - shift).toNat
    if first ≤ source && source ≤ last && (source - first) % step == 0 then some source
    else .none

namespace CharSet

/-- Whether a code point is in the set. -/
def has : CharSet → Nat → Bool
  | none, _ => false
  | range first last, n => first ≤ n && n ≤ last
  | rows rs, n => onRows rs n
  | blanks, n => Text.isBlank (Char.ofNat n)
  | union a b, n => a.has n || b.has n
  | inter a b, n => a.has n && b.has n
  | diff a b, n => a.has n && !b.has n
  | symm a b, n => a.has n != b.has n
  | compl a, n => !a.has n
  | folded a, n => (sameLetter n).any a.has

def single (c : Char) : CharSet := range c.toNat c.toNat

def unionAll (sets : List CharSet) : CharSet := sets.foldl union none

def ofRanges (ranges : List (Nat × Nat)) : CharSet :=
  unionAll (ranges.map fun (a, b) => range a b)

/-- Word characters. -/
def word : CharSet := rows wordRows

/-- Decimal digits. -/
def digit : CharSet := rows digitRows

/-- The word characters among the first 128. -/
def asciiWord : CharSet := ofRanges [(0x30, 0x39), (0x41, 0x5A), (0x5F, 0x5F), (0x61, 0x7A)]

/-- The digits among the first 128. -/
def asciiDigit : CharSet := range 0x30 0x39

/-- The blanks among the first 128. -/
def asciiBlank : CharSet := ofRanges [(0x09, 0x0D), (0x20, 0x20)]

/-- The classes that are named in brackets and colons. -/
def bracketClass? : String → Option CharSet
  | "alnum" => some (ofRanges [(0x30, 0x39), (0x41, 0x5A), (0x61, 0x7A)])
  | "alpha" => some (ofRanges [(0x41, 0x5A), (0x61, 0x7A)])
  | "ascii" => some (range 0 0x7F)
  | "blank" => some (ofRanges [(0x09, 0x09), (0x20, 0x20)])
  | "cntrl" => some (ofRanges [(0, 0x1F), (0x7F, 0x7F)])
  | "digit" => some asciiDigit
  | "graph" => some (range 0x21 0x7E)
  | "lower" => some (range 0x61 0x7A)
  | "print" => some (range 0x20 0x7E)
  | "punct" => some (ofRanges [(0x21, 0x2F), (0x3A, 0x40), (0x5B, 0x60), (0x7B, 0x7E)])
  | "space" => some asciiBlank
  | "upper" => some (range 0x41 0x5A)
  | "word" => some asciiWord
  | "xdigit" => some (ofRanges [(0x30, 0x39), (0x41, 0x46), (0x61, 0x66)])
  | _ => .none

/-- Names of properties are compared without regard to case, blanks, hyphens and underscores. -/
def plainName (name : List Char) : String :=
  String.ofList ((name.filter fun c => !(Text.isBlank c || c == '-' || c == '_')).map Char.toLower)

/-- The property of a plain name. -/
def property? : String → Option CharSet
  | "any" => some (range 0 0x10FFFF)
  | "ascii" => some (range 0 0x7F)
  | "l" | "letter" => some (rows letterRows)
  | "lu" | "uppercaseletter" => some (rows upperRows)
  | "ll" | "lowercaseletter" => some (rows lowerRows)
  | "n" | "number" => some (rows numberRows)
  | "nd" | "decimalnumber" | "digit" => some digit
  | "greek" | "grek" => some (rows greekRows)
  | "latin" | "latn" => some (rows latinRows)
  | "cyrillic" | "cyrl" => some (rows cyrillicRows)
  | "whitespace" | "wspace" | "space" => some blanks
  | _ => .none

end CharSet

end Autoresponder.Pattern
