import Autoresponder.Text.CaseTable

/-!
# Lower-casing

Each character is replaced by its full lower-case form. One letter looks at its surroundings: a
capital sigma becomes the final form `ς` where it ends a word, and `σ` elsewhere.
-/

namespace Autoresponder.Text

/-- Whether a code point lies in one of the ranges. -/
def inRanges (ranges : List (Nat × Nat)) (n : Nat) : Bool :=
  ranges.any fun r => r.1 ≤ n && n ≤ r.2

/-- Moves a code point by the first row that covers it, if any does. -/
def shiftByRows (rows : List (Nat × Nat × Nat × Int)) (n : Nat) : Nat :=
  match rows.find? fun (first, last, step, _) =>
      first ≤ n && n ≤ last && (n - first) % step == 0 with
  | some (_, _, _, shift) => ((n : Int) + shift).toNat
  | none => n

/-- The lower-case form of one character on its own. Only the dotted capital I has a form of two
characters. -/
def lowerChar (c : Char) : List Char :=
  let n := c.toNat
  if n < 0x80 then [c.toLower]
  else if n == 0x130 then ['i', Char.ofNat 0x307]
  else [Char.ofNat (shiftByRows lowerRows n)]

/-- A cased letter that is not passed over. -/
def isCased (c : Char) : Bool :=
  if c.toNat < 0x80 then c.isAlpha else inRanges casedRanges c.toNat

/-- A character passed over when the case of a neighbour is examined. -/
def isCaseIgnorable (c : Char) : Bool := inRanges ignorableRanges c.toNat

/-- Whether the first character that is not passed over is a cased letter. -/
def casedNext : List Char → Bool
  | [] => false
  | c :: r => if isCaseIgnorable c then casedNext r else isCased c

/-- Lower-cases `cs`, given the characters before it, nearest first. -/
def lowerAfter (before : List Char) : List Char → List Char
  | [] => []
  | c :: r =>
    (if c == 'Σ' then
      [if casedNext before && !casedNext r then 'ς' else 'σ']
     else lowerChar c) ++ lowerAfter (c :: before) r

/-- Lower-cases a list of characters. -/
def lowerChars (cs : List Char) : List Char := lowerAfter [] cs

/-- Lower-cases a text. -/
def lower (s : String) : String := String.ofList (lowerChars s.toList)

@[simp] theorem toList_lower (s : String) : (lower s).toList = lowerChars s.toList := by
  simp [lower]

end Autoresponder.Text
