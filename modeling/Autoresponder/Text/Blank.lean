/-!
# Blanks

What counts as a blank, how text is trimmed and when it is blank throughout. The rule is the
White_Space property of characters, which reaches well beyond the space and the tab.
-/

namespace Autoresponder.Text

/-- A character with the White_Space property. -/
def isBlank (c : Char) : Bool :=
  let n := c.toNat
  (9 ≤ n && n ≤ 13) || n == 32 || n == 0x85 || n == 0xA0 || n == 0x1680 ||
    (0x2000 ≤ n && n ≤ 0x200A) || n == 0x2028 || n == 0x2029 || n == 0x202F ||
    n == 0x205F || n == 0x3000

/-- Drops the blanks in front. -/
def trimLeft (cs : List Char) : List Char := cs.dropWhile isBlank

/-- Drops the blanks behind. -/
def trimRight (cs : List Char) : List Char := (cs.reverse.dropWhile isBlank).reverse

/-- Drops the blanks at both ends. -/
def trimChars (cs : List Char) : List Char := trimRight (trimLeft cs)

/-- Drops the blanks at both ends of a text. -/
def trim (s : String) : String := String.ofList (trimChars s.toList)

/-- Whether a text holds nothing but blanks. -/
def blank (s : String) : Bool := s.toList.all isBlank

/-- The first `n` characters of a text. -/
def truncate (n : Nat) (s : String) : String := String.ofList (s.toList.take n)

@[simp] theorem toList_trim (s : String) : (trim s).toList = trimChars s.toList := by
  simp [trim]

@[simp] theorem toList_truncate (n : Nat) (s : String) :
    (truncate n s).toList = s.toList.take n := by
  simp [truncate]

theorem trimLeft_eq_nil_iff {cs : List Char} : trimLeft cs = [] ↔ cs.all isBlank = true := by
  induction cs with
  | nil => simp [trimLeft]
  | cons c r ih =>
    simp only [trimLeft, List.dropWhile_cons, List.all_cons, Bool.and_eq_true] at ih ⊢
    by_cases h : isBlank c = true
    · simp [h, ih]
    · simp [h]

end Autoresponder.Text
