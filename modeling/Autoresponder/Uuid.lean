/-!
# Universally unique identifiers

An identifier is 32 hexadecimal digits. It is written in lower case with hyphens after the eighth,
twelfth, sixteenth and twentieth digit, and read in that form, without hyphens, in braces or as a
URN, in either case.
-/

namespace Autoresponder

/-- An identifier, as its hexadecimal digits. -/
structure Uuid where
  digits : List (Fin 16)
  length_digits : digits.length = 32
  deriving DecidableEq

namespace Uuid

/-- The least significant `count` digits of a number, most significant first. -/
def digitsOf (n : Nat) : Nat → List (Fin 16)
  | 0 => []
  | count + 1 => digitsOf (n / 16) count ++ [Fin.ofNat 16 n]

theorem length_digitsOf (n count : Nat) : (digitsOf n count).length = count := by
  induction count generalizing n with
  | zero => rfl
  | succ k ih => simp [digitsOf, ih]

/-- The identifier whose digits spell a number. -/
def ofNat (n : Nat) : Uuid := ⟨digitsOf n 32, length_digitsOf n 32⟩

instance : Inhabited Uuid := ⟨ofNat 0⟩

def hexChar (d : Fin 16) : Char := Nat.digitChar d.val

def hexDigit? (c : Char) : Option (Fin 16) :=
  match c with
  | '0' => some 0 | '1' => some 1 | '2' => some 2 | '3' => some 3
  | '4' => some 4 | '5' => some 5 | '6' => some 6 | '7' => some 7
  | '8' => some 8 | '9' => some 9
  | 'a' | 'A' => some 10 | 'b' | 'B' => some 11 | 'c' | 'C' => some 12
  | 'd' | 'D' => some 13 | 'e' | 'E' => some 14 | 'f' | 'F' => some 15
  | _ => none

/-- The hyphenated form. -/
def chars (u : Uuid) : List Char :=
  let cs := u.digits.map hexChar
  cs.take 8 ++ '-' :: (cs.drop 8).take 4 ++ '-' :: (cs.drop 12).take 4 ++
    '-' :: (cs.drop 16).take 4 ++ '-' :: cs.drop 20

instance : ToString Uuid := ⟨fun u => String.ofList u.chars⟩

/-- Reads 32 digits. -/
def ofDigits? (cs : List Char) : Option Uuid :=
  (cs.mapM hexDigit?).bind fun ds => if h : ds.length = 32 then some ⟨ds, h⟩ else none

/-- Reads the hyphenated form. -/
def ofHyphenated? (cs : List Char) : Option Uuid :=
  if cs.length = 36 ∧ cs[8]? = some '-' ∧ cs[13]? = some '-' ∧ cs[18]? = some '-' ∧
      cs[23]? = some '-' then
    ofDigits? (cs.take 8 ++ (cs.drop 9).take 4 ++ (cs.drop 14).take 4 ++ (cs.drop 19).take 4 ++
      cs.drop 24)
  else none

/-- The prefix of the URN form. -/
def urn : List Char := "urn:uuid:".toList

/-- Reads any of the four forms. -/
def ofChars? (cs : List Char) : Option Uuid :=
  if cs.length = 32 then ofDigits? cs
  else if cs.length = 36 then ofHyphenated? cs
  else if cs.length = 38 ∧ cs.head? = some '\x7b' ∧ cs.getLast? = some '\x7d' then
    ofHyphenated? ((cs.drop 1).dropLast)
  else if cs.length = 45 ∧ urn.isPrefixOf cs then ofHyphenated? (cs.drop 9)
  else none

def ofString? (s : String) : Option Uuid := ofChars? s.toList

theorem hexDigit?_hexChar (d : Fin 16) : hexDigit? (hexChar d) = some d := by
  revert d
  decide

theorem mapM_hexDigit?_hexChar (ds : List (Fin 16)) :
    (ds.map hexChar).mapM hexDigit? = some ds := by
  induction ds with
  | nil => rfl
  | cons d r ih => simp [hexDigit?_hexChar, ih]

end Uuid

end Autoresponder
