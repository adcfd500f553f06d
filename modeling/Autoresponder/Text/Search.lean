/-!
# Finding one text in another

Occurrence as a prefix and anywhere, and splitting at the first occurrence, on lists of characters.
-/

namespace Autoresponder.Text

/-- Whether `key` stands somewhere in the text. -/
def occursIn (key : List Char) : List Char → Bool
  | [] => key.isEmpty
  | c :: r => key.isPrefixOf (c :: r) || occursIn key r

/-- Whether `key` stands somewhere in `text`. -/
def contains (text key : String) : Bool := occursIn key.toList text.toList

/-- Whether `text` begins with `key`. -/
def startsWith (text key : String) : Bool := key.toList.isPrefixOf text.toList

/-- What stands before the first occurrence of `key`, and what stands behind it. -/
def splitAt? (key : List Char) : List Char → Option (List Char × List Char)
  | [] => if key.isEmpty then some ([], []) else none
  | c :: r =>
    if key.isPrefixOf (c :: r) then some ([], (c :: r).drop key.length)
    else (splitAt? key r).map fun (front, rest) => (c :: front, rest)

theorem occursIn_iff {key text : List Char} : occursIn key text = true ↔ key <:+: text := by
  induction text with
  | nil => simp [occursIn, List.isEmpty_iff]
  | cons c r ih =>
    simp only [occursIn, Bool.or_eq_true, ih, List.isPrefixOf_iff_prefix]
    exact List.infix_cons_iff.symm

theorem startsWith_iff {text key : String} :
    startsWith text key = true ↔ key.toList <+: text.toList := by
  simp [startsWith, List.isPrefixOf_iff_prefix]

theorem eq_of_splitAt? {key text front rest : List Char}
    (h : splitAt? key text = some (front, rest)) : text = front ++ key ++ rest := by
  induction text generalizing front with
  | nil =>
    simp only [splitAt?] at h
    split at h <;> simp_all
  | cons c r ih =>
    simp only [splitAt?] at h
    split at h
    · rename_i hk
      obtain ⟨t, ht⟩ := List.isPrefixOf_iff_prefix.1 hk
      simp only [Option.some.injEq, Prod.mk.injEq] at h
      obtain ⟨rfl, rfl⟩ := h
      simp [← ht]
    · obtain ⟨⟨f, t⟩, hs, ht⟩ := Option.map_eq_some_iff.1 h
      simp only [Prod.mk.injEq] at ht
      obtain ⟨rfl, rfl⟩ := ht
      simpa using ih hs

theorem length_of_splitAt? {key text front rest : List Char}
    (h : splitAt? key text = some (front, rest)) :
    text.length = front.length + key.length + rest.length := by
  rw [eq_of_splitAt? h]
  simp [Nat.add_assoc]

end Autoresponder.Text
