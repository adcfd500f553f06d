import Autoresponder.Text.Blank
import Autoresponder.Text.LowerCase
import Mathlib.Data.List.Count
import Mathlib.Data.List.DropRight
import Mathlib.Data.List.Infix

/-!
# Cut texts

Whether a text is cut before it is trimmed and lower-cased, or afterwards, makes a difference:
blanks at its ends take up room or do not, a letter may have a lower-case form of two characters, and
the form of a sigma depends on what follows it.
-/

namespace Autoresponder.Text

/-! ## 1. Trimming -/

theorem exists_trimLeft_take (cs : List Char) (n : Nat) :
    ∃ m, trimLeft (cs.take n) = (trimLeft cs).take m := by
  induction cs generalizing n with
  | nil => exact ⟨0, by simp [trimLeft]⟩
  | cons c r ih =>
    cases n with
    | zero => exact ⟨0, rfl⟩
    | succ n =>
      by_cases hc : isBlank c = true
      · obtain ⟨m, hm⟩ := ih n
        refine ⟨m, ?_⟩
        rw [List.take_succ_cons, trimLeft, trimLeft, List.dropWhile_cons_of_pos hc,
          List.dropWhile_cons_of_pos hc]
        exact hm
      · refine ⟨n + 1, ?_⟩
        rw [List.take_succ_cons, trimLeft, trimLeft, List.dropWhile_cons_of_neg hc,
          List.dropWhile_cons_of_neg hc, List.take_succ_cons]

theorem trimRight_isPrefix (cs : List Char) : trimRight cs <+: cs :=
  List.rdropWhile_prefix isBlank cs

theorem trimChars_sublist (cs : List Char) : (trimChars cs).Sublist cs :=
  (trimRight_isPrefix _).sublist.trans (List.dropWhile_sublist _)

theorem trimRight_take_isPrefix (cs : List Char) (n : Nat) :
    trimRight (cs.take n) <+: trimRight cs := by
  have hparts : trimRight cs = trimRight (cs.take n ++ cs.drop n) := by
    rw [List.take_append_drop]
  rw [hparts, trimRight, trimRight, List.reverse_append, List.dropWhile_append]
  split
  · exact List.prefix_rfl
  · rw [List.reverse_append, List.reverse_reverse]
    exact (trimRight_isPrefix _).trans (List.prefix_append _ _)

-- What is left of the beginning of a text is the beginning of what is left of it.
theorem trimChars_take_isPrefix (cs : List Char) (n : Nat) :
    trimChars (cs.take n) <+: trimChars cs := by
  obtain ⟨m, hm⟩ := exists_trimLeft_take cs n
  rw [trimChars, trimChars, hm]
  exact trimRight_take_isPrefix _ m

theorem isBlank_of_head?_trimChars {cs : List Char} {c : Char}
    (h : (trimChars cs).head? = some c) : isBlank c = false := by
  have hfirst := List.head?_dropWhile_not isBlank cs
  obtain ⟨r, hr⟩ := trimRight_isPrefix (trimLeft cs)
  rw [← trimLeft, ← hr, ← trimChars, List.head?_append, h] at hfirst
  exact hfirst

theorem isBlank_of_getLast?_trimChars {cs : List Char} {c : Char}
    (h : (trimChars cs).getLast? = some c) : isBlank c = false := by
  have hlast := List.head?_dropWhile_not isBlank (trimLeft cs).reverse
  rw [trimChars, trimRight, List.getLast?_reverse] at h
  rwa [h] at hlast

theorem trimChars_eq_self {cs : List Char} (hfirst : ∀ c, cs.head? = some c → isBlank c = false)
    (hlast : ∀ c, cs.getLast? = some c → isBlank c = false) : trimChars cs = cs := by
  have hdrop : ∀ l : List Char, (∀ c, l.head? = some c → isBlank c = false) →
      l.dropWhile isBlank = l := by
    intro l hl
    cases l with
    | nil => rfl
    | cons c r => rw [List.dropWhile_cons_of_neg (by rw [hl c rfl]; exact Bool.false_ne_true)]
  rw [trimChars, trimLeft, hdrop cs hfirst, trimRight, hdrop, List.reverse_reverse]
  rwa [List.head?_reverse]

-- What has been trimmed stays trimmed when a character that is no blank is put before or behind it.
theorem trimChars_cons_trimChars {c : Char} (hc : isBlank c = false) (cs : List Char) :
    trimChars (c :: trimChars cs) = c :: trimChars cs := by
  refine trimChars_eq_self (by rintro c' ⟨⟩; exact hc) fun c' hc' => ?_
  rw [List.getLast?_cons] at hc'
  cases hlast : (trimChars cs).getLast? with
  | none =>
    rw [hlast] at hc'
    cases hc'
    exact hc
  | some last =>
    rw [hlast] at hc'
    cases hc'
    exact isBlank_of_getLast?_trimChars hlast

theorem trimChars_trimChars_concat {c : Char} (hc : isBlank c = false) (cs : List Char) :
    trimChars (trimChars cs ++ [c]) = trimChars cs ++ [c] := by
  refine trimChars_eq_self (fun c' hc' => ?_) fun c' hc' => ?_
  · rw [List.head?_append, Option.or_eq_some_iff] at hc'
    rcases hc' with hc' | ⟨-, ⟨⟩⟩
    · exact isBlank_of_head?_trimChars hc'
    · exact hc
  · rw [List.getLast?_concat] at hc'
    cases hc'
    exact hc

/-! ## 2. Lower-casing -/

theorem length_lowerChar (c : Char) :
    (lowerChar c).length = 1 + if c = 'İ' then 1 else 0 := by
  have hdotted : c = 'İ' ↔ c.toNat = 0x130 := by
    rw [← Char.toNat_inj]
    rfl
  unfold lowerChar
  dsimp only
  split
  · rw [if_neg (by rw [hdotted]; omega)]
    rfl
  · simp only [hdotted, beq_iff_eq]
    split <;> rfl

-- Every dotted capital makes a text longer by a character.
theorem length_lowerAfter (before cs : List Char) :
    (lowerAfter before cs).length = cs.length + cs.count 'İ' := by
  induction cs generalizing before with
  | nil => rfl
  | cons c r ih =>
    rw [lowerAfter, List.length_append, ih, List.length_cons, List.count_cons]
    by_cases hc : c = 'Σ'
    · subst hc
      simp
      omega
    · rw [if_neg (by simpa using hc), length_lowerChar]
      simp only [beq_iff_eq]
      omega

theorem length_lowerChars (cs : List Char) :
    (lowerChars cs).length = cs.length + cs.count 'İ' := length_lowerAfter [] cs

theorem length_lowerChars_of_sublist {cs l : List Char} (h : l.Sublist cs) (hdotted : 'İ' ∉ cs) :
    (lowerChars l).length = l.length := by
  rw [length_lowerChars, List.count_eq_zero_of_not_mem fun hl => hdotted (h.subset hl),
    Nat.add_zero]

theorem lowerAfter_append {cs : List Char} (h : 'Σ' ∉ cs) (before rest : List Char) :
    lowerAfter before (cs ++ rest) =
      lowerAfter before cs ++ lowerAfter (cs.reverse ++ before) rest := by
  induction cs generalizing before with
  | nil => rfl
  | cons c r ih =>
    rw [List.mem_cons, not_or] at h
    have hc : ¬ (c == 'Σ') = true := by simpa using Ne.symm h.1
    rw [List.cons_append, lowerAfter, lowerAfter, if_neg hc, if_neg hc, ih h.2]
    simp

theorem lowerChars_isPrefix {front cs : List Char} (h : front <+: cs) (hsigma : 'Σ' ∉ front) :
    lowerChars front <+: lowerChars cs := by
  obtain ⟨rest, rfl⟩ := h
  rw [lowerChars, lowerChars, lowerAfter_append hsigma]
  exact List.prefix_append _ _

-- No part is left out of a text that has the same length in lower case.
theorem eq_of_length_lowerChars {front cs : List Char} (h : front <+: cs)
    (hlength : (lowerChars cs).length ≤ (lowerChars front).length) : front = cs := by
  rw [length_lowerChars, length_lowerChars] at hlength
  have hcount := h.sublist.count_le 'İ'
  exact h.eq_of_length_le (by omega)

/-! ## 3. Cutting -/

section

variable {front whole cs : List Char} {n : Nat}

/-- By `lowerChars` a beginning `front` of a text becomes the `whole` text, or that cut to `n`
characters, when it is the whole text, or has as many characters in lower case as are left where a
text is cut, the same as there. -/
theorem lowerChars_eq_or_take_iff (h : front <+: whole) :
    (lowerChars front = lowerChars whole ∨ lowerChars front = (lowerChars whole).take n) ↔
      front = whole ∨
        ((lowerChars front).length = n ∧ lowerChars front <+: lowerChars whole) := by
  constructor
  · rintro (heq | heq)
    · exact .inl (eq_of_length_lowerChars h (by rw [heq]))
    · by_cases hfits : (lowerChars whole).length ≤ n
      · rw [List.take_of_length_le hfits] at heq
        exact .inl (eq_of_length_lowerChars h (by rw [heq]))
      · refine .inr ⟨?_, heq ▸ List.take_prefix _ _⟩
        rw [heq, List.length_take]
        omega
  · rintro (rfl | ⟨rfl, hprefix⟩)
    · exact .inl rfl
    · exact .inr (List.prefix_iff_eq_take.mp hprefix)

-- What stands at a cut, with no blank there, no letter that becomes longer and none that looks at
-- what follows.
theorem lowerChars_trimChars_take (htrimmed : trimChars (cs.take n) = cs.take n)
    (hdotted : 'İ' ∉ cs.take n) (hsigma : 'Σ' ∉ cs.take n) :
    lowerChars (trimChars (cs.take n)) = (lowerChars (trimChars cs)).take n := by
  have hlength := length_lowerChars_of_sublist (List.Sublist.refl _) hdotted
  by_cases hwhole : cs.length ≤ n
  · rw [List.take_of_length_le hwhole] at htrimmed hlength ⊢
    rw [htrimmed, List.take_of_length_le (by rwa [hlength])]
  · have hprefix := lowerChars_isPrefix (htrimmed ▸ trimChars_take_isPrefix cs n) hsigma
    rw [List.length_take, min_eq_left (by omega)] at hlength
    rw [htrimmed, List.prefix_iff_eq_take.mp hprefix, hlength]

-- What is left next to a blank is shorter than the cut.
theorem length_lowerChars_trimChars_lt (hends : trimChars cs ≠ cs) (hdotted : 'İ' ∉ cs) :
    (lowerChars (trimChars cs)).length < cs.length := by
  have hsublist := trimChars_sublist cs
  rw [length_lowerChars_of_sublist hsublist hdotted]
  exact lt_of_le_of_ne hsublist.length_le fun hlength => hends (hsublist.eq_of_length hlength)

end

end Autoresponder.Text
