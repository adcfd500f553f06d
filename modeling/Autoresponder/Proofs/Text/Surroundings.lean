import Autoresponder.Text.LowerCase
import Mathlib.Data.List.Basic
import Mathlib.Data.List.Count
import Mathlib.Data.List.Infix

/-!
# Texts among other texts

A text that stands in a larger one need not stand there any more when both are in lower case: the
form of a capital sigma depends on its surroundings. Only the first and the last letter of the text
can look beyond it, and only for a cased letter.
-/

namespace Autoresponder.Text

/-! ## 1. Letters nearby -/

theorem isCaseIgnorable_sigma : isCaseIgnorable 'Σ' = false := by decide +kernel

theorem casedNext_sigma (cs : List Char) : casedNext ('Σ' :: cs) = true := by
  rw [casedNext, isCaseIgnorable_sigma, if_neg Bool.false_ne_true]
  decide +kernel

theorem casedNext_append (cs ds : List Char) :
    casedNext (cs ++ ds) = if cs.all isCaseIgnorable then casedNext ds else casedNext cs := by
  induction cs with
  | nil => rfl
  | cons c r ih =>
    rw [List.cons_append, casedNext, List.all_cons, casedNext]
    by_cases hc : isCaseIgnorable c = true
    · simp [hc, ih]
    · simp [hc]

theorem casedNext_of_all {cs : List Char} (h : cs.all isCaseIgnorable = true) :
    casedNext cs = false := by
  have happend := casedNext_append cs []
  rwa [List.append_nil, if_pos h] at happend

-- The first character that is not passed over, if it is a sigma, and what follows it.
theorem exists_dropWhile_iff (cs : List Char) (test : List Char → Bool) :
    (∃ r, cs.dropWhile isCaseIgnorable = 'Σ' :: r ∧ test r = true) ↔
      ∃ p r, cs = p ++ 'Σ' :: r ∧ p.all isCaseIgnorable = true ∧ test r = true := by
  constructor
  · rintro ⟨r, hr, htest⟩
    refine ⟨cs.takeWhile isCaseIgnorable, r, ?_, List.all_takeWhile, htest⟩
    rw [← hr, List.takeWhile_append_dropWhile]
  · rintro ⟨p, r, rfl, hp, htest⟩
    refine ⟨r, ?_, htest⟩
    rw [List.dropWhile_append_of_pos (List.all_eq_true.mp hp), List.dropWhile_cons_of_neg]
    rw [isCaseIgnorable_sigma]
    exact Bool.false_ne_true

/-! ## 2. Letters that look around -/

/-- Whether the form of the first letter depends on what stands before the text: a sigma which is
followed by no cased letter. -/
def looksBack (cs : List Char) : Bool :=
  match cs.dropWhile isCaseIgnorable with
  | [] => false
  | c :: r => c == 'Σ' && !casedNext r

/-- Whether the form of the last letter depends on what stands behind the text: a sigma with a cased
letter before it. -/
def looksAhead (cs : List Char) : Bool :=
  match cs.reverse.dropWhile isCaseIgnorable with
  | [] => false
  | c :: r => c == 'Σ' && casedNext r

theorem looksBack_iff {cs : List Char} : looksBack cs = true ↔
    ∃ p r, cs = p ++ 'Σ' :: r ∧ p.all isCaseIgnorable = true ∧ casedNext r = false := by
  have hfirst := exists_dropWhile_iff cs fun r => !casedNext r
  simp only [Bool.not_eq_true'] at hfirst
  rw [← hfirst, looksBack]
  split
  · rename_i hnil
    simp [hnil]
  · rename_i c r hcons
    simp [hcons]

theorem looksAhead_iff {cs : List Char} : looksAhead cs = true ↔
    ∃ p r, cs = p ++ 'Σ' :: r ∧ casedNext p.reverse = true ∧ r.all isCaseIgnorable = true := by
  have hlast := exists_dropWhile_iff cs.reverse casedNext
  have hends : looksAhead cs = true ↔
      ∃ r, cs.reverse.dropWhile isCaseIgnorable = 'Σ' :: r ∧ casedNext r = true := by
    rw [looksAhead]
    split
    · rename_i hnil
      simp [hnil]
    · rename_i c r hcons
      simp [hcons]
  rw [hends, hlast]
  constructor
  · rintro ⟨r, p, hcs, hr, hp⟩
    refine ⟨p.reverse, r.reverse, ?_, by rwa [List.reverse_reverse], by rwa [List.all_reverse]⟩
    rw [← List.reverse_reverse cs, hcs]
    simp
  · rintro ⟨p, r, rfl, hp, hr⟩
    exact ⟨r.reverse, p.reverse, by simp, by rwa [List.all_reverse], hp⟩

/-! ## 3. Lower case in a place -/

/-- The `lowerChars` of characters between others, of which those before are given nearest first. -/
def lowerBetween (before after : List Char) : List Char → List Char
  | [] => []
  | c :: r =>
    (if c == 'Σ' then
      [if casedNext before && !casedNext (r ++ after) then 'ς' else 'σ']
     else lowerChar c) ++ lowerBetween (c :: before) after r

theorem lowerAfter_eq_lowerBetween (before cs : List Char) :
    lowerAfter before cs = lowerBetween before [] cs := by
  induction cs generalizing before with
  | nil => rfl
  | cons c r ih => rw [lowerAfter, lowerBetween, ih, List.append_nil]

theorem lowerChars_eq_lowerBetween (cs : List Char) : lowerChars cs = lowerBetween [] [] cs :=
  lowerAfter_eq_lowerBetween [] cs

theorem lowerBetween_append (before after cs ds : List Char) :
    lowerBetween before after (cs ++ ds) =
      lowerBetween before (ds ++ after) cs ++ lowerBetween (cs.reverse ++ before) after ds := by
  induction cs generalizing before with
  | nil => rfl
  | cons c r ih =>
    rw [List.cons_append, lowerBetween, lowerBetween, ih]
    simp

-- What stands around matters only by the nearest letter that is not passed over.
theorem lowerBetween_congr {before before' after after' : List Char}
    (hbefore : casedNext before = casedNext before') (hafter : casedNext after = casedNext after')
    (cs : List Char) : lowerBetween before after cs = lowerBetween before' after' cs := by
  induction cs generalizing before before' with
  | nil => rfl
  | cons c r ih =>
    have hnext : casedNext (r ++ after) = casedNext (r ++ after') := by
      rw [casedNext_append, casedNext_append, hafter]
    have hrest : casedNext (c :: before) = casedNext (c :: before') := by
      rw [casedNext, casedNext, hbefore]
    rw [lowerBetween, lowerBetween, hbefore, hnext, ih hrest]

section

variable {before after cs : List Char}

-- Whether a sigma between two parts of a text is final can be told from them alone where the
-- characters around the text matter to neither.
private theorem final_eq {front r : List Char}
    (hfirst : front.all isCaseIgnorable = true → casedNext r = false → casedNext before = false)
    (hlast : casedNext front = true → r.all isCaseIgnorable = true → casedNext after = false) :
    (casedNext (front ++ before) && !casedNext (r ++ after)) =
      (casedNext front && !casedNext r) := by
  rw [casedNext_append, casedNext_append]
  -- What is around is looked at only past a part that is passed over as a whole.
  by_cases hfront : front.all isCaseIgnorable = true <;>
    by_cases hr : r.all isCaseIgnorable = true
  · rw [if_pos hfront, casedNext_of_all hfront, hfirst hfront (casedNext_of_all hr)]
    rfl
  · rw [if_pos hfront, if_neg hr, casedNext_of_all hfront]
    cases hnext : casedNext r with
    | false => rw [hfirst hfront hnext]
    | true => rw [Bool.not_true, Bool.and_false, Bool.and_false]
  · rw [if_neg hfront, if_pos hr, casedNext_of_all hr]
    cases hprevious : casedNext front with
    | false => rfl
    | true => rw [hlast hprevious hr]
  · rw [if_neg hfront, if_neg hr]

-- Induction over what follows, with what stands in front of it in the text.
private theorem lowerBetween_append_eq (front r : List Char)
    (hback : looksBack (front.reverse ++ r) = true → casedNext before = false)
    (hahead : looksAhead (front.reverse ++ r) = true → casedNext after = false) :
    lowerBetween (front ++ before) after r = lowerBetween front [] r := by
  induction r generalizing front with
  | nil => rfl
  | cons c r ih =>
    have hrest : lowerBetween (c :: (front ++ before)) after r = lowerBetween (c :: front) [] r :=
      ih (c :: front) (by simpa using hback) (by simpa using hahead)
    rw [lowerBetween, lowerBetween, hrest, List.append_nil]
    by_cases hc : c = 'Σ'
    · subst hc
      have hform : (casedNext (front ++ before) && !casedNext (r ++ after)) =
          (casedNext front && !casedNext r) := final_eq
        (fun hfront hr => hback (looksBack_iff.mpr ⟨_, _, rfl, by rwa [List.all_reverse], hr⟩))
        fun hfront hr =>
          hahead (looksAhead_iff.mpr ⟨_, _, rfl, by rwa [List.reverse_reverse], hr⟩)
      rw [hform]
    · rw [if_neg (by simpa using hc), if_neg (by simpa using hc)]

/-- Between others (`lowerBetween`) a text has its own lower-case form unless a letter at one of its
ends looks there (`looksBack`, `looksAhead`) and finds a cased letter. -/
theorem lowerBetween_eq_lowerChars (hback : looksBack cs = true → casedNext before = false)
    (hahead : looksAhead cs = true → casedNext after = false) :
    lowerBetween before after cs = lowerChars cs := by
  rw [lowerChars_eq_lowerBetween]
  exact lowerBetween_append_eq [] cs hback hahead

theorem lowerBetween_of_all (h : cs.all isCaseIgnorable = true) :
    lowerBetween before after cs = lowerChars cs := by
  have hsigma : ∀ p r, cs ≠ p ++ 'Σ' :: r := by
    rintro p r rfl
    simp [isCaseIgnorable_sigma] at h
  refine lowerBetween_eq_lowerChars (fun hback => ?_) fun hahead => ?_
  · obtain ⟨p, r, hcs, -, -⟩ := looksBack_iff.mp hback
    exact absurd hcs (hsigma p r)
  · obtain ⟨p, r, hcs, -, -⟩ := looksAhead_iff.mp hahead
    exact absurd hcs (hsigma p r)

-- A sigma keeps the characters on its two sides apart.
theorem lowerBetween_sigma (before after p r : List Char) :
    lowerBetween before after (p ++ 'Σ' :: r) =
      lowerBetween before ['Σ'] p ++
        (if casedNext (p.reverse ++ before) && !casedNext (r ++ after) then 'ς' else 'σ') ::
          lowerBetween ['Σ'] after r := by
  have hscreen : ∀ cs, casedNext ('Σ' :: cs) = casedNext ['Σ'] := fun cs => by
    rw [casedNext_sigma, casedNext_sigma]
  rw [lowerBetween_append, lowerBetween, if_pos (by rfl), List.singleton_append, List.cons_append,
    lowerBetween_congr rfl (hscreen (r ++ after)) p,
    lowerBetween_congr (hscreen (p.reverse ++ before)) rfl r]

/-- Behind a cased letter the first letter of a text that `looksBack` is a final sigma, which it is
not alone. -/
theorem exists_lowerBetween_of_looksBack (h : looksBack cs = true)
    (hbefore : casedNext before = true) :
    ∃ u v, lowerChars cs = u ++ 'σ' :: v ∧ lowerBetween before [] cs = u ++ 'ς' :: v := by
  obtain ⟨p, r, rfl, hp, hr⟩ := looksBack_iff.mp h
  have hfront : p.reverse.all isCaseIgnorable = true := by rwa [List.all_reverse]
  refine ⟨lowerChars p, lowerBetween ['Σ'] [] r, ?_, ?_⟩
  · rw [lowerChars_eq_lowerBetween, lowerBetween_sigma, lowerBetween_of_all hp, List.append_nil,
      casedNext_of_all hfront]
    rfl
  · rw [lowerBetween_sigma, lowerBetween_of_all hp, casedNext_append, if_pos hfront, hbefore,
      List.append_nil, hr]
    rfl

/-- Before a cased letter the last letter of a text that `looksAhead` is no final sigma, which it is
alone. -/
theorem exists_lowerBetween_of_looksAhead (h : looksAhead cs = true)
    (hafter : casedNext after = true) :
    ∃ u v, lowerChars cs = u ++ 'ς' :: v ∧ lowerBetween [] after cs = u ++ 'σ' :: v := by
  obtain ⟨p, r, rfl, hp, hr⟩ := looksAhead_iff.mp h
  refine ⟨lowerBetween [] ['Σ'] p, lowerChars r, ?_, ?_⟩
  · rw [lowerChars_eq_lowerBetween, lowerBetween_sigma, lowerBetween_of_all hr, List.append_nil,
      List.append_nil, hp, casedNext_of_all hr]
    rfl
  · rw [lowerBetween_sigma, lowerBetween_of_all hr, casedNext_append r, if_pos hr, hafter,
      Bool.not_true, Bool.and_false]
    rfl

end

/-! ## 4. Parts of a text -/

/-- No letter at the ends of `cs` finds a cased letter where it looks (`looksBack`,
`looksAhead`). -/
structure Undisturbed (front cs back : List Char) : Prop where
  behind : looksBack cs = true → casedNext front.reverse = false
  ahead : looksAhead cs = true → casedNext back = false

/-- In lower case a part of a text that is `Undisturbed` is still there, between what was
around it. -/
theorem Undisturbed.lowerChars_append {front cs back : List Char} (h : Undisturbed front cs back) :
    lowerChars (front ++ cs ++ back) =
      lowerBetween [] (cs ++ back) front ++ lowerChars cs ++
        lowerBetween (cs.reverse ++ front.reverse) [] back := by
  rw [lowerChars_eq_lowerBetween, List.append_assoc, lowerBetween_append, lowerBetween_append]
  simp [lowerBetween_eq_lowerChars h.behind h.ahead]

-- A letter that is not there as often as in a part is missing.
theorem not_infix_of_count_lt {part whole : List Char} {c : Char}
    (h : whole.count c < part.count c) : ¬ part <:+: whole := fun hpart =>
  absurd (hpart.sublist.count_le c) (not_le.mpr h)

/-- Behind a cased letter a text that `looksBack` is not found in lower case. -/
theorem not_infix_of_looksBack {cs : List Char} (h : looksBack cs = true) :
    ¬ lowerChars cs <:+: lowerChars ('A' :: cs) := by
  obtain ⟨u, v, halone, hbehind⟩ := exists_lowerBetween_of_looksBack h
    (by decide +kernel : casedNext ['A'] = true)
  have hwhole : lowerChars ('A' :: cs) = 'a' :: (u ++ 'ς' :: v) := by
    rw [lowerChars_eq_lowerBetween, lowerBetween, hbehind]
    rfl
  rw [hwhole, halone]
  refine not_infix_of_count_lt (c := 'σ') ?_
  simp

/-- Before a cased letter a text that `looksAhead` is not found in lower case. -/
theorem not_infix_of_looksAhead {cs : List Char} (h : looksAhead cs = true) :
    ¬ lowerChars cs <:+: lowerChars (cs ++ ['A']) := by
  obtain ⟨u, v, halone, hbefore⟩ := exists_lowerBetween_of_looksAhead h
    (by decide +kernel : casedNext ['A'] = true)
  have hwhole : lowerChars (cs ++ ['A']) = u ++ 'σ' :: v ++ ['a'] := by
    rw [lowerChars_eq_lowerBetween, lowerBetween_append, List.append_nil, hbefore]
    rfl
  rw [hwhole, halone]
  refine not_infix_of_count_lt (c := 'ς') ?_
  simp

end Autoresponder.Text
