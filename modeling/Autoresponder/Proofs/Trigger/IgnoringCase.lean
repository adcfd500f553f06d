import Autoresponder.Proofs.Text.Cut
import Autoresponder.Proofs.Text.Surroundings
import Autoresponder.Trigger.Config

/-!
# Keywords without regard to case

A keyword that is found where case matters is also found where it does not, as long as no sigma at
one of its ends has another form in the text than in the keyword alone. A word that is looked for
as the whole of a message is always found.
-/

namespace Autoresponder

open Text

/-! ## 1. Places -/

namespace MatchMode

/-- What may stand around a word in a text for `keywordMatches` to find it. -/
def Admits : MatchMode → (front back : List Char) → Prop
  | contains, _, _ => True
  | startsWith, front, _ => front = []
  | exact, front, back => front = [] ∧ back = []
  | pattern, _, _ => False

/-- Whether a sigma at one of the ends of a word looks where the mode lets a text go on. -/
def loses : MatchMode → List Char → Bool
  | contains, word => looksBack word || looksAhead word
  | startsWith, word => looksAhead word
  | exact, _ => false
  | pattern, _ => false

/-- In a text there is a place where a word matches and is `Undisturbed`. -/
def HasPlace (mode : MatchMode) (word text : List Char) : Prop :=
  ∃ front back, mode.Admits front back ∧ text = front ++ word ++ back ∧
    Undisturbed front word back

variable {mode : MatchMode} {front word back : List Char}

theorem undisturbed_of_loses_eq_false (h : mode.loses word = false)
    (hadmits : mode.Admits front back) : Undisturbed front word back := by
  cases mode with
  | contains =>
    obtain ⟨hback, hahead⟩ := Bool.or_eq_false_iff.mp h
    exact ⟨fun hlooks => absurd hlooks (by simp [hback]),
      fun hlooks => absurd hlooks (by simp [hahead])⟩
  | startsWith =>
    obtain rfl : front = [] := hadmits
    have hahead : looksAhead word = false := h
    exact ⟨fun _ => rfl, fun hlooks => absurd hlooks (by simp [hahead])⟩
  | exact =>
    obtain ⟨rfl, rfl⟩ : front = [] ∧ back = [] := hadmits
    exact ⟨fun _ => rfl, fun _ => rfl⟩
  | pattern => exact hadmits.elim

theorem Admits.lowerBetween (h : mode.Admits front back) (before after before' after' : List Char) :
    mode.Admits (lowerBetween before after front) (lowerBetween before' after' back) := by
  cases mode with
  | contains => trivial
  | startsWith =>
    obtain rfl : front = [] := h
    rfl
  | exact =>
    obtain ⟨rfl, rfl⟩ : front = [] ∧ back = [] := h
    exact ⟨rfl, rfl⟩
  | pattern => exact h.elim

end MatchMode

namespace TriggerConfig

variable {patterns : PatternReader} {c : TriggerConfig} {text k : String}

theorem keywordMatches_iff (hmode : c.matchMode ≠ .pattern) :
    c.keywordMatches patterns text k = true ↔ ∃ front back, c.matchMode.Admits front back ∧
      (c.normal text).toList = front ++ (c.normal (trim k)).toList ++ back := by
  unfold keywordMatches
  cases hm : c.matchMode with
  | contains =>
    simp only [MatchMode.Admits, true_and, contains, occursIn_iff]
    constructor
    · rintro ⟨front, back, h⟩
      exact ⟨front, back, h.symm⟩
    · rintro ⟨front, back, h⟩
      exact ⟨front, back, h.symm⟩
  | startsWith =>
    simp only [MatchMode.Admits, startsWith_iff]
    constructor
    · rintro ⟨back, h⟩
      exact ⟨[], back, rfl, h.symm⟩
    · rintro ⟨_, back, rfl, h⟩
      exact ⟨back, h.symm⟩
  | exact =>
    simp only [MatchMode.Admits, decide_eq_true_eq, ← String.toList_inj]
    constructor
    · intro h
      exact ⟨[], [], ⟨rfl, rfl⟩, by rw [h, List.append_nil, List.nil_append]⟩
    · rintro ⟨_, _, ⟨rfl, rfl⟩, h⟩
      rwa [List.append_nil, List.nil_append] at h
  | pattern => exact absurd hm hmode

/-! ## 2. With regard to case and without -/

/-- The same configuration with case mattering or not. -/
def mindingCase (c : TriggerConfig) (minding : Bool) : TriggerConfig :=
  { c with caseSensitive := minding }

theorem keywordMatches_minding (hmode : c.matchMode ≠ .pattern) :
    (c.mindingCase true).keywordMatches patterns text k = true ↔ ∃ front back,
      c.matchMode.Admits front back ∧ text.toList = front ++ trimChars k.toList ++ back := by
  rw [← toList_trim]
  exact keywordMatches_iff (c := c.mindingCase true) hmode

theorem keywordMatches_ignoring (hmode : c.matchMode ≠ .pattern) :
    (c.mindingCase false).keywordMatches patterns text k = true ↔ ∃ front back,
      c.matchMode.Admits front back ∧
        lowerChars text.toList = front ++ lowerChars (trimChars k.toList) ++ back := by
  rw [← toList_trim, ← toList_lower, ← toList_lower]
  exact keywordMatches_iff (c := c.mindingCase false) hmode

/-- A keyword is found that stands in the list where `k` does or before it. -/
def FindsBy (c : TriggerConfig) (k : String) (found : Option String) : Prop :=
  ∃ k', found = some k' ∧ c.keywords.idxOf k' ≤ c.keywords.idxOf k

-- What passes one test is found by another one that it passes, unless something before it is.
theorem exists_find?_of_find? {p q : String → Bool} {keywords : List String}
    (hp : keywords.find? p = some k) (hq : q k = true) :
    ∃ k', keywords.find? q = some k' ∧ keywords.idxOf k' ≤ keywords.idxOf k := by
  induction keywords with
  | nil => cases hp
  | cons x r ih =>
    by_cases hx : q x = true
    · exact ⟨x, List.find?_cons_of_pos hx, by rw [List.idxOf_cons_self]; exact Nat.zero_le _⟩
    · have hne : x ≠ k := fun h => hx (h ▸ hq)
      have hpx : ¬ p x = true := by
        intro hpx
        rw [List.find?_cons_of_pos hpx] at hp
        exact hne (Option.some.inj hp)
      rw [List.find?_cons_of_neg hpx] at hp
      obtain ⟨k', hk', hle⟩ := ih hp
      have hne' : x ≠ k' := fun h => hx (h ▸ List.find?_some hk')
      refine ⟨k', by rw [List.find?_cons_of_neg hx, hk'], ?_⟩
      rw [List.idxOf_cons_ne _ hne', List.idxOf_cons_ne _ hne]
      exact Nat.succ_le_succ hle

theorem matchExact_ignoring (h : (c.mindingCase true).matchExact text = some k) :
    c.FindsBy k ((c.mindingCase false).matchExact text) := by
  refine exists_find?_of_find? h ?_
  have hfound := List.find?_some h
  rw [Bool.and_eq_true, beq_iff_eq] at hfound ⊢
  exact ⟨hfound.1, congrArg lower hfound.2⟩

theorem matchKeyword_ignoring (hmode : c.matchMode ≠ .pattern)
    (h : (c.mindingCase true).matchKeyword patterns text = some k)
    (hplace : c.matchMode.HasPlace (trimChars k.toList) (trimChars text.toList)) :
    c.FindsBy k ((c.mindingCase false).matchKeyword patterns text) := by
  obtain ⟨front, back, hadmits, htext, hfree⟩ := hplace
  refine exists_find?_of_find? h ?_
  have hfound := List.find?_some h
  rw [Bool.and_eq_true] at hfound ⊢
  refine ⟨hfound.1, (keywordMatches_ignoring hmode).mpr ⟨_, _,
    hadmits.lowerBetween [] (trimChars k.toList ++ back)
      ((trimChars k.toList).reverse ++ front.reverse) [], ?_⟩⟩
  rw [toList_trim, htext, hfree.lowerChars_append]

-- A keyword that no place can disturb has a place where it is found.
theorem hasPlace_of_matchKeyword (hmode : c.matchMode ≠ .pattern)
    (h : (c.mindingCase true).matchKeyword patterns text = some k)
    (hkept : c.matchMode.loses (trimChars k.toList) = false) :
    c.matchMode.HasPlace (trimChars k.toList) (trimChars text.toList) := by
  have hfound := List.find?_some h
  rw [Bool.and_eq_true] at hfound
  obtain ⟨front, back, hadmits, htext⟩ := (keywordMatches_minding hmode).mp hfound.2
  rw [toList_trim] at htext
  exact ⟨front, back, hadmits, htext, MatchMode.undisturbed_of_loses_eq_false hkept hadmits⟩

end TriggerConfig

/-! ## 3. Lost keywords -/

section

open TriggerConfig

variable {patterns : PatternReader} {mode : MatchMode} {k : String}

/-- Some message is lost for the keyword `k` when case is ignored. -/
def MatchMode.Misses (patterns : PatternReader) (mode : MatchMode) (k : String) : Prop :=
  ∃ c : TriggerConfig, ∃ text, c.matchMode = mode ∧
    (c.mindingCase true).matchKeyword patterns text = some k ∧
      (c.mindingCase false).matchKeyword patterns text = none

/-- Listens for the keyword `k` alone. -/
def TriggerConfig.only (k : String) (mode : MatchMode) : TriggerConfig :=
  { keywords := [k], matchMode := mode }

theorem TriggerConfig.matchKeyword_only {minding : Bool} {text : String} (hk : blank k = false) :
    ((only k mode).mindingCase minding).matchKeyword patterns text =
      if ((only k mode).mindingCase minding).keywordMatches patterns (trim text) k then some k
      else none := by
  rw [matchKeyword, mindingCase, only, List.find?_cons, hk]
  split <;> simp_all

-- A keyword is lost in a text that does not have it any more when both are in lower case.
theorem MatchMode.misses_of_absent (hmode : mode ≠ .pattern) (hk : blank k = false)
    {front back : List Char} (hadmits : mode.Admits front back)
    (htrim : trimChars (front ++ trimChars k.toList ++ back) = front ++ trimChars k.toList ++ back)
    (hlost : ¬ lowerChars (trimChars k.toList) <:+:
      lowerChars (front ++ trimChars k.toList ++ back)) : mode.Misses patterns k := by
  have htext : (trim (.ofList (front ++ trimChars k.toList ++ back))).toList =
      front ++ trimChars k.toList ++ back := by rw [toList_trim, String.toList_ofList, htrim]
  refine ⟨only k mode, .ofList (front ++ trimChars k.toList ++ back), rfl, ?_, ?_⟩
  · rw [matchKeyword_only hk, if_pos]
    exact (keywordMatches_minding (c := only k mode) hmode).mpr ⟨front, back, hadmits, htext⟩
  · rw [matchKeyword_only hk, if_neg]
    intro hmatch
    obtain ⟨front', back', -, hlower⟩ :=
      (keywordMatches_ignoring (c := only k mode) hmode).mp hmatch
    rw [htext] at hlower
    exact hlost ⟨front', back', hlower.symm⟩

theorem MatchMode.misses_of_looksBack (hmode : mode ≠ .pattern) (hk : blank k = false)
    (h : looksBack (trimChars k.toList) = true) (hadmits : mode.Admits ['A'] []) :
    mode.Misses patterns k := by
  refine misses_of_absent hmode hk hadmits ?_ ?_
  · rw [List.append_nil]
    exact trimChars_cons_trimChars (by decide) _
  · rw [List.append_nil]
    exact not_infix_of_looksBack h

theorem MatchMode.misses_of_looksAhead (hmode : mode ≠ .pattern) (hk : blank k = false)
    (h : looksAhead (trimChars k.toList) = true) (hadmits : mode.Admits [] ['A']) :
    mode.Misses patterns k := by
  refine misses_of_absent hmode hk hadmits ?_ ?_
  · exact trimChars_trimChars_concat (by decide) _
  · exact not_infix_of_looksAhead h

-- A blank keyword is nothing when it is trimmed, and nothing looks nowhere.
theorem MatchMode.blank_of_loses (h : mode.loses (trimChars k.toList) = true) :
    blank k = false := by
  rw [← Bool.not_eq_true]
  intro hblank
  have hnothing : trimChars k.toList = [] := by
    rw [trimChars, trimLeft_eq_nil_iff.mpr hblank]
    rfl
  rw [hnothing] at h
  cases mode <;> cases h

theorem MatchMode.misses_of_loses (patterns : PatternReader) (hmode : mode ≠ .pattern)
    (h : mode.loses (trimChars k.toList) = true) : mode.Misses patterns k := by
  have hk := blank_of_loses h
  cases mode with
  | contains =>
    rcases Bool.or_eq_true_iff.mp h with hback | hahead
    · exact misses_of_looksBack hmode hk hback trivial
    · exact misses_of_looksAhead hmode hk hahead trivial
  | startsWith => exact misses_of_looksAhead hmode hk h rfl
  | exact => cases h
  | pattern => exact absurd rfl hmode

/-! ## 4. Keywords that are found still -/

/-- What is found without regard to case (`mindingCase`) of what is found with regard to it. -/
structure MatchMode.KeepsKeywords (patterns : PatternReader) (mode : MatchMode) : Prop where
  /-- A message that is a keyword is found to be one. -/
  whole : ∀ (c : TriggerConfig) (text k : String),
    (c.mindingCase true).matchExact text = some k →
      c.FindsBy k ((c.mindingCase false).matchExact text)
  /-- A keyword is found that has an undisturbed place in the message. -/
  placed : ∀ (c : TriggerConfig) (text k : String), c.matchMode = mode →
    (c.mindingCase true).matchKeyword patterns text = some k →
      mode.HasPlace (trimChars k.toList) (trimChars text.toList) →
        c.FindsBy k ((c.mindingCase false).matchKeyword patterns text)
  /-- A keyword is found in every message if and only if no sigma at its ends looks where the mode
  lets a text go on. -/
  always : ∀ k : String,
    (∀ (c : TriggerConfig) (text : String), c.matchMode = mode →
      (c.mindingCase true).matchKeyword patterns text = some k →
        c.FindsBy k ((c.mindingCase false).matchKeyword patterns text)) ↔
      mode.loses (trimChars k.toList) = false

/-- **Ignoring case loses no keyword but by a sigma at its ends.** A keyword that matches where case
matters (`TriggerConfig.mindingCase`), matches where it does not, or one before it in the list does,
if the message has a place for it where no sigma at its ends finds a cased letter outside of the
keyword. Keywords whose sigmas never look there (`MatchMode.loses`) are always found, and every
other keyword is lost in some message. -/
theorem MatchMode.keeps_keywords (patterns : PatternReader) (hmode : mode ≠ .pattern) :
    mode.KeepsKeywords patterns where
  whole c text k h := matchExact_ignoring h
  placed c text k hm h hplace := by
    subst hm
    exact matchKeyword_ignoring hmode h hplace
  always k := by
    constructor
    · intro hfinds
      rw [← Bool.not_eq_true]
      intro hloses
      obtain ⟨c, text, hm, hstrict, hloose⟩ := misses_of_loses patterns hmode hloses
      obtain ⟨k', hk', -⟩ := hfinds c text hm hstrict
      rw [hloose] at hk'
      cases hk'
    · intro hkept c text hm h
      subst hm
      exact matchKeyword_ignoring hmode h (hasPlace_of_matchKeyword hmode h hkept)

def noPatterns : PatternReader := fun _ _ => none

/-- A word that ends in a sigma (`MatchMode.loses`) is not found at the beginning of a longer one,
and is found where something else follows it. -/
theorem keeps_keywords_street :
    ∃ c : TriggerConfig, c.keywords = ["ΟΔΟΣ"] ∧ c.matchMode = .startsWith ∧
      MatchMode.startsWith ≠ .pattern ∧ MatchMode.startsWith.KeepsKeywords noPatterns ∧
      MatchMode.startsWith.loses "ΟΔΟΣ".toList = true ∧
      (c.mindingCase true).matchKeyword noPatterns "ΟΔΟΣΑΚΙ" = some "ΟΔΟΣ" ∧
      (c.mindingCase false).matchKeyword noPatterns "ΟΔΟΣΑΚΙ" = none ∧
      (c.mindingCase true).matchKeyword noPatterns "ΟΔΟΣ 4" = some "ΟΔΟΣ" ∧
      (c.mindingCase false).matchKeyword noPatterns "ΟΔΟΣ 4" = some "ΟΔΟΣ" ∧
      (c.mindingCase false).matchExact "οδος" = some "ΟΔΟΣ" := by
  refine ⟨only "ΟΔΟΣ" .startsWith, rfl, rfl, by decide,
    MatchMode.keeps_keywords noPatterns (by decide), ?_⟩
  decide +kernel

end

end Autoresponder
