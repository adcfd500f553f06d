import Autoresponder.Proofs.Flow.Graph
import Autoresponder.Proofs.Text.Cut
import Autoresponder.Proofs.Text.Template

/-!
# Typed titles

Whoever sees a button may type its title and means the button. The title that is looked for is
worked out from the title of the definition, though: it is not filled in, and it is trimmed and
lower-cased before it is cut. What this makes of the title on the button decides whether a person is
understood.
-/

namespace Autoresponder

open Text

/-! ## 1. Which button is named -/

-- What is found is the first of its kind.
theorem find?_eq_some_iff_takeWhile {α : Type} [DecidableEq α] {p : α → Bool} {l : List α} {a : α} :
    l.find? p = some a ↔ a ∈ l ∧ p a = true ∧ ∀ x ∈ l.takeWhile (· ≠ a), p x = false := by
  induction l with
  | nil => simp
  | cons x l ih =>
    rw [List.takeWhile_cons]
    by_cases hx : x = a
    · subst hx
      cases hp : p x
      · simpa [hp] using fun h => (List.find?_some h).symm.trans hp
      · simp [hp]
    · rw [if_pos (decide_eq_true hx), List.forall_mem_cons, List.mem_cons,
        or_iff_right (Ne.symm hx)]
      cases hp : p x
      · simpa [hp] using ih
      · simp [hp, hx]

theorem mem_take_of_mem_takeWhile {α : Type} [DecidableEq α] {l : List α} {n : Nat} {a x : α}
    (ha : a ∈ l.take n) (hx : x ∈ l.takeWhile (· ≠ a)) : x ∈ l.take n := by
  rcases List.prefix_or_prefix_of_prefix (List.take_prefix n l)
    (List.takeWhile_prefix (p := (· ≠ a)) (l := l)) with h | h
  · have hne := List.mem_takeWhile_imp (h.subset ha)
    simp at hne
  · exact h.subset hx

namespace Button

variable {b : Button} {values : Variables} {phone text : String}

/-- The title on a button as `shownButtons` has it: filled in and cut. -/
def shownTitle (b : Button) (values : Variables) (phone : String) : String :=
  truncate Message.maxTitle (values.render phone b.title)

/-- What `shownTitle` comes to when somebody types it. -/
def typedTitle (b : Button) (values : Variables) (phone : String) : String :=
  lower (trim (b.shownTitle values phone))

/-- What `Button.isNamedBy` looks for: the title as it is defined. -/
def wholeTitle (b : Button) : String := lower (trim b.title)

/-- What is looked for as well: as much of `wholeTitle` as fits on a button. -/
def cutTitle (b : Button) : String := truncate Message.maxTitle b.wholeTitle

/-- Whether what is on a button is looked for, as `wholeTitle` or as `cutTitle`. -/
def IsLegible (b : Button) (values : Variables) (phone : String) : Prop :=
  b.typedTitle values phone = b.wholeTitle ∨ b.typedTitle values phone = b.cutTitle

/-- Whether nothing is filled in where a title is shown. -/
def IsUnfilled (b : Button) (values : Variables) (phone : String) : Prop :=
  values.render phone b.title = b.title

/-- A title with nothing to fill in that is shown whole, and is in lower case not too long either,
or is cut where there is no blank, with neither a letter before that becomes longer in lower case
nor one that looks at what follows. -/
structure IsPlain (b : Button) (values : Variables) (phone : String) : Prop where
  unfilled : b.IsUnfilled values phone
  clean : (b.shownTitle values phone = b.title ∧ b.wholeTitle.toList.length ≤ Message.maxTitle) ∨
    (trim (b.shownTitle values phone) = b.shownTitle values phone ∧
      'İ' ∉ (b.shownTitle values phone).toList ∧ 'Σ' ∉ (b.shownTitle values phone).toList)

theorem isNamedBy_iff : b.isNamedBy text = true ↔
    lower (trim text) = b.wholeTitle ∨ lower (trim text) = b.cutTitle := by
  unfold isNamedBy cutTitle wholeTitle
  rw [Bool.or_eq_true, beq_iff_eq, beq_iff_eq, eq_comm, eq_comm (a := truncate _ _)]

theorem isUnfilled_of_no_opening (h : contains b.title opening = false) :
    b.IsUnfilled values phone := by
  have hplain : fill (values.placeholder phone) b.title.toList = b.title.toList :=
    fill_of_plain (splitAt?_eq_none_iff.mpr (contains_opening_iff.mp h))
  rw [IsUnfilled, Variables.render, hplain, String.ofList_toList]

theorem IsUnfilled.toList_shownTitle (h : b.IsUnfilled values phone) :
    (b.shownTitle values phone).toList = b.title.toList.take Message.maxTitle := by
  rw [shownTitle, h, toList_truncate]

theorem IsUnfilled.toList_typedTitle (h : b.IsUnfilled values phone) :
    (b.typedTitle values phone).toList =
      lowerChars (trimChars (b.title.toList.take Message.maxTitle)) := by
  rw [typedTitle, toList_lower, toList_trim, h.toList_shownTitle]

theorem toList_wholeTitle : b.wholeTitle.toList = lowerChars (trimChars b.title.toList) := by
  rw [wholeTitle, toList_lower, toList_trim]

theorem toList_cutTitle :
    b.cutTitle.toList = (lowerChars (trimChars b.title.toList)).take Message.maxTitle := by
  rw [cutTitle, toList_truncate, toList_wholeTitle]

/-- The title of a button that `IsUnfilled` is legible if only blanks are cut off, or if
`typedTitle` is as long as a title can be and the beginning of `wholeTitle`. -/
theorem IsUnfilled.isLegible_iff (h : b.IsUnfilled values phone) :
    b.IsLegible values phone ↔ trim (b.shownTitle values phone) = trim b.title ∨
      ((b.typedTitle values phone).toList.length = Message.maxTitle ∧
        (b.typedTitle values phone).toList <+: b.wholeTitle.toList) := by
  simp only [IsLegible, ← String.toList_inj, h.toList_typedTitle, toList_wholeTitle,
    toList_cutTitle, toList_trim, h.toList_shownTitle]
  exact lowerChars_eq_or_take_iff (trimChars_take_isPrefix _ _)

theorem IsPlain.typedTitle_eq (h : b.IsPlain values phone) :
    b.typedTitle values phone = b.cutTitle := by
  obtain ⟨hunfilled, ⟨hwhole, hfits⟩ | ⟨htrimmed, hdotted, hsigma⟩⟩ := h
  · rw [typedTitle, hwhole, ← wholeTitle, ← String.toList_inj, cutTitle, toList_truncate,
      List.take_of_length_le hfits]
  · rw [← String.toList_inj, toList_trim] at htrimmed
    rw [hunfilled.toList_shownTitle] at htrimmed hdotted hsigma
    rw [← String.toList_inj, hunfilled.toList_typedTitle, toList_cutTitle]
    exact lowerChars_trimChars_take htrimmed hdotted hsigma

theorem IsUnfilled.not_isLegible (h : b.IsUnfilled values phone)
    (hdotted : 'İ' ∉ (b.shownTitle values phone).toList)
    (hends : trim (b.shownTitle values phone) ≠ b.shownTitle values phone)
    (hcut : trim (b.shownTitle values phone) ≠ trim b.title) : ¬ b.IsLegible values phone := by
  rw [h.isLegible_iff, not_or, not_and]
  refine ⟨hcut, fun hlength => ?_⟩
  rw [ne_eq, ← String.toList_inj, toList_trim, h.toList_shownTitle] at hends
  rw [h.toList_shownTitle] at hdotted
  have hshorter := length_lowerChars_trimChars_lt hends hdotted
  rw [h.toList_typedTitle] at hlength
  rw [List.length_take] at hshorter
  omega

end Button

/-! ## 2. Typing a title -/

/-- A `choice` is offered at a node: its button is shown and leads to its target. -/
structure Flow.Offers (f : Flow) (node : String) (bs : List Button) (choice : Continuation) :
    Prop where
  buttons : ∃ n prompt, f.node? node = some n ∧ n.kind = .buttons prompt bs choice.variableName
  shown : choice.button ∈ bs.take Message.maxButtons
  leads : f.target? node choice.button.id = some choice.target

/-- No other button of the node has the `typedTitle` of this one as its own title, and none has the
same on it. -/
structure Button.StandsOut (b : Button) (bs : List Button) (values : Variables) (phone : String) :
    Prop where
  defined : ∀ b' ∈ bs, b' ≠ b → b.typedTitle values phone ≠ b'.wholeTitle
  shown : ∀ b' ∈ bs.take Message.maxButtons, b' ≠ b →
    b.typedTitle values phone ≠ b'.typedTitle values phone

/-- What `continuation?` makes of a text that is the title on the button of a `choice`. -/
structure Flow.ReadsBack (f : Flow) (node : String) (bs : List Button) (values : Variables)
    (phone : String) (choice : Continuation) (text : String) : Prop where
  /-- That title is on a button that is shown. -/
  shown : ⟨choice.button.id, choice.button.shownTitle values phone⟩ ∈ shownButtons bs values phone
  /-- It is taken for the choice exactly if the button is legible and no button before has a title
  of which as much as fits on a button is the text. -/
  exact : f.continuation? node none text = some choice ↔
    choice.button.IsLegible values phone ∧
      ∀ b ∈ bs.takeWhile (· ≠ choice.button), lower (trim text) ≠ b.cutTitle
  /-- It is taken for another choice only if the button there has such a title. -/
  mistaken : ∀ other, f.continuation? node none text = some other →
    other.button ≠ choice.button → lower (trim text) = other.button.cutTitle
  /-- Where its title and those of the buttons before are plain it is taken for the choice. -/
  plain : choice.button.IsPlain values phone →
    (∀ b ∈ bs.takeWhile (· ≠ choice.button), b.IsPlain values phone) →
      f.continuation? node none text = some choice
  /-- There is nothing to fill in where no placeholder opens. -/
  unfilled : contains choice.button.title opening = false →
    choice.button.IsUnfilled values phone
  /-- A title with nothing to fill in is legible if only blanks are cut off, or if what is left is
  in lower case as long as a title can be and the beginning of the whole title in lower case. -/
  legible : choice.button.IsUnfilled values phone → (choice.button.IsLegible values phone ↔
    trim (choice.button.shownTitle values phone) = trim choice.button.title ∨
      ((choice.button.typedTitle values phone).toList.length = Message.maxTitle ∧
        (choice.button.typedTitle values phone).toList <+: choice.button.wholeTitle.toList))
  /-- A title with nothing to fill in is not legible if it was cut next to a blank. -/
  lost : choice.button.IsUnfilled values phone →
    'İ' ∉ (choice.button.shownTitle values phone).toList →
    trim (choice.button.shownTitle values phone) ≠ choice.button.shownTitle values phone →
    trim (choice.button.shownTitle values phone) ≠ trim choice.button.title →
      ¬ choice.button.IsLegible values phone

section

variable {f : Flow} {node text : String} {bs : List Button} {values : Variables} {phone : String}
  {choice other : Continuation}

theorem Flow.Offers.continuation?_eq_some_iff (h : f.Offers node bs choice) :
    f.continuation? node none text = some other ↔
      bs.find? (·.isNamedBy text) = some other.button ∧
        f.target? node other.button.id = some other.target ∧
          other.variableName = choice.variableName := by
  obtain ⟨⟨n, prompt, hnode, hkind⟩, -, -⟩ := h
  obtain ⟨b, target, variableName⟩ := other
  simp only [continuation?, hnode, bind, pure, Option.bind_some]
  split
  · rename_i prompt' bs' variableName' hkind'
    rw [hkind] at hkind'
    cases hkind'
    rw [Option.bind_eq_some_iff]
    constructor
    · rintro ⟨b', hb', h⟩
      obtain ⟨target', htarget', h⟩ := Option.bind_eq_some_iff.mp h
      cases h
      exact ⟨hb', htarget', rfl⟩
    · rintro ⟨hb, htarget, rfl⟩
      exact ⟨b, hb, by rw [htarget, Option.bind_some]⟩
  · rename_i hother
    exact absurd hkind (hother _ _ _)

/-- **A typed title is understood if it is looked for.** The `shownTitle` of a button that leads
somewhere and `StandsOut` among the buttons `bs` is taken for the choice of this button where this
title and those before it are plain. What is looked for in the place of a title that is cut or
filled in may be something else than what is on the button. -/
theorem Flow.reads_back (offered : f.Offers node bs choice)
    (distinct : choice.button.StandsOut bs values phone)
    (typed : lower (trim text) = choice.button.typedTitle values phone) :
    f.ReadsBack node bs values phone choice text := by
  -- No other button is named by its title.
  have hnamed : ∀ b ∈ bs, b ≠ choice.button →
      (b.isNamedBy text = true ↔ lower (trim text) = b.cutTitle) := fun b hb hne => by
    rw [Button.isNamedBy_iff, typed]
    exact or_iff_right (distinct.defined b hb hne)
  have hbefore : ∀ b ∈ bs.takeWhile (· ≠ choice.button), b ∈ bs ∧ b ≠ choice.button := by
    intro b hb
    exact ⟨(List.takeWhile_sublist _).subset hb, by simpa using List.mem_takeWhile_imp hb⟩
  have hexact : f.continuation? node none text = some choice ↔
      choice.button.IsLegible values phone ∧
        ∀ b ∈ bs.takeWhile (· ≠ choice.button), lower (trim text) ≠ b.cutTitle := by
    rw [offered.continuation?_eq_some_iff, find?_eq_some_iff_takeWhile, Button.isNamedBy_iff, typed,
      and_iff_left ⟨offered.leads, rfl⟩, and_iff_right (List.mem_of_mem_take offered.shown)]
    refine and_congr_right fun _ => forall₂_congr fun b hb => ?_
    obtain ⟨hmem, hne⟩ := hbefore b hb
    rw [← Bool.not_eq_true, hnamed b hmem hne, typed]
  refine ⟨List.mem_map.mpr ⟨_, offered.shown, rfl⟩, hexact, fun other hother hne => ?_,
    fun hplain hplains => ?_, Button.isUnfilled_of_no_opening, Button.IsUnfilled.isLegible_iff,
    Button.IsUnfilled.not_isLegible⟩
  · have hfound := (offered.continuation?_eq_some_iff.mp hother).1
    have hmeant := List.find?_some hfound
    exact (hnamed _ (List.mem_of_find?_eq_some hfound) hne).mp hmeant
  · refine hexact.mpr ⟨.inr hplain.typedTitle_eq, fun b hb => ?_⟩
    rw [typed, ← (hplains b hb).typedTitle_eq]
    exact distinct.shown b (mem_take_of_mem_takeWhile offered.shown hb) (hbefore b hb).2

end

/-- Asks what somebody needs. One title does not fit on a button, and one is a name
(`reads_back_helping`). -/
def Flow.helping : Flow :=
  { Flow.new (.ofNat 1) "shop" "main" "helping" .anyMessage (.ofSeconds 0) with
    nodes := [⟨"start", .trigger⟩,
      ⟨"ask", .buttons "How can we help?" [⟨"sales", "Sales"⟩,
        ⟨"support", "Talk to our support team"⟩, ⟨"self", "\x7b\x7bname\x7d\x7d"⟩] none⟩,
      ⟨"done", .finish none⟩]
    edges := [⟨"start", "ask", none⟩, ⟨"ask", "done", some "sales"⟩,
      ⟨"ask", "done", some "support"⟩, ⟨"ask", "done", some "self"⟩] }

/-- Of the three buttons of `Flow.helping` only the first is understood, though each `StandsOut`. -/
theorem reads_back_helping :
    ∃ bs values, bs = [⟨"sales", "Sales"⟩, ⟨"support", "Talk to our support team"⟩,
        ⟨"self", "\x7b\x7bname\x7d\x7d"⟩] ∧ values = Variables.ofList [("name", "Ana")] ∧
      (shownButtons bs values "555").map (·.title) = ["Sales", "Talk to our support ", "Ana"] ∧
      Flow.helping.continuation? "ask" none "SALES " = some ⟨⟨"sales", "Sales"⟩, "done", none⟩ ∧
      Flow.helping.ReadsBack "ask" bs values "555" ⟨⟨"sales", "Sales"⟩, "done", none⟩ "SALES " ∧
      Flow.helping.continuation? "ask" none "Talk to our support " = none ∧
      Flow.helping.ReadsBack "ask" bs values "555"
        ⟨⟨"support", "Talk to our support team"⟩, "done", none⟩ "Talk to our support " ∧
      Flow.helping.continuation? "ask" none "Ana" = none ∧
      Flow.helping.ReadsBack "ask" bs values "555"
        ⟨⟨"self", "\x7b\x7bname\x7d\x7d"⟩, "done", none⟩ "Ana" := by
  refine ⟨_, _, rfl, rfl, by decide +kernel, by decide +kernel, ?_, by decide +kernel, ?_,
    by decide +kernel, ?_⟩
  all_goals
    exact Flow.reads_back ⟨⟨_, _, rfl, rfl⟩, by decide, by decide⟩
      ⟨by decide +kernel, by decide +kernel⟩ (by decide +kernel)

end Autoresponder
