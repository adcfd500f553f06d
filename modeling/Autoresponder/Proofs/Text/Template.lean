import Autoresponder.Text.Variables
import Mathlib.Data.List.Infix

/-!
# Texts with placeholders

Any text is a row of plain texts with placeholders between them, perhaps with a placeholder at its
end that is never closed. Filling it leaves plain text and what is not closed as they are, and puts
its value in the place of each placeholder, whatever the value looks like.
-/

namespace Autoresponder

namespace Text

/-! ## 1. First occurrences -/

section

variable {key text front rest : List Char}

theorem splitAt?_eq_none_iff : splitAt? key text = none ↔ ¬ key <:+: text := by
  induction text with
  | nil => simp [splitAt?, List.isEmpty_iff]
  | cons c r ih =>
    rw [splitAt?, List.infix_cons_iff, not_or, ← ih, ← List.isPrefixOf_iff_prefix]
    split <;> simp_all

theorem append_dropLast_prefix (key front rest : List Char) :
    front ++ key.dropLast <+: front ++ key ++ rest := by
  rw [List.append_assoc, List.prefix_self_append_iff]
  exact (List.dropLast_prefix key).trans (List.prefix_append key rest)

-- What stands before the first occurrence holds none, also together with its beginning.
theorem not_infix_of_splitAt? (hne : key ≠ []) (h : splitAt? key text = some (front, rest)) :
    ¬ key <:+: front ++ key.dropLast := by
  induction text generalizing front with
  | nil =>
    rw [splitAt?, if_neg (by simpa using hne)] at h
    cases h
  | cons c r ih =>
    rw [splitAt?] at h
    split at h
    · cases h
      intro hinfix
      have hlength := hinfix.length_le
      have hpos := List.length_pos_iff.mpr hne
      rw [List.nil_append, List.length_dropLast] at hlength
      omega
    · rename_i hhead
      obtain ⟨⟨front, rest⟩, hsplit, heq⟩ := Option.map_eq_some_iff.mp h
      cases heq
      rw [List.cons_append, List.infix_cons_iff, not_or]
      refine ⟨fun hprefix => hhead (List.isPrefixOf_iff_prefix.mpr ?_), ih hsplit⟩
      -- It would have been found at the beginning.
      rw [eq_of_splitAt? hsplit]
      exact hprefix.trans (List.cons_prefix_cons.mpr ⟨rfl, append_dropLast_prefix key front rest⟩)

theorem splitAt?_append (hne : key ≠ []) (h : ¬ key <:+: front ++ key.dropLast)
    (rest : List Char) : splitAt? key (front ++ key ++ rest) = some (front, rest) := by
  induction front with
  | nil =>
    obtain ⟨c, r, rfl⟩ := List.exists_cons_of_ne_nil hne
    have hhead : (c :: r).isPrefixOf (c :: (r ++ rest)) = true :=
      List.isPrefixOf_iff_prefix.mpr (List.prefix_append (c :: r) rest)
    rw [List.nil_append, List.cons_append, splitAt?, if_pos hhead, ← List.cons_append,
      List.drop_left]
  | cons c front ih =>
    rw [List.cons_append, List.infix_cons_iff, not_or] at h
    have hhead : ¬ key.isPrefixOf (c :: (front ++ key ++ rest)) = true := by
      rw [List.isPrefixOf_iff_prefix]
      intro hprefix
      refine h.1 (List.prefix_of_prefix_length_le hprefix
        (List.cons_prefix_cons.mpr ⟨rfl, append_dropLast_prefix key front rest⟩) ?_)
      rw [List.length_cons, List.length_append, List.length_dropLast]
      omega
    rw [List.cons_append, List.cons_append, splitAt?, if_neg hhead, ih h.2]
    rfl

/-- `splitAt?` splits a text at the first occurrence of `key`. -/
theorem splitAt?_eq_some_iff (hne : key ≠ []) : splitAt? key text = some (front, rest) ↔
    text = front ++ key ++ rest ∧ ¬ key <:+: front ++ key.dropLast := by
  refine ⟨fun h => ⟨eq_of_splitAt? h, not_infix_of_splitAt? hne h⟩, ?_⟩
  rintro ⟨rfl, h⟩
  exact splitAt?_append hne h rest

/-- A pair of equal characters `c` occurs first behind a text `front` that holds none and does not
end with such a character. -/
theorem splitAt?_pair_iff {c : Char} : splitAt? [c, c] text = some (front, rest) ↔
    text = front ++ [c, c] ++ rest ∧ ¬ [c, c] <:+: front ∧ front.getLast? ≠ some c := by
  have hends : [c, c] <:+ front ++ [c] ↔ front.getLast? = some c := by
    rw [show [c, c] = [c] ++ [c] from rfl, List.suffix_append_self_iff,
      List.singleton_suffix_iff_getLast?_eq_some]
  rw [splitAt?_eq_some_iff (List.cons_ne_nil _ _), show [c, c].dropLast = [c] from rfl,
    List.infix_concat_iff, hends, not_or, and_comm (a := ¬ front.getLast? = some c)]

-- Behind a text without a pair, the first pair may begin with the last character of the text.
theorem exists_splitAt?_pair {c : Char} (h : ¬ [c, c] <:+: front) (rest : List Char) :
    ∃ front' rest', splitAt? [c, c] (front ++ [c, c] ++ rest) = some (front', rest') ∧
      (rest' = rest ∨ rest' = c :: rest) := by
  by_cases hlast : front.getLast? = some c
  · obtain ⟨front', rfl⟩ := List.getLast?_eq_some_iff.mp hlast
    refine ⟨front', c :: rest, splitAt?_pair_iff.mpr ⟨by simp, ?_, fun hlast' => h ?_⟩, .inr rfl⟩
    · exact fun hoccurs => h (hoccurs.trans (List.prefix_append front' [c]).isInfix)
    · obtain ⟨front'', rfl⟩ := List.getLast?_eq_some_iff.mp hlast'
      exact ⟨front'', [], by simp⟩
  · exact ⟨front, rest, splitAt?_pair_iff.mpr ⟨rfl, h, hlast⟩, .inl rfl⟩

end

/-! ## 2. Filling -/

section

variable {value : List Char → List Char} {cs plain body name rest : List Char}

theorem fill_of_plain (h : splitAt? ['{', '{'] cs = none) : fill value cs = cs := by
  rw [fill]
  split
  · rfl
  · simp_all

theorem fill_of_unclosed (h : splitAt? ['{', '{'] cs = some (plain, body))
    (h' : splitAt? ['}', '}'] body = none) : fill value cs = cs := by
  rw [fill]
  split
  · rfl
  · split <;> simp_all

theorem fill_of_closed (h : splitAt? ['{', '{'] cs = some (plain, body))
    (h' : splitAt? ['}', '}'] body = some (name, rest)) :
    fill value cs = plain ++ value (trimChars name) ++ fill value rest := by
  rw [fill]
  split
  · simp_all
  · split <;> simp_all

end

/-! ## 3. Templates -/

def opening : String := "\x7b\x7b"

def closing : String := "\x7d\x7d"

theorem contains_eq_false_iff {text key : String} :
    contains text key = false ↔ ¬ key.toList <:+: text.toList := by
  rw [← Bool.not_eq_true, contains, occursIn_iff]

theorem contains_opening_iff {text : String} :
    contains text opening = false ↔ ¬ ['{', '{'] <:+: text.toList :=
  contains_eq_false_iff

theorem contains_closing_iff {text : String} :
    contains text closing = false ↔ ¬ ['}', '}'] <:+: text.toList :=
  contains_eq_false_iff

/-- A text with placeholders. No plain text holds the opening braces, and none that is followed by a
placeholder ends with a brace that would belong to them. No name holds the closing braces or ends
with a brace that would belong to them. -/
inductive Template where
  | plain (text : String) (noOpening : contains text opening = false)
  /-- What follows the opening braces is never closed. -/
  | unclosed (text : String) (noOpening : contains text opening = false) (rest : String)
      (noClosing : contains rest closing = false)
  | placeholder (text : String) (noOpening : contains text opening = false)
      (noBrace : text.toList.getLast? ≠ some '{') (name : String)
      (noClosing : contains name closing = false) (noEnd : name.toList.getLast? ≠ some '}')
      (next : Template)

namespace Template

def text : Template → String
  | plain text _ => text
  | unclosed text _ rest _ => text ++ opening ++ rest
  | placeholder text _ _ name _ _ next => text ++ opening ++ name ++ closing ++ next.text

/-- A template with what `value` gives for their names in the places of its placeholders. -/
def filled (value : String → String) : Template → String
  | plain text _ => text
  | unclosed text _ rest _ => text ++ opening ++ rest
  | placeholder text _ _ name _ _ next => text ++ value name ++ next.filled value

theorem fill_text {value : String → String} {fillIn : List Char → List Char}
    (h : ∀ name, fillIn (trimChars name.toList) = (value name).toList) (t : Template) :
    fill fillIn t.text.toList = (t.filled value).toList := by
  induction t with
  | plain text noOpening =>
    exact fill_of_plain (splitAt?_eq_none_iff.mpr (contains_opening_iff.mp noOpening))
  | unclosed text noOpening rest noClosing =>
    obtain ⟨plain, body, hopened, hbody⟩ :=
      exists_splitAt?_pair (contains_opening_iff.mp noOpening) rest.toList
    have hclosed : splitAt? ['}', '}'] body = none := by
      have hrest := contains_closing_iff.mp noClosing
      rw [splitAt?_eq_none_iff]
      rcases hbody with rfl | rfl
      · exact hrest
      · simpa [List.infix_cons_iff] using hrest
    have htext : (unclosed text noOpening rest noClosing).text.toList =
        text.toList ++ ['{', '{'] ++ rest.toList := by simp [Template.text, opening]
    rw [htext, fill_of_unclosed hopened hclosed]
    exact htext.symm
  | placeholder text noOpening noBrace name noClosing noEnd next ih =>
    have htext : (placeholder text noOpening noBrace name noClosing noEnd next).text.toList =
        text.toList ++ ['{', '{'] ++ (name.toList ++ ['}', '}'] ++ next.text.toList) := by
      simp [Template.text, opening, closing]
    have hopened := splitAt?_pair_iff.mpr ⟨htext, contains_opening_iff.mp noOpening, noBrace⟩
    have hclosed : splitAt? ['}', '}'] (name.toList ++ ['}', '}'] ++ next.text.toList) =
        some (name.toList, next.text.toList) :=
      splitAt?_pair_iff.mpr ⟨rfl, contains_closing_iff.mp noClosing, noEnd⟩
    rw [fill_of_closed hopened hclosed, ih, h]
    simp [filled]

/-- Every text is that of a `Template`. -/
theorem exists_text (text : String) : ∃ t : Template, t.text = text := by
  induction hlength : text.toList.length using Nat.strong_induction_on generalizing text with
  | h n ih =>
    cases hopened : splitAt? ['{', '{'] text.toList with
    | none => exact ⟨plain text (contains_opening_iff.mpr (splitAt?_eq_none_iff.mp hopened)), rfl⟩
    | some split =>
      obtain ⟨front, body⟩ := split
      obtain ⟨htext, hfront, hbrace⟩ := splitAt?_pair_iff.mp hopened
      have hfront' : contains (.ofList front) opening = false := by
        rwa [contains_opening_iff, String.toList_ofList]
      cases hclosed : splitAt? ['}', '}'] body with
      | none =>
        have hbody : contains (.ofList body) closing = false := by
          rw [contains_closing_iff, String.toList_ofList]
          exact splitAt?_eq_none_iff.mp hclosed
        refine ⟨unclosed (.ofList front) hfront' (.ofList body) hbody, ?_⟩
        rw [← String.toList_inj, htext]
        simp [Template.text, opening]
      | some split =>
        obtain ⟨name, rest⟩ := split
        obtain ⟨hbody, hname, hend⟩ := splitAt?_pair_iff.mp hclosed
        have hshorter : (String.ofList rest).toList.length < n := by
          rw [← hlength, htext, hbody, String.toList_ofList]
          simp only [List.length_append, List.length_cons]
          omega
        obtain ⟨next, hnext⟩ := ih _ hshorter (.ofList rest) rfl
        have hname' : contains (.ofList name) closing = false := by
          rwa [contains_closing_iff, String.toList_ofList]
        refine ⟨placeholder (.ofList front) hfront' (by rwa [String.toList_ofList]) (.ofList name)
          hname' (by rwa [String.toList_ofList]) next, ?_⟩
        rw [← String.toList_inj, htext, hbody]
        simp [Template.text, opening, closing, hnext]

end Template

end Text

/-- What `Variables.render` puts for a name: the phone number under its own name, else the value of
the variable of this name, else nothing. Blanks around the name do not matter. -/
def Variables.valueOf (vs : Variables) (phone name : String) : String :=
  if Text.trim name = "phone_number" then phone else (vs.get? (Text.trim name)).getD ""

theorem Variables.placeholder_trimChars (vs : Variables) (phone name : String) :
    vs.placeholder phone (Text.trimChars name.toList) = (vs.valueOf phone name).toList := by
  have hname : Text.trimChars name.toList = "phone_number".toList ↔
      Text.trim name = "phone_number" := by
    rw [← Text.toList_trim, String.toList_inj]
  rw [placeholder, valueOf, ← Text.toList_trim, String.ofList_toList, Text.toList_trim]
  simp only [hname, apply_ite String.toList]

/-- **Texts are filled in one pass.** By `Variables.render` plain text stays as it is, and so does
what is opened and never closed, and in the place of a placeholder there is its `valueOf` as it is.
There are no other texts: every one is that of a `Text.Template`. -/
theorem Variables.render_text (vs : Variables) (phone : String) :
    (∀ t : Text.Template, vs.render phone t.text = t.filled (vs.valueOf phone)) ∧
      ∀ text, ∃ t : Text.Template, t.text = text := by
  refine ⟨fun t => ?_, Text.Template.exists_text⟩
  rw [render, Text.Template.fill_text (vs.placeholder_trimChars phone), String.ofList_toList]

-- A value that looks like a placeholder is not filled in.
example : (Variables.ofList [("name", "\x7b\x7bphone_number\x7d\x7d")]).render "555"
    "Hi \x7b\x7b name \x7d\x7d, we call \x7b\x7bphone_number\x7d\x7d" =
      "Hi \x7b\x7bphone_number\x7d\x7d, we call 555" := by
  decide +kernel

end Autoresponder
