import Autoresponder.Json.Printer
import Autoresponder.Json.Reader
import Mathlib.Data.List.TakeWhile
import Mathlib.Tactic.IntervalCases

/-!
# Documents read from their text

A document without fractional numbers is read from its compact text as it was, as long as its
integers fit 64 bits and its containers do not nest too deep. The scanner makes a token of the text
of a scalar or a string, whatever follows it; the reader then takes the document as a whole and
hands it to the container around it.
-/

namespace Autoresponder.Json

/-! ## 1. What follows in a text -/

/-- The token that a text ends with in a state of the scanner, if it may end there. -/
def tokensAtEnd : Scan → Option (List Token)
  | .between => some []
  | .word chars => (wordToken? chars.reverse).map fun t => [t]
  | _ => none

/-- The tokens in the rest of a text, from a state of the scanner on. -/
def tokensFrom (state : Scan) : List Char → Option (List Token)
  | [] => tokensAtEnd state
  | c :: rest =>
    (scanStep state c).bind fun (next, tokens) => (tokensFrom next rest).map (tokens ++ ·)

theorem tokensFrom_cons {state next : Scan} {c : Char} {tokens : List Token}
    (h : scanStep state c = some (next, tokens)) (rest : List Char) :
    tokensFrom state (c :: rest) = (tokensFrom next rest).map (tokens ++ ·) := by
  rw [tokensFrom, h]
  rfl

-- A character that ends no token.
theorem tokensFrom_quiet {state next : Scan} {c : Char} (h : scanStep state c = some (next, []))
    (rest : List Char) : tokensFrom state (c :: rest) = tokensFrom next rest := by
  rw [tokensFrom_cons h]
  simp only [List.nil_append, Option.map_id']

-- A character adds its tokens to those that were found before it.
theorem foldlM_scanStep (cs : List Char) (state : Scan) (found : List Token) :
    ((cs.foldlM (fun r c => (scanStep r.1 c).map fun n => (n.1, n.2.reverse ++ r.2))
        (state, found)).bind fun r => (tokensAtEnd r.1).map (r.2.reverse ++ ·)) =
      (tokensFrom state cs).map (found.reverse ++ ·) := by
  induction cs generalizing state found with
  | nil => rfl
  | cons c rest ih =>
    cases hstep : scanStep state c with
    | none => simp [List.foldlM_cons, hstep, tokensFrom]
    | some n =>
      obtain ⟨next, tokens⟩ := n
      rw [tokensFrom_cons hstep, List.foldlM_cons]
      dsimp only
      rw [hstep]
      refine (ih next (tokens.reverse ++ found)).trans ?_
      simp [Function.comp_def]

-- The tokens of a text are those from its beginning on.
theorem tokens?_eq (cs : List Char) : tokens? cs = tokensFrom .between cs := by
  have hstart := foldlM_scanStep cs .between []
  simp only [List.reverse_nil, List.nil_append, Option.map_id'] at hstart
  rw [← hstart, tokens?]
  refine congrArg₂ _ (congrArg (fun f => List.foldlM f (Scan.between, []) cs) ?_) ?_
  · funext r c
    obtain ⟨state, found⟩ := r
    dsimp only
    cases scanStep state c <;> rfl
  · funext r
    obtain ⟨last, found⟩ := r
    cases last <;> simp [tokensAtEnd, Function.comp_def]

/-- A word ends in front of this text. -/
def EndsWord (rest : List Char) : Prop := ∀ c ∈ rest.head?, endsWord c = true

/-- A text is read as a token, whatever follows. -/
def Spells (w : List Char) (t : Token) (rest : List Char) : Prop :=
  tokensFrom .between (w ++ rest) = (tokensFrom .between rest).map (t :: ·)

/-! ## 2. Words -/

theorem scanBetween_of_not_endsWord {c : Char} (h : endsWord c = false) :
    scanBetween c = (.word [c], []) := by
  simp only [endsWord, List.contains_cons, List.contains_nil, Bool.or_false, Bool.or_eq_false_iff,
    beq_eq_false_iff_ne] at h
  obtain ⟨hspace, h1, h2, h3, h4, h5, h6, h7⟩ := h
  unfold scanBetween
  rw [if_neg (by simp [hspace])]
  split <;> first | contradiction | rfl

theorem tokensFrom_word {w acc rest : List Char} {t : Token}
    (h : ∀ c ∈ w, endsWord c = false) (hends : EndsWord rest)
    (ht : wordToken? (acc.reverse ++ w) = some t) :
    tokensFrom (.word acc) (w ++ rest) = (tokensFrom .between rest).map (t :: ·) := by
  induction w generalizing acc with
  | nil =>
    rw [List.append_nil] at ht
    cases rest with
    | nil => rw [List.nil_append, tokensFrom, tokensAtEnd, ht]; rfl
    | cons c rest =>
      have hc : endsWord c = true := hends c rfl
      have hword : scanStep (.word acc) c = some ((scanBetween c).1, t :: (scanBetween c).2) := by
        rw [scanStep, if_pos hc, ht]
        rfl
      have hbetween : scanStep .between c = some ((scanBetween c).1, (scanBetween c).2) := rfl
      rw [List.nil_append, tokensFrom_cons hword, tokensFrom_cons hbetween, Option.map_map]
      rfl
  | cons c w ih =>
    have hc : endsWord c = false := h c List.mem_cons_self
    have hword : scanStep (.word acc) c = some (.word (c :: acc), []) := by
      rw [scanStep, if_neg (by simp [hc])]
    have hrest : wordToken? ((c :: acc).reverse ++ w) = some t := by simpa using ht
    rw [List.cons_append, tokensFrom_quiet hword,
      ih (fun d hd => h d (List.mem_cons_of_mem _ hd)) hrest]

theorem spells_word {w rest : List Char} {t : Token} (hw : w ≠ [])
    (h : ∀ c ∈ w, endsWord c = false) (hends : EndsWord rest) (ht : wordToken? w = some t) :
    Spells w t rest := by
  obtain ⟨c, w, rfl⟩ := List.exists_cons_of_ne_nil hw
  have hc := scanBetween_of_not_endsWord (h c List.mem_cons_self)
  have hstep : scanStep .between c = some (.word [c], []) := by rw [scanStep, hc]
  rw [Spells, List.cons_append, tokensFrom_quiet hstep]
  exact tokensFrom_word (fun d hd => h d (List.mem_cons_of_mem _ hd)) hends ht

/-! ## 3. Numbers -/

theorem endsWord_of_isDigit {c : Char} (h : c.isDigit = true) : endsWord c = false := by
  rw [Bool.eq_false_iff]
  intro hends
  simp only [endsWord, isSpace, List.contains_cons, List.contains_nil, Bool.or_false,
    Bool.or_eq_true, beq_iff_eq] at hends
  rcases hends with (((rfl | rfl) | rfl) | rfl) | rfl | rfl | rfl | rfl | rfl | rfl | rfl <;>
    exact absurd h (by decide)

theorem le_ofDigitChars (ds : List Char) (start : Nat) :
    start ≤ Nat.ofDigitChars 10 ds start := by
  rw [Nat.ofDigitChars_eq_ofDigitChars_zero]
  exact (Nat.le_mul_of_pos_left _ (Nat.pow_pos (by decide))).trans (Nat.le_add_right _ _)

-- Digits whose number fits a word are taken as a whole.
theorem takeDigits_eq {ds : List Char} {start : Nat}
    (h : Nat.ofDigitChars 10 ds start < wordLimit) :
    takeDigits start ds = (Nat.ofDigitChars 10 ds start, ds.length, true) := by
  induction ds generalizing start with
  | nil => rfl
  | cons d ds ih =>
    rw [Nat.ofDigitChars_cons, Nat.mul_comm] at h ⊢
    have hnext : start * 10 + (d.toNat - '0'.toNat) < wordLimit :=
      (le_ofDigitChars ds _).trans_lt h
    rw [takeDigits]
    dsimp only
    rw [if_pos hnext, ih h]
    rfl

-- No digits stand in front of a number without need.
theorem head?_toDigits {n : Nat} (h : 0 < n) : (Nat.toDigits 10 n).head? ≠ some '0' := by
  induction n using Nat.strong_induction_on with
  | _ n ih =>
    rw [Nat.toDigits_eq_if (by decide)]
    split
    · rename_i hlt
      simp only [List.head?_cons, ne_eq, Option.some.injEq, Nat.digitChar_eq_zero]
      omega
    · have hdiv : 0 < n / 10 := by omega
      rw [List.head?_append, Option.or_of_isSome
        (List.isSome_head?.mpr Nat.toDigits_ne_nil)]
      exact ih (n / 10) (by omega) hdiv

-- The digits of a number that fits a word, behind a sign or alone, are that number.
theorem readNumber_toDigits (negative : Bool) {n : Nat} (h : n < wordLimit) :
    readNumber ((if negative then ['-'] else []) ++ Nat.toDigits 10 n) =
      integerOf negative n := by
  have hdigits : ∀ c ∈ Nat.toDigits 10 n, c.isDigit = true := fun c hc =>
    Nat.isDigit_of_mem_toDigits (by decide) (by decide) hc
  have hwhole : (Nat.toDigits 10 n).takeWhile Char.isDigit = Nat.toDigits 10 n :=
    List.takeWhile_eq_self_iff.mpr hdigits
  have hrest : (Nat.toDigits 10 n).dropWhile Char.isDigit = [] :=
    List.dropWhile_eq_nil_iff.mpr hdigits
  have htaken : takeDigits 0 (Nat.toDigits 10 n) = (n, (Nat.toDigits 10 n).length, true) := by
    rw [takeDigits_eq (by rwa [Nat.ofDigitChars_ten_toDigits]), Nat.ofDigitChars_ten_toDigits]
  have hplain : ((Nat.toDigits 10 n).isEmpty || (Nat.toDigits 10 n).head? == some '0' &&
      decide (1 < (Nat.toDigits 10 n).length)) = false := by
    rw [List.isEmpty_eq_false_iff.mpr Nat.toDigits_ne_nil, Bool.false_or]
    cases n with
    | zero => rfl
    | succ n => simp [head?_toDigits]
  unfold readNumber
  split
  rename_i sign digits heq
  obtain ⟨rfl, rfl⟩ : sign = negative ∧ digits = Nat.toDigits 10 n := by
    cases negative with
    | true => simpa [eq_comm] using heq
    | false =>
      split at heq
      · -- No digit is a minus sign.
        rename_i r hr
        exact absurd (hdigits '-' (by simp_all)) (by decide)
      · simpa [eq_comm] using heq
  dsimp only
  rw [hwhole, hrest, htaken, hplain]
  rfl

theorem toList_toString (n : Int) :
    (toString n).toList = (if n < 0 then ['-'] else []) ++ Nat.toDigits 10 n.natAbs := by
  have hrepr : toString n = n.repr := rfl
  rw [hrepr, Int.repr_eq_if]
  split
  · rw [if_neg (by omega), Nat.repr_eq_ofList_toDigits, String.toList_ofList, List.nil_append,
      show n.toNat = n.natAbs by omega]
  · rw [if_pos (by omega), String.toList_append, Nat.repr_eq_ofList_toDigits,
      show (-n).toNat = n.natAbs by omega]
    exact congrArg (['-'] ++ ·) String.toList_ofList

-- The characters of an integer belong to a word that is no name.
theorem mem_toString {n : Int} {c : Char} (h : c ∈ (toString n).toList) :
    c = '-' ∨ c.isDigit = true := by
  rw [toList_toString, List.mem_append] at h
  rcases h with h | h
  · split at h
    · exact .inl (List.mem_singleton.mp h)
    · exact absurd h List.not_mem_nil
  · exact .inr (Nat.isDigit_of_mem_toDigits (by decide) (by decide) h)

/-- The integers that 64 bits hold, with a sign or without one. -/
def IsWord (n : Int) : Prop := Int64.minValue.toInt ≤ n ∧ n < wordLimit

theorem readNumber_toString {n : Int} (h : IsWord n) :
    readNumber (toString n).toList = some (.int n) := by
  obtain ⟨hlow, hhigh⟩ := h
  have hmin : Int64.minValue.toInt = -2 ^ 63 := rfl
  have hlimit : wordLimit = 2 ^ 64 := rfl
  have hsign := readNumber_toDigits (decide (n < 0)) (n := n.natAbs) (by omega)
  simp only [decide_eq_true_eq] at hsign
  rw [toList_toString, hsign, integerOf]
  by_cases hneg : n < 0
  · have hfits : (n.natAbs != 0 && decide (Int64.minValue.toInt ≤ -(n.natAbs : Int))) = true := by
      simp only [Bool.and_eq_true, bne_iff_ne, decide_eq_true_eq]
      omega
    rw [decide_eq_true hneg, if_neg (by decide), if_pos hfits,
      show -(n.natAbs : Int) = n by omega]
  · rw [decide_eq_false hneg, if_pos (by decide), show (n.natAbs : Int) = n by omega]

theorem spells_int {n : Int} (h : IsWord n) {rest : List Char} (hends : EndsWord rest) :
    Spells (toString n).toList (.scalar (.int n)) rest := by
  have hword (w : List Char) (hw : ∃ c ∈ w, ¬ (c = '-' ∨ c.isDigit = true)) :
      (toString n).toList ≠ w := by
    rintro rfl
    obtain ⟨c, hc, hno⟩ := hw
    exact hno (mem_toString hc)
  refine spells_word ?_ (fun c hc => ?_) hends ?_
  · rw [toList_toString]
    exact List.append_ne_nil_of_right_ne_nil _ Nat.toDigits_ne_nil
  · rcases mem_toString hc with rfl | hdigit
    · decide
    · exact endsWord_of_isDigit hdigit
  · rw [wordToken?, if_neg (hword _ ⟨'t', by decide, by decide⟩),
      if_neg (hword _ ⟨'f', by decide, by decide⟩), if_neg (hword _ ⟨'n', by decide, by decide⟩),
      readNumber_toString h]
    rfl

/-! ## 4. Strings -/

theorem hexValue?_digitChar {n : Nat} (h : n < 16) : hexValue? (Nat.digitChar n) = some n := by
  interval_cases n <;> decide

-- A control character is read from its code in four digits.
theorem tokensFrom_control {c : Char} (h : c.toNat < 0x20) (acc cs : List Char) :
    tokensFrom (.inText acc) ('\\' :: 'u' :: '0' :: '0' :: Nat.digitChar (c.toNat / 16) ::
      Nat.digitChar (c.toNat % 16) :: cs) = tokensFrom (.inText (c :: acc)) cs := by
  have hhigh : hexValue? (Nat.digitChar (c.toNat / 16)) = some (c.toNat / 16) :=
    hexValue?_digitChar (by omega)
  have hlow : hexValue? (Nat.digitChar (c.toNat % 16)) = some (c.toNat % 16) :=
    hexValue?_digitChar (by omega)
  have hopened (r : List Char) : tokensFrom (.inText acc) ('\\' :: 'u' :: '0' :: '0' :: r) =
      tokensFrom (.hex acc none 2 0) r := by
    rw [tokensFrom_quiet rfl, tokensFrom_quiet rfl, tokensFrom_quiet rfl, tokensFrom_quiet rfl]
    rfl
  have hbefore : scanStep (.hex acc none 2 0) (Nat.digitChar (c.toNat / 16)) =
      some (.hex acc none 1 (c.toNat / 16), []) := by
    simp [scanStep, hhigh]
  -- Codes of control characters are no halves of a pair.
  have hfinished : finishHex acc none c.toNat = some (.inText (c :: acc)) := by
    simp only [finishHex, Bool.and_eq_true, decide_eq_true_eq]
    rw [if_neg (by omega), if_neg (by omega), Char.ofNat_toNat]
  have hlast : scanStep (.hex acc none 1 (c.toNat / 16)) (Nat.digitChar (c.toNat % 16)) =
      some (.inText (c :: acc), []) := by
    simp [scanStep, hlow, Nat.div_add_mod', hfinished]
  rw [hopened, tokensFrom_quiet hbefore, tokensFrom_quiet hlast]

-- A character of a string is read from what it is written as.
theorem tokensFrom_escapeText (c : Char) (acc cs : List Char) :
    tokensFrom (.inText acc) (escapeText c ++ cs) = tokensFrom (.inText (c :: acc)) cs := by
  unfold escapeText
  split
  -- What is written with a letter behind a backslash.
  all_goals try
    rw [List.cons_append, List.cons_append, List.nil_append, tokensFrom_quiet rfl,
      tokensFrom_quiet rfl]
  rename_i hquote hbackslash _ _ _ _ _
  split
  · rename_i hcontrol
    exact tokensFrom_control hcontrol acc cs
  · rename_i hplain
    have hstep : scanStep (.inText acc) c = some (.inText (c :: acc), []) := by
      rw [scanStep, if_neg (by simpa using hquote), if_neg (by simpa using hbackslash),
        if_neg hplain]
    rw [List.singleton_append, tokensFrom_quiet hstep]

theorem spells_quote (s : String) (rest : List Char) : Spells (quote s).toList (.text s) rest := by
  have hchars (cs acc : List Char) :
      tokensFrom (.inText acc) (cs.flatMap escapeText ++ '"' :: rest) =
        tokensFrom (.inText (cs.reverse ++ acc)) ('"' :: rest) := by
    induction cs generalizing acc with
    | nil => rfl
    | cons c cs ih =>
      rw [List.flatMap_cons, List.append_assoc, tokensFrom_escapeText, ih]
      simp
  have hend : scanStep (.inText (s.toList.reverse ++ [])) '"' = some (.between, [.text s]) := by
    simp [scanStep]
  have htext : (quote s).toList ++ rest = '"' :: (s.toList.flatMap escapeText ++ '"' :: rest) := by
    simp [quote]
  rw [Spells, htext, tokensFrom_quiet rfl, hchars, tokensFrom_cons hend]
  rfl

/-! ## 5. Documents -/

/-- A document that nests `n` deep at most, without fractional numbers and with integers of 64 bits
(`IsWord`) only. -/
inductive Fits : Nat → Json → Prop where
  | null (n : Nat) : Fits n .null
  | bool (n : Nat) (b : Bool) : Fits n (.bool b)
  | int (n : Nat) {k : Int} : IsWord k → Fits n (.int k)
  | str (n : Nat) (s : String) : Fits n (.str s)
  | arr {n : Nat} {items : List Json} : (∀ j ∈ items, Fits n j) → Fits (n + 1) (.arr items)
  | obj {n : Nat} {members : List (String × Json)} :
    (∀ m ∈ members, Fits n m.2) → Fits (n + 1) (.obj members)

/-- What a reader makes of the rest of a text. -/
def readFrom (r : Reading) (cs : List Char) : Option Reading :=
  (tokensFrom .between cs).bind (·.foldlM readStep r)

theorem readFrom_of_spells {w rest : List Char} {t : Token} (h : Spells w t rest) (r : Reading) :
    readFrom r (w ++ rest) = (readStep r t).bind (readFrom · rest) := by
  unfold readFrom
  rw [h, Option.bind_map]
  cases tokensFrom .between rest with
  | none => cases readStep r t <;> rfl
  | some tokens => simp [List.foldlM_cons]

-- A bracket, a comma or a colon.
theorem readFrom_cons {c : Char} {t : Token} (hscan : scanBetween c = (.between, [t]))
    {r r' : Reading} (hread : readStep r t = some r') (rest : List Char) :
    readFrom r (c :: rest) = readFrom r' rest := by
  have hstep : scanStep .between c = some (.between, [t]) := by rw [scanStep, hscan]
  have hspells : Spells [c] t rest := by
    rw [Spells, List.singleton_append, tokensFrom_cons hstep]
    rfl
  rw [← List.singleton_append, readFrom_of_spells hspells, hread, Option.bind_some]

/-- Wherever a value may come, the `compact` text of a document is read as the document. -/
def Taken (n : Nat) (j : Json) : Prop :=
  ∀ (frames : List Frame) (want : Want) (rest : List Char), frames.length + n ≤ depthLimit →
    want = .value ∨ want = .firstItem → EndsWord rest →
    readFrom ⟨frames, want⟩ (j.compact.toList ++ rest) = readFrom (deliver j frames) rest

theorem taken_of_spells {n : Nat} {j : Json}
    (h : ∀ rest, EndsWord rest → Spells j.compact.toList (.scalar j) rest) : Taken n j := by
  intro frames want rest _ hwant hends
  rw [readFrom_of_spells (h rest hends)]
  rcases hwant with rfl | rfl <;> rfl

theorem compactItems_eq_map (items : List Json) : compactItems items = items.map compact := by
  induction items with
  | nil => rfl
  | cons j rest ih => rw [compactItems, ih, List.map_cons]

def memberText (m : String × Json) : String := quote m.1 ++ ":" ++ m.2.compact

theorem compactMembers_eq_map (members : List (String × Json)) :
    compactMembers members = members.map memberText := by
  induction members with
  | nil => rfl
  | cons m rest ih => rw [compactMembers, ih, List.map_cons, memberText]

/-- What follows the first of several texts with commas between them. -/
def commaTexts (texts : List String) : List Char := texts.flatMap fun s => ',' :: s.toList

theorem toList_intercalate (s : String) (texts : List String) :
    (",".intercalate (s :: texts)).toList = s.toList ++ commaTexts texts := by
  induction texts generalizing s with
  | nil => simp [commaTexts]
  | cons t texts ih =>
    rw [String.intercalate_cons_cons, String.toList_append, String.toList_append, ih]
    simp [commaTexts]

theorem endsWord_commaTexts {c : Char} (h : endsWord c = true) (texts : List String)
    (rest : List Char) : EndsWord (commaTexts texts ++ c :: rest) := by
  cases texts with
  | nil => simpa [EndsWord, commaTexts] using h
  | cons t texts =>
    have hcomma : endsWord ',' = true := by decide
    simpa [EndsWord, commaTexts] using hcomma

section

variable {n : Nat} {frames : List Frame} (hdepth : frames.length + (n + 1) ≤ depthLimit)

include hdepth

-- The items of a list that has been begun.
theorem readFrom_items {items : List Json} (h : ∀ j ∈ items, Taken n j) (before : List Json)
    (rest : List Char) :
    readFrom ⟨.list before :: frames, .separator⟩
        (commaTexts (items.map compact) ++ ']' :: rest) =
      readFrom (deliver (.arr (before.reverse ++ items)) frames) rest := by
  induction items generalizing before with
  | nil =>
    rw [List.append_nil]
    exact readFrom_cons rfl rfl rest
  | cons j items ih =>
    have htext : commaTexts ((j :: items).map compact) ++ ']' :: rest =
        ',' :: (j.compact.toList ++ (commaTexts (items.map compact) ++ ']' :: rest)) := by
      simp [commaTexts]
    have hj := h j List.mem_cons_self (.list before :: frames) .value
      (commaTexts (items.map compact) ++ ']' :: rest) (by rw [List.length_cons]; omega) (.inl rfl)
      (endsWord_commaTexts (by decide) _ _)
    rw [htext]
    refine (readFrom_cons rfl rfl _).trans (hj.trans ?_)
    refine (ih (fun k hk => h k (List.mem_cons_of_mem _ hk)) (j :: before)).trans ?_
    rw [List.reverse_cons, List.append_assoc, List.singleton_append]

-- A key with its value.
theorem readFrom_member {m : String × Json} (h : Taken n m.2) {want : Want}
    (hwant : want = .firstKey ∨ want = .key) (before : List (String × Json)) (key : String)
    {rest : List Char} (hends : EndsWord rest) :
    readFrom ⟨.object before key :: frames, want⟩ ((memberText m).toList ++ rest) =
      readFrom ⟨.object (m :: before) m.1 :: frames, .separator⟩ rest := by
  have htext : (memberText m).toList ++ rest =
      (quote m.1).toList ++ (':' :: (m.2.compact.toList ++ rest)) := by simp [memberText]
  have hkey : readStep ⟨.object before key :: frames, want⟩ (.text m.1) =
      some ⟨.object before m.1 :: frames, .colon⟩ := by
    rcases hwant with rfl | rfl <;> rfl
  have hvalue := h (.object before m.1 :: frames) .value rest (by rw [List.length_cons]; omega)
    (.inl rfl) hends
  rw [htext, readFrom_of_spells (spells_quote m.1 _), hkey]
  exact (readFrom_cons rfl rfl _).trans hvalue

-- The members of an object that has been begun.
theorem readFrom_members {members : List (String × Json)} (h : ∀ m ∈ members, Taken n m.2)
    (before : List (String × Json)) (key : String) (rest : List Char) :
    readFrom ⟨.object before key :: frames, .separator⟩
        (commaTexts (members.map memberText) ++ '}' :: rest) =
      readFrom (deliver (.obj (before.reverse ++ members)) frames) rest := by
  induction members generalizing before key with
  | nil =>
    rw [List.append_nil]
    exact readFrom_cons rfl rfl rest
  | cons m members ih =>
    have htext : commaTexts ((m :: members).map memberText) ++ '}' :: rest =
        ',' :: ((memberText m).toList ++ (commaTexts (members.map memberText) ++ '}' :: rest)) := by
      simp [commaTexts]
    rw [htext]
    refine (readFrom_cons rfl rfl _).trans ?_
    refine (readFrom_member hdepth (h m List.mem_cons_self) (.inr rfl) before key
      (endsWord_commaTexts (by decide) _ _)).trans ?_
    refine (ih (fun k hk => h k (List.mem_cons_of_mem _ hk)) (m :: before) m.1).trans ?_
    rw [List.reverse_cons, List.append_assoc, List.singleton_append]

end

theorem taken_arr {n : Nat} {items : List Json} (h : ∀ j ∈ items, Taken n j) :
    Taken (n + 1) (.arr items) := by
  intro frames want rest hdepth hwant hends
  have henter : readStep ⟨frames, want⟩ .openList = some ⟨.list [] :: frames, .firstItem⟩ := by
    have hroom : frames.length < depthLimit := by omega
    rcases hwant with rfl | rfl <;> exact if_pos hroom
  cases items with
  | nil => exact (readFrom_cons rfl henter _).trans (readFrom_cons rfl rfl rest)
  | cons j items =>
    have htext : (compact (.arr (j :: items))).toList ++ rest =
        '[' :: (j.compact.toList ++ (commaTexts (items.map compact) ++ ']' :: rest)) := by
      rw [compact, compactItems_eq_map, List.map_cons, String.toList_append, String.toList_append,
        toList_intercalate]
      simp
    have hj := h j List.mem_cons_self (.list [] :: frames) .firstItem
      (commaTexts (items.map compact) ++ ']' :: rest) (by rw [List.length_cons]; omega) (.inr rfl)
      (endsWord_commaTexts (by decide) _ _)
    rw [htext]
    refine (readFrom_cons rfl henter _).trans ?_
    exact hj.trans (readFrom_items hdepth (fun k hk => h k (List.mem_cons_of_mem _ hk)) [j] rest)

theorem taken_obj {n : Nat} {members : List (String × Json)} (h : ∀ m ∈ members, Taken n m.2) :
    Taken (n + 1) (.obj members) := by
  intro frames want rest hdepth hwant hends
  have henter : readStep ⟨frames, want⟩ .openObject =
      some ⟨.object [] "" :: frames, .firstKey⟩ := by
    have hroom : frames.length < depthLimit := by omega
    rcases hwant with rfl | rfl <;> exact if_pos hroom
  cases members with
  | nil => exact (readFrom_cons rfl henter _).trans (readFrom_cons rfl rfl rest)
  | cons m members =>
    have htext : (compact (.obj (m :: members))).toList ++ rest =
        '{' :: ((memberText m).toList ++ (commaTexts (members.map memberText) ++ '}' :: rest)) := by
      rw [compact, compactMembers_eq_map, List.map_cons, String.toList_append,
        String.toList_append, toList_intercalate]
      simp
    rw [htext]
    refine (readFrom_cons rfl henter _).trans ?_
    refine (readFrom_member hdepth (h m List.mem_cons_self) (.inl rfl) [] ""
      (endsWord_commaTexts (by decide) _ _)).trans ?_
    exact readFrom_members hdepth (fun k hk => h k (List.mem_cons_of_mem _ hk)) [m] m.1 rest

theorem taken_of_fits {n : Nat} {j : Json} (h : Fits n j) : Taken n j := by
  induction h with
  | null n =>
    have hword : (compact .null).toList = ['n', 'u', 'l', 'l'] := rfl
    refine taken_of_spells fun rest hends => ?_
    rw [hword]
    exact spells_word (List.cons_ne_nil _ _) (by simp [endsWord, isSpace]) hends rfl
  | bool n b =>
    have hword : (compact (.bool b)).toList =
        if b then ['t', 'r', 'u', 'e'] else ['f', 'a', 'l', 's', 'e'] := by cases b <;> rfl
    refine taken_of_spells fun rest hends => ?_
    rw [hword]
    cases b <;> exact spells_word (List.cons_ne_nil _ _) (by simp [endsWord, isSpace]) hends rfl
  | int n hword => exact taken_of_spells fun rest hends => spells_int hword hends
  | str n s =>
    intro frames want rest _ hwant _
    rw [compact, readFrom_of_spells (spells_quote s rest)]
    rcases hwant with rfl | rfl <;> rfl
  | arr _ ih => exact taken_arr ih
  | obj _ ih => exact taken_obj ih

/-- A document that `Fits` is read from its `compact` text. -/
theorem parse_compact {j : Json} (h : Fits depthLimit j) : parse j.compact = some j := by
  have hread : readFrom ⟨[], .value⟩ (j.compact.toList ++ []) = some (deliver j []) :=
    taken_of_fits h [] .value [] (by simp) (.inl rfl) (by simp [EndsWord])
  rw [List.append_nil] at hread
  obtain ⟨tokens, htokens, hlast⟩ := Option.bind_eq_some_iff.mp hread
  rw [parse, tokens?_eq, htokens]
  simp only [Option.bind_eq_bind, Option.bind_some, hlast]
  rfl

end Autoresponder.Json
