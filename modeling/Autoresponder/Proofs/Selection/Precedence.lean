import Autoresponder.Selection.Basic
import Mathlib.Data.List.Nodup
import Mathlib.Data.Prod.Lex
import Mathlib.Order.BooleanAlgebra.Basic

/-!
# The least candidate answers

Candidates are sorted and tried one after the other, and whoever takes up the message first answers
it. What comes of this can be said without any sorting: of the eligible candidates that match, the
least one answers, by its priority, the kind of its trigger and its age, flows before rules, and at
last by its place among all flows and rules of the account.
-/

namespace Autoresponder

/-! ## 1. Keys and places -/

instance : LinearOrder Instant where
  le_refl a := by rw [Instant.le_iff, Instant.lt_iff]; omega
  le_trans a b c hab hbc := by
    rw [Instant.le_iff, Instant.lt_iff] at *
    omega
  lt_iff_le_not_ge a b := by
    rw [Instant.le_iff, Instant.le_iff, Instant.lt_iff, Instant.lt_iff]
    omega
  le_antisymm a b hab hba := by
    rw [Instant.le_iff, Instant.lt_iff] at *
    have hseconds : a.seconds = b.seconds := by omega
    have hnanos : a.nanos = b.nanos := by omega
    cases a
    cases b
    subst hseconds hnanos
    rfl
  le_total a b := by
    rw [Instant.le_iff, Instant.le_iff, Instant.lt_iff, Instant.lt_iff]
    omega
  toDecidableLE := inferInstance

namespace Candidate

/-- What `Candidate.notBehind` compares by: priority, the kind of the trigger, age, and what
candidates are. -/
abbrev Key := ℤ ×ₗ ℕ ×ₗ Instant ×ₗ Bool

def key (c : Candidate) : Key :=
  toLex (c.priority, toLex (c.trigger.rank, toLex (c.created, c.isRule)))

theorem notBehind_iff {a b : Candidate} : a.notBehind b = true ↔ a.key ≤ b.key := by
  simp only [notBehind, key, Prod.Lex.toLex_le_toLex]
  split_ifs with hpriority hrank hcreated
  · simp [hpriority]
  · simp [not_not.mp hpriority, hrank]
  · simp [not_not.mp hpriority, not_not.mp hrank, hcreated]
  · rw [not_not.mp hpriority, not_not.mp hrank, not_not.mp hcreated]
    cases a.isRule <;> cases b.isRule <;> simp

/-- A candidate that takes part: it is active, and a flow can be walked (`problem?`). -/
def eligible : Candidate → Bool
  | flow f => f.isActive && f.problem?.isNone
  | rule r => r.isActive

end Candidate

/-- A flow or a rule, and its place among all of them. -/
abbrev Entry := Candidate × ℕ

/-- Where an entry stands. Only among entries with one key, which are all flows or all rules, their
places in the list matter. -/
def Entry.place (e : Entry) : Candidate.Key ×ₗ ℕ := toLex (e.1.key, e.2)

/-- The flows and the rules of an account, the eligible and the others, as they are given. -/
def entries (flows : List Flow) (rules : List Rule) : List Entry :=
  (flows.map Candidate.flow ++ rules.map Candidate.rule).zipIdx

theorem Entry.zipIdxLE_iff {a b : Entry} :
    List.zipIdxLE Candidate.notBehind a b = true ↔ a.place ≤ b.place := by
  unfold List.zipIdxLE place
  rw [Prod.Lex.toLex_le_toLex]
  simp only [Candidate.notBehind_iff]
  rcases lt_trichotomy a.1.key b.1.key with h | h | h
  · simp [h, h.le, h.not_ge]
  · simp [h]
  · simp [h.ne', h.not_gt, h.not_ge]

theorem nodup_snd_entries (flows : List Flow) (rules : List Rule) :
    ((entries flows rules).map Prod.snd).Nodup := by
  rw [entries, List.zipIdx_map_snd]
  exact List.nodup_range'

-- Entries of one list with one place are one entry.
theorem eq_of_place {es : List Entry} (hes : (es.map Prod.snd).Nodup) {a b : Entry} (ha : a ∈ es)
    (hb : b ∈ es) (h : a.place = b.place) : a = b :=
  List.inj_on_of_nodup_map hes ha hb (congrArg (fun place => (ofLex place).2) h)

/-! ## 2. Sorted entries -/

def sortedEntries (es : List Entry) : List Entry := es.mergeSort (List.zipIdxLE Candidate.notBehind)

section

variable {es : List Entry}

theorem sortedEntries_perm (es : List Entry) : (sortedEntries es).Perm es := es.mergeSort_perm _

@[simp] theorem mem_sortedEntries {e : Entry} : e ∈ sortedEntries es ↔ e ∈ es :=
  List.mem_mergeSort

theorem notBehind_trans (a b c : Candidate) :
    a.notBehind b = true → b.notBehind c = true → a.notBehind c = true := by
  simp only [Candidate.notBehind_iff]
  exact le_trans

theorem notBehind_total (a b : Candidate) : (a.notBehind b || b.notBehind a) = true := by
  simp only [Bool.or_eq_true, Candidate.notBehind_iff]
  exact le_total _ _

theorem pairwise_sortedEntries (hes : (es.map Prod.snd).Nodup) :
    (sortedEntries es).Pairwise fun a b => a.place < b.place := by
  have hle := List.pairwise_mergeSort (List.zipIdxLE_trans notBehind_trans)
    (List.zipIdxLE_total notBehind_total) es
  have hne : (sortedEntries es).Nodup := (sortedEntries_perm es).nodup_iff.mpr (.of_map _ hes)
  refine (hle.and hne).imp_of_mem fun ha hb hab => ?_
  refine lt_of_le_of_ne (Entry.zipIdxLE_iff.mp hab.1) fun heq => hab.2 ?_
  exact eq_of_place hes (mem_sortedEntries.mp ha) (mem_sortedEntries.mp hb) heq

/-- Sorting by place (`sortedEntries`) is the stable sort by `Candidate.notBehind` of candidates
that are given in their places. -/
theorem map_sortedEntries (hes : es.Pairwise fun a b => a.2 < b.2) :
    (sortedEntries es).map Prod.fst = (es.map Prod.fst).mergeSort Candidate.notBehind := by
  let byKey (a b : Entry) : Bool := a.1.notBehind b.1
  -- The places in the list and the places that entries carry are in the same order.
  have hcarried : es.mergeSort byKey = sortedEntries es := by
    rw [← List.mergeSort_zipIdx, sortedEntries]
    refine (List.map_mergeSort fun a ha b hb => ?_).trans (by rw [List.zipIdx_map_fst])
    have hiff : a.2 ≤ b.2 ↔ a.1.2 ≤ b.1.2 := by
      obtain ⟨hla, hea⟩ := List.mem_zipIdx' ha
      obtain ⟨hlb, heb⟩ := List.mem_zipIdx' hb
      rw [List.pairwise_iff_getElem] at hes
      rcases lt_trichotomy a.2 b.2 with h | h | h
      · have := hes _ _ hla hlb h
        rw [← hea, ← heb] at this
        omega
      · have : a.1 = b.1 := by rw [hea, heb]; simp only [h]
        simp [h, this]
      · have := hes _ _ hlb hla h
        rw [← hea, ← heb] at this
        omega
    simp only [List.zipIdxLE, byKey, hiff]
  rw [← hcarried]
  exact List.map_mergeSort fun _ _ _ _ => rfl

-- What is sorted out before or after sorting.
theorem filter_sortedEntries (hes : (es.map Prod.snd).Nodup) (p : Entry → Bool) :
    (sortedEntries es).filter p = sortedEntries (es.filter p) := by
  have hkept : ((es.filter p).map Prod.snd).Nodup := hes.sublist (List.filter_sublist.map _)
  have hordered : ((sortedEntries es).filter p).Pairwise fun a b => a.place < b.place :=
    (pairwise_sortedEntries hes).filter p
  refine List.Perm.eq_of_pairwise (fun a b _ _ hab hba => absurd hab hba.not_gt) hordered
    (pairwise_sortedEntries hkept) ?_
  exact ((sortedEntries_perm es).filter p).trans (sortedEntries_perm _).symm

end

/-- The `entries` that are `eligible`. -/
def eligibleEntries (flows : List Flow) (rules : List Rule) : List Entry :=
  (entries flows rules).filter (·.1.eligible)

section

variable {workspace account : String} {flows flows' : List Flow} {rules rules' : List Rule}
  {settings : AccountSettings}

theorem nodup_eligibleEntries : ((eligibleEntries flows rules).map Prod.snd).Nodup :=
  (nodup_snd_entries flows rules).sublist (List.filter_sublist.map _)

theorem map_eligibleEntries :
    (eligibleEntries flows rules).map Prod.fst =
      (flows.map Candidate.flow ++ rules.map Candidate.rule).filter Candidate.eligible := by
  have hfirst : (fun e : Entry => e.1.eligible) = Candidate.eligible ∘ Prod.fst := rfl
  rw [eligibleEntries, hfirst, ← List.filter_map, entries, List.zipIdx_map_fst]

theorem pairwise_eligibleEntries :
    (eligibleEntries flows rules).Pairwise fun a b => a.2 < b.2 := by
  refine List.Pairwise.filter _ (List.pairwise_map.mp ?_)
  rw [entries, List.zipIdx_map_snd]
  exact List.pairwise_lt_range'

/-- The candidates of `Snapshot.ofAccount` are its `eligibleEntries` by their places. -/
theorem candidates_ofAccount :
    (Snapshot.ofAccount workspace account flows rules settings).candidates =
      (sortedEntries (eligibleEntries flows rules)).map Prod.fst := by
  rw [map_sortedEntries pairwise_eligibleEntries, map_eligibleEntries, List.filter_append,
    List.filter_map, List.filter_map]
  rfl

end

/-! ## 3. The first that matches -/

section

variable {found : Candidate → Option Selected} {es : List Entry} {selected : Selected}

/-- An entry that wins among those of `es`: `found` has something for it, and for no other one that
stands before it. -/
structure Wins (found : Candidate → Option Selected) (es : List Entry) (e : Entry) : Prop where
  mem : e ∈ es
  takes : (found e.1).isSome = true
  least : ∀ e' ∈ es, (found e'.1).isSome = true → e.place ≤ e'.place

-- The entries in front of the first that matches, that one, and those behind it.
theorem wins_iff_split (hes : (es.map Prod.snd).Nodup) {e : Entry} :
    Wins found es e ↔ (found e.1).isSome = true ∧ ∃ front back,
      sortedEntries es = front ++ e :: back ∧ ∀ e' ∈ front, found e'.1 = none := by
  have hsorted := pairwise_sortedEntries hes
  constructor
  · rintro ⟨mem, hfound, least⟩
    obtain ⟨front, back, hsplit⟩ := List.append_of_mem (mem_sortedEntries.mpr mem)
    refine ⟨hfound, front, back, hsplit, fun e' he' => ?_⟩
    rw [hsplit, List.pairwise_append] at hsorted
    by_contra h
    have hmem : e' ∈ es := by
      rw [← mem_sortedEntries, hsplit]
      exact List.mem_append_left _ he'
    have hle := least e' hmem (Option.isSome_iff_ne_none.mpr h)
    exact absurd (hsorted.2.2 e' he' e (by simp)) hle.not_gt
  · rintro ⟨hfound, front, back, hsplit, hfront⟩
    rw [hsplit, List.pairwise_append, List.pairwise_cons] at hsorted
    refine ⟨by rw [← mem_sortedEntries, hsplit]; simp, hfound, fun e' he' hfound' => ?_⟩
    rw [← mem_sortedEntries, hsplit, List.mem_append, List.mem_cons] at he'
    rcases he' with hmem | rfl | hmem
    · rw [hfront e' hmem] at hfound'
      cases hfound'
    · exact le_rfl
    · exact (hsorted.2.1.1 e' hmem).le

theorem findSome?_sortedEntries (hes : (es.map Prod.snd).Nodup) :
    ((sortedEntries es).map Prod.fst).findSome? found = some selected ↔
      ∃ e, Wins found es e ∧ found e.1 = some selected := by
  rw [List.findSome?_map, List.findSome?_eq_some_iff]
  constructor
  · rintro ⟨front, e, back, hsplit, hselected, hfront⟩
    refine ⟨e, (wins_iff_split hes).mpr ⟨?_, front, back, hsplit, hfront⟩, hselected⟩
    rw [show found e.1 = some selected from hselected]
    rfl
  · rintro ⟨e, wins, hselected⟩
    obtain ⟨-, front, back, hsplit, hfront⟩ := (wins_iff_split hes).mp wins
    exact ⟨front, e, back, hsplit, hselected, hfront⟩

-- What does not match is not missed.
theorem findSome?_filter_isSome {α β : Type} (f : α → Option β) (l : List α) :
    (l.filter fun a => (f a).isSome).findSome? f = l.findSome? f := by
  induction l with
  | nil => rfl
  | cons a l ih => cases h : f a <;> simp [h, ih]

/-- The candidates that are tried: all up to the first one for which `found` has something. -/
def tried (found : Candidate → Option Selected) : List Candidate → List Candidate
  | [] => []
  | c :: rest => if (found c).isSome then [c] else c :: tried found rest

-- What is tried up to the first that matches.
theorem tried_of_split {front back : List Candidate} {c : Candidate}
    (hfront : ∀ d ∈ front, found d = none) (hc : (found c).isSome = true) :
    tried found (front ++ c :: back) = front ++ [c] := by
  induction front with
  | nil => simp [tried, hc]
  | cons d front ih =>
    have hd : found d = none := hfront d (by simp)
    rw [List.cons_append, tried, hd, if_neg (by simp),
      ih fun d' hd' => hfront d' (List.mem_cons_of_mem _ hd'), List.cons_append]

theorem tried_of_none {cs : List Candidate} (h : ∀ c ∈ cs, found c = none) :
    tried found cs = cs := by
  induction cs with
  | nil => rfl
  | cons c cs ih =>
    rw [tried, h c (by simp), if_neg (by simp),
      ih fun c' hc' => h c' (List.mem_cons_of_mem _ hc')]

-- Up to the one that wins are the entries that do not stand behind it.
theorem tried_sortedEntries (hes : (es.map Prod.snd).Nodup) {e : Entry} (wins : Wins found es e) :
    tried found ((sortedEntries es).map Prod.fst) =
      ((sortedEntries es).filter fun e' => decide (e'.place ≤ e.place)).map Prod.fst := by
  obtain ⟨hfound, front, back, hsplit, hfront⟩ := (wins_iff_split hes).mp wins
  have hsorted := pairwise_sortedEntries hes
  rw [hsplit, List.pairwise_append, List.pairwise_cons] at hsorted
  have hbefore : front.filter (fun e' => decide (e'.place ≤ e.place)) = front :=
    List.filter_eq_self.mpr fun e' he' =>
      decide_eq_true (hsorted.2.2 e' he' e (by simp)).le
  have hbehind : back.filter (fun e' => decide (e'.place ≤ e.place)) = [] :=
    List.filter_eq_nil_iff.mpr fun e' he' => by
      simpa using hsorted.2.1.1 e' he'
  rw [hsplit, List.filter_append, List.filter_cons_of_pos (by simp), hbefore, hbehind,
    List.map_append, List.map_cons, tried_of_split ?_ hfound, List.map_append]
  · rfl
  · intro d hd
    obtain ⟨e', he', rfl⟩ := List.mem_map.mp hd
    exact hfront e' he'

end

/-! ## 4. Selection -/

/-- `Snapshot.selectFrom` evaluates the first candidate first, and the others only if it does not
match. -/
theorem selectFrom_cons (sn : Snapshot) (m : Matcher) (q : Query) (c : Candidate)
    (rest : List Candidate) (asked : List Lookup) :
    sn.selectFrom m q (c :: rest) asked = match sn.evaluate m q c asked with
      | (some found, asked) => (some found, asked)
      | (none, asked) => sn.selectFrom m q rest asked := by
  rw [Snapshot.selectFrom]
  simp only [bind, StateT.bind]
  rcases sn.evaluate m q c asked with ⟨_ | _, _⟩ <;> rfl

-- What is selected names the candidate whose trigger it was.
theorem candidate_of_evaluate {sn : Snapshot} {m : Matcher} {q : Query} {c : Candidate}
    {asked : List Lookup} {selected : Selected}
    (h : (sn.evaluate m q c asked).1 = some selected) : selected.candidate = c := by
  unfold Snapshot.evaluate at h
  cases htrigger : c.trigger <;> simp only [htrigger] at h
  case faq =>
    cases hknowledge : m.knowledge with
    | none =>
      rw [hknowledge] at h
      cases h
    | some kb =>
      rw [hknowledge] at h
      obtain ⟨a, -, rfl⟩ := Option.map_eq_some_iff.mp h
      rfl
  case command | exactMatch | keyword =>
    obtain ⟨k, -, rfl⟩ := Option.map_eq_some_iff.mp h
    rfl
  case welcome =>
    obtain ⟨-, h⟩ := Option.ite_none_right_eq_some.mp h
    rw [← Option.some.inj h]
  case away =>
    obtain ⟨-, h⟩ := Option.ite_none_left_eq_some.mp h
    rw [← Option.some.inj h]
  case anyMessage | aiChat | fallback =>
    rw [← Option.some.inj h]

/-- What a selection goes by, apart from flows and rules. By `knowledge` a question is answered the
same whatever was asked before. -/
structure Situation where
  workspace : String
  account : String
  settings : AccountSettings
  knowledge : Option (Lookup → Except AutomationError (Option FaqAnswer))
  threshold : Decimal.Single
  zones : Zones
  patterns : PatternReader
  query : Query

namespace Situation

variable (x : Situation) (flows : List Flow) (rules : List Rule)

def matcher : Matcher :=
  ⟨x.knowledge.map fun answers _ => answers, x.threshold, x.zones, x.patterns⟩

def snapshot : Snapshot := .ofAccount x.workspace x.account flows rules x.settings

/-- What `Snapshot.select` finds among flows and rules. -/
def select : Option Selected := ((x.snapshot flows rules).select x.matcher x.query).1

/-- What `Snapshot.select` asks of the knowledge base on the way. -/
def lookups : List Lookup := ((x.snapshot flows rules).select x.matcher x.query).2

/-- What `Snapshot.evaluate` has for a candidate. This depends on no other candidate. -/
def found (c : Candidate) : Option Selected :=
  ((x.snapshot [] []).evaluate x.matcher x.query c []).1

def lookup : Lookup := ⟨x.workspace, x.account, x.query.text⟩

/-- There is a knowledge base, and something to ask. -/
def Asks : Prop := x.knowledge.isSome = true ∧ Text.blank x.query.text = false

instance : Decidable x.Asks := inferInstanceAs (Decidable (_ ∧ _))

variable {x flows rules}

-- What comes of a question does not depend on those before it, and it is asked unless it is blank.
theorem run_answer? {answers : Lookup → Except AutomationError (Option FaqAnswer)}
    (threshold : Decimal.Single) (asked : List Lookup) :
    (x.snapshot flows rules).answer? (fun _ => answers) threshold x.query asked =
      (((x.snapshot [] []).answer? (fun _ => answers) threshold x.query []).1,
        if Text.blank x.query.text then asked else x.lookup :: asked) := by
  unfold Snapshot.answer?
  cases Text.blank x.query.text <;> rfl

-- A trigger for questions takes up what its answer is.
theorem run_evaluate_faq {c : Candidate} (hc : c.trigger = .faq)
    {answers : Lookup → Except AutomationError (Option FaqAnswer)}
    (hknowledge : x.knowledge = some answers) (asked : List Lookup) :
    (x.snapshot flows rules).evaluate x.matcher x.query c asked =
      (((x.snapshot flows rules).answer? (fun _ => answers)
          (c.config.threshold.getD x.threshold) x.query asked).1.map fun a =>
            { candidate := c, faq := some a },
        ((x.snapshot flows rules).answer? (fun _ => answers)
          (c.config.threshold.getD x.threshold) x.query asked).2) := by
  have hmatcher : x.matcher.knowledge = some fun _ => answers := by
    rw [matcher, hknowledge]
    rfl
  unfold Snapshot.evaluate
  simp only [hc, hmatcher]
  rfl

-- Without a knowledge base it takes up nothing.
theorem run_evaluate_silent {c : Candidate} (hc : c.trigger = .faq) (hknowledge : x.knowledge = none)
    (asked : List Lookup) :
    (x.snapshot flows rules).evaluate x.matcher x.query c asked = (none, asked) := by
  have hmatcher : x.matcher.knowledge = none := by
    rw [matcher, hknowledge]
    rfl
  unfold Snapshot.evaluate
  simp only [hc, hmatcher]
  rfl

/-- `Snapshot.evaluate` looks at one candidate by itself (`Situation.found`). If its trigger is
`faq` it asks, if that is possible (`Situation.Asks`). -/
theorem evaluate_eq (c : Candidate) (asked : List Lookup) :
    (x.snapshot flows rules).evaluate x.matcher x.query c asked =
      (x.found c, if c.trigger = .faq ∧ x.Asks then x.lookup :: asked else asked) := by
  by_cases hc : c.trigger = .faq
  · cases hknowledge : x.knowledge with
    | none =>
      rw [found, run_evaluate_silent hc hknowledge, run_evaluate_silent hc hknowledge, if_neg]
      rintro ⟨-, hsome, -⟩
      rw [hknowledge] at hsome
      cases hsome
    | some answers =>
      rw [found, run_evaluate_faq hc hknowledge, run_evaluate_faq hc hknowledge, run_answer?]
      cases hblank : Text.blank x.query.text <;> simp [Asks, hc, hknowledge, hblank]
  · rw [if_neg fun h => hc h.1]
    unfold found Snapshot.evaluate
    cases htrigger : c.trigger with
    | faq => exact absurd htrigger hc
    | _ => rfl

/-- Candidates are `tried` up to the first that is found to match, and those whose trigger is `faq`
ask. -/
theorem selectFrom_eq (cs : List Candidate) (asked : List Lookup) :
    (x.snapshot flows rules).selectFrom x.matcher x.query cs asked =
      (cs.findSome? x.found,
        List.replicate ((tried x.found cs).countP fun c => decide (c.trigger = .faq ∧ x.Asks))
          x.lookup ++ asked) := by
  induction cs generalizing asked with
  | nil => rfl
  | cons c rest ih =>
    have hasks : (if c.trigger = .faq ∧ x.Asks then x.lookup :: asked else asked) =
        List.replicate (if c.trigger = .faq ∧ x.Asks then 1 else 0) x.lookup ++ asked := by
      split <;> rfl
    rw [selectFrom_cons, evaluate_eq, hasks, List.findSome?_cons, tried]
    cases hfound : x.found c with
    | some selected => simp [List.countP_cons]
    | none =>
      dsimp only
      rw [ih, ← List.append_assoc, List.replicate_append_replicate]
      simp [List.countP_cons]

theorem select_eq :
    x.select flows rules =
      ((sortedEntries (eligibleEntries flows rules)).map Prod.fst).findSome? x.found := by
  rw [select, Snapshot.select, selectFrom_eq, snapshot, candidates_ofAccount]

-- One question for each of some entries that ask.
theorem lookups_of_tried (h : x.Asks) {es : List Entry}
    (htried : (tried x.found
      ((sortedEntries (eligibleEntries flows rules)).map Prod.fst)).Perm (es.map Prod.fst)) :
    x.lookups flows rules =
      List.replicate (es.countP fun e => decide (e.1.trigger = .faq)) x.lookup := by
  rw [lookups, Snapshot.select, selectFrom_eq, List.append_nil, snapshot, candidates_ofAccount,
    htried.countP_eq, List.countP_map]
  simp only [h, and_true]
  rfl

-- What is eligible does not matter if it does not match.
theorem select_eq_of_found :
    x.select flows rules =
      (((flows.map Candidate.flow ++ rules.map Candidate.rule).filter fun c =>
        c.eligible && (x.found c).isSome).mergeSort Candidate.notBehind).findSome? x.found := by
  let takes (e : Entry) : Bool := (x.found e.1).isSome
  have hplaced : ((eligibleEntries flows rules).filter takes).Pairwise fun a b => a.2 < b.2 :=
    pairwise_eligibleEntries.filter takes
  have hmap : ((eligibleEntries flows rules).filter takes).map Prod.fst =
      (flows.map Candidate.flow ++ rules.map Candidate.rule).filter fun c =>
        c.eligible && (x.found c).isSome := by
    have hfirst : takes = (fun c => (x.found c).isSome) ∘ Prod.fst := rfl
    rw [hfirst, ← List.filter_map, map_eligibleEntries, List.filter_filter]
    simp only [Bool.and_comm]
  rw [← hmap, ← map_sortedEntries hplaced, ← filter_sortedEntries nodup_eligibleEntries,
    select_eq, List.findSome?_map, List.findSome?_map]
  exact (findSome?_filter_isSome _ _).symm

theorem select_of_perm {flows' : List Flow} {rules' : List Rule} (hflows : flows'.Perm flows)
    (hrules : rules'.Perm rules) (distinct : ((eligibleEntries flows rules).map (·.1.key)).Nodup) :
    x.select flows' rules' = x.select flows rules := by
  have hcandidates : (x.snapshot flows' rules').candidates = (x.snapshot flows rules).candidates := by
    have hperm : (x.snapshot flows' rules').candidates.Perm (x.snapshot flows rules).candidates := by
      refine (List.mergeSort_perm _ _).trans (.trans ?_ (List.mergeSort_perm _ _).symm)
      exact ((hflows.filter _).map _).append ((hrules.filter _).map _)
    have hsorted (flows : List Flow) (rules : List Rule) :=
      List.pairwise_mergeSort notBehind_trans notBehind_total
        ((x.snapshot flows rules).flows.map Candidate.flow ++
          (x.snapshot flows rules).rules.map Candidate.rule)
    refine List.Perm.eq_of_pairwise (fun a b ha hb hab hba => ?_) (hsorted flows' rules')
      (hsorted flows rules) hperm
    rw [Candidate.notBehind_iff] at hab hba
    have hkeys : ((x.snapshot flows rules).candidates.map Candidate.key).Nodup := by
      rw [snapshot, candidates_ofAccount, List.map_map]
      exact (((sortedEntries_perm _).map _).nodup_iff).mpr distinct
    exact List.inj_on_of_nodup_map hkeys (hperm.mem_iff.mp ha) hb (le_antisymm hab hba)
  rw [select, select, Snapshot.select, Snapshot.select, hcandidates, selectFrom_eq, selectFrom_eq]

/-- A candidate whose trigger is `faq` takes up a message if there is a `KnowledgeBase`, the message
is not blank, and the knowledge base has an answer whose score comes up to the threshold. -/
theorem found_faq_iff {c : Candidate} (hc : c.trigger = .faq) :
    (x.found c).isSome = true ↔ ∃ base, x.knowledge = some base ∧
      Text.blank x.query.text = false ∧ ∃ a, base x.lookup = .ok (some a) ∧
        a.score.atLeast (c.config.threshold.getD x.threshold) = true := by
  cases hknowledge : x.knowledge with
  | none =>
    rw [found, run_evaluate_silent hc hknowledge]
    simp
  | some answers =>
    have hlookup : (x.snapshot [] []).lookup x.query = x.lookup := rfl
    rw [found, run_evaluate_faq hc hknowledge, Option.isSome_map]
    simp only [Snapshot.answer?, hlookup, Option.some.injEq, exists_eq_left']
    cases Text.blank x.query.text with
    | true => simp
    | false =>
      simp only [Bool.false_eq_true, if_false, true_and]
      split
      · rename_i a hanswer
        simp only [hanswer, Except.ok.injEq, Option.some.injEq, exists_eq_left']
        split <;> simp_all
      · rename_i hnone
        simp only [Option.isSome_none, Bool.false_eq_true, false_iff]
        rintro ⟨a, hanswer, -⟩
        exact hnone a hanswer

/-- A candidate that takes part and takes up the message. -/
def counts (x : Situation) (c : Candidate) : Bool := c.eligible && (x.found c).isSome

/-- What holds of `Situation.select` and `Situation.lookups`. -/
structure Selects (x : Situation) (flows : List Flow) (rules : List Rule) : Prop where
  /-- Nothing is selected if no eligible candidate matches, and only then. -/
  none_iff : x.select flows rules = none ↔
    ∀ e ∈ eligibleEntries flows rules, x.found e.1 = none
  /-- Else the least of those that match is selected, with what of its trigger took up the
  message. -/
  some_iff : ∀ selected, x.select flows rules = some selected ↔
    ∃ e, Wins x.found (eligibleEntries flows rules) e ∧ x.found e.1 = some selected ∧
      selected.candidate = e.1
  /-- A trigger for questions matches if the knowledge base has an answer that fits. -/
  faq_iff : ∀ c : Candidate, c.trigger = .faq →
    ((x.found c).isSome = true ↔ ∃ base, x.knowledge = some base ∧
      Text.blank x.query.text = false ∧ ∃ a, base x.lookup = .ok (some a) ∧
        a.score.atLeast (c.config.threshold.getD x.threshold) = true)
  /-- In which order flows and rules are given does not matter where keys are distinct. -/
  permuted : ∀ flows' rules', flows'.Perm flows → rules'.Perm rules →
    ((eligibleEntries flows rules).map (·.1.key)).Nodup →
      x.select flows' rules' = x.select flows rules
  /-- Flows and rules that are not eligible or do not match may be added and left out. -/
  others : ∀ flows' rules',
    flows'.filter (fun f => x.counts (.flow f)) = flows.filter (fun f => x.counts (.flow f)) →
    rules'.filter (fun r => x.counts (.rule r)) = rules.filter (fun r => x.counts (.rule r)) →
      x.select flows' rules' = x.select flows rules
  /-- Every eligible trigger for questions up to the winner asks once. -/
  asked : x.Asks → ∀ e, Wins x.found (eligibleEntries flows rules) e →
    x.lookups flows rules = List.replicate ((eligibleEntries flows rules).countP fun e' =>
      decide (e'.1.trigger = .faq) && decide (e'.place ≤ e.place)) x.lookup
  /-- If nobody wins, every eligible one does. -/
  asked_all : x.Asks → x.select flows rules = none →
    x.lookups flows rules = List.replicate ((eligibleEntries flows rules).countP fun e' =>
      decide (e'.1.trigger = .faq)) x.lookup
  /-- Without a knowledge base, or with nothing to ask, nobody does. -/
  silent : ¬ x.Asks → x.lookups flows rules = []

theorem select_eq_none_iff :
    x.select flows rules = none ↔ ∀ e ∈ eligibleEntries flows rules, x.found e.1 = none := by
  rw [select_eq, List.findSome?_map, List.findSome?_eq_none_iff]
  simp only [mem_sortedEntries, Function.comp_apply]

theorem filter_counts :
    ((flows.map Candidate.flow ++ rules.map Candidate.rule).filter fun c =>
        c.eligible && (x.found c).isSome) =
      (flows.filter fun f => x.counts (.flow f)).map Candidate.flow ++
        (rules.filter fun r => x.counts (.rule r)).map Candidate.rule := by
  rw [List.filter_append, List.filter_map, List.filter_map]
  rfl

/-- **The least candidate that matches is selected.** Whatever `flows` and `rules` are given,
`Snapshot.select` finds the least eligible candidate that matches, by priority, kind of trigger,
age, flows before rules, and place in the list, and nothing if none matches. Where no two eligible
candidates tie but for their places the order of the lists does not matter, and what is inactive,
invalid or does not match never does. The knowledge base is asked once for each eligible `faq`
trigger up to the winner. -/
theorem selects (x : Situation) (flows : List Flow) (rules : List Rule) : x.Selects flows rules where
  none_iff := select_eq_none_iff
  some_iff selected := by
    rw [select_eq, findSome?_sortedEntries nodup_eligibleEntries]
    constructor
    · rintro ⟨e, wins, hselected⟩
      exact ⟨e, wins, hselected, candidate_of_evaluate hselected⟩
    · rintro ⟨e, wins, hselected, -⟩
      exact ⟨e, wins, hselected⟩
  faq_iff _ := found_faq_iff
  permuted _ _ := select_of_perm
  others flows' rules' hflows hrules := by
    rw [select_eq_of_found, select_eq_of_found, filter_counts, filter_counts, hflows, hrules]
  asked hasks e wins := by
    have htried := tried_sortedEntries nodup_eligibleEntries wins
    have hperm := ((sortedEntries_perm (eligibleEntries flows rules)).filter
      fun e' => decide (e'.place ≤ e.place)).map Prod.fst
    rw [← htried] at hperm
    rw [lookups_of_tried hasks hperm, List.countP_filter]
  asked_all hasks hnone := by
    have hnone' := select_eq_none_iff.mp hnone
    refine lookups_of_tried hasks ?_
    rw [tried_of_none]
    · exact (sortedEntries_perm _).map _
    · intro c hc
      obtain ⟨e, he, rfl⟩ := List.mem_map.mp hc
      exact hnone' e (mem_sortedEntries.mp he)
  silent hsilent := by
    rw [lookups, Snapshot.select, selectFrom_eq]
    simp [hsilent]

end Situation

end Autoresponder
