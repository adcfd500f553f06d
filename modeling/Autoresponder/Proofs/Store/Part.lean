import Autoresponder.Proofs.Store.Configured

/-!
# Parts of a store

Of the conversations of a store those of one kind can be looked at alone, as long as the kind of a
conversation is that of its person. What is written for persons of that kind is then written to the
part, and what is written for others leaves the part as it is.
-/

namespace Autoresponder.Store

/-! ## 1. Rows of one kind -/

section

variable {ρ : Type} {rows : List ρ} {p q : ρ → Bool} {change : ρ → ρ}

-- What is looked for among some rows is found among those.
theorem find?_filter_of_imp (h : ∀ r ∈ rows, q r = true → p r = true) :
    (rows.filter p).find? q = rows.find? q := by
  induction rows with
  | nil => rfl
  | cons r rest ih =>
    have ih := ih fun r hr => h r (List.mem_cons_of_mem _ hr)
    by_cases hp : p r = true
    · rw [List.filter_cons_of_pos hp, List.find?_cons, List.find?_cons, ih]
    · have hq : q r = false := by
        simpa using mt (h r List.mem_cons_self) hp
      rw [List.filter_cons_of_neg hp, List.find?_cons, hq, ih]

theorem any_filter_of_imp (h : ∀ r ∈ rows, q r = true → p r = true) :
    (rows.filter p).any q = rows.any q := by
  rw [Bool.eq_iff_iff]
  simp only [List.any_eq_true, List.mem_filter]
  constructor
  · rintro ⟨r, ⟨hr, -⟩, hq⟩
    exact ⟨r, hr, hq⟩
  · rintro ⟨r, hr, hq⟩
    exact ⟨r, ⟨hr, h r hr hq⟩, hq⟩

-- Rows may change as long as they stay where they belong.
theorem filter_map_of_keeps (h : ∀ r, p (change r) = p r) :
    (rows.map change).filter p = (rows.filter p).map change := by
  rw [List.filter_map]
  congr 2
  exact funext h

-- If other rows change, these do not.
theorem filter_map_of_fixes (h : ∀ r, p (change r) = p r)
    (hfix : ∀ r ∈ rows, p r = true → change r = r) :
    (rows.map change).filter p = rows.filter p := by
  rw [filter_map_of_keeps h]
  conv_rhs => rw [← List.map_id (rows.filter p)]
  refine List.map_congr_left fun r hr => ?_
  obtain ⟨hr, hp⟩ := List.mem_filter.mp hr
  exact hfix r hr hp

-- Rows of one kind are the same if all rows are that are of another kind than some.
theorem filter_eq_of_hidden {rows' : List ρ}
    (h : rows.filter (!p ·) = rows'.filter (!p ·)) (hq : ∀ r, q r = true → p r = false) :
    rows.filter q = rows'.filter q := by
  have hfilter (rows : List ρ) : (rows.filter (!p ·)).filter q = rows.filter q := by
    rw [List.filter_filter]
    refine List.filter_congr fun r _ => ?_
    cases hr : q r with
    | true => rw [hq r hr]; rfl
    | false => rfl
  rw [← hfilter rows, h, hfilter]

-- Rows are the same but for their order if those of each kind are.
theorem perm_of_filter_eq {ι : Type} {kind : ι → ρ → Bool} {rows' : List ρ}
    (covers : ∀ r, ∃ i, kind i r = true) (h : ∀ i, rows.filter (kind i) = rows'.filter (kind i)) :
    rows.Perm rows' := by
  classical
  rw [List.perm_iff_count]
  intro r
  obtain ⟨i, hi⟩ := covers r
  rw [← List.count_filter hi, h i, List.count_filter hi]

-- Rows are the same if what they are told apart by is.
theorem eq_of_map_eq {α β : Type} {f : ρ → α} {g : ρ → β} {rows' : List ρ}
    (h : ∀ r r', f r = f r' → g r = g r' → r = r') (hf : rows.map f = rows'.map f)
    (hg : rows.map g = rows'.map g) : rows = rows' := by
  induction rows generalizing rows' with
  | nil => exact (List.map_eq_nil_iff.mp hf.symm).symm
  | cons r rest ih =>
    cases rows' with
    | nil => cases hf
    | cons r' rest' =>
      obtain ⟨hr, hrest⟩ := List.cons.inj hf
      obtain ⟨hr', hrest'⟩ := List.cons.inj hg
      rw [h r r' hr hr', ih hrest hrest']

end

/-! ## 2. Views -/

/-- A `view` of a store has of its conversations those of one `kind`. What kind that is can be told
from the person. -/
structure View (kind : StateRow → Bool) (view : Store → Store) : Prop where
  shows : ∀ s rows, view { s with states := rows } = { view s with states := rows.filter kind }
  person : ∀ r r' : StateRow, r.workspace = r'.workspace → r.phone = r'.phone → kind r = kind r'

namespace View

variable {kind : StateRow → Bool} {view : Store → Store} {s s' : Store} {c : Conversation}

theorem states (hv : View kind view) (s : Store) : (view s).states = s.states.filter kind :=
  congrArg Store.states (hv.shows s s.states)

-- What becomes of a row when a conversation is written or begins is of the same kind.
theorem kind_set (hv : View kind view) (c : Conversation) (r : StateRow) :
    kind (if r.id == toString c.id then r.revised (.ofConversation c) else r) = kind r := by
  split
  · exact hv.person _ _ rfl rfl
  · rfl

theorem kind_yielded (hv : View kind view) (c : Conversation) (r : StateRow) :
    kind (r.yielded c) = kind r := by
  unfold StateRow.yielded
  split
  · exact hv.person _ _ rfl rfl
  · rfl

-- A conversation of the kind begins in the view as it does in the store.
theorem createState_of_shown (hv : View kind view)
    (h : ∀ r ∈ s.states, r.id = toString c.id → kind r = true)
    (hc : kind (.ofConversation c) = true) :
    (view s).createState c = (s.createState c).map view := by
  have hany : (view s).states.any (·.id == (StateRow.ofConversation c).id) =
      s.states.any (·.id == (StateRow.ofConversation c).id) := by
    rw [hv.states]
    exact any_filter_of_imp fun r hr hid => h r hr (eq_of_beq hid)
  simp only [createState, hany]
  split
  · rfl
  · have hnew : [StateRow.ofConversation c].filter kind = [.ofConversation c] := by simp [hc]
    have hview := hv.shows s (s.states.map (·.yielded c) ++ [.ofConversation c])
    rw [List.filter_append, filter_map_of_keeps (hv.kind_yielded c), hnew, ← hv.states] at hview
    exact congrArg Except.ok hview.symm

-- When a conversation of another kind begins nothing can be seen of it.
theorem createState_of_hidden (hv : View kind view) (hc : kind (.ofConversation c) = false)
    (h : s.createState c = .ok s') : view s' = view s := by
  have hfix (r : StateRow) (_ : r ∈ s.states) (hr : kind r = true) : r.yielded c = r := by
    unfold StateRow.yielded
    rw [if_neg]
    intro hfor
    simp only [isActiveFor, Bool.and_eq_true, beq_iff_eq] at hfor
    have hkind : kind r = kind (.ofConversation c) := hv.person _ _ hfor.1.1 hfor.1.2
    rw [hr, hc] at hkind
    cases hkind
  have hnew : [StateRow.ofConversation c].filter kind = [] := by simp [hc]
  have hview := hv.shows s (s.states.map (·.yielded c) ++ [.ofConversation c])
  rw [List.filter_append, filter_map_of_fixes (hv.kind_yielded c) hfix, hnew, List.append_nil,
    ← hv.states] at hview
  rw [(states_createState h).1]
  exact hview

-- A conversation of the kind is written in the view as it is in the store.
theorem updateState_of_shown (hv : View kind view)
    (h : ∀ r ∈ s.states, r.id = toString c.id → kind r = true) (version : Int) :
    (view s).updateState c version = (s.updateState c version).map (·.map view) := by
  have hfind : (view s).states.find? (fun r =>
      r.id == (StateRow.ofConversation c).id && r.version == .int version) =
      s.states.find? fun r =>
        r.id == (StateRow.ofConversation c).id && r.version == .int version := by
    rw [hv.states]
    refine find?_filter_of_imp fun r hr hwanted => ?_
    rw [Bool.and_eq_true, beq_iff_eq] at hwanted
    exact h r hr hwanted.1
  unfold updateState
  simp only [hfind]
  cases hold : s.states.find? fun r =>
      r.id == (StateRow.ofConversation c).id && r.version == .int version with
  | none => rfl
  | some old =>
    have hwanted := List.find?_some hold
    rw [Bool.and_eq_true, beq_iff_eq] at hwanted
    -- The row that is written is of the kind, and so is whatever stands in its way.
    have hkind : kind old = true := h old (List.mem_of_find?_eq_some hold) hwanted.1
    have hany : (view s).states.any (fun r =>
        r.id != old.id && isActiveFor old.workspace old.phone r) =
        s.states.any fun r => r.id != old.id && isActiveFor old.workspace old.phone r := by
      rw [hv.states]
      refine any_filter_of_imp fun r _ hr => ?_
      simp only [isActiveFor, Bool.and_eq_true, beq_iff_eq] at hr
      rw [hv.person r old hr.2.1.1 hr.2.1.2, hkind]
    simp only [hany]
    split
    · rfl
    · have hview := hv.shows s (s.set c).states
      rw [set, filter_map_of_keeps (hv.kind_set c), ← hv.states] at hview
      rw [hwanted.1]
      exact congrArg (Except.ok ∘ some) hview.symm

-- When a conversation of another kind is written nothing can be seen of it.
theorem updateState_of_hidden (hv : View kind view)
    (h : ∀ r ∈ s.states, r.id = toString c.id → kind r = false) {version : Int}
    (hupdate : s.updateState c version = .ok (some s')) : view s' = view s := by
  have hfix (r : StateRow) (hr : r ∈ s.states) (hkind : kind r = true) :
      (if r.id == toString c.id then r.revised (.ofConversation c) else r) = r := by
    rw [if_neg]
    intro hid
    rw [h r hr (eq_of_beq hid)] at hkind
    cases hkind
  have hview := hv.shows s (s.set c).states
  rw [set, filter_map_of_fixes (hv.kind_set c) hfix, ← hv.states] at hview
  rw [(eq_set_of_updateState hupdate).2]
  exact hview

end View

end Autoresponder.Store
