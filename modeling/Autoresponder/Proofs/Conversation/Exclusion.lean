import Autoresponder.Conversation.Locks
import Mathlib.Data.List.Nodup

/-!
# No two at a time

However callers come and go, and whatever is dropped from the table of locks, nobody holds the lock
of a person while somebody else does: a lock that somebody refers to stays in the table, so those
who come later find the same one. That a lock is unused is found out some time before it is dropped,
but only at the table could anybody come to refer to it in between.
-/

namespace Autoresponder

namespace Locks

/-! ## 1. What a move does -/

/-- How a caller goes on from a stage to the next, and what becomes of the table. -/
inductive Goes (s : Locks) : (old new : Stage) → (table : List (Person × Nat)) → Prop
  | call {p : Person} {pending : List Person} (free : s.tableIsFree = true) :
    Goes s .idle (.atTable p pending) s.table
  | keep {p : Person} {pending pending' : List Person} :
    Goes s (.atTable p pending) (.atTable p pending') s.table
  | mark {p q : Person} {pending pending' : List Person} (unused : s.isUsed q = false) :
    Goes s (.atTable p pending) (.dropping p q pending') s.table
  | drop {p q : Person} {pending : List Person} :
    Goes s (.dropping p q pending) (.atTable p pending) (s.table.filter (·.1 != q))
  | find {p : Person} {l : Nat} (found : s.table.lookup p = some l) :
    Goes s (.atTable p []) (.waiting p l) s.table
  | make {p : Person} {l : Nat} (absent : s.table.lookup p = none) (fresh : s.references l = 0) :
    Goes s (.atTable p []) (.waiting p l) (s.table ++ [(p, l)])
  | acquire {p : Person} {l : Nat} (free : s.isHeld l = false) :
    Goes s (.waiting p l) (.holding p l) s.table
  | giveUp {p : Person} {l : Nat} : Goes s (.waiting p l) .idle s.table
  | release {p : Person} {l : Nat} : Goes s (.holding p l) (.leaving p l) s.table
  | leave {p : Person} {l : Nat} : Goes s (.leaving p l) .idle s.table

/-- What `Locks.step` makes of the locks: one caller goes on (`Goes`), or nothing happens. -/
inductive Stepped (s : Locks) : Locks → Prop
  | nothing : Stepped s s
  | gone {i : Nat} {old new : Stage} {table : List (Person × Nat)}
      (here : s.callers[i]? = some old) (goes : Goes s old new table) :
    Stepped s ({ s with table }.put i new)

theorem stepped (s : Locks) (m : Move) : Stepped s (s.step m) := by
  cases m with
  | call i p =>
    simp only [step]
    split
    · rename_i h
      exact .gone h.1 (.call h.2)
    · exact .nothing
  | sweep i q =>
    simp only [step]
    split
    · rename_i here
      split
      · split
        · exact .gone here .keep
        · rename_i unused
          exact .gone here (.mark (by rwa [Bool.not_eq_true] at unused))
      · exact .nothing
    · exact .nothing
  | drop i =>
    simp only [step]
    split
    · rename_i here
      exact .gone here .drop
    · exact .nothing
  | enter i fresh =>
    simp only [step]
    split
    · rename_i here
      split
      · rename_i found
        exact .gone here (.find found)
      · rename_i absent
        split
        · rename_i unused
          exact .gone here (.make absent unused)
        · exact .nothing
    · exact .nothing
  | acquire i =>
    simp only [step]
    split
    · rename_i here
      split
      · exact .nothing
      · rename_i free
        exact .gone here (.acquire (by rwa [Bool.not_eq_true] at free))
    · exact .nothing
  | giveUp i =>
    simp only [step]
    split
    · rename_i here
      exact .gone here .giveUp
    · exact .nothing
  | release i =>
    simp only [step]
    split
    · rename_i here
      exact .gone here .release
    · exact .nothing
  | leave i =>
    simp only [step]
    split
    · rename_i here
      exact .gone here .leave
    · exact .nothing

/-! ## 2. What is kept -/

/-- What holds of the locks at any time. -/
structure Sound (s : Locks) : Prop where
  /-- A person has one lock at most. -/
  persons : (s.table.map (·.1)).Nodup
  /-- A lock is for one person. -/
  locks : (s.table.map (·.2)).Nodup
  /-- Whoever refers to a lock refers to one of the table. -/
  current : ∀ stage ∈ s.callers, ∀ e, stage.entry? = some e → e ∈ s.table
  /-- A lock is held once at most. -/
  alone : ∀ (i j : Nat) (p q : Person) (l : Nat), s.callers[i]? = some (.holding p l) →
    s.callers[j]? = some (.holding q l) → i = j
  /-- There is one caller at the table at most. -/
  atTable : ∀ (i j : Nat) (stage stage' : Stage), s.callers[i]? = some stage →
    s.callers[j]? = some stage' → stage.isAtTable = true → stage'.isAtTable = true → i = j
  /-- Nobody refers to a lock that is about to be dropped. -/
  unused : ∀ (i : Nat) (p q : Person) (pending : List Person),
    s.callers[i]? = some (.dropping p q pending) →
      ∀ stage ∈ s.callers, ∀ e, stage.entry? = some e → e.1 ≠ q

theorem sound_start (callers limit : Nat) : Sound (start callers limit) := by
  have hidle : ∀ {i : Nat} {stage : Stage},
      (start callers limit).callers[i]? = some stage → stage = .idle := fun h =>
    List.eq_of_mem_replicate (List.mem_of_getElem? h)
  refine ⟨List.nodup_nil, List.nodup_nil, fun stage hstage e he => ?_, fun i j p q l hi => ?_,
    fun i j stage stage' hi hj hstage => ?_, fun i p q pending hi => ?_⟩
  · obtain rfl := List.eq_of_mem_replicate hstage
    cases he
  · cases hidle hi
  · obtain rfl := hidle hi
    cases hstage
  · cases hidle hi

section

variable {s : Locks} {i j : Nat} {p q : Person} {l : Nat} {e : Person × Nat}
  {old new stage : Stage} {table : List (Person × Nat)}

theorem one_lt_references (he : e ∈ s.table) (hstage : stage ∈ s.callers)
    (hentry : stage.entry? = some e) : 1 < s.references e.2 := by
  have htable : 0 < s.table.countP (·.2 == e.2) :=
    List.countP_pos_iff.mpr ⟨e, he, beq_self_eq_true _⟩
  have hcallers : 0 < s.callers.countP (·.refersTo e.2) :=
    List.countP_pos_iff.mpr ⟨stage, hstage, by simp [Stage.refersTo, hentry]⟩
  unfold references
  omega

theorem isHeld_of_holding (h : s.callers[i]? = some (.holding p l)) : s.isHeld l = true :=
  List.any_eq_true.mpr ⟨_, List.mem_of_getElem? h, beq_self_eq_true l⟩

theorem not_isAtTable (h : s.tableIsFree = true) (hi : s.callers[i]? = some stage) :
    stage.isAtTable = false := by
  simpa using List.all_eq_true.mp h stage (List.mem_of_getElem? hi)

theorem mem_of_lookup (h : s.table.lookup p = some l) : (p, l) ∈ s.table := by
  obtain ⟨front, back, htable, -⟩ := List.lookup_eq_some_iff.mp h
  rw [htable]
  exact List.mem_append_right _ List.mem_cons_self

-- A caller who goes on is where it came to, and everybody else is where they were.
theorem getElem?_gone (h : ({ s with table }.put i new).callers[j]? = some stage) :
    j = i ∧ stage = new ∨ j ≠ i ∧ s.callers[j]? = some stage := by
  rw [put, List.getElem?_set] at h
  split at h
  · rename_i heq
    split at h
    · exact .inl ⟨heq.symm, (Option.some.inj h).symm⟩
    · cases h
  · rename_i hne
    exact .inr ⟨Ne.symm hne, h⟩

namespace Goes

-- At the table one is that was there before, or comes there when nobody is.
theorem free_or_isAtTable (h : Goes s old new table) (hnew : new.isAtTable = true) :
    s.tableIsFree = true ∨ old.isAtTable = true := by
  cases h with
  | call free => exact .inl free
  | keep | mark | drop => exact .inr rfl
  | _ => cases hnew

-- A lock is referred to that was before, or one is taken from the table.
theorem entry_or_isAtTable (h : Goes s old new table) (hnew : new.entry? = some e) :
    old.entry? = some e ∨ old.isAtTable = true := by
  cases h with
  | find | make => exact .inr rfl
  | acquire | release => exact .inl hnew
  | _ => cases hnew

-- Where somebody holds a lock nobody else takes it.
theorem ne_holding (h : Goes s old new table) (hi : s.callers[i]? = some (.holding q l)) :
    new ≠ .holding p l := by
  rintro rfl
  cases h with
  | acquire free =>
    rw [isHeld_of_holding hi] at free
    cases free

end Goes

namespace Sound

theorem lookup_of_mem (h : s.Sound) (hmem : (p, l) ∈ s.table) : s.table.lookup p = some l := by
  cases hlookup : s.table.lookup p with
  | none => simpa using List.lookup_eq_none_iff.mp hlookup _ hmem
  | some l' =>
    have heq := List.inj_on_of_nodup_map h.persons (mem_of_lookup hlookup) hmem rfl
    exact congrArg (some ·.2) heq

theorem mem_of_caller (h : s.Sound) (hi : s.callers[i]? = some stage)
    (he : stage.entry? = some e) : e ∈ s.table :=
  h.current stage (List.mem_of_getElem? hi) e he

theorem isUsed_of_entry (h : s.Sound) (hstage : stage ∈ s.callers)
    (he : stage.entry? = some e) : s.isUsed e.1 = true := by
  have hmem := h.current stage hstage e he
  rw [isUsed, h.lookup_of_mem hmem, Option.any_some, decide_eq_true_eq]
  exact one_lt_references hmem hstage he

/-! ## 3. What a move keeps -/

section

variable (h : s.Sound) (here : s.callers[i]? = some old) (goes : Goes s old new table)

include h goes

theorem persons_of_goes : (table.map (·.1)).Nodup := by
  cases goes with
  | drop => exact h.persons.sublist (List.filter_sublist.map _)
  | @make p l absent fresh =>
    have hnew : p ∉ s.table.map (·.1) := by
      intro hmem
      obtain ⟨e, he, rfl⟩ := List.mem_map.mp hmem
      simpa using List.lookup_eq_none_iff.mp absent e he
    rw [List.map_append]
    exact h.persons.append (List.nodup_singleton _) (by simpa using hnew)
  | _ => exact h.persons

theorem locks_of_goes : (table.map (·.2)).Nodup := by
  cases goes with
  | drop => exact h.locks.sublist (List.filter_sublist.map _)
  | @make p l absent fresh =>
    have hnew : l ∉ s.table.map (·.2) := by
      intro hmem
      obtain ⟨e, he, rfl⟩ := List.mem_map.mp hmem
      exact List.countP_eq_zero.mp (Nat.eq_zero_of_add_eq_zero_right fresh) e he
        (beq_self_eq_true _)
    rw [List.map_append]
    exact h.locks.append (List.nodup_singleton _) (by simpa using hnew)
  | _ => exact h.locks

include here

-- What somebody refers to is not dropped.
theorem mem_of_goes (hstage : stage ∈ s.callers) (he : stage.entry? = some e) : e ∈ table := by
  have hmem := h.current stage hstage e he
  cases goes with
  | drop => exact List.mem_filter.mpr ⟨hmem, bne_iff_ne.mpr (h.unused i _ _ _ here stage hstage e he)⟩
  | make => exact List.mem_append_left _ hmem
  | _ => exact hmem

theorem entry_mem_of_goes (he : new.entry? = some e) : e ∈ table := by
  cases goes with
  | find found =>
    cases he
    exact mem_of_lookup found
  | make =>
    cases he
    exact List.mem_append_right _ List.mem_cons_self
  | acquire | release => exact h.mem_of_caller here he
  | _ => cases he

-- Where somebody is at the table nobody else comes there.
theorem eq_of_isAtTable (hj : s.callers[j]? = some stage) (hstage : stage.isAtTable = true)
    (hnew : new.isAtTable = true) : j = i := by
  rcases goes.free_or_isAtTable hnew with hfree | hold
  · rw [not_isAtTable hfree hj] at hstage
    cases hstage
  · exact h.atTable j i stage old hj here hstage hold

-- The entry was just found to be unused, or it was found so before and nobody else has been at the
-- table since.
theorem unused_of_goes {pending : List Person}
    (hj : ({ s with table }.put i new).callers[j]? = some (.dropping p q pending))
    (hstage : stage = new ∨ stage ∈ s.callers) (he : stage.entry? = some e) : e.1 ≠ q := by
  rcases getElem?_gone hj with ⟨-, rfl⟩ | ⟨hji, hold⟩
  · cases goes with
    | mark unused =>
      rcases hstage with rfl | hstage
      · cases he
      · rintro rfl
        rw [h.isUsed_of_entry hstage he] at unused
        cases unused
  · rcases hstage with rfl | hstage
    · rcases goes.entry_or_isAtTable he with hentry | htable
      · exact h.unused j p q pending hold old (List.mem_of_getElem? here) e hentry
      · exact absurd (h.atTable j i _ old hold here rfl htable) hji
    · exact h.unused j p q pending hold stage hstage e he

theorem gone : ({ s with table }.put i new).Sound where
  persons := h.persons_of_goes goes
  locks := h.locks_of_goes goes
  current stage hstage e he := by
    rcases List.mem_or_eq_of_mem_set hstage with hold | rfl
    · exact h.mem_of_goes here goes hold he
    · exact h.entry_mem_of_goes here goes he
  alone j k p q l hj hk := by
    rcases getElem?_gone hj with ⟨hji, hnew⟩ | ⟨-, hold⟩ <;>
      rcases getElem?_gone hk with ⟨hki, hnew'⟩ | ⟨-, hold'⟩
    · exact hji.trans hki.symm
    · exact absurd hnew.symm (goes.ne_holding hold')
    · exact absurd hnew'.symm (goes.ne_holding hold)
    · exact h.alone j k p q l hold hold'
  atTable j k stage stage' hj hk hstage hstage' := by
    rcases getElem?_gone hj with ⟨hji, rfl⟩ | ⟨-, hold⟩ <;>
      rcases getElem?_gone hk with ⟨hki, rfl⟩ | ⟨-, hold'⟩
    · exact hji.trans hki.symm
    · exact hji.trans (h.eq_of_isAtTable here goes hold' hstage' hstage).symm
    · exact (h.eq_of_isAtTable here goes hold hstage hstage').trans hki.symm
    · exact h.atTable j k stage stage' hold hold' hstage hstage'
  unused j p q pending hj stage hstage e he :=
    h.unused_of_goes here goes hj (List.mem_or_eq_of_mem_set hstage).symm he

end

theorem stepped (h : s.Sound) {s' : Locks} (hs : Stepped s s') : s'.Sound := by
  cases hs with
  | nothing => exact h
  | gone here goes => exact h.gone here goes

theorem after (h : s.Sound) (moves : List Move) : (s.after moves).Sound := by
  induction moves generalizing s with
  | nil => exact h
  | cons m rest ih => exact ih (h.stepped (Locks.stepped s m))

end Sound

end

/-! ## 4. Exclusion -/

/-- What the locks are for: nobody is `holding` the lock of a person while somebody else is. -/
structure Exclusive (s : Locks) : Prop where
  /-- No two callers hold a lock of the same person. -/
  alone : ∀ (i j : Nat) (p : Person) (l l' : Nat), s.callers[i]? = some (.holding p l) →
    s.callers[j]? = some (.holding p l') → i = j
  /-- Who waits for the lock of a person, or holds it, has the one that is in the table. -/
  current : ∀ (i : Nat) (p : Person) (l : Nat), s.callers[i]? = some (.waiting p l) ∨
    s.callers[i]? = some (.holding p l) → s.table.lookup p = some l
  /-- Nobody waits for the lock of another person. -/
  apart : ∀ p q l, s.table.lookup p = some l → s.table.lookup q = some l → p = q

/-- **No two at a time.** Whatever `moves` callers make in whatever order, with unused locks dropped
at any moment, nobody is `holding` the lock of a person while somebody else is, and whoever is
`waiting` for it waits for the one that the `table` has for those who come later
(`Locks.Exclusive`). -/
theorem exclusive_after (callers limit : Nat) (moves : List Move) :
    ((start callers limit).after moves).Exclusive := by
  have hsound := (sound_start callers limit).after moves
  refine ⟨fun i j p l l' hi hj => ?_, fun i p l h => ?_, fun p q l hp hq => ?_⟩
  · have hsame := List.inj_on_of_nodup_map hsound.persons (hsound.mem_of_caller hi rfl)
      (hsound.mem_of_caller hj rfl) rfl
    obtain rfl : l = l' := congrArg Prod.snd hsame
    exact hsound.alone i j p p l hi hj
  · rcases h with h | h <;> exact hsound.lookup_of_mem (hsound.mem_of_caller h rfl)
  · have hsame := List.inj_on_of_nodup_map hsound.locks (mem_of_lookup hp)
      (mem_of_lookup hq) rfl
    exact congrArg Prod.fst hsame

/-- The lock of `ana` is held and somebody gave up on that of `ben`, when that of `cleo` is asked
for and there are too many. Then the lock of `ana` is asked for once more. -/
def Move.crowded (ana ben cleo : Person) : List Move :=
  [.call 0 ana, .enter 0 7, .acquire 0, .call 1 ben, .enter 1 8, .giveUp 1,
    .call 2 cleo, .sweep 2 ben, .drop 2, .sweep 2 ana, .enter 2 8,
    .call 3 ana, .sweep 3 ana, .sweep 3 cleo, .enter 3 9, .acquire 3]

/-- In `Move.crowded` the lock that nobody uses is dropped, and who comes later waits for the one
that is held. -/
theorem exclusive_after_crowded :
    ∃ ana ben cleo : Person, [ana, ben, cleo].Nodup ∧
      ((start 4 1).after (Move.crowded ana ben cleo)).table = [(ana, 7), (cleo, 8)] ∧
      ((start 4 1).after (Move.crowded ana ben cleo)).callers =
        [.holding ana 7, .idle, .waiting cleo 8, .waiting ana 7] ∧
      ((start 4 1).after (Move.crowded ana ben cleo)).Exclusive :=
  ⟨⟨"shop", "555"⟩, ⟨"shop", "556"⟩, ⟨"shop", "557"⟩, by decide, by decide, by decide,
    exclusive_after 4 1 _⟩

end Locks

end Autoresponder
