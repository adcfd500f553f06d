import Autoresponder.Proofs.Store.Held

/-!
# Rows and their versions

A row whose timestamps lie in the four-digit years says exactly what its conversation is. A write
that names the version of such a row takes effect, whether the conversation is active or not, and a
write that names any other version does not.
-/

namespace Autoresponder

/-! ## 1. Conversations that are stored without loss -/

namespace Conversation

def Change.InYears : Change → Prop
  | recordInbound time => time.FourDigitYear
  | scheduleResume time => time.FourDigitYear
  | rewind _ resumeAt => ∀ t, resumeAt = some t → t.FourDigitYear
  | _ => True

theorem map_kept_of_inYears {t : Option Instant} (h : ∀ u, t = some u → u.FourDigitYear) :
    t.map Instant.kept = t := by
  cases t with
  | none => rfl
  | some u => exact congrArg some (Instant.kept_of_fourDigitYear (h u rfl))

theorem kept_eq_iff {c : Conversation} :
    c.kept = c ↔ c.lastInbound.map Instant.kept = c.lastInbound ∧
      c.resumeAt.map Instant.kept = c.resumeAt ∧ c.created.kept = c.created ∧
      c.updated.kept = c.updated ∧ c.completed.map Instant.kept = c.completed := by
  constructor
  · intro h
    exact ⟨(congrArg lastInbound h :), (congrArg resumeAt h :), (congrArg created h :),
      (congrArg updated h :), (congrArg completed h :)⟩
  · rintro ⟨hlast, hresume, hcreated, hupdated, hcompleted⟩
    rw [kept, hlast, hresume, hcreated, hupdated, hcompleted]

-- A change that names no other instants than those of the four-digit years brings none in.
theorem kept_after {c : Conversation} (h : c.kept = c) {ch : Change} (hch : ch.InYears)
    {now : Instant} (hnow : now.FourDigitYear) : (c.after ch now).kept = c.after ch now := by
  obtain ⟨hlast, hresume, hcreated, -, hcompleted⟩ := kept_eq_iff.mp h
  have hnow' : now.kept = now := Instant.kept_of_fourDigitYear hnow
  cases ch with
  | recordInbound time =>
    have htime : (some time).map Instant.kept = some time :=
      map_kept_of_inYears fun u hu => Option.some.inj hu ▸ hch
    unfold after
    rcases apply_recordInbound now time c with heq | heq <;> rw [heq]
    · exact kept_eq_iff.mpr ⟨hlast, hresume, hcreated, hnow', hcompleted⟩
    · exact kept_eq_iff.mpr ⟨htime, hresume, hcreated, hnow', hcompleted⟩
  | scheduleResume time =>
    have htime : (some time).map Instant.kept = some time :=
      map_kept_of_inYears fun u hu => Option.some.inj hu ▸ hch
    exact kept_eq_iff.mpr ⟨hlast, htime, hcreated, hnow', hcompleted⟩
  | rewind node resumeAt =>
    exact kept_eq_iff.mpr ⟨hlast, map_kept_of_inYears hch, hcreated, hnow', hcompleted⟩
  | complete =>
    exact kept_eq_iff.mpr ⟨hlast, rfl, hcreated, hnow', congrArg some hnow'⟩
  | advance node => exact kept_eq_iff.mpr ⟨hlast, rfl, hcreated, hnow', hcompleted⟩
  | clearResume => exact kept_eq_iff.mpr ⟨hlast, rfl, hcreated, hnow', hcompleted⟩
  | _ => exact kept_eq_iff.mpr ⟨hlast, hresume, hcreated, hnow', hcompleted⟩

theorem created_after (c : Conversation) (ch : Change) (now : Instant) :
    (c.after ch now).created = c.created := by
  cases ch with
  | recordInbound time =>
    unfold after
    rcases apply_recordInbound now time c with heq | heq <;> rw [heq]
  | _ => rfl

-- No change makes a conversation active.
theorem isActive_of_after {c : Conversation} {ch : Change} {now : Instant}
    (h : (c.after ch now).isActive = true) : c.isActive = true := by
  by_cases hch : ch = .complete
  · subst hch
    cases h
  · rwa [isActive_after hch] at h

end Conversation

namespace Store

/-! ## 2. Rows that are exact -/

/-- The row of a conversation that is stored without loss, as `Conversation.kept` is. Only the row
of an ended conversation can have a version that no conversation has. -/
def StateRow.Exact (r : StateRow) : Prop :=
  ∃ c version, r = { ofConversation c with version } ∧ c.kept = c ∧
    (c.isActive = true → version = .int c.version)

theorem StateRow.exact_ofConversation {c : Conversation} (h : c.kept = c) :
    (ofConversation c).Exact :=
  ⟨c, .int c.version, rfl, h, fun _ => rfl⟩

theorem StateRow.read_of_kept {c : Conversation} (h : c.kept = c) :
    (ofConversation c).read = .ok c :=
  (read_ofConversation c (.int c.version)).trans (congrArg Except.ok h)

/-- An `Exact` row can be read, and what is read has its version, as far as that is a number. -/
theorem StateRow.Exact.read {r : StateRow} (h : r.Exact) :
    ∃ c, r.read = .ok c ∧ c.kept = c ∧ r.id = toString c.id ∧ c.version = r.version.value ∧
      (r.version = .int c.version → r = ofConversation c) := by
  obtain ⟨c, version, rfl, hkept, -⟩ := h
  refine ⟨{ c with version := version.value }, ?_, ?_, rfl, rfl, fun hversion => ?_⟩
  · rw [read_ofConversation, hkept]
  · rw [Conversation.kept_eq_iff] at hkept ⊢
    exact hkept
  · have hversion' : version = .int version.value := hversion
    rw [hversion']
    rfl

theorem StateRow.Exact.displaced {r : StateRow} (h : r.Exact) {time : Instant}
    (htime : time.FourDigitYear) : (r.displaced time.stored).Exact := by
  obtain ⟨c, version, rfl, hkept, -⟩ := h
  obtain ⟨hlast, -, hcreated, -, -⟩ := Conversation.kept_eq_iff.mp hkept
  have htime' : time.kept = time := Instant.kept_of_fourDigitYear htime
  refine ⟨{ c with isActive := false, resumeAt := none, completed := some time, updated := time },
    version.next, rfl, ?_, fun hactive => absurd hactive (by simp)⟩
  exact Conversation.kept_eq_iff.mpr ⟨hlast, rfl, hcreated, htime', congrArg some htime'⟩

theorem StateRow.Exact.yielded {r : StateRow} (h : r.Exact) {c : Conversation}
    (hcreated : c.created.FourDigitYear) : (r.yielded c).Exact := by
  unfold StateRow.yielded
  split
  · exact h.displaced hcreated
  · exact h

/-! ## 3. Writing over a version -/

-- Looking for an identifier after a write.
theorem find?_set (s : Store) (c : Conversation) (id : String) :
    (s.set c).states.find? (·.id == id) =
      (s.states.find? (·.id == id)).map fun r =>
        if r.id == toString c.id then r.revised (.ofConversation c) else r := by
  have hid : ((fun r : StateRow => r.id == id) ∘ fun r =>
      if r.id == toString c.id then r.revised (.ofConversation c) else r) =
        fun r => r.id == id := by
    funext r
    rw [Function.comp_apply]
    split <;> rfl
  rw [Store.set, List.find?_map, hid]

-- Looking for an identifier after a conversation began.
theorem find?_createState {s s' : Store} {c : Conversation} (h : s.createState c = .ok s')
    (id : String) :
    s'.states.find? (·.id == id) =
      if toString c.id = id then some (.ofConversation c)
      else (s.states.find? (·.id == id)).map (·.yielded c) := by
  obtain ⟨hstates, hfresh⟩ := states_createState h
  have hid : ((fun r : StateRow => r.id == id) ∘ fun r : StateRow => r.yielded c) =
      fun r => r.id == id := by
    funext r
    rw [Function.comp_apply, StateRow.id_yielded]
  have hnew : (StateRow.ofConversation c).id = toString c.id := rfl
  rw [hstates, List.find?_append, List.find?_map, hid, List.find?_singleton, hnew]
  split
  · rename_i heq
    rw [beq_iff_eq] at heq
    have hnone : s.states.find? (·.id == id) = none := by
      rw [List.find?_eq_none]
      intro r hr hrid
      exact hfresh r hr ((beq_iff_eq.mp hrid).trans heq.symm)
    rw [hnone, if_pos heq]
    rfl
  · rename_i hne
    rw [if_neg (by simpa using hne), Option.or_none]

section

variable {s : Store} {c c' : Conversation}

-- The rows after a write over the row of a conversation.
theorem mem_set_iff (hs : s.Consistent) (hc : .ofConversation c ∈ s.states) (hsame : c'.Same c)
    (hcreated : c'.created = c.created) {r : StateRow} :
    r ∈ (s.set c').states ↔
      r = .ofConversation c' ∨ (r ∈ s.states ∧ r.id ≠ toString c.id) := by
  have hrow : (StateRow.ofConversation c).revised (.ofConversation c') = .ofConversation c' := by
    rw [StateRow.revised_ofConversation hsame, ← hcreated]
  constructor
  · intro hr
    obtain ⟨old, hold, rfl⟩ := List.mem_map.mp hr
    by_cases hid : old.id = toString c'.id
    · have heq : old = .ofConversation c :=
        hs.eq_of_id hold hc (hid.trans (congrArg toString hsame.id))
      exact .inl (by rw [if_pos (beq_iff_eq.mpr hid), heq, hrow])
    · rw [if_neg (by simpa using hid)]
      exact .inr ⟨hold, hsame.id ▸ hid⟩
  · rintro (rfl | ⟨hr, hid⟩)
    · refine List.mem_map.mpr ⟨_, hc, ?_⟩
      rw [if_pos (by simp [StateRow.ofConversation, hsame.id]), hrow]
    · refine List.mem_map.mpr ⟨r, hr, ?_⟩
      rw [if_neg (by simpa [hsame.id] using hid)]

-- Looking for an identifier after a write over the row of a conversation.
theorem find?_set_of_mem (hs : s.Consistent) (hc : .ofConversation c ∈ s.states)
    (hsame : c'.Same c) (hcreated : c'.created = c.created) (id : Uuid) :
    (s.set c').states.find? (·.id == toString id) =
      if c.id = id then some (.ofConversation c')
      else s.states.find? (·.id == toString id) := by
  rw [find?_set]
  split
  · rename_i hid
    rw [hs.find?_id hc (congrArg toString hid), Option.map_some, if_pos,
      StateRow.revised_ofConversation hsame, ← hcreated]
    simp [StateRow.ofConversation, hsame.id]
  · rename_i hid
    rw [Option.map_congr (g := fun r => r), Option.map_id']
    intro r hr
    have hrid := List.find?_some hr
    rw [beq_iff_eq] at hrid
    rw [if_neg]
    rw [beq_iff_eq, hrid, Uuid.toString_inj, hsame.id]
    exact fun h => hid h.symm

/-- An `updateState` that names the version of a row takes effect unless it would make a
conversation active. -/
theorem updateState_of_mem (hs : s.Consistent) (hc : .ofConversation c ∈ s.states)
    (hsame : c'.Same c) (hactive : c'.isActive = true → c.isActive = true) :
    s.updateState c' c.version = .ok (some (s.set c')) := by
  have hid : (StateRow.ofConversation c).id = toString c'.id := congrArg toString hsame.symm.id
  have hfind : s.states.find? (fun r => r.id == toString c'.id && r.version == .int c.version) =
      some (.ofConversation c) := by
    obtain ⟨r, hr⟩ : ∃ r, s.states.find?
        (fun r => r.id == toString c'.id && r.version == .int c.version) = some r := by
      rw [← Option.isSome_iff_exists, List.find?_isSome]
      refine ⟨_, hc, ?_⟩
      rw [hid]
      simp [StateRow.ofConversation]
    have hwanted := List.find?_some hr
    simp only [Bool.and_eq_true, beq_iff_eq] at hwanted
    rw [hr, hs.eq_of_id (List.mem_of_find?_eq_some hr) hc (by rw [hwanted.1, hid])]
  -- Where the conversation is active it was so before, and nobody else of the person is.
  have hothers : (c'.isActive && s.states.any fun r => r.id != toString c'.id &&
      isActiveFor (StateRow.ofConversation c).workspace (StateRow.ofConversation c).phone r) =
        false := by
    by_cases h : c'.isActive = true
    · rw [h, Bool.true_and, List.any_eq_false]
      intro r hr
      simp only [isActiveFor, Bool.and_eq_true, bne_iff_ne, beq_iff_eq, not_and]
      intro hne hperson ha
      have ha' : (StateRow.ofConversation c).isActive = .int 1 := by
        simp [StateRow.ofConversation, hactive h, IntCell.ofBool]
      exact hne (hid ▸ congrArg StateRow.id (hs.single r hr _ hc ha ha' hperson.1 hperson.2))
    · rw [Bool.not_eq_true] at h
      rw [h, Bool.false_and]
  have hnew : (StateRow.ofConversation c').id = toString c'.id := rfl
  simp only [Store.updateState, hnew, hfind, hid]
  rw [if_neg (by rw [hothers]; simp)]
  rfl

/-- An `updateState` that names a version that no row of the conversation has does nothing. -/
theorem updateState_of_not_mem {version : Int}
    (h : ∀ r ∈ s.states, r.id = toString c'.id → r.version ≠ .int version) :
    s.updateState c' version = .ok none := by
  have hfind : s.states.find? (fun r => r.id == toString c'.id && r.version == .int version) =
      none := by
    rw [List.find?_eq_none]
    intro r hr hwanted
    simp only [Bool.and_eq_true, beq_iff_eq] at hwanted
    exact h r hr hwanted.1 hwanted.2
  have hnew : (StateRow.ofConversation c').id = toString c'.id := rfl
  simp only [Store.updateState, hnew, hfind]

-- A write that makes no conversation active keeps the store consistent.
theorem Consistent.set_of_mem (hs : s.Consistent) (hc : .ofConversation c ∈ s.states)
    (hsame : c'.Same c) (hcreated : c'.created = c.created)
    (hactive : c'.isActive = true → c.isActive = true) : (s.set c').Consistent := by
  have hmem {r : StateRow} := mem_set_iff (r := r) hs hc hsame hcreated
  -- No other row of the person can be active beside the one that is written.
  have hother : ∀ r ∈ s.states, r.id ≠ toString c.id → r.isActive = .int 1 →
      (StateRow.ofConversation c').isActive = .int 1 → r.workspace = c'.workspace →
      r.phone ≠ c'.phone := by
    intro r hr hid ha ha' hworkspace hphone
    have hc' : c'.isActive = true := by
      by_contra h
      simp [StateRow.ofConversation, IntCell.ofBool, h] at ha'
    have hold : (StateRow.ofConversation c).isActive = .int 1 := by
      simp [StateRow.ofConversation, hactive hc', IntCell.ofBool]
    exact hid (congrArg StateRow.id (hs.single r hr _ hc ha hold
      (hworkspace.trans hsame.workspace) (hphone.trans hsame.phone)))
  refine ⟨fun r hr => ?_, ?_, fun r hr r' hr' ha ha' hworkspace hphone => ?_⟩
  · rcases hmem.mp hr with rfl | ⟨hr, -⟩
    · exact ⟨c', .int c'.version, rfl, fun _ => rfl⟩
    · exact hs.written r hr
  · rw [ids_set]
    exact hs.distinct
  · rcases hmem.mp hr with rfl | ⟨hr, hid⟩ <;> rcases hmem.mp hr' with rfl | ⟨hr', hid'⟩
    · rfl
    · exact absurd hphone.symm (hother r' hr' hid' ha' ha hworkspace.symm)
    · exact absurd hphone (hother r hr hid ha ha' hworkspace)
    · exact hs.single r hr r' hr' ha ha' hworkspace hphone

end

end Store

end Autoresponder
