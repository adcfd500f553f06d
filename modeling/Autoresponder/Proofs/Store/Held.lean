import Autoresponder.Proofs.Store.Kept
import Mathlib.Data.List.Nodup

/-!
# Conversations that the store holds

A copy of a conversation is up to date as long as the store holds it: there is a row that reads as
the copy does once it was stored. In a consistent store such a copy can be written over its row, and
the store then holds what was written.
-/

namespace Autoresponder

/-- Two states of one conversation: what never changes in a conversation is the same in both. -/
structure Conversation.Same (c d : Conversation) : Prop where
  id : c.id = d.id
  workspace : c.workspace = d.workspace
  account : c.account = d.account
  phone : c.phone = d.phone
  flow : c.flow = d.flow
  created : c.created.kept = d.created.kept

namespace Conversation

theorem Same.refl (c : Conversation) : c.Same c := ⟨rfl, rfl, rfl, rfl, rfl, rfl⟩

theorem Same.symm {c d : Conversation} (h : c.Same d) : d.Same c :=
  ⟨h.id.symm, h.workspace.symm, h.account.symm, h.phone.symm, h.flow.symm, h.created.symm⟩

theorem Same.trans {a b c : Conversation} (h : a.Same b) (h' : b.Same c) : a.Same c :=
  ⟨h.id.trans h'.id, h.workspace.trans h'.workspace, h.account.trans h'.account,
    h.phone.trans h'.phone, h.flow.trans h'.flow, h.created.trans h'.created⟩

theorem Same.of_kept_eq {c d : Conversation} (h : c.kept = d.kept) : c.Same d := by
  simp only [kept, Conversation.mk.injEq] at h
  obtain ⟨hid, hworkspace, haccount, hphone, hflow, -, -, -, -, -, -, -, hcreated, -⟩ := h
  exact ⟨hid, hworkspace, haccount, hphone, hflow, hcreated⟩

theorem Same.kept (c : Conversation) : c.kept.Same c := .of_kept_eq c.kept_kept

theorem apply_recordInbound (now time : Instant) (c : Conversation) :
    (Change.recordInbound time).apply now c = c ∨
      (Change.recordInbound time).apply now c = { c with lastInbound := some time } := by
  simp only [Change.apply]
  split
  · split
    · exact .inr rfl
    · exact .inl rfl
  · exact .inr rfl

theorem same_after (c : Conversation) (change : Change) (now : Instant) :
    (c.after change now).Same c := by
  cases change with
  | recordInbound time =>
    unfold after
    rcases apply_recordInbound now time c with h | h
    all_goals
      rw [h]
      exact ⟨rfl, rfl, rfl, rfl, rfl, rfl⟩
  | _ => exact ⟨rfl, rfl, rfl, rfl, rfl, rfl⟩

-- Only completion takes a conversation out of activity.
theorem isActive_after {c : Conversation} {change : Change} {now : Instant}
    (h : change ≠ .complete) :
    (c.after change now).isActive = c.isActive := by
  cases change with
  | recordInbound time =>
    unfold after
    rcases apply_recordInbound now time c with h | h <;> rw [h]
  | complete => exact absurd rfl h
  | _ => rfl

theorem completed_after {c : Conversation} {change : Change} {now : Instant}
    (h : change ≠ .complete) :
    (c.after change now).completed = c.completed := by
  cases change with
  | recordInbound time =>
    unfold after
    rcases apply_recordInbound now time c with h | h <;> rw [h]
  | complete => exact absurd rfl h
  | _ => rfl

end Conversation

namespace Store

/-! ## 1. Consistent stores -/

/-- A row as conversations are written. The version of a row that was displaced is counted by the
table itself. -/
def StateRow.Written (r : StateRow) : Prop :=
  ∃ c version, r = { ofConversation c with version } ∧
    (c.isActive = true → version = .int c.version)

/-- What holds of the conversations of every store that this library writes (`World.traced_after`):
rows are as they are written, an identifier names one row, and a person has at most one active
conversation. -/
structure Consistent (s : Store) : Prop where
  written : ∀ r ∈ s.states, r.Written
  distinct : (s.states.map (·.id)).Nodup
  single : ∀ r ∈ s.states, ∀ r' ∈ s.states, r.isActive = .int 1 → r'.isActive = .int 1 →
    r.workspace = r'.workspace → r.phone = r'.phone → r = r'

-- A store without conversations is consistent.
theorem consistent_of_nil {s : Store} (h : s.states = []) : s.Consistent where
  written r hr := by simp [h] at hr
  distinct := by simp [h]
  single r hr := by simp [h] at hr

-- Only the conversations of a store count for its consistency.
theorem Consistent.congr {s s' : Store} (hs : s.Consistent) (h : s'.states = s.states) :
    s'.Consistent where
  written := h ▸ hs.written
  distinct := h ▸ hs.distinct
  single := h ▸ hs.single

-- Rows with one identifier are one row.
theorem Consistent.eq_of_id {s : Store} (hs : s.Consistent) {r r' : StateRow} (hr : r ∈ s.states)
    (hr' : r' ∈ s.states) (hid : r.id = r'.id) : r = r' :=
  List.inj_on_of_nodup_map hs.distinct hr hr' hid

theorem Consistent.find?_id {s : Store} (hs : s.Consistent) {r : StateRow} (hr : r ∈ s.states)
    {id : String} (hid : r.id = id) : s.states.find? (·.id == id) = some r := by
  obtain ⟨r', hr'⟩ : ∃ r', s.states.find? (·.id == id) = some r' := by
    rw [← Option.isSome_iff_exists, List.find?_isSome]
    exact ⟨r, hr, by simp [hid]⟩
  have hid' := List.find?_some hr'
  rw [beq_iff_eq] at hid'
  rw [hr', hs.eq_of_id (List.mem_of_find?_eq_some hr') hr (by rw [hid', hid])]

/-! ## 2. Copies that are up to date -/

/-- There is a row that reads as `c` does once it was stored. -/
def Holds (s : Store) (c : Conversation) : Prop :=
  ∃ d, StateRow.ofConversation d ∈ s.states ∧ d.kept = c.kept

theorem Holds.congr {s s' : Store} {c : Conversation} (h : s.Holds c) (hs : s'.states = s.states) :
    s'.Holds c := by
  unfold Holds
  rwa [hs]

theorem StateRow.lastInbound_read {r : StateRow} {c : Conversation} (h : r.read = .ok c) :
    c.workspace = r.workspace ∧ c.phone = r.phone ∧
      c.lastInbound = r.lastInbound.map TimeText.readStored := by
  unfold read at h
  cases hid : readUuid r.id with
  | error e => simp [hid, bind, Except.bind] at h
  | ok id =>
    cases hflow : readUuid r.flow with
    | error e => simp [hid, hflow, bind, Except.bind] at h
    | ok flow =>
      cases hcollected : readDocument 7 Variables.fromJson r.collected with
      | error e => simp [hid, hflow, hcollected, bind, Except.bind] at h
      | ok collected =>
        simp only [hid, hflow, hcollected, bind, Except.bind, pure, Except.pure,
          Except.ok.injEq] at h
        rw [← h]
        exact ⟨rfl, rfl, rfl⟩

-- A conversation that is active and was read from a row is held.
theorem StateRow.Written.holds {s : Store} {r : StateRow} (hw : r.Written) (hr : r ∈ s.states)
    {c : Conversation} (hread : r.read = .ok c) :
    r.id = toString c.id ∧ r.workspace = c.workspace ∧ r.phone = c.phone ∧
      r.isActive = .ofBool c.isActive ∧ c.kept = c ∧ (c.isActive = true → s.Holds c) := by
  obtain ⟨d, version, rfl, hversion⟩ := hw
  rw [read_ofConversation] at hread
  cases hread
  refine ⟨rfl, rfl, rfl, rfl, by simp [Conversation.kept, Function.comp_def], fun hactive => ?_⟩
  refine ⟨d, ?_, ?_⟩
  · rw [hversion hactive] at hr
    exact hr
  · rw [hversion hactive]
    exact d.kept_kept.symm

-- What is read from the first row that is wanted is held as long as it is active.
theorem Consistent.holds_of_readFirst {s : Store} (hs : s.Consistent) {wanted : StateRow → Bool}
    {c : Conversation} (h : readFirst StateRow.read (s.states.find? wanted) = .ok (some c)) :
    ∃ r ∈ s.states, wanted r = true ∧ r.id = toString c.id ∧ r.workspace = c.workspace ∧
      r.phone = c.phone ∧ r.isActive = .ofBool c.isActive ∧ c.kept = c ∧
      (c.isActive = true → s.Holds c) := by
  unfold readFirst at h
  split at h
  · rename_i r hfind
    have hr := List.mem_of_find?_eq_some hfind
    cases hread : r.read with
    | error e => simp [hread, Except.map] at h
    | ok c' =>
      obtain rfl : c' = c := by simpa [hread, Except.map] using h
      exact ⟨r, hr, List.find?_some hfind, (hs.written r hr).holds hr hread⟩
  · simp at h

-- What is found under an identifier is held as long as it is active.
theorem Consistent.holds_of_state? {s : Store} (hs : s.Consistent) {id : Uuid} {c : Conversation}
    (h : s.state? id = .ok (some c)) :
    c.id = id ∧ c.kept = c ∧ (c.isActive = true → s.Holds c) := by
  obtain ⟨r, -, hwanted, hid, -, -, -, hkept, hholds⟩ := hs.holds_of_readFirst h
  rw [beq_iff_eq, hid, Uuid.toString_inj] at hwanted
  exact ⟨hwanted, hkept, hholds⟩

-- The active conversation of a person is held.
theorem Consistent.holds_of_activeState? {s : Store} (hs : s.Consistent) {workspace phone : String}
    {c : Conversation} (h : s.activeState? workspace phone = .ok (some c)) :
    c.workspace = workspace ∧ c.phone = phone ∧ c.isActive = true ∧ c.kept = c ∧ s.Holds c := by
  obtain ⟨r, -, hwanted, -, hworkspace, hphone, hactive, hkept, hholds⟩ := hs.holds_of_readFirst h
  simp only [isActiveFor, Bool.and_eq_true, beq_iff_eq] at hwanted
  obtain ⟨⟨hw, hp⟩, ha⟩ := hwanted
  have hc : c.isActive = true := by
    rw [hactive] at ha
    revert ha
    cases c.isActive <;> simp [IntCell.ofBool]
  exact ⟨hworkspace ▸ hw, hphone ▸ hp, hc, hkept, hholds hc⟩

-- A copy that is held is found under its identifier.
theorem Holds.state? {s : Store} (hs : s.Consistent) {c : Conversation} (h : s.Holds c) :
    s.state? c.id = .ok (some c.kept) := by
  obtain ⟨d, hd, hkept⟩ := h
  have hid : (StateRow.ofConversation d).id = toString c.id :=
    congrArg toString (Conversation.Same.of_kept_eq hkept).id
  have hread : (StateRow.ofConversation d).read = .ok d.kept :=
    StateRow.read_ofConversation d (.int d.version)
  rw [Store.state?, hs.find?_id hd hid, readFirst, hread, hkept]
  rfl

-- The row of a copy that is held and active.
theorem Holds.row {s : Store} {c : Conversation} (h : s.Holds c) (hactive : c.isActive = true) :
    ∃ d, StateRow.ofConversation d ∈ s.states ∧ d.kept = c.kept ∧ c.Same d ∧
      d.version = c.version ∧ (StateRow.ofConversation d).isActive = .int 1 := by
  obtain ⟨d, hd, hkept⟩ := h
  have hversion : d.version = c.version := by
    simpa [Conversation.kept] using congrArg Conversation.version hkept
  have hsame : d.isActive = c.isActive := by
    simpa [Conversation.kept] using congrArg Conversation.isActive hkept
  refine ⟨d, hd, hkept, .symm (.of_kept_eq hkept), hversion, ?_⟩
  simp [StateRow.ofConversation, hsame, hactive, IntCell.ofBool]

-- A copy that is held and active is the active conversation of its person.
theorem Holds.activeState? {s : Store} (hs : s.Consistent) {c : Conversation} (h : s.Holds c)
    (hactive : c.isActive = true) : s.activeState? c.workspace c.phone = .ok (some c.kept) := by
  obtain ⟨d, hd, hkept, hsame, -, hd'⟩ := h.row hactive
  have hwanted : isActiveFor c.workspace c.phone (.ofConversation d) = true := by
    simp only [isActiveFor, hd', Bool.and_eq_true, beq_iff_eq]
    exact ⟨⟨hsame.workspace.symm, hsame.phone.symm⟩, trivial⟩
  obtain ⟨r, hr⟩ : ∃ r, s.states.find? (isActiveFor c.workspace c.phone) = some r := by
    rw [← Option.isSome_iff_exists, List.find?_isSome]
    exact ⟨_, hd, hwanted⟩
  -- There is no other active row of the person.
  have hrow : r = .ofConversation d := by
    have hr' := List.find?_some hr
    simp only [isActiveFor, Bool.and_eq_true, beq_iff_eq] at hr'
    exact hs.single r (List.mem_of_find?_eq_some hr) _ hd hr'.2 hd'
      (hr'.1.1.trans hsame.workspace) (hr'.1.2.trans hsame.phone)
  have hread : (StateRow.ofConversation d).read = .ok d.kept :=
    StateRow.read_ofConversation d (.int d.version)
  rw [Store.activeState?, hr, readFirst, hrow, hread, hkept]
  rfl

/-! ## 3. Writing a copy -/

/-- The store after `c` was written over its row. -/
def set (s : Store) (c : Conversation) : Store :=
  { s with states := s.states.map fun r =>
      if r.id == toString c.id then r.revised (.ofConversation c) else r }

theorem StateRow.revised_ofConversation {c d : Conversation} (h : c.Same d) :
    (StateRow.ofConversation d).revised (.ofConversation c) =
      .ofConversation { c with created := d.created } := by
  simp only [revised, ofConversation, h.id, h.workspace, h.account, h.phone, h.flow]

theorem mem_set {s : Store} {c : Conversation} {r : StateRow} (h : r ∈ (s.set c).states) :
    r ∈ s.states ∨
      ∃ old ∈ s.states, old.id = toString c.id ∧ r = old.revised (.ofConversation c) := by
  obtain ⟨old, hold, rfl⟩ := List.mem_map.mp h
  by_cases hid : old.id = toString c.id
  · exact .inr ⟨old, hold, hid, by simp [hid]⟩
  · exact .inl (by simpa [hid] using hold)

theorem ids_set (s : Store) (c : Conversation) :
    (s.set c).states.map (·.id) = s.states.map (·.id) := by
  unfold set
  rw [List.map_map]
  apply List.map_congr_left
  intro r _
  rw [Function.comp_apply]
  split <;> rfl

-- Of what is written over one row the last is left.
theorem set_set (s : Store) {c c' : Conversation} (h : c.id = c'.id) :
    (s.set c).set c' = s.set c' := by
  unfold set
  simp only [List.map_map, h]
  congr 1
  apply List.map_congr_left
  intro r _
  rw [Function.comp_apply]
  by_cases hid : r.id = toString c'.id
  · have hid' : (r.revised (.ofConversation c)).id = toString c'.id := hid
    simp only [hid, hid', beq_self_eq_true, if_true]
    rfl
  · simp [hid]

-- The store holds what was written over the row of a conversation.
theorem Holds.set {s : Store} {c c' : Conversation} (h : s.Holds c) (hsame : c'.Same c) :
    (s.set c').Holds c' := by
  obtain ⟨d, hd, hkept⟩ := h
  have hsame' : c'.Same d := hsame.trans (.symm (.of_kept_eq hkept))
  refine ⟨{ c' with created := d.created }, ?_, ?_⟩
  · rw [← StateRow.revised_ofConversation hsame']
    refine List.mem_map.mpr ⟨_, hd, if_pos ?_⟩
    rw [beq_iff_eq, hsame'.id]
    rfl
  · simp only [Conversation.kept, hsame'.created]

-- After a write a row is as it was, or it is the one that was written over.
theorem Holds.eq_of_set {s : Store} (hs : s.Consistent) {c c' : Conversation} (h : s.Holds c)
    (hsame : c'.Same c) {r r' : StateRow} (hr : r ∈ s.states) (hr' : r' ∈ (s.set c').states)
    (hid : r'.id = r.id) :
    r' = r ∨ ∃ d, r = .ofConversation d ∧ d.kept = c.kept ∧
      r' = .ofConversation { c' with created := d.created } := by
  rcases mem_set hr' with hr' | ⟨old, hold, hid', rfl⟩
  · exact .inl (hs.eq_of_id hr' hr hid)
  · obtain ⟨d, hd, hkept⟩ := h
    have hsame' : c'.Same d := hsame.trans (.symm (.of_kept_eq hkept))
    have hrow : old = .ofConversation d :=
      hs.eq_of_id hold hd (hid'.trans (congrArg toString hsame'.id))
    have heq : old = r := hs.eq_of_id hold hr hid
    refine .inr ⟨d, heq ▸ hrow, hkept, ?_⟩
    rw [hrow, StateRow.revised_ofConversation hsame']

-- Writing an active conversation keeps the store consistent.
theorem Consistent.set {s : Store} (hs : s.Consistent) {c c' : Conversation} (h : s.Holds c)
    (hactive : c.isActive = true) (hsame : c'.Same c) : (s.set c').Consistent := by
  obtain ⟨d, hd, -, hsame₁, -, hd'⟩ := h.row hactive
  have hsame' : c'.Same d := hsame.trans hsame₁
  have hold : ∀ old ∈ s.states, old.id = toString c'.id → old = .ofConversation d := by
    intro old hold hid
    apply hs.eq_of_id hold hd
    rw [hid, hsame'.id]
    rfl
  -- The rewritten row stands for a row of the same person that was active.
  have hback : ∀ r ∈ (s.set c').states, ∃ old ∈ s.states, old.id = r.id ∧
      old.workspace = r.workspace ∧ old.phone = r.phone ∧
      (r.isActive = .int 1 → old.isActive = .int 1) := by
    intro r hr
    rcases mem_set hr with hr | ⟨old, hmem, hid, rfl⟩
    · exact ⟨r, hr, rfl, rfl, rfl, id⟩
    · refine ⟨old, hmem, rfl, rfl, rfl, fun _ => ?_⟩
      rw [hold old hmem hid, hd']
  have hdistinct : ((s.set c').states.map (·.id)).Nodup := by
    rw [ids_set]
    exact hs.distinct
  refine ⟨?_, hdistinct, ?_⟩
  · intro r hr
    rcases mem_set hr with hr | ⟨old, hmem, hid, rfl⟩
    · exact hs.written r hr
    · rw [hold old hmem hid, StateRow.revised_ofConversation hsame']
      exact ⟨_, _, rfl, fun _ => rfl⟩
  · intro r hr r' hr' ha ha' hworkspace hphone
    obtain ⟨old, hmem, hid, hw, hp, hact⟩ := hback r hr
    obtain ⟨old', hmem', hid', hw', hp', hact'⟩ := hback r' hr'
    have heq : old = old' := hs.single old hmem old' hmem' (hact ha) (hact' ha')
      (by rw [hw, hworkspace, hw']) (by rw [hp, hphone, hp'])
    apply List.inj_on_of_nodup_map hdistinct hr hr'
    rw [← hid, ← hid', heq]

-- A conversation is written over the row of its identifier.
theorem eq_set_of_updateState {s s' : Store} {c : Conversation} {version : Int}
    (h : s.updateState c version = .ok (some s')) :
    (∃ r ∈ s.states, r.id = toString c.id) ∧ s' = s.set c := by
  simp only [updateState] at h
  split at h
  · cases h
  · rename_i old hold
    have hwanted := List.find?_some hold
    rw [Bool.and_eq_true, beq_iff_eq] at hwanted
    split at h
    · cases h
    · cases h
      refine ⟨⟨old, List.mem_of_find?_eq_some hold, hwanted.1⟩, ?_⟩
      rw [hwanted.1]
      rfl

-- A copy that is held and active is written over its row.
theorem Holds.updateState {s : Store} (hs : s.Consistent) {c c' : Conversation} (h : s.Holds c)
    (hactive : c.isActive = true) (hsame : c'.Same c) :
    s.updateState c' c.version = .ok (some (s.set c')) := by
  obtain ⟨d, hd, -, hsame₁, hversion, hd'⟩ := h.row hactive
  have hsame' : c'.Same d := hsame.trans hsame₁
  have hid : (StateRow.ofConversation d).id = toString c'.id := congrArg toString hsame'.symm.id
  -- The row is found by its identifier and its version, as nobody has written it since.
  have hfind : s.states.find? (fun r => r.id == toString c'.id && r.version == .int c.version) =
      some (.ofConversation d) := by
    obtain ⟨r, hr⟩ : ∃ r, s.states.find?
        (fun r => r.id == toString c'.id && r.version == .int c.version) = some r := by
      rw [← Option.isSome_iff_exists, List.find?_isSome]
      refine ⟨_, hd, ?_⟩
      rw [hid]
      simp [StateRow.ofConversation, hversion]
    have hwanted := List.find?_some hr
    simp only [Bool.and_eq_true, beq_iff_eq] at hwanted
    rw [hr, hs.eq_of_id (List.mem_of_find?_eq_some hr) hd (by rw [hwanted.1, hid])]
  -- It is active already, so no other row of the person stands in the way.
  have hothers : s.states.any (fun r => r.id != toString c'.id &&
      isActiveFor (StateRow.ofConversation d).workspace (StateRow.ofConversation d).phone r) =
        false := by
    rw [List.any_eq_false]
    intro r hr
    simp only [isActiveFor, Bool.and_eq_true, bne_iff_ne, beq_iff_eq, not_and]
    intro hne hwp ha
    exact hne (hid ▸ congrArg StateRow.id (hs.single r hr _ hd ha hd' hwp.1 hwp.2))
  have hnew : (StateRow.ofConversation c').id = toString c'.id := rfl
  simp only [Store.updateState, hnew, hfind, hid, hothers, Bool.and_false, Bool.false_eq_true,
    if_false]
  rfl

/-! ## 4. Beginning a conversation -/

theorem StateRow.Written.displaced {r : StateRow} (hr : r.Written) (time : Instant) :
    (r.displaced time.stored).Written := by
  obtain ⟨c, version, rfl, -⟩ := hr
  exact ⟨{ c with isActive := false, resumeAt := none, completed := some time, updated := time },
    version.next, rfl, fun h => absurd h (by simp)⟩

theorem isActive_displaced (r : StateRow) (time : String) :
    (r.displaced time).isActive = .int 0 := rfl

/-- A row when `c` begins: the active one of the same person is displaced. -/
def StateRow.yielded (r : StateRow) (c : Conversation) : StateRow :=
  if isActiveFor c.workspace c.phone r then r.displaced c.created.stored else r

@[simp] theorem StateRow.id_yielded (r : StateRow) (c : Conversation) :
    (r.yielded c).id = r.id := by
  unfold yielded
  split <;> rfl

theorem StateRow.Written.yielded {r : StateRow} (hr : r.Written) (c : Conversation) :
    (r.yielded c).Written := by
  unfold StateRow.yielded
  split
  · exact hr.displaced _
  · exact hr

-- A row that is active still is another person's.
theorem StateRow.eq_of_active_yielded {r : StateRow} {c : Conversation}
    (h : (r.yielded c).isActive = .int 1) :
    r.yielded c = r ∧ ¬ (r.workspace = c.workspace ∧ r.phone = c.phone) := by
  unfold yielded at h ⊢
  split at h
  · rw [isActive_displaced] at h
    simp at h
  · rename_i hfor
    rw [if_neg hfor]
    refine ⟨rfl, fun hperson => hfor ?_⟩
    simp [isActiveFor, hperson, h]

-- Beginning a conversation ends the one of the same person that was active, and inserts the new
-- one.
theorem states_createState {s s' : Store} {c : Conversation} (h : s.createState c = .ok s') :
    s' = { s with states := s.states.map (·.yielded c) ++ [.ofConversation c] } ∧
      ∀ r ∈ s.states, r.id ≠ toString c.id := by
  simp only [Store.createState] at h
  split at h
  · simp at h
  · rename_i hnew
    refine ⟨(Except.ok.inj h).symm, ?_⟩
    simpa [StateRow.ofConversation] using hnew

-- What has just been inserted would be written as it is.
theorem set_createState {s s' : Store} {c : Conversation} (h : s.createState c = .ok s') :
    s'.set c = s' := by
  obtain ⟨rfl, hnew⟩ := states_createState h
  unfold set
  simp only [List.map_append, List.map_singleton, List.map_map]
  congr 2
  · apply List.map_congr_left
    intro r hr
    rw [Function.comp_apply, if_neg]
    rw [beq_iff_eq, StateRow.id_yielded]
    exact hnew r hr
  · have hid : (StateRow.ofConversation c).id = toString c.id := rfl
    rw [if_pos (beq_iff_eq.mpr hid)]
    rfl

/-- What `createState` adds leaves a store `Consistent`. -/
theorem Consistent.createState {s s' : Store} (hs : s.Consistent) {c : Conversation}
    (h : s.createState c = .ok s') : s'.Consistent ∧ s'.Holds c := by
  obtain ⟨rfl, hnew⟩ := states_createState h
  have hold : ∀ r ∈ s.states.map (·.yielded c), r.isActive = .int 1 →
      r ∈ s.states ∧ ¬ (r.workspace = c.workspace ∧ r.phone = c.phone) := by
    intro r hr hactive
    obtain ⟨old, hmem, rfl⟩ := List.mem_map.mp hr
    obtain ⟨heq, hother⟩ := StateRow.eq_of_active_yielded hactive
    rw [heq]
    exact ⟨hmem, hother⟩
  refine ⟨⟨?_, ?_, ?_⟩, ⟨c, by simp, rfl⟩⟩
  · intro r hr
    rcases List.mem_append.mp hr with hr | hr
    · obtain ⟨old, hmem, rfl⟩ := List.mem_map.mp hr
      exact (hs.written old hmem).yielded c
    · rw [List.mem_singleton.mp hr]
      exact ⟨c, .int c.version, rfl, fun _ => rfl⟩
  · have hids : (s.states.map (·.yielded c)).map (·.id) = s.states.map (·.id) := by
      simp [List.map_map, Function.comp_def]
    rw [List.map_append, hids, List.nodup_append]
    refine ⟨hs.distinct, by simp, ?_⟩
    intro a ha b hb
    obtain ⟨r, hr, rfl⟩ := List.mem_map.mp ha
    rw [List.map_singleton, List.mem_singleton] at hb
    rw [hb]
    exact hnew r hr
  · -- Two active rows of a person: neither can be the new one unless both are.
    intro r hr r' hr' ha ha' hworkspace hphone
    rcases List.mem_append.mp hr with hr | hr <;> rcases List.mem_append.mp hr' with hr' | hr'
    · exact hs.single r (hold r hr ha).1 r' (hold r' hr' ha').1 ha ha' hworkspace hphone
    · rw [List.mem_singleton.mp hr'] at hworkspace hphone
      exact absurd ⟨hworkspace, hphone⟩ (hold r hr ha).2
    · rw [List.mem_singleton.mp hr] at hworkspace hphone
      exact absurd ⟨hworkspace.symm, hphone.symm⟩ (hold r' hr' ha').2
    · rw [List.mem_singleton.mp hr, List.mem_singleton.mp hr']

end Store

end Autoresponder
