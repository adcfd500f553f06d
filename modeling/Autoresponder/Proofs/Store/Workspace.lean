import Autoresponder.Proofs.Store.Part

/-!
# Workspaces

A store is divided into what belongs to a workspace and what does not. What is asked about a
workspace is answered by the former alone, and what is written for it leaves the latter as it is.
-/

namespace Autoresponder.Store

/-! ## 1. Parts of a store -/

/-- Whether a rule of a workspace has an identifier. -/
def ruled (s : Store) (workspace id : String) : Bool :=
  s.rules.any fun r => r.workspace == workspace && r.id == id

/-- What belongs to a workspace. A firing belongs to the workspace of its rule (`ruled`). -/
def within (s : Store) (workspace : String) : Store where
  flows := s.flows.filter (·.workspace == workspace)
  rules := s.rules.filter (·.workspace == workspace)
  firings := s.firings.filter fun r => s.ruled workspace r.rule
  settings := s.settings.filter (·.workspace == workspace)
  states := s.states.filter (·.workspace == workspace)

/-- What does not belong to a workspace: all that is not `within`. -/
def beyond (s : Store) (workspace : String) : Store where
  flows := s.flows.filter (·.workspace != workspace)
  rules := s.rules.filter (·.workspace != workspace)
  firings := s.firings.filter fun r => !s.ruled workspace r.rule
  settings := s.settings.filter (·.workspace != workspace)
  states := s.states.filter (·.workspace != workspace)

/-- An identifier is that of no flow of another workspace. -/
def OwnsFlow (s : Store) (workspace : String) (id : Uuid) : Prop :=
  ∀ r ∈ s.flows, r.id = toString id → r.workspace = workspace

def OwnsState (s : Store) (workspace : String) (id : Uuid) : Prop :=
  ∀ r ∈ s.states, r.id = toString id → r.workspace = workspace

def OwnsFiring (s : Store) (workspace : String) (id : Uuid) : Prop :=
  ∀ r ∈ s.firings, r.id = toString id → s.ruled workspace r.rule = true

/-- An identifier is that of a rule, and of none of another workspace. -/
structure OwnsRule (s : Store) (workspace : String) (id : Uuid) : Prop where
  ruled : s.ruled workspace (toString id) = true
  alone : ∀ r ∈ s.rules, r.id = toString id → r.workspace = workspace

theorem view_within (workspace : String) :
    View (·.workspace == workspace) (·.within workspace) :=
  ⟨fun _ _ => rfl, fun _ _ h _ => by rw [h]⟩

theorem view_beyond (workspace : String) :
    View (·.workspace != workspace) (·.beyond workspace) :=
  ⟨fun _ _ => rfl, fun _ _ h _ => by rw [h]⟩

/-! ## 2. What is asked -/

section

variable {s : Store} {workspace : String}

theorem activeFlows_within (s : Store) (workspace account : String) :
    (s.within workspace).activeFlows workspace account = s.activeFlows workspace account := by
  simp only [activeFlows, within, List.filter_filter]
  congr 2
  refine List.filter_congr fun r _ => ?_
  cases r.workspace == workspace <;> simp

theorem activeRules_within (s : Store) (workspace account : String) :
    (s.within workspace).activeRules workspace account = s.activeRules workspace account := by
  simp only [activeRules, within, List.filter_filter]
  congr 2
  refine List.filter_congr fun r _ => ?_
  cases r.workspace == workspace <;> simp

theorem settings?_within (s : Store) (workspace account : String) :
    (s.within workspace).settings? workspace account = s.settings? workspace account := by
  simp only [settings?, within]
  rw [find?_filter_of_imp]
  intro r _ hr
  simp only [isFor, Bool.and_eq_true] at hr
  exact hr.1

theorem activeState?_within (s : Store) (workspace phone : String) :
    (s.within workspace).activeState? workspace phone = s.activeState? workspace phone := by
  simp only [activeState?, within]
  rw [find?_filter_of_imp]
  intro r _ hr
  simp only [isActiveFor, Bool.and_eq_true] at hr
  exact hr.1.1

theorem OwnsState.state?_within {id : Uuid} (h : s.OwnsState workspace id) :
    (s.within workspace).state? id = s.state? id := by
  simp only [state?, within]
  rw [find?_filter_of_imp]
  intro r hr hid
  exact beq_iff_eq.mpr (h r hr (eq_of_beq hid))

theorem OwnsRule.successes_within {id : Uuid} (h : s.OwnsRule workspace id)
    (conversation : String) :
    (s.within workspace).successes id conversation = s.successes id conversation := by
  simp only [successes, within, List.filter_filter]
  refine List.filter_congr fun r _ => ?_
  by_cases hid : r.rule = toString id
  · rw [hid, h.ruled, Bool.and_true]
  · simp [hid]

end

/-! ## 3. What is written -/

section

variable {s s' : Store} {workspace : String}

theorem countFlowStart_within (s : Store) (workspace : String) (id : Uuid) (time : Instant) :
    (s.countFlowStart id time).within workspace =
      (s.within workspace).countFlowStart id time := by
  simp only [countFlowStart, within]
  rw [filter_map_of_keeps fun r => by split <;> rfl]
  rfl

theorem OwnsFlow.beyond_countFlowStart {id : Uuid} (h : s.OwnsFlow workspace id) (time : Instant) :
    (s.countFlowStart id time).beyond workspace = s.beyond workspace := by
  simp only [countFlowStart, beyond]
  rw [filter_map_of_fixes (fun r => by split <;> rfl) fun r hr hother => ?_]
  · rfl
  · rw [if_neg]
    intro hid
    simp [h r hr (eq_of_beq hid)] at hother

theorem OwnsState.createState_within {c : Conversation} (h : s.OwnsState workspace c.id)
    (hc : c.workspace = workspace) :
    (s.within workspace).createState c = (s.createState c).map (·.within workspace) :=
  (view_within workspace).createState_of_shown (fun r hr hid => beq_iff_eq.mpr (h r hr hid))
    (beq_iff_eq.mpr hc)

theorem beyond_createState {c : Conversation} (hc : c.workspace = workspace)
    (h : s.createState c = .ok s') : s'.beyond workspace = s.beyond workspace :=
  (view_beyond workspace).createState_of_hidden (bne_eq_false_iff_eq.mpr hc) h

theorem OwnsState.updateState_within {c : Conversation} (h : s.OwnsState workspace c.id)
    (version : Int) :
    (s.within workspace).updateState c version =
      (s.updateState c version).map (·.map (·.within workspace)) :=
  (view_within workspace).updateState_of_shown (fun r hr hid => beq_iff_eq.mpr (h r hr hid)) version

theorem OwnsState.beyond_updateState {c : Conversation} (h : s.OwnsState workspace c.id)
    {version : Int} (hupdate : s.updateState c version = .ok (some s')) :
    s'.beyond workspace = s.beyond workspace :=
  (view_beyond workspace).updateState_of_hidden
    (fun r hr hid => bne_eq_false_iff_eq.mpr (h r hr hid)) hupdate

-- Rules stay with their workspace when a firing is counted.
theorem ruled_logFiring {e : Firing} (h : s.logFiring e = .ok s') (id : String) :
    s'.ruled workspace id = s.ruled workspace id := by
  obtain ⟨-, -, rfl⟩ := logged_of_logFiring h
  simp only [ruled, List.any_map]
  congr 1
  funext r
  rw [Function.comp_apply]
  split <;> rfl

theorem OwnsRule.logFiring_within {e : Firing} (h : s.OwnsRule workspace e.rule)
    (hid : s.OwnsFiring workspace e.id) :
    (s.within workspace).logFiring e = (s.logFiring e).map (·.within workspace) := by
  have hfirings : (s.within workspace).firings.any (·.id == (FiringRow.ofFiring e).id) =
      s.firings.any (·.id == (FiringRow.ofFiring e).id) :=
    any_filter_of_imp fun r hr hid' => hid r hr (eq_of_beq hid')
  have hrules : (s.within workspace).rules.any (·.id == (FiringRow.ofFiring e).rule) =
      s.rules.any (·.id == (FiringRow.ofFiring e).rule) :=
    any_filter_of_imp fun r hr hid' => beq_iff_eq.mpr (h.alone r hr (eq_of_beq hid'))
  have hnew : [FiringRow.ofFiring e].filter (fun r => s.ruled workspace r.rule) =
      [FiringRow.ofFiring e] :=
    List.filter_eq_self.mpr fun r hr => List.mem_singleton.mp hr ▸ h.ruled
  cases hlog : s.logFiring e with
  | error err =>
    simp only [logFiring] at hlog ⊢
    rw [hfirings, hrules]
    split at hlog
    · rw [if_pos ‹_›]
      exact hlog
    · split at hlog
      · rw [if_neg ‹_›, if_pos ‹_›]
        exact hlog
      · cases hlog
  | ok s' =>
    have hruled (id : String) : s'.ruled workspace id = s.ruled workspace id :=
      ruled_logFiring hlog id
    obtain ⟨hunused, hruling, rfl⟩ := logged_of_logFiring hlog
    simp only [logFiring]
    rw [hfirings, hrules, if_neg hunused, if_neg hruling]
    simp only [Except.map, within, hruled]
    rw [List.filter_append, hnew, filter_map_of_keeps fun r => by split <;> rfl]

theorem OwnsRule.beyond_logFiring {e : Firing} (h : s.OwnsRule workspace e.rule)
    (hlog : s.logFiring e = .ok s') : s'.beyond workspace = s.beyond workspace := by
  have hruled (id : String) : s'.ruled workspace id = s.ruled workspace id :=
    ruled_logFiring hlog id
  obtain ⟨-, -, rfl⟩ := logged_of_logFiring hlog
  have hnew : [FiringRow.ofFiring e].filter (fun r => !s.ruled workspace r.rule) = [] := by
    have hrule : s.ruled workspace (FiringRow.ofFiring e).rule = true := h.ruled
    simp [hrule]
  simp only [beyond, hruled]
  rw [List.filter_append, hnew, List.append_nil,
    filter_map_of_fixes (fun r => by split <;> rfl) fun r hr hother => ?_]
  rw [if_neg]
  intro hid
  rw [Bool.and_eq_true, beq_iff_eq] at hid
  simp [h.alone r hr hid.2] at hother

end

/-! ## 4. Identifiers of a workspace -/

section

variable {s s' b : Store} {workspace : String} {id : Uuid}

theorem ownsFlow_iff :
    s.OwnsFlow workspace id ↔ ∀ r ∈ (s.beyond workspace).flows, r.id ≠ toString id := by
  simp only [OwnsFlow, beyond, List.mem_filter, bne_iff_ne, ne_eq]
  grind

theorem ownsState_iff :
    s.OwnsState workspace id ↔ ∀ r ∈ (s.beyond workspace).states, r.id ≠ toString id := by
  simp only [OwnsState, beyond, List.mem_filter, bne_iff_ne, ne_eq]
  grind

theorem ownsFiring_iff :
    s.OwnsFiring workspace id ↔ ∀ r ∈ (s.beyond workspace).firings, r.id ≠ toString id := by
  simp only [OwnsFiring, beyond, List.mem_filter, Bool.not_eq_true', ne_eq]
  grind

theorem ownsRule_iff :
    s.OwnsRule workspace id ↔ s.ruled workspace (toString id) = true ∧
      ∀ r ∈ (s.beyond workspace).rules, r.id ≠ toString id := by
  have halone : (∀ r ∈ s.rules, r.id = toString id → r.workspace = workspace) ↔
      ∀ r ∈ (s.beyond workspace).rules, r.id ≠ toString id := by
    simp only [beyond, List.mem_filter, bne_iff_ne, ne_eq]
    grind
  exact ⟨fun h => ⟨h.ruled, halone.mp h.alone⟩, fun h => ⟨h.1, halone.mpr h.2⟩⟩

/-- What a row of a workspace is read as has an identifier of the workspace, where the store is
`Identified`. -/
theorem Identified.ownsFlow (hs : s.Identified) {r : FlowRow} (hr : r ∈ s.flows)
    (hworkspace : r.workspace = workspace) (hread : readUuid r.id = .ok id) :
    s.OwnsFlow workspace id := by
  have hkeys := keyed_iff.mp hs.flows
  intro q hq hid
  rw [hkeys.eq_of_id hq hr (hid.trans (hkeys.eq_toString hr hread).symm), hworkspace]

theorem Identified.ownsState (hs : s.Identified) {r : StateRow} (hr : r ∈ s.states)
    (hworkspace : r.workspace = workspace) (hread : readUuid r.id = .ok id) :
    s.OwnsState workspace id := by
  intro q hq hid
  rw [hs.states.eq_of_id hq hr (hid.trans (hs.states.eq_toString hr hread).symm), hworkspace]

theorem Identified.ownsRule (hs : s.Identified) {r : RuleRow} (hr : r ∈ s.rules)
    (hworkspace : r.workspace = workspace) (hread : readUuid r.id = .ok id) :
    s.OwnsRule workspace id where
  ruled := by
    refine List.any_eq_true.mpr ⟨r, hr, ?_⟩
    rw [hworkspace, hs.rules.eq_toString hr hread, beq_self_eq_true, beq_self_eq_true]
    rfl
  alone q hq hid := by
    rw [hs.rules.eq_of_id hq hr (hid.trans (hs.rules.eq_toString hr hread).symm), hworkspace]

theorem RuleRow.readUuid_of_read {row : RuleRow} {r : Rule} (h : row.read = .ok r) :
    readUuid row.id = .ok r.id := by
  simp only [read, bind, Except.bind, pure, Except.pure] at h
  repeat' split at h
  all_goals cases h
  assumption

theorem StateRow.readUuid_of_read {r : StateRow} {c : Conversation} (h : r.read = .ok c) :
    readUuid r.id = .ok c.id ∧ c.workspace = r.workspace ∧ c.phone = r.phone ∧
      c.isActive = r.isActive.isSet := by
  simp only [read, bind, Except.bind, pure, Except.pure] at h
  repeat' split at h
  all_goals cases h
  exact ⟨‹_›, rfl, rfl, rfl⟩

-- What is read from the first row that is wanted was read from a row.
theorem exists_of_readFirst {ρ α : Type} {read : ρ → Except StoreError α} {rows : List ρ}
    {wanted : ρ → Bool} {a : α} (h : readFirst read (rows.find? wanted) = .ok (some a)) :
    ∃ r ∈ rows, wanted r = true ∧ read r = .ok a := by
  unfold readFirst at h
  split at h
  · rename_i r hfind
    refine ⟨r, List.mem_of_find?_eq_some hfind, List.find?_some hfind, ?_⟩
    cases hread : read r with
    | error e => simp [hread, Except.map] at h
    | ok b => simpa [hread, Except.map] using h
  · simp at h

-- What a workspace is answered with has identifiers of the workspace.

theorem Identified.ownsFlow_of_mem (hs : s.Identified) {account : String} {f : Flow}
    (hf : f ∈ s.activeFlows workspace account) : s.OwnsFlow workspace f.id := by
  obtain ⟨r, hr, ⟨hworkspace, -⟩, hread⟩ := mem_activeFlows.mp hf
  exact hs.ownsFlow hr hworkspace (FlowRow.readUuid_of_read hread)

theorem Identified.ownsRule_of_mem (hs : s.Identified) {account : String} {r : Rule}
    (hr : r ∈ s.activeRules workspace account) : s.OwnsRule workspace r.id := by
  obtain ⟨row, hrow, ⟨hworkspace, -⟩, hread⟩ := mem_activeRules.mp hr
  exact hs.ownsRule hrow hworkspace (RuleRow.readUuid_of_read hread)

theorem Identified.ownsState_of_readFirst (hs : s.Identified) {wanted : StateRow → Bool}
    (hwanted : ∀ r ∈ s.states, wanted r = true → r.workspace = workspace) {c : Conversation}
    (h : readFirst StateRow.read (s.states.find? wanted) = .ok (some c)) :
    c.workspace = workspace ∧ s.OwnsState workspace c.id := by
  obtain ⟨r, hr, hfound, hread⟩ := exists_of_readFirst h
  obtain ⟨hid, hc, -⟩ := StateRow.readUuid_of_read hread
  have hworkspace := hwanted r hr hfound
  exact ⟨hc.trans hworkspace, hs.ownsState hr hworkspace hid⟩

/-- A store `s` has come from `b` by what concerns a workspace alone. -/
structure Beside (workspace : String) (b s : Store) : Prop where
  beyond : s.beyond workspace = b.beyond workspace
  ruled : ∀ id, s.ruled workspace id = b.ruled workspace id
  identified : s.Identified

theorem Identified.beside (hs : s.Identified) : Beside workspace s s := ⟨rfl, fun _ => rfl, hs⟩

namespace Beside

theorem trans (h : Beside workspace b s) (h' : Beside workspace s s') : Beside workspace b s' :=
  ⟨h'.beyond.trans h.beyond, fun id => (h'.ruled id).trans (h.ruled id), h'.identified⟩

-- The identifiers of a workspace stay with it.
theorem ownsFlow (h : Beside workspace b s) :
    s.OwnsFlow workspace id ↔ b.OwnsFlow workspace id := by
  rw [ownsFlow_iff, ownsFlow_iff, h.beyond]

theorem ownsState (h : Beside workspace b s) :
    s.OwnsState workspace id ↔ b.OwnsState workspace id := by
  rw [ownsState_iff, ownsState_iff, h.beyond]

theorem ownsFiring (h : Beside workspace b s) :
    s.OwnsFiring workspace id ↔ b.OwnsFiring workspace id := by
  rw [ownsFiring_iff, ownsFiring_iff, h.beyond]

theorem ownsRule (h : Beside workspace b s) :
    s.OwnsRule workspace id ↔ b.OwnsRule workspace id := by
  rw [ownsRule_iff, ownsRule_iff, h.beyond, h.ruled]

end Beside

-- What is written for a workspace keeps the store beside what it was.

theorem OwnsFlow.beside_countFlowStart (h : s.OwnsFlow workspace id) (hs : s.Identified)
    (time : Instant) : Beside workspace s (s.countFlowStart id time) where
  beyond := h.beyond_countFlowStart time
  ruled _ := rfl
  identified := ⟨hs.flows.countFlowStart id time, hs.rules, hs.states⟩

theorem beside_createState {c : Conversation} (hc : c.workspace = workspace) (hs : s.Identified)
    (hcreate : s.createState c = .ok s') : Beside workspace s s' := by
  refine ⟨beyond_createState hc hcreate, ?_, ?_⟩
  · obtain ⟨rfl, -⟩ := states_createState hcreate
    exact fun _ => rfl
  · obtain ⟨rfl, hnew⟩ := states_createState hcreate
    refine ⟨hs.flows.congr rfl, hs.rules, ?_⟩
    refine (hs.states.map fun r _ => r.id_yielded c).concat ⟨c.id, rfl⟩ fun r hr => ?_
    obtain ⟨old, hold, rfl⟩ := List.mem_map.mp hr
    rw [StateRow.id_yielded]
    exact hnew old hold

theorem OwnsState.beside_updateState {c : Conversation} (h : s.OwnsState workspace c.id)
    (hs : s.Identified) {version : Int} (hupdate : s.updateState c version = .ok (some s')) :
    Beside workspace s s' := by
  have hbeyond := h.beyond_updateState hupdate
  simp only [updateState] at hupdate
  split at hupdate
  · cases hupdate
  · split at hupdate
    · cases hupdate
    · cases hupdate
      refine ⟨hbeyond, fun _ => rfl, hs.flows.congr rfl, hs.rules, hs.states.map fun r _ => ?_⟩
      split <;> rfl

theorem OwnsRule.beside_logFiring {e : Firing} (h : s.OwnsRule workspace e.rule)
    (hs : s.Identified) (hlog : s.logFiring e = .ok s') : Beside workspace s s' := by
  refine ⟨h.beyond_logFiring hlog, ruled_logFiring hlog, ?_⟩
  obtain ⟨-, -, rfl⟩ := logged_of_logFiring hlog
  refine ⟨hs.flows.congr rfl, hs.rules.map fun r _ => ?_, hs.states⟩
  split <;> rfl

end

end Autoresponder.Store
