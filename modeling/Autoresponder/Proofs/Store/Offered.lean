import Autoresponder.Proofs.Store.Kept
import Autoresponder.Selection.Candidate
import Mathlib.Data.List.Nodup

/-!
# Flows that are offered

What an account offers is read from rows. While an identifier names one row, a flow that is offered
is the one that is found under its identifier, also when a start of it has been counted since.
-/

namespace Autoresponder

open Store

/-- Two states of one flow, as `countFlowStart` leaves it: who is where in the one can go on in the
other. -/
structure Flow.SameGraph (f g : Flow) : Prop where
  id : f.id = g.id
  nodes : f.nodes = g.nodes
  edges : f.edges = g.edges

namespace Store

/-! ## 1. Identifiers -/

/-- The `id` of a row is spelled in one way, and each names one row. -/
structure Keys {ρ : Type} (id : ρ → String) (rows : List ρ) : Prop where
  written : ∀ r ∈ rows, ∃ u : Uuid, id r = toString u
  distinct : (rows.map id).Nodup

section

variable {ρ : Type} {id : ρ → String} {rows rows' : List ρ}

theorem keys_nil : Keys id [] := ⟨nofun, List.nodup_nil⟩

theorem Keys.congr (h : Keys id rows) (hids : rows'.map id = rows.map id) : Keys id rows' where
  written r hr := by
    have hmem := List.mem_map_of_mem (f := id) hr
    rw [hids] at hmem
    obtain ⟨old, hold, hid⟩ := List.mem_map.mp hmem
    rw [← hid]
    exact h.written old hold
  distinct := hids ▸ h.distinct

-- Rows may change as long as they keep their identifiers.
theorem Keys.map (h : Keys id rows) {change : ρ → ρ} (hid : ∀ r ∈ rows, id (change r) = id r) :
    Keys id (rows.map change) := by
  refine h.congr ?_
  rw [List.map_map]
  exact List.map_congr_left hid

theorem Keys.concat (h : Keys id rows) {new : ρ} (hwritten : ∃ u : Uuid, id new = toString u)
    (hnew : ∀ r ∈ rows, id r ≠ id new) : Keys id (rows ++ [new]) where
  written r hr := by
    rcases List.mem_append.mp hr with hr | hr
    · exact h.written r hr
    · rw [List.mem_singleton.mp hr]
      exact hwritten
  distinct := by
    rw [List.map_append, List.nodup_append]
    refine ⟨h.distinct, by simp, fun a ha b hb => ?_⟩
    obtain ⟨r, hr, rfl⟩ := List.mem_map.mp ha
    rw [List.map_singleton, List.mem_singleton] at hb
    rw [hb]
    exact hnew r hr

-- A row is inserted unless its identifier is taken, and otherwise changes the one that has it.
theorem Keys.put (h : Keys id rows) (new : ρ) (hwritten : ∃ u : Uuid, id new = toString u)
    {change : ρ → ρ} (hchange : ∀ r, id (change r) = id new) :
    Keys id (if rows.any (id · == id new) then
      rows.map fun r => if id r == id new then change r else r else rows ++ [new]) := by
  split
  · refine h.map fun r _ => ?_
    split
    · rename_i hid
      rw [hchange, eq_of_beq hid]
    · rfl
  · rename_i hnone
    exact h.concat hwritten (by simpa using hnone)

-- Rows with one identifier are one row.
theorem Keys.eq_of_id (h : Keys id rows) {r r' : ρ} (hr : r ∈ rows) (hr' : r' ∈ rows)
    (hid : id r = id r') : r = r' :=
  List.inj_on_of_nodup_map h.distinct hr hr' hid

-- What an identifier is read as is written as that identifier.
theorem Keys.eq_toString (h : Keys id rows) {r : ρ} (hr : r ∈ rows) {u : Uuid}
    (hread : readUuid (id r) = .ok u) : id r = toString u := by
  obtain ⟨v, hv⟩ := h.written r hr
  rw [hv, readUuid_toString] at hread
  rw [hv, Except.ok.inj hread]

end

/-! ## 2. Rows of flows -/

/-- What holds of the `flows` of every store that this library writes: identifiers name one row
each. -/
structure Keyed (s : Store) : Prop where
  written : ∀ r ∈ s.flows, ∃ id : Uuid, r.id = toString id
  distinct : (s.flows.map (·.id)).Nodup

theorem keyed_iff {s : Store} : s.Keyed ↔ Keys FlowRow.id s.flows :=
  ⟨fun h => ⟨h.written, h.distinct⟩, fun h => ⟨h.written, h.distinct⟩⟩

-- A store without flows is keyed.
theorem keyed_of_nil {s : Store} (h : s.flows = []) : s.Keyed :=
  keyed_iff.mpr (h ▸ keys_nil)

theorem Keyed.congr {s s' : Store} (hs : s.Keyed) (h : s'.flows = s.flows) : s'.Keyed where
  written := h ▸ hs.written
  distinct := h ▸ hs.distinct

theorem Keyed.putFlow {s : Store} (hs : s.Keyed) (f : Flow) : (s.putFlow f).Keyed := by
  have hput := (keyed_iff.mp hs).put (.ofFlow f) ⟨f.id, rfl⟩ fun r =>
    (rfl : (r.revised (.ofFlow f)).id = (FlowRow.ofFlow f).id)
  rw [keyed_iff]
  unfold Store.putFlow
  split at hput <;> rename_i hany
  · rw [if_pos hany]
    exact hput
  · rw [if_neg hany]
    exact hput

theorem Keyed.setFlowStatus {s s' : Store} (hs : s.Keyed) {id : Uuid} {status : FlowStatus}
    {time : Instant} (h : s.setFlowStatus id status time = .ok s') : s'.Keyed := by
  simp only [Store.setFlowStatus] at h
  split at h
  · cases h
    refine keyed_iff.mpr ((keyed_iff.mp hs).map fun r _ => ?_)
    split <;> rfl
  · cases h

theorem Keyed.countFlowStart {s : Store} (hs : s.Keyed) (id : Uuid) (time : Instant) :
    (s.countFlowStart id time).Keyed := by
  refine keyed_iff.mpr ((keyed_iff.mp hs).map fun r _ => ?_)
  split <;> rfl

theorem FlowRow.readUuid_of_read {r : FlowRow} {f : Flow} (h : r.read = .ok f) :
    readUuid r.id = .ok f.id := by
  simp only [read, bind, Except.bind, pure, Except.pure] at h
  repeat' split at h
  all_goals cases h
  assumption

-- The statistics of a flow have no part in the rest of it.
theorem FlowRow.read_counted (r : FlowRow) (count : IntCell) (last : Option String) :
    { r with triggerCount := count, lastTriggered := last }.read =
      r.read.map fun f => { f with triggerCount := count.asUInt64,
                                   lastTriggered := last.map TimeText.readStored } := by
  simp only [read, bind, Except.bind, pure, Except.pure]
  repeat' split
  all_goals rfl

-- Rows whose flows have one identifier are one row.
theorem Keyed.eq_of_read {s : Store} (hs : s.Keyed) {r r' : FlowRow} (hr : r ∈ s.flows)
    (hr' : r' ∈ s.flows) {f f' : Flow} (h : r.read = .ok f) (h' : r'.read = .ok f')
    (hid : f.id = f'.id) : r = r' := by
  have hkeys := keyed_iff.mp hs
  apply hkeys.eq_of_id hr hr'
  rw [hkeys.eq_toString hr (FlowRow.readUuid_of_read h),
    hkeys.eq_toString hr' (FlowRow.readUuid_of_read h'), hid]

/-! ## 3. Snapshots -/

-- What is readable among rows was read from one of them.
theorem mem_readable {ρ α : Type} {read : ρ → Except StoreError α} {rows : List ρ} {a : α} :
    a ∈ readable read rows ↔ ∃ r ∈ rows, read r = .ok a := by
  have hread (r : ρ) : (read r).toOption = some a ↔ read r = .ok a := by
    cases read r <;> simp [Except.toOption]
  simp only [readable, List.mem_filterMap, hread]

theorem mem_activeFlows {s : Store} {workspace account : String} {f : Flow} :
    f ∈ s.activeFlows workspace account ↔ ∃ r ∈ s.flows, (r.workspace = workspace ∧
      r.account = account ∧ r.status = FlowStatus.active.tag) ∧ r.read = .ok f := by
  simp only [activeFlows, mem_readable, List.mem_mergeSort, List.mem_filter, Bool.and_eq_true,
    beq_iff_eq, and_assoc]

theorem mem_activeRules {s : Store} {workspace account : String} {r : Rule} :
    r ∈ s.activeRules workspace account ↔ ∃ row ∈ s.rules, (row.workspace = workspace ∧
      row.account = account ∧ row.isActive = .int 1) ∧ row.read = .ok r := by
  simp only [activeRules, mem_readable, List.mem_mergeSort, List.mem_filter, Bool.and_eq_true,
    beq_iff_eq, and_assoc]

theorem mem_dueStates {s : Store} {now : Instant} {c : Conversation} :
    c ∈ s.dueStates now ↔ ∃ r ∈ s.states, (r.isActive = .int 1 ∧
      ∃ t, r.resumeAt = some t ∧ t ≤ now.stored) ∧ r.read = .ok c := by
  simp only [dueStates, mem_readable, List.mem_mergeSort, List.mem_filter, Bool.and_eq_true,
    beq_iff_eq, and_assoc]
  refine exists_congr fun r => and_congr_right fun _ => and_congr_right fun _ =>
    and_congr_left fun _ => ?_
  cases r.resumeAt with
  | none => simp
  | some t => simp

/-- What an account has to answer messages with, as far as it can be read: what `Calls.snapshot`
comes to. -/
def snapshot (s : Store) (workspace account : String) : Except StoreError Snapshot :=
  (s.settings? workspace account).map fun settings =>
    .ofAccount workspace account (s.activeFlows workspace account)
      (s.activeRules workspace account) (settings.getD {})

/-- An account offers a flow: it is what is found under its identifier in `Store.snapshot`. -/
def Offers (s : Store) (workspace account : String) (f : Flow) : Prop :=
  ∃ snapshot, s.snapshot workspace account = .ok snapshot ∧ snapshot.flow? f.id = some f

section

variable {s s' : Store} {workspace account : String} {sn : Snapshot} {f : Flow}

theorem settings?_of_snapshot (h : s.snapshot workspace account = .ok sn) :
    ∃ settings, s.settings? workspace account = .ok settings ∧
      sn = .ofAccount workspace account (s.activeFlows workspace account)
        (s.activeRules workspace account) (settings.getD {}) := by
  unfold snapshot at h
  cases hsettings : s.settings? workspace account with
  | error e =>
    rw [hsettings] at h
    cases h
  | ok settings =>
    rw [hsettings] at h
    cases h
    exact ⟨settings, rfl, rfl⟩

-- The flows of a snapshot are those of the rows that are active and can be walked.
theorem mem_flows_of_snapshot (h : s.snapshot workspace account = .ok sn) :
    f ∈ sn.flows ↔ (∃ r ∈ s.flows, (r.workspace = workspace ∧ r.account = account ∧
      r.status = FlowStatus.active.tag) ∧ r.read = .ok f) ∧
        f.isActive = true ∧ f.problem? = none := by
  obtain ⟨settings, -, rfl⟩ := settings?_of_snapshot h
  simp only [Snapshot.ofAccount, List.mem_filter, mem_activeFlows, Bool.and_eq_true,
    Option.isNone_iff_eq_none]

-- A flow of a snapshot is the one that is found under its identifier.
theorem Keyed.flow?_of_mem (hs : s.Keyed) (h : s.snapshot workspace account = .ok sn)
    (hf : f ∈ sn.flows) : sn.flow? f.id = some f := by
  obtain ⟨g, hg⟩ : ∃ g, sn.flow? f.id = some g := by
    rw [← Option.isSome_iff_exists, Snapshot.flow?, List.find?_isSome]
    exact ⟨f, hf, beq_self_eq_true _⟩
  have hid : g.id = f.id := by simpa using List.find?_some hg
  -- Both were read from the row that has this identifier.
  obtain ⟨⟨r, hr, -, hread⟩, -⟩ := (mem_flows_of_snapshot h).mp hf
  obtain ⟨⟨r', hr', -, hread'⟩, -⟩ := (mem_flows_of_snapshot h).mp (List.mem_of_find?_eq_some hg)
  rw [hs.eq_of_read hr' hr hread' hread hid, hread] at hread'
  rw [hg, Except.ok.inj hread']

-- What is offered depends on flows and settings alone.
theorem Offers.congr (h : s.Offers workspace account f) (hflows : s'.flows = s.flows)
    (hsettings : s'.settings = s.settings) : s'.Offers workspace account f := by
  obtain ⟨sn, hsn, hf⟩ := h
  obtain ⟨settings, hread, rfl⟩ := settings?_of_snapshot hsn
  have hread' : s'.settings? workspace account = .ok settings := by
    unfold settings?
    rw [hsettings]
    exact hread
  refine ⟨_, by rw [snapshot, hread']; rfl, ?_⟩
  simp only [activeFlows, hflows]
  exact hf

-- After a start was counted the row of a flow is still there, perhaps with other statistics.
theorem exists_counted {r : FlowRow} (hr : r ∈ s.flows) (hread : r.read = .ok f) (id : Uuid)
    (time : Instant) :
    ∃ r' ∈ (s.countFlowStart id time).flows, (r'.workspace = r.workspace ∧
      r'.account = r.account ∧ r'.status = r.status) ∧
      ∃ g, r'.read = .ok g ∧ g.SameGraph f ∧ g.isActive = f.isActive ∧ g.problem? = f.problem? := by
  refine ⟨_, List.mem_map.mpr ⟨r, hr, rfl⟩, ?_⟩
  by_cases hid : r.id = toString id
  · rw [if_pos (beq_iff_eq.mpr hid), FlowRow.read_counted, hread]
    exact ⟨⟨rfl, rfl, rfl⟩, _, rfl, ⟨rfl, rfl, rfl⟩, rfl, rfl⟩
  · rw [if_neg (by simpa using hid)]
    exact ⟨⟨rfl, rfl, rfl⟩, f, hread, ⟨rfl, rfl, rfl⟩, rfl, rfl⟩

-- Counting a start leaves what is offered as it is but for statistics.
theorem Keyed.offers_countFlowStart (hs : s.Keyed) (h : s.Offers workspace account f) (id : Uuid)
    (time : Instant) :
    ∃ g, (s.countFlowStart id time).Offers workspace account g ∧ g.SameGraph f := by
  obtain ⟨sn, hsn, hf⟩ := h
  obtain ⟨⟨r, hr, ⟨hworkspace, haccount, hstatus⟩, hread⟩, hactive, hvalid⟩ :=
    (mem_flows_of_snapshot hsn).mp (List.mem_of_find?_eq_some hf)
  obtain ⟨r', hr', ⟨hworkspace', haccount', hstatus'⟩, g, hread', hg, hactive', hvalid'⟩ :=
    exists_counted hr hread id time
  obtain ⟨settings, hsettings, -⟩ := settings?_of_snapshot hsn
  -- The settings are as they were, so the account can be loaded again.
  obtain ⟨sn', hsn'⟩ : ∃ sn', (s.countFlowStart id time).snapshot workspace account = .ok sn' := by
    have hread : (s.countFlowStart id time).settings? workspace account = .ok settings := hsettings
    exact ⟨_, by rw [snapshot, hread]; rfl⟩
  have hmem : g ∈ sn'.flows := by
    rw [mem_flows_of_snapshot hsn']
    exact ⟨⟨r', hr', ⟨hworkspace'.trans hworkspace, haccount'.trans haccount,
      hstatus'.trans hstatus⟩, hread'⟩, hactive'.trans hactive, hvalid'.trans hvalid⟩
  exact ⟨g, ⟨sn', hsn', (hs.countFlowStart id time).flow?_of_mem hsn' hmem⟩, hg⟩

end

end Store

end Autoresponder
