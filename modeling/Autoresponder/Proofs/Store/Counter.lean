import Autoresponder.Proofs.Store.Configured

/-!
# Counters

The row of a rule counts its successes, and the row of a flow counts its starts, with the time of the
last one. The same can be told from the firings that are logged and from the conversations that have
begun, and each write keeps the two in agreement.
-/

namespace Autoresponder

namespace Store

/-! ## 1. Statistics -/

/-- A counter after a number of counts. -/
def IntCell.counted (n : Nat) : IntCell := next^[n] (int 0)

theorem IntCell.counted_succ (n : Nat) : counted (n + 1) = (counted n).next :=
  Function.iterate_succ_apply' next n (int 0)

-- A counter says the number of counts for as long as a column holds that.
theorem IntCell.counted_of_le {n : Nat} (h : (n : Int) ≤ greatest) : counted n = int n := by
  induction n with
  | zero => rfl
  | succ n ih =>
    have hn : (n : Int) ≠ greatest := by omega
    rw [counted_succ, ih (by omega), next, if_neg hn]
    rfl

/-- How often something was triggered, and when for the last time. -/
structure Statistic where
  id : String
  count : IntCell
  last : Option String
  deriving DecidableEq

def FlowRow.statistic (r : FlowRow) : Statistic := ⟨r.id, r.triggerCount, r.lastTriggered⟩

def RuleRow.statistic (r : RuleRow) : Statistic := ⟨r.id, r.triggerCount, r.lastTriggered⟩

structure Mark where
  id : String
  time : String

def times (marks : List Mark) (id : String) : List String :=
  (marks.filter (·.id == id)).map (·.time)

/-- The starts of flows, to be told from `states`, the conversations that have begun. -/
def starts (s : Store) : List Mark := s.states.map fun r => ⟨r.flow, r.created⟩

/-- The successes of rules, to be told from `firings`. -/
def hits (s : Store) : List Mark :=
  (s.firings.filter (·.success.isSet)).map fun r => ⟨r.rule, r.time⟩

namespace Statistic

/-- A statistic agrees with the `times` at which something was triggered. -/
structure Tells (r : Statistic) (times : List String) : Prop where
  count : r.count = .counted times.length
  last : r.last = times.getLast?

/-- A statistic says how often something was triggered, which is the number itself up to
`IntCell.greatest`, and when for the last time. -/
structure Reports (r : Statistic) (times : List String) : Prop extends r.Tells times where
  number : (times.length : Int) ≤ IntCell.greatest → r.count = .int times.length

theorem Tells.reports {r : Statistic} {times : List String} (h : r.Tells times) :
    r.Reports times :=
  ⟨h, fun hle => h.count.trans (IntCell.counted_of_le hle)⟩

def Blank (r : Statistic) : Prop := r.count = .int 0 ∧ r.last = none

/-- A statistic after something was triggered. -/
def after (m : Mark) (r : Statistic) : Statistic :=
  if r.id == m.id then { r with count := r.count.next, last := some m.time } else r

end Statistic

/-- Whatever was triggered has a statistic, and statistics agree with what was triggered. -/
structure Tallied (rows : List Statistic) (marks : List Mark) : Prop where
  known : ∀ m ∈ marks, ∃ r ∈ rows, r.id = m.id
  tells : ∀ r ∈ rows, r.Tells (times marks r.id)

section

variable {rows : List Statistic} {marks : List Mark}

theorem tallied_nil : Tallied [] [] := ⟨nofun, nofun⟩

theorem times_concat (marks : List Mark) (m : Mark) (id : String) :
    times (marks ++ [m]) id = times marks id ++ if m.id == id then [m.time] else [] := by
  rw [times, List.filter_append, List.map_append, ← times]
  congr 1
  by_cases hid : m.id == id <;> simp [hid]

-- What has just got a row was never triggered.
theorem Tallied.concat (h : Tallied rows marks) {new : Statistic}
    (fresh : ∀ r ∈ rows, r.id ≠ new.id) (blank : new.Blank) : Tallied (rows ++ [new]) marks where
  known m hm := by
    obtain ⟨r, hr, hid⟩ := h.known m hm
    exact ⟨r, List.mem_append_left _ hr, hid⟩
  tells r hr := by
    rcases List.mem_append.mp hr with hr | hr
    · exact h.tells r hr
    · have hnone : times marks new.id = [] := by
        rw [times, List.map_eq_nil_iff, List.filter_eq_nil_iff]
        intro m hm hid
        obtain ⟨r, hr, hr'⟩ := h.known m hm
        exact fresh r hr (hr'.trans (beq_iff_eq.mp hid))
      rw [List.mem_singleton.mp hr, hnone]
      exact ⟨blank.1, blank.2⟩

-- What is triggered is counted.
theorem Tallied.trigger (h : Tallied rows marks) {m : Mark} (known : ∃ r ∈ rows, r.id = m.id) :
    Tallied (rows.map (Statistic.after m)) (marks ++ [m]) := by
  have hid (r : Statistic) : (r.after m).id = r.id := by
    unfold Statistic.after
    split <;> rfl
  refine ⟨fun m' hm' => ?_, fun r' hr' => ?_⟩
  · obtain ⟨r, hr, hrid⟩ : ∃ r ∈ rows, r.id = m'.id := by
      rcases List.mem_append.mp hm' with hm' | hm'
      · exact h.known m' hm'
      · rw [List.mem_singleton.mp hm']
        exact known
    exact ⟨r.after m, List.mem_map.mpr ⟨r, hr, rfl⟩, (hid r).trans hrid⟩
  · obtain ⟨r, hr, rfl⟩ := List.mem_map.mp hr'
    obtain ⟨hcount, hlast⟩ := h.tells r hr
    rw [hid, times_concat]
    by_cases hm : r.id = m.id
    · have hafter : r.after m = { r with count := r.count.next, last := some m.time } :=
        if_pos (beq_iff_eq.mpr hm)
      rw [hafter, if_pos (beq_iff_eq.mpr hm.symm)]
      refine ⟨?_, by simp⟩
      rw [List.length_append, List.length_singleton, IntCell.counted_succ, ← hcount]
    · have hafter : r.after m = r := if_neg (by simpa using hm)
      rw [hafter, if_neg (by simpa using Ne.symm hm), List.append_nil]
      exact ⟨hcount, hlast⟩

end

/-- The rows of rules agree with the firings that are logged (`hits`). -/
def RulesTallied (s : Store) : Prop := Tallied (s.rules.map RuleRow.statistic) s.hits

/-- The rows of flows agree with the conversations that have begun (`starts`). -/
def FlowsTallied (s : Store) : Prop := Tallied (s.flows.map FlowRow.statistic) s.starts

/-! ## 2. Writes -/

section

variable {s s' : Store}

theorem statistics_putFlow (s : Store) (f : Flow) :
    (s.putFlow f).flows.map FlowRow.statistic = s.flows.map FlowRow.statistic ∨
      (∀ r ∈ s.flows, r.id ≠ toString f.id) ∧
        (s.putFlow f).flows = s.flows ++ [FlowRow.ofFlow f] := by
  simp only [putFlow]
  split
  · refine .inl ?_
    rw [List.map_map]
    refine List.map_congr_left fun r _ => ?_
    rw [Function.comp_apply]
    split
    · rename_i hid
      rw [beq_iff_eq] at hid
      simp only [FlowRow.statistic, FlowRow.revised, hid]
    · rfl
  · rename_i hnew
    refine .inr ⟨fun r hr hid => hnew (List.any_eq_true.mpr ⟨r, hr, ?_⟩), rfl⟩
    exact beq_iff_eq.mpr hid

theorem statistics_putRule (s : Store) (r : Rule) :
    (s.putRule r).rules.map RuleRow.statistic = s.rules.map RuleRow.statistic ∨
      (∀ row ∈ s.rules, row.id ≠ toString r.id) ∧
        (s.putRule r).rules = s.rules ++ [RuleRow.ofRule r] := by
  simp only [putRule]
  split
  · refine .inl ?_
    rw [List.map_map]
    refine List.map_congr_left fun row _ => ?_
    rw [Function.comp_apply]
    split
    · rename_i hid
      rw [beq_iff_eq] at hid
      simp only [RuleRow.statistic, RuleRow.revised, hid]
    · rfl
  · rename_i hnew
    refine .inr ⟨fun row hrow hid => hnew (List.any_eq_true.mpr ⟨row, hrow, ?_⟩), rfl⟩
    exact beq_iff_eq.mpr hid

theorem statistics_setFlowStatus {id : Uuid} {status : FlowStatus} {time : Instant}
    (h : s.setFlowStatus id status time = .ok s') :
    s'.flows.map FlowRow.statistic = s.flows.map FlowRow.statistic := by
  simp only [setFlowStatus] at h
  split at h
  · cases h
    rw [List.map_map]
    refine List.map_congr_left fun r _ => ?_
    rw [Function.comp_apply]
    split <;> rfl
  · cases h

theorem statistics_logFiring {e : Firing} (h : s.logFiring e = .ok s') :
    s'.rules.map RuleRow.statistic = if e.success then
      (s.rules.map RuleRow.statistic).map (Statistic.after ⟨toString e.rule, e.time.stored⟩)
    else s.rules.map RuleRow.statistic := by
  obtain ⟨-, -, rfl⟩ := logged_of_logFiring h
  cases e.success with
  | false => simp
  | true =>
    rw [if_pos rfl, List.map_map, List.map_map]
    refine List.map_congr_left fun r _ => ?_
    rw [Function.comp_apply, Function.comp_apply, Statistic.after, Bool.true_and]
    by_cases hid : r.id == (FiringRow.ofFiring e).rule
    · rw [if_pos hid, if_pos (show r.statistic.id == toString e.rule from hid)]
      rfl
    · rw [if_neg hid, if_neg (show ¬ r.statistic.id == toString e.rule from hid)]

theorem hits_logFiring {e : Firing} (h : s.logFiring e = .ok s') :
    s'.hits = s.hits ++ if e.success then [⟨toString e.rule, e.time.stored⟩] else [] := by
  obtain ⟨-, -, rfl⟩ := logged_of_logFiring h
  have hsuccess : (FiringRow.ofFiring e).success.isSet = e.success := IntCell.isSet_ofBool _
  unfold hits
  rw [List.filter_append, List.map_append]
  cases hend : e.success with
  | false => simp [hsuccess, hend]
  | true =>
    have hone : [FiringRow.ofFiring e].filter (·.success.isSet) = [FiringRow.ofFiring e] := by
      simp [hsuccess, hend]
    rw [hone]
    rfl

-- A firing is counted if it is a success.
theorem RulesTallied.logFiring (hs : s.RulesTallied) {e : Firing} (h : s.logFiring e = .ok s') :
    s'.RulesTallied := by
  obtain ⟨-, hrule, -⟩ := logged_of_logFiring h
  rw [Bool.not_eq_true', Bool.not_eq_false, List.any_eq_true] at hrule
  obtain ⟨row, hrow, hid⟩ := hrule
  unfold RulesTallied
  rw [statistics_logFiring h, hits_logFiring h]
  cases e.success with
  | false =>
    simp only [Bool.false_eq_true, if_false, List.append_nil]
    exact hs
  | true => exact Tallied.trigger hs ⟨_, List.mem_map.mpr ⟨row, hrow, rfl⟩, beq_iff_eq.mp hid⟩

-- Conversations that change have begun when they had begun.
theorem starts_set (s : Store) (c : Conversation) : (s.set c).starts = s.starts := by
  unfold starts set
  rw [List.map_map]
  refine List.map_congr_left fun r _ => ?_
  rw [Function.comp_apply]
  split <;> rfl

theorem starts_createState {c : Conversation} (h : s.createState c = .ok s') :
    s'.starts = s.starts ++ [⟨toString c.flow, c.created.stored⟩] := by
  rw [(states_createState h).1]
  unfold starts
  rw [List.map_append, List.map_map]
  congr 1
  refine List.map_congr_left fun r _ => ?_
  rw [Function.comp_apply]
  unfold StateRow.yielded
  split <;> rfl

theorem statistics_countFlowStart (s : Store) (id : Uuid) (time : Instant) :
    (s.countFlowStart id time).flows.map FlowRow.statistic =
      (s.flows.map FlowRow.statistic).map (Statistic.after ⟨toString id, time.stored⟩) := by
  unfold countFlowStart
  rw [List.map_map, List.map_map]
  refine List.map_congr_left fun r _ => ?_
  rw [Function.comp_apply, Function.comp_apply, Statistic.after]
  by_cases hid : r.id == toString id
  · rw [if_pos hid, if_pos (show r.statistic.id == toString id from hid)]
    rfl
  · rw [if_neg hid, if_neg (show ¬ r.statistic.id == toString id from hid)]

end

end Store

end Autoresponder
