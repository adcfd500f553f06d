import Autoresponder.Proofs.Store.Held
import Autoresponder.Proofs.Store.Offered

/-!
# Writing flows, rules and settings

What a store answers events with is written between events. Such a write concerns flows, rules or
settings, and a row that is written again keeps its identifier and its owner.
-/

namespace Autoresponder.Store

/-- Flows, rules or settings of a store are written, or nothing is. -/
inductive Configured (s : Store) : Store → Prop where
  | same : s.Configured s
  | putFlow (f : Flow) : s.Configured (s.putFlow f)
  | setFlowStatus {id : Uuid} {status : FlowStatus} {time : Instant} {s' : Store}
      (h : s.setFlowStatus id status time = .ok s') : s.Configured s'
  | putRule (r : Rule) : s.Configured (s.putRule r)
  | putSettings (workspace account : String) (settings : AccountSettings) :
      s.Configured (s.putSettings workspace account settings)

/-- What holds of every store that this library writes: in each table identifiers are spelled in one
way, and each names one row. -/
structure Identified (s : Store) : Prop where
  flows : s.Keyed
  rules : Keys RuleRow.id s.rules
  states : Keys StateRow.id s.states

section

variable {s s' : Store}

theorem eq_putFlow (s : Store) (f : Flow) :
    s.putFlow f = { s with flows := (s.putFlow f).flows } := by
  simp only [putFlow]
  split <;> rfl

theorem eq_of_setFlowStatus {id : Uuid} {status : FlowStatus} {time : Instant}
    (h : s.setFlowStatus id status time = .ok s') : s' = { s with flows := s'.flows } := by
  simp only [setFlowStatus] at h
  split at h
  · rw [← Except.ok.inj h]
  · cases h

theorem eq_putRule (s : Store) (r : Rule) :
    s.putRule r = { s with rules := (s.putRule r).rules } := by
  simp only [putRule]
  split <;> rfl

theorem eq_putSettings (s : Store) (workspace account : String) (settings : AccountSettings) :
    s.putSettings workspace account settings =
      { s with settings := (s.putSettings workspace account settings).settings } := by
  simp only [putSettings]
  split <;> rfl

-- A firing that is logged has an identifier of its own and a rule that is there.
theorem logged_of_logFiring {e : Firing} (h : s.logFiring e = .ok s') :
    (¬ s.firings.any (·.id == (FiringRow.ofFiring e).id) = true) ∧
      (¬ (!s.rules.any (·.id == (FiringRow.ofFiring e).rule)) = true) ∧
      s' = { s with
        firings := s.firings ++ [.ofFiring e]
        rules := s.rules.map fun r =>
          if e.success && r.id == (FiringRow.ofFiring e).rule then
            { r with triggerCount := r.triggerCount.next,
                     lastTriggered := some (FiringRow.ofFiring e).time }
          else r } := by
  simp only [logFiring] at h
  split at h
  · cases h
  · split at h
    · cases h
    · exact ⟨‹_›, ‹_›, (Except.ok.inj h).symm⟩

theorem Consistent.keys (hs : s.Consistent) : Keys StateRow.id s.states where
  written r hr := by
    obtain ⟨c, version, rfl, -⟩ := hs.written r hr
    exact ⟨c.id, rfl⟩
  distinct := hs.distinct

namespace Configured

theorem states (h : s.Configured s') : s'.states = s.states := by
  cases h with
  | same => rfl
  | putFlow f => rw [eq_putFlow]
  | setFlowStatus h => rw [eq_of_setFlowStatus h]
  | putRule r => rw [eq_putRule]
  | putSettings workspace account settings => rw [eq_putSettings]

theorem firings (h : s.Configured s') : s'.firings = s.firings := by
  cases h with
  | same => rfl
  | putFlow f => rw [eq_putFlow]
  | setFlowStatus h => rw [eq_of_setFlowStatus h]
  | putRule r => rw [eq_putRule]
  | putSettings workspace account settings => rw [eq_putSettings]

theorem keyed (h : s.Configured s') (hs : s.Keyed) : s'.Keyed := by
  cases h with
  | same => exact hs
  | putFlow f => exact hs.putFlow f
  | setFlowStatus h => exact hs.setFlowStatus h
  | putRule r => exact hs.congr (by rw [eq_putRule])
  | putSettings workspace account settings => exact hs.congr (by rw [eq_putSettings])

theorem keys_rules (h : s.Configured s') (hs : Keys RuleRow.id s.rules) :
    Keys RuleRow.id s'.rules := by
  cases h with
  | same => exact hs
  | putFlow f =>
    rw [eq_putFlow]
    exact hs
  | setFlowStatus h =>
    rw [eq_of_setFlowStatus h]
    exact hs
  | putRule r =>
    have hput := hs.put (.ofRule r) ⟨r.id, rfl⟩ fun old =>
      (rfl : (old.revised (.ofRule r)).id = (RuleRow.ofRule r).id)
    simp only [Store.putRule]
    split at hput <;> rename_i hany
    · rw [if_pos hany]
      exact hput
    · rw [if_neg hany]
      exact hput
  | putSettings workspace account settings =>
    rw [eq_putSettings]
    exact hs

end Configured

end

end Autoresponder.Store
