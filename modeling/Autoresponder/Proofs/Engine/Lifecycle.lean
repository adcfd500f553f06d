import Autoresponder.Proofs.Engine.Run

/-!
# The lifecycle of conversations

A conversation begins active, changes while it is active, and is completed once and for all. Every
change shows in its version.
-/

namespace Autoresponder

open Store

/-! ## 1. Where rows come from -/

/-- Where a row that is there after an `Effect` comes from. -/
inductive Descends (events : List Event) (s : Store) : StateRow → Prop where
  | same {r : StateRow} (stored : r ∈ s.states) : Descends events s r
  /-- The row of an active conversation that changed. When it was created stays as it was stored. -/
  | changed (c d : Conversation) (ch : Conversation.Change) (now : Instant)
      (active : c.isActive = true) (stored : .ofConversation d ∈ s.states)
      (kept : d.kept = c.kept) (heard : (c.after ch now).Heard events) :
      Descends events s (.ofConversation { c.after ch now with created := d.created })
  /-- The row of an active conversation that made room for another one. -/
  | displaced (r : StateRow) (time : Instant) (stored : r ∈ s.states)
      (active : r.isActive = .int 1) : Descends events s (r.displaced time.stored)
  /-- The row of a conversation that began. -/
  | begun (e : Event) (id flow : Uuid) (node : String) (now : Instant) (handled : e ∈ events)
      (fresh : ∀ r ∈ s.states, r.id ≠ toString id) :
      Descends events s (.ofConversation (.begun id e.workspace e.account e.phone flow node
        (some e.received) now))

section

variable {events : List Event} {env : Environment} {first : Nat} {w w' : World}

theorem Effect.descends (h : Effect events env first w w') (hs : Traced events w.store) {r : StateRow}
    (hr : r ∈ w'.store.states) : Descends events w.store r := by
  cases h with
  | quiet idles => exact .same (idles.store ▸ hr)
  | change c ch now _ live active heard =>
    rcases mem_set hr with hr | ⟨old, hold, hid, rfl⟩
    · exact .same hr
    · -- The row that is written over is the one that the copy was read from.
      obtain ⟨d, hd, hkept⟩ := live.held
      have hsame : (c.after ch now).Same d :=
        (c.same_after ch now).trans (.symm (.of_kept_eq hkept))
      have hrow : old = .ofConversation d :=
        hs.consistent.eq_of_id hold hd (hid.trans (congrArg toString hsame.id))
      rw [hrow, StateRow.revised_ofConversation hsame]
      exact .changed c d ch now active hd hkept heard
  | begin e id flow node now s _ handled created =>
    obtain ⟨hstates, hfresh⟩ := states_createState created
    rw [World.write, hstates, List.mem_append, List.mem_map] at hr
    rcases hr with ⟨old, hold, rfl⟩ | hr
    · unfold StateRow.yielded
      split
      · rename_i hfor
        refine .displaced old now hold ?_
        simp only [isActiveFor, Bool.and_eq_true, beq_iff_eq] at hfor
        exact hfor.2
      · exact .same hold
    · rw [List.mem_singleton.mp hr]
      exact .begun e id flow node now handled hfresh
  | send c m now _ _ _ => exact .same hr
  | reply e m now _ _ _ => exact .same hr
  | countStart flow now => exact .same hr
  | log entry s logged => exact .same (states_logFiring logged ▸ hr)
  | configure s configured => exact .same (configured.states ▸ hr)

-- No row is ever lost.
theorem Effect.persists (h : Effect events env first w w') {r : StateRow} (hr : r ∈ w.store.states) :
    ∃ r' ∈ w'.store.states, r'.id = r.id := by
  cases h with
  | quiet idles => exact ⟨r, idles.store ▸ hr, rfl⟩
  | change c ch now _ live active heard =>
    have hids := List.mem_map_of_mem (f := StateRow.id) hr
    rw [← ids_set w.store (c.after ch now)] at hids
    exact List.mem_map.mp hids
  | begin e id flow node now s _ handled created =>
    rw [World.write, (states_createState created).1]
    exact ⟨_, List.mem_append_left _ (List.mem_map_of_mem hr), r.id_yielded _⟩
  | send c m now _ _ _ => exact ⟨r, hr, rfl⟩
  | reply e m now _ _ _ => exact ⟨r, hr, rfl⟩
  | countStart flow now => exact ⟨r, hr, rfl⟩
  | log entry s logged => exact ⟨r, (states_logFiring logged).symm ▸ hr, rfl⟩
  | configure s configured => exact ⟨r, configured.states.symm ▸ hr, rfl⟩

end

/-! ## 2. One row over time -/

/-- Two cells of a column are in their order and differ. -/
def Store.IntCell.Before (a b : IntCell) : Prop := a.notAfter b = true ∧ a ≠ b

theorem Store.IntCell.Before.trans {n : Int} {b c : IntCell} (h : (int n).Before b)
    (h' : b.Before c) : (int n).Before c := by
  obtain ⟨hle, hne⟩ := h
  obtain ⟨hle', hne'⟩ := h'
  cases b with
  | int b =>
    cases c with
    | int c =>
      simp only [notAfter, decide_eq_true_eq, ne_eq, int.injEq] at hle hne hle' hne'
      refine ⟨by simp only [notAfter, decide_eq_true_eq]; omega, ?_⟩
      simp only [ne_eq, int.injEq]
      omega
    | text c => exact ⟨rfl, by simp⟩
  | text b =>
    cases c with
    | int c => simp [notAfter] at hle'
    | text c => exact ⟨rfl, by simp⟩

theorem Store.IntCell.before_next (n : Int) : (int n).Before (int n).next := by
  by_cases h : n = greatest
  · simp only [next, h, if_true]
    exact ⟨rfl, by simp⟩
  · simp only [next, h, if_false]
    exact ⟨by simp [notAfter], by simp⟩

/-- A row `r` and a later row `r'` of the same conversation: either nothing happened, or the
conversation was active and its version went up. -/
def Store.StateRow.Evolves (r r' : StateRow) : Prop :=
  r' = r ∨ (r.isActive = .int 1 ∧ ∃ n, r.version = .int n ∧ (IntCell.int n).Before r'.version)

theorem Store.StateRow.Evolves.trans {r r' r'' : StateRow} (h : r.Evolves r')
    (h' : r'.Evolves r'') : r.Evolves r'' := by
  rcases h with rfl | ⟨active, n, hn, hbefore⟩
  · exact h'
  · rcases h' with rfl | ⟨-, m, hm, hbefore'⟩
    · exact .inr ⟨active, n, hn, hbefore⟩
    · rw [← hm] at hbefore'
      exact .inr ⟨active, n, hn, hbefore.trans hbefore'⟩

-- A row that is there after an effect is what became of the row with its identifier.
theorem Descends.evolves {events : List Event} {s : Store} {r r' : StateRow}
    (h : Descends events s r') (hs : s.Consistent) (hr : r ∈ s.states) (hid : r'.id = r.id) :
    r.Evolves r' := by
  cases h with
  | same stored => exact .inl (hs.eq_of_id stored hr hid)
  | changed c d ch now active stored kept _ =>
    have hsame := (c.same_after ch now).trans (.symm (.of_kept_eq kept))
    have hrow : .ofConversation d = r :=
      hs.eq_of_id stored hr ((congrArg toString hsame.id).symm.trans hid)
    have hactive : d.isActive = c.isActive := (congrArg Conversation.isActive kept :)
    have hversion : d.version = c.version := (congrArg Conversation.version kept :)
    refine .inr ⟨?_, d.version, ?_, ?_⟩
    · rw [← hrow, StateRow.ofConversation, hactive, active]
      rfl
    · rw [← hrow]
      rfl
    · change (IntCell.int d.version).Before (.int (c.version + 1))
      rw [hversion]
      exact ⟨by simp [IntCell.notAfter], by simp⟩
  | displaced old time stored active =>
    obtain rfl : old = r := hs.eq_of_id stored hr hid
    obtain ⟨d, version, rfl, hversion⟩ := hs.written old stored
    have hd : d.isActive = true := by
      rw [← IntCell.isSet_ofBool d.isActive]
      change (StateRow.ofConversation d).isActive = .int 1 at active
      change (StateRow.ofConversation d).isActive.isSet = true
      rw [active]
      rfl
    refine .inr ⟨active, d.version, hversion hd, ?_⟩
    change (IntCell.int d.version).Before version.next
    rw [hversion hd]
    exact IntCell.before_next d.version
  | begun e id flow node now handled fresh => exact absurd hid.symm (fresh r hr)

/-- Over any effects (`Reach`) a row becomes one row with its identifier, and evolves. -/
theorem Reach.evolves {events : List Event} {env : Environment} {first : Nat} {w w' : World}
    (h : Reach events env first w w') (hs : Traced events w.store) {r : StateRow}
    (hr : r ∈ w.store.states) : ∃ r' ∈ w'.store.states, r'.id = r.id ∧ r.Evolves r' := by
  induction h with
  | refl => exact ⟨r, hr, rfl, .inl rfl⟩
  | tail hreach heffect ih =>
    obtain ⟨r', hr', hid, hevolves⟩ := ih
    obtain ⟨r'', hr'', hid'⟩ := heffect.persists hr'
    have hs' := Reach.traced hreach hs
    refine ⟨r'', hr'', hid'.trans hid, hevolves.trans ?_⟩
    exact (heffect.descends hs' hr'').evolves hs'.consistent hr' hid'

/-! ## 3. How far versions go -/

/-- A version is a number, counted from 1 and no greater than `limit`. -/
def Store.StateRow.Numbered (limit : Nat) (r : StateRow) : Prop :=
  ∃ v : Int, r.version = .int v ∧ 1 ≤ v ∧ v ≤ limit

theorem Store.StateRow.Numbered.mono {r : StateRow} {m n : Nat} (h : r.Numbered m) (hmn : m ≤ n) :
    r.Numbered n := by
  obtain ⟨v, hv, hone, hle⟩ := h
  exact ⟨v, hv, hone, by omega⟩

-- An effect writes once, or not at all.
theorem Effect.writes_once {events : List Event} {env : Environment} {first : Nat} {w w' : World}
    (h : Effect events env first w w') :
    (w'.store = w.store ∧ w'.past = w.past) ∨ w'.past = w.store :: w.past := by
  cases h with
  | quiet idles => exact .inl ⟨idles.store, idles.past⟩
  | send | reply => exact .inl ⟨rfl, rfl⟩
  | change | begin | countStart | log | configure => exact .inr rfl

theorem Reach.past_le {events : List Event} {env : Environment} {first : Nat} {w w' : World}
    (h : Reach events env first w w') : w.past.length ≤ w'.past.length := by
  induction h with
  | refl => exact Nat.le_refl _
  | tail _ heffect ih =>
    rcases heffect.writes_once with ⟨-, hpast⟩ | hpast
    · exact hpast ▸ ih
    · rw [hpast, List.length_cons]
      exact ih.trans (Nat.le_succ _)

-- One write takes no version further than by one.
theorem Descends.numbered {events : List Event} {s : Store} {n : Nat} {r : StateRow}
    (h : Descends events s r) (hs : ∀ r ∈ s.states, r.Numbered n) (room : n < IntCell.greatest) :
    r.Numbered (n + 1) := by
  cases h with
  | same stored => exact (hs r stored).mono (Nat.le_succ n)
  | changed c d ch now _ stored kept _ =>
    obtain ⟨v, hv, hone, hle⟩ := hs _ stored
    have hversion : d.version = c.version := (congrArg Conversation.version kept :)
    obtain rfl : c.version = v := hversion.symm.trans (IntCell.int.inj hv)
    exact ⟨c.version + 1, rfl, by omega, by omega⟩
  | displaced r time stored _ =>
    obtain ⟨v, hv, hone, hle⟩ := hs r stored
    refine ⟨v + 1, ?_, by omega, by omega⟩
    rw [StateRow.displaced, hv, IntCell.next, if_neg (by omega)]
  | begun => exact ⟨1, rfl, by omega, by omega⟩

theorem Reach.numbered {events : List Event} {env : Environment} {first : Nat} {w w' : World}
    (h : Reach events env first w w') (hs : Traced events w.store)
    (hw : ∀ r ∈ w.store.states, r.Numbered (w.past.length + 1))
    (room : w'.past.length < IntCell.greatest) :
    ∀ r ∈ w'.store.states, r.Numbered (w'.past.length + 1) := by
  induction h with
  | refl => exact hw
  | tail hreach heffect ih =>
    rcases heffect.writes_once with ⟨hstore, hpast⟩ | hpast
    · rw [hpast] at room ⊢
      rw [hstore]
      exact ih room
    · rw [hpast, List.length_cons] at room ⊢
      have ih := ih (by omega)
      exact fun r hr => (heffect.descends (Reach.traced hreach hs) hr).numbered ih (by omega)

/-- A version counts writes: in a run that begins without conversations none is greater than the
number of stores in `World.past` and one. Fewer than `IntCell.greatest` writes therefore leave no
version that a column does not hold. -/
theorem World.numbered_after {w : World} (h : w.store.states = []) (run : Run)
    (room : (w.after run).past.length < IntCell.greatest) :
    ∀ r ∈ (w.after run).store.states, r.Numbered ((w.after run).past.length + 1) := by
  induction run using List.reverseRecOn with
  | nil => simp [World.after, h]
  | append_singleton run step ih =>
    rw [after_concat] at room ⊢
    have htraced := (traced_after h run).concat step.1 step.2
    have hreach : Reach _ step.1 (w.after run).readings (w.after run)
        ((w.after run).perform step.1 step.2) := reach_perform (traced_after h run)
    have hpast := hreach.past_le
    exact hreach.numbered htraced (ih (by omega)) room

/-! ## 4. Rows at one time -/

/-- A conversation is completed exactly when it is not active, and then it is not resumed. -/
structure Store.StateRow.Tidy (r : StateRow) : Prop where
  completed : r.isActive.isSet = true ↔ r.completed = none
  resumeAt : r.isActive.isSet = false → r.resumeAt = none

theorem Store.StateRow.tidy_ofConversation {c : Conversation}
    (completed : c.isActive = true ↔ c.completed = none)
    (resumeAt : c.isActive = false → c.resumeAt = none) : (ofConversation c).Tidy where
  completed := by
    simp only [ofConversation, IntCell.isSet_ofBool, optionalStored, Option.map_eq_none_iff]
    exact completed
  resumeAt h := by
    simp only [ofConversation, IntCell.isSet_ofBool] at h
    simp only [ofConversation, optionalStored, resumeAt h, Option.map_none]

-- An effect leaves tidy rows.
theorem Descends.tidy {events : List Event} {s : Store} {r : StateRow}
    (h : Descends events s r) (hs : ∀ r ∈ s.states, r.Tidy) : r.Tidy := by
  cases h with
  | same stored => exact hs r stored
  | changed c d ch now active stored kept _ =>
    have hc : c.completed = none := by
      have hactive : d.isActive = c.isActive := (congrArg Conversation.isActive kept :)
      have hd := (hs _ stored).completed.mp (by
        rw [StateRow.ofConversation, hactive, active]
        rfl)
      have hcompleted : d.completed.map Instant.kept = c.completed.map Instant.kept :=
        (congrArg Conversation.completed kept :)
      simp only [StateRow.ofConversation, optionalStored, Option.map_eq_none_iff] at hd
      rw [hd, Option.map_none] at hcompleted
      exact Option.map_eq_none_iff.mp hcompleted.symm
    by_cases hch : ch = .complete
    · subst hch
      exact StateRow.tidy_ofConversation (by simp [Conversation.after, Conversation.Change.apply])
        fun _ => rfl
    · have hactive : (c.after ch now).isActive = c.isActive := Conversation.isActive_after hch
      have hcompleted : (c.after ch now).completed = c.completed :=
        Conversation.completed_after hch
      refine StateRow.tidy_ofConversation ?_ fun h => ?_
      · rw [hactive, hcompleted, active, hc]
        simp
      · rw [hactive, active] at h
        cases h
  | displaced old time stored active =>
    exact ⟨by simp [StateRow.displaced, IntCell.isSet], fun _ => rfl⟩
  | begun e id flow node now handled fresh =>
    exact StateRow.tidy_ofConversation (by simp [Conversation.begun]) fun _ => rfl

theorem Reach.tidy {events : List Event} {env : Environment} {first : Nat} {w w' : World}
    (h : Reach events env first w w') (hs : Traced events w.store)
    (htidy : ∀ r ∈ w.store.states, r.Tidy) : ∀ r ∈ w'.store.states, r.Tidy := by
  induction h with
  | refl => exact htidy
  | tail hreach heffect ih =>
    exact fun r hr => (heffect.descends (Reach.traced hreach hs) hr).tidy ih

-- A person has at most one active conversation.
theorem Store.Consistent.length_active_le {s : Store} (hs : s.Consistent)
    (workspace phone : String) :
    (s.states.filter fun r =>
      r.workspace == workspace && r.phone == phone && r.isActive.isSet).length ≤ 1 := by
  have hnodup : (s.states.filter fun r =>
      r.workspace == workspace && r.phone == phone && r.isActive.isSet).Nodup :=
    hs.distinct.of_map.filter _
  have hequal : ∀ r ∈ s.states.filter (fun r =>
      r.workspace == workspace && r.phone == phone && r.isActive.isSet),
      r ∈ s.states ∧ r.workspace = workspace ∧ r.phone = phone ∧ r.isActive = .int 1 := by
    intro r hr
    simp only [List.mem_filter, Bool.and_eq_true, beq_iff_eq] at hr
    obtain ⟨hmem, ⟨hworkspace, hphone⟩, hset⟩ := hr
    refine ⟨hmem, hworkspace, hphone, ?_⟩
    obtain ⟨d, version, rfl, -⟩ := hs.written r hmem
    change (IntCell.ofBool d.isActive).isSet = true at hset
    rw [IntCell.isSet_ofBool] at hset
    change IntCell.ofBool d.isActive = .int 1
    rw [hset]
    rfl
  -- Two such rows would be one and the same.
  match h : s.states.filter (fun r =>
    r.workspace == workspace && r.phone == phone && r.isActive.isSet) with
  | [] => rw [h]; simp
  | [_] => rw [h]; simp
  | a :: b :: rest =>
    rw [h] at hnodup hequal
    obtain ⟨ha, haw, hap, haa⟩ := hequal a (by simp)
    obtain ⟨hb, hbw, hbp, hba⟩ := hequal b (by simp)
    have hab : a = b := hs.single a ha b hb haa hba (haw.trans hbw.symm) (hap.trans hbp.symm)
    simp [hab] at hnodup

/-! ## 5. The lifecycle -/

theorem World.tidy_after {w : World} (h : w.store.states = []) (run : Run) :
    ∀ r ∈ (w.after run).store.states, r.Tidy := by
  induction run using List.reverseRecOn with
  | nil => simp [World.after, h]
  | append_singleton run step ih =>
    rw [after_concat]
    exact (reach_perform (traced_after h run)).tidy ((traced_after h run).concat step.1 step.2) ih

/-- What holds of the conversations in the store `after` an operation, given those `before` it. -/
structure Lifecycle (before after : Store) : Prop where
  /-- A person has at most one active conversation. -/
  single : ∀ workspace phone, (after.states.filter fun r =>
    r.workspace == workspace && r.phone == phone && r.isActive.isSet).length ≤ 1
  /-- A conversation is active until it is completed. -/
  completed : ∀ r ∈ after.states, r.isActive.isSet = true ↔ r.completed = none
  /-- A conversation that is not active is not due. -/
  resumeAt : ∀ r ∈ after.states, r.isActive.isSet = false → r.resumeAt = none
  /-- A conversation stays one conversation. If it was not active it is as it was, and if it is not
  as it was its version is a later one. -/
  evolves : ∀ r ∈ before.states, ∃ r' ∈ after.states, r'.id = r.id ∧
    (∀ other ∈ after.states, other.id = r.id → other = r') ∧
    (r.isActive.isSet = false → r' = r) ∧ (r' ≠ r → r.version.Before r'.version)

/-- **Conversations keep to their lifecycle.** Wherever a `run` has led that begins without
conversations, what `op` makes of the rows is a `Lifecycle`, whatever fails on the way. -/
theorem lifecycle {w : World} (h : w.store.states = []) (run : Run) (env : Environment)
    (op : Operation) : Lifecycle (w.after run).store ((w.after run).perform env op).store := by
  have htraced := World.traced_after h run
  have htraced' := World.traced_after h (run ++ [(env, op)])
  have htidy := World.tidy_after h (run ++ [(env, op)])
  rw [World.after_concat] at htraced' htidy
  refine ⟨htraced'.consistent.length_active_le, fun r hr => (htidy r hr).completed,
    fun r hr => (htidy r hr).resumeAt, fun r hr => ?_⟩
  obtain ⟨r', hr', hid, hevolves⟩ :=
    (World.reach_perform htraced).evolves (htraced.concat env op) hr
  refine ⟨r', hr', hid, fun other hother hid' => ?_, fun hset => ?_, fun hne => ?_⟩
  · exact htraced'.consistent.eq_of_id hother hr' (hid'.trans hid.symm)
  · rcases hevolves with rfl | ⟨active, -⟩
    · rfl
    · rw [active] at hset
      cases hset
  · rcases hevolves with rfl | ⟨-, n, hn, hbefore⟩
    · exact absurd rfl hne
    · exact hn ▸ hbefore

/-- The conversation that waits after `Run.greeting` is resumed and completed. -/
theorem lifecycle_greeting :
    (World.start {}).store.states = [] ∧
      ((World.start {}).after .greeting).store.states.map (·.isActive) = [.int 1] ∧
      (((World.start {}).after .greeting).perform (.calm (.ofSeconds 60))
        (.resume (.ofNat 0))).store.states.map (·.isActive) = [.int 0] ∧
      Lifecycle ((World.start {}).after .greeting).store (((World.start {}).after .greeting).perform
        (.calm (.ofSeconds 60)) (.resume (.ofNat 0))).store :=
  ⟨rfl, by decide +kernel, by decide +kernel, lifecycle rfl _ _ _⟩

end Autoresponder
