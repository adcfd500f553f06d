import Autoresponder.Proofs.Engine.Likeness
import Autoresponder.Proofs.Engine.Run
import Autoresponder.Proofs.Store.Workspace

/-!
# Workspaces do not interfere

What is done for a workspace goes by what the store has of that workspace alone, and leaves the rest
of the store as it is. So the engine does on the part of a store that belongs to a workspace what it
does on the whole store, and two stores with the same part cannot be told apart from within.
-/

namespace Autoresponder

open Step

/-- The world as if no store had been written over another one. -/
def World.anew (w : World) : World := { w with past := [] }

/-- The world as a workspace sees it. -/
def World.within (w : World) (workspace : String) : World :=
  { w.anew with store := w.store.within workspace }

/-- A world has come from another one by what concerns a workspace alone. -/
structure World.Beside (workspace : String) (b w : World) : Prop where
  store : Store.Beside workspace b.store w.store
  drawn : b.drawn ≤ w.drawn

/-- The identifiers that are drawn from now on are new to the other workspaces. -/
def World.Fresh (w : World) (env : Environment) (workspace : String) : Prop :=
  ∀ n, w.drawn ≤ n → w.store.OwnsState workspace (env.freshId n) ∧
    w.store.OwnsFiring workspace (env.freshId n)

/-- Beside a world something does within a workspace what it does in the whole world. Its result
satisfies `Q`. -/
def Act.Confined {α : Type} (workspace : String) (b : World) (env : Environment) (x : Act α)
    (Q : α → Prop) : Prop :=
  ∀ w, World.Beside workspace b w →
    (x env (w.within workspace)).1 = (x env w).1 ∧
      (x env (w.within workspace)).2.anew = (x env w).2.within workspace ∧
      World.Beside workspace b (x env w).2 ∧ Q (x env w).1

variable {workspace : String} {b : World} {env : Environment}

/-! ## 1. Likeness -/

structure Conversation.Local (workspace : String) (s : Store) (c : Conversation) : Prop where
  belongs : c.workspace = workspace
  owns : s.OwnsState workspace c.id

theorem Conversation.Local.after {s : Store} {c : Conversation} (h : c.Local workspace s)
    (ch : Change) (now : Instant) : (c.after ch now).Local workspace s where
  belongs := (c.same_after ch now).workspace.trans h.belongs
  owns := (c.same_after ch now).id ▸ h.owns

/-- A world `Beside` `b` is like what the workspace sees of it (`World.within`). What belongs to the
workspace is meant. -/
def Likeness.confinement (workspace : String) (b : World) : Likeness where
  Like w w' := w'.anew = w.within workspace ∧ World.Beside workspace b w
  Copy := Conversation.Local workspace b.store
  Starts := b.store.OwnsFlow workspace
  Fires := b.store.OwnsRule workspace

section

variable {ε α : Type} {Q : α → Prop}

theorem Likeness.confined_reads : (Likeness.confinement workspace b).Reads env := by
  rintro w w' ⟨hw', hw⟩
  have hreadings : w'.readings = w.readings := (congrArg World.readings hw' :)
  exact ⟨by rw [hreadings], congrArg World.reading hw', hw.store, hw.drawn⟩

namespace Step.Respects

-- What is drawn is new to the other workspaces.
theorem freshId_confined (fresh : b.Fresh env workspace) :
    (Step.freshId : Step ε Uuid).Respects (.confinement workspace b) env fun id =>
      b.store.OwnsState workspace id ∧ b.store.OwnsFiring workspace id := by
  rintro n w w' ⟨hw', hw⟩
  have hdrawn : w'.drawn = w.drawn := (congrArg World.drawn hw' :)
  refine ⟨?_, ⟨?_, hw.store, Nat.le_succ_of_le hw.drawn⟩, fun id hid => ?_⟩
  · exact congrArg (fun m => Except.ok (env.freshId m)) hdrawn.symm
  · exact congrArg (fun v : World => { v with drawn := v.drawn + 1 }) hw'
  · rw [← Except.ok.inj hid]
    exact fresh w.drawn hw.drawn

-- A call goes wrong in the same way, or does within a workspace what it does in the whole store.
theorem call_confined {run : Store → Except StoreError (α × Option Store)} {c : Call}
    {conflict : Option α} (hrun : ∀ s, Store.Beside workspace b.store s →
      run (s.within workspace) = (run s).map (fun r => (r.1, r.2.map (·.within workspace))) ∧
        ∀ a written, run s = .ok (a, written) →
          (∀ s', written = some s' → Store.Beside workspace s s') ∧ Q a)
    (hconflict : ∀ a, conflict = some a → Q a) :
    (Step.call c conflict run).Respects (.confinement workspace b) env Q := by
  rintro n w w' ⟨hw', hw⟩
  obtain ⟨hwithin, hok⟩ := hrun w.store hw.store
  have hcalls : w'.callsOf c = w.callsOf c := (congrArg (World.callsOf · c) hw' :)
  have hcounted : (w'.counting c).anew = (w.counting c).within workspace :=
    congrArg (·.counting c) hw'
  have hstore : run w'.store = (run w.store).map _ :=
    (congrArg (fun v : World => run v.store) hw').trans hwithin
  simp only [Step.call, hcalls, hstore]
  split
  · cases hend : run w.store with
    | error e => exact ⟨rfl, ⟨hcounted, hw.store, hw.drawn⟩, fun _ ha => by cases ha⟩
    | ok r =>
      obtain ⟨a, written⟩ := r
      obtain ⟨hbeside, hQ⟩ := hok a written hend
      refine ⟨rfl, ?_, fun a ha => Except.ok.inj ha ▸ hQ⟩
      cases written with
      | none => exact ⟨hcounted, hw.store, hw.drawn⟩
      | some s' =>
        exact ⟨congrArg (fun v : World => { v with store := s'.within workspace }) hcounted,
          hw.store.trans (hbeside s' rfl), hw.drawn⟩
  · exact ⟨rfl, ⟨hcounted, hw.store, hw.drawn⟩,
      fun a ha => hconflict a (congrArg some (Except.ok.inj ha))⟩
  · exact ⟨rfl, ⟨hcounted, hw.store, hw.drawn⟩, fun _ ha => by cases ha⟩

theorem ask_confined {run : Store → Except StoreError α} {c : Call}
    (hrun : ∀ s, Store.Beside workspace b.store s →
      run (s.within workspace) = run s ∧ ∀ a, run s = .ok a → Q a) :
    (Step.ask c run).Respects (.confinement workspace b) env Q := by
  refine .call_confined (fun s hs => ?_) nofun
  obtain ⟨hwithin, hok⟩ := hrun s hs
  cases hend : run s with
  | error e => exact ⟨by simp only [hwithin, hend, Except.map], nofun⟩
  | ok a =>
    refine ⟨by simp only [hwithin, hend, Except.map, Option.map_none], fun a' written h => ?_⟩
    cases h
    exact ⟨nofun, hok a hend⟩

theorem tell_confined {run : Store → Except StoreError Store} {c : Call}
    (hrun : ∀ s, Store.Beside workspace b.store s →
      run (s.within workspace) = (run s).map (·.within workspace) ∧
        ∀ s', run s = .ok s' → Store.Beside workspace s s') :
    (Step.tell c run).Respects (.confinement workspace b) env fun _ => True := by
  refine .call_confined (fun s hs => ?_) nofun
  obtain ⟨hwithin, hok⟩ := hrun s hs
  cases hend : run s with
  | error e => exact ⟨by simp only [hwithin, hend, Except.map], nofun⟩
  | ok s' =>
    refine ⟨by simp only [hwithin, hend, Except.map, Option.map_some], fun a' written h => ?_⟩
    cases h
    exact ⟨fun s'' hs'' => Option.some.inj hs'' ▸ hok s' hend, trivial⟩

end Step.Respects

end

/-! ## 2. Calls to the store -/

namespace Calls

theorem confined_snapshot (account : String) :
    (Snapshot.plain <$> snapshot workspace account).Respects (.confinement workspace b) env
      (Likeness.confinement workspace b).Offers := by
  refine .snapshot (.ask_confined fun s hs => ?_) (.ask_confined fun s hs => ?_)
    (.ask_confined fun s _ => ⟨Store.settings?_within s workspace account, fun _ _ => trivial⟩)
  · refine ⟨by rw [Store.activeFlows_within], fun flows h f hf => ?_⟩
    rw [← Except.ok.inj h] at hf
    exact hs.ownsFlow.mp (hs.identified.ownsFlow_of_mem hf)
  · refine ⟨by rw [Store.activeRules_within], fun rules h r hr => ?_⟩
    rw [← Except.ok.inj h] at hr
    exact hs.ownsRule.mp (hs.identified.ownsRule_of_mem hr)

theorem confined_activeState? (phone : String) :
    (activeState? workspace phone).Respects (.confinement workspace b) env fun found =>
      ∀ c, found = some c → c.Local workspace b.store := by
  refine .ask_confined fun s hs =>
    ⟨Store.activeState?_within s workspace phone, fun found h c hc => ?_⟩
  have hwanted (r : Store.StateRow) (_ : r ∈ s.states)
      (hr : Store.isActiveFor workspace phone r = true) : r.workspace = workspace := by
    simp only [Store.isActiveFor, Bool.and_eq_true, beq_iff_eq] at hr
    exact hr.1.1
  obtain ⟨hworkspace, howns⟩ := hs.identified.ownsState_of_readFirst hwanted (hc ▸ h)
  exact ⟨hworkspace, hs.ownsState.mp howns⟩

theorem confined_state? {id : Uuid} (hid : b.store.OwnsState workspace id) :
    (state? id).Respects (.confinement workspace b) env fun found =>
      ∀ c, found = some c → c.Local workspace b.store := by
  refine .call_confined (fun s hs => ?_) fun found h c hc => ?_
  · have howns : s.OwnsState workspace id := hs.ownsState.mpr hid
    rw [howns.state?_within]
    refine ⟨by cases s.state? id <;> rfl, fun found written h => ?_⟩
    cases hfound : s.state? id with
    | error e => simp [hfound, Except.map] at h
    | ok found' =>
      simp only [hfound, Except.map, Except.ok.injEq, Prod.mk.injEq] at h
      obtain ⟨rfl, rfl⟩ := h
      refine ⟨nofun, fun c hc => ?_⟩
      have hwanted (r : Store.StateRow) (hr : r ∈ s.states)
          (hwanted : (r.id == toString id) = true) : r.workspace = workspace :=
        howns r hr (eq_of_beq hwanted)
      obtain ⟨hworkspace, howns⟩ := hs.identified.ownsState_of_readFirst hwanted (hc ▸ hfound)
      exact ⟨hworkspace, hs.ownsState.mp howns⟩
  · rw [hc] at h
    cases h

theorem confined_updateState {c : Conversation} (hc : c.Local workspace b.store) (version : Int) :
    (updateState c version).Respects (.confinement workspace b) env fun _ => True := by
  refine .call_confined (fun s hs => ?_) fun _ _ => trivial
  have howns : s.OwnsState workspace c.id := hs.ownsState.mpr hc.owns
  rw [howns.updateState_within]
  cases hupdate : s.updateState c version with
  | error e => exact ⟨rfl, nofun⟩
  | ok written =>
    cases written with
    | none =>
      refine ⟨rfl, fun a written h => ?_⟩
      cases h
      exact ⟨nofun, trivial⟩
    | some s₁ =>
      refine ⟨rfl, fun a written h => ?_⟩
      cases h
      exact ⟨fun s' hs' => Option.some.inj hs' ▸ howns.beside_updateState hs.identified hupdate,
        trivial⟩

theorem confined_createState {c : Conversation} (hc : c.Local workspace b.store) :
    (createState c).Respects (.confinement workspace b) env fun _ => True :=
  .tell_confined fun _ hs => ⟨(hs.ownsState.mpr hc.owns).createState_within hc.belongs,
    fun _ h => Store.beside_createState hc.belongs hs.identified h⟩

theorem confined_countFlowStart {id : Uuid} (hid : b.store.OwnsFlow workspace id) (time : Instant) :
    (countFlowStart id time).Respects (.confinement workspace b) env fun _ => True := by
  refine .tell_confined fun s hs => ⟨?_, fun s' h => ?_⟩
  · exact congrArg Except.ok (Store.countFlowStart_within s workspace id time).symm
  · rw [← Except.ok.inj h]
    exact (hs.ownsFlow.mpr hid).beside_countFlowStart hs.identified time

theorem confined_lastFiring {rule : Uuid} (hrule : b.store.OwnsRule workspace rule)
    (conversation : String) :
    (lastFiring rule conversation).Respects (.confinement workspace b) env fun _ => True := by
  refine .ask_confined fun s hs => ⟨?_, fun _ _ => trivial⟩
  simp only [Store.lastFiring, (hs.ownsRule.mpr hrule).successes_within]

theorem confined_countFirings {rule : Uuid} (hrule : b.store.OwnsRule workspace rule)
    (conversation : String) (since : Instant) :
    (countFirings rule conversation since).Respects (.confinement workspace b) env
      fun _ => True := by
  refine .ask_confined fun s hs => ⟨?_, fun _ _ => trivial⟩
  simp only [Store.countFirings, (hs.ownsRule.mpr hrule).successes_within]

theorem confined_logFiring {e : Firing} (hrule : b.store.OwnsRule workspace e.rule)
    (hid : b.store.OwnsFiring workspace e.id) :
    (logFiring e).Respects (.confinement workspace b) env fun _ => True :=
  .tell_confined fun _ hs => ⟨(hs.ownsRule.mpr hrule).logFiring_within (hs.ownsFiring.mpr hid),
    fun _ h => (hs.ownsRule.mpr hrule).beside_logFiring hs.identified h⟩

end Calls

/-! ## 3. What is done for a workspace -/

namespace Likeness

theorem confined_change {c : Conversation} (ch : Conversation.Change)
    (hc : c.Local workspace b.store) :
    (c.change ch).Respects (.confinement workspace b) env
      (Conversation.Local workspace b.store) := by
  unfold Conversation.change
  refine .bind .now fun now _ => ?_
  refine .bind (Calls.confined_updateState (hc.after ch now) c.version) fun updated _ => ?_
  split
  · exact .pure (hc.after ch now)
  · exact .throw

theorem confined_send (intent : SendIntent) :
    (send intent).Respects (.confinement workspace b) env fun _ => True := by
  rintro n w w' ⟨hw', hw⟩
  have hexchanges : w'.exchanges = w.exchanges := (congrArg World.exchanges hw' :)
  have hsent (v : World) : send intent (env.shown n) v =
      ((env.sender v.exchanges intent).mapError .delivery,
        { v with exchanges :=
            ⟨intent, env.sender v.exchanges intent, env.clock n⟩ :: v.exchanges }) := rfl
  rw [hsent, hsent, hexchanges]
  refine ⟨rfl, ⟨?_, hw.store, hw.drawn⟩, fun _ _ => trivial⟩
  exact congrArg (fun v : World => { v with
    exchanges := ⟨intent, env.sender w.exchanges intent, env.clock n⟩ :: w.exchanges }) hw'

theorem confined_carries : (Likeness.confinement workspace b).Carries env where
  reads := confined_reads
  snapshot c hc := hc.belongs ▸ Calls.confined_snapshot c.account
  change _ ch hc := confined_change ch hc
  send _ _ _ := confined_send _

theorem confined_enter {e : Event} (he : e.workspace = workspace) (fresh : b.Fresh env workspace)
    {f : Flow} (hf : b.store.OwnsFlow workspace f.id) (node : String) :
    (f.enter e node).Respects (.confinement workspace b) env
      (Conversation.Local workspace b.store) := by
  unfold Flow.enter Conversation.create
  refine .bind (Q := Conversation.Local workspace b.store) (.stored
    (.bind (.freshId_confined fresh) fun id hid => .bind .now fun now _ => ?_)) fun c hc => ?_
  · have hlocal (now : Instant) : (Conversation.begun id e.workspace e.account e.phone f.id node
        (some e.received) now).Local workspace b.store := ⟨he, hid.1⟩
    exact .bind (Calls.confined_createState (hlocal now)) fun _ _ => .pure (hlocal now)
  · exact .bind .now fun now _ => .bind (.stored (Calls.confined_countFlowStart hf now))
      fun _ _ => .pure hc

theorem confined_log (fresh : b.Fresh env workspace) {rule : Uuid}
    (hrule : b.store.OwnsRule workspace rule) (record : FiringRecord) (success : Bool) :
    (logFiring rule record success).Respects (.confinement workspace b) env fun _ => True := by
  unfold logFiring
  refine .bind (.freshId_confined fresh) fun id hid => .bind .now fun now _ => ?_
  exact .bind (Calls.confined_logFiring hrule hid.2) fun _ _ => .pure trivial

/-- What is done for an event of a `workspace` is confined to it. -/
theorem confined_hears {e : Event} (he : e.workspace = workspace)
    (fresh : b.Fresh env workspace) : (Likeness.confinement workspace b).Hears env e where
  toCarries := confined_carries
  account := he ▸ Calls.confined_snapshot e.account
  active := he ▸ Calls.confined_activeState? e.phone
  enter _ node hf := confined_enter he fresh hf node
  reply _ := confined_send _
  lastFiring _ hrule := Calls.confined_lastFiring hrule _
  countFirings _ since hrule := Calls.confined_countFirings hrule _ since
  log _ record success hrule _ := confined_log fresh hrule record success
  asks := by
    rintro w w' ls rs ⟨hw', hw⟩
    exact ⟨congrArg (fun v : World => { v with
      lookups := ls ++ v.lookups, requests := rs ++ v.requests }) hw', hw.store, hw.drawn⟩

end Likeness

/-! ## 4. Two runs -/

/-- There is a conversation of a workspace under an identifier. -/
def Store.HasState (s : Store) (workspace : String) (id : Uuid) : Prop :=
  ∃ r ∈ s.states, r.id = toString id ∧ r.workspace = workspace

/-- An occasion concerns a workspace: it is an event of the workspace, or calls for one of its
conversations (`HasState`). -/
def Occasion.Concerns (workspace : String) (s : Store) : Occasion → Prop
  | event e => e.workspace = workspace
  | resume id => s.HasState workspace id
  | form id _ => s.HasState workspace id

theorem Store.HasState.owns {s : Store} {id : Uuid} (hs : s.Identified)
    (h : s.HasState workspace id) : s.OwnsState workspace id := by
  obtain ⟨r, hr, hid, hworkspace⟩ := h
  intro q hq hid'
  rw [hs.states.eq_of_id hq hr (hid'.trans hid.symm), hworkspace]

theorem Store.HasState.congr {s s' : Store} {id : Uuid} (h : s.HasState workspace id)
    (hagree : s.within workspace = s'.within workspace) : s'.HasState workspace id := by
  obtain ⟨r, hr, hid, hworkspace⟩ := h
  have hr' : r ∈ (s.within workspace).states :=
    List.mem_filter.mpr ⟨hr, beq_iff_eq.mpr hworkspace⟩
  rw [hagree] at hr'
  exact ⟨r, List.mem_of_mem_filter hr', hid, hworkspace⟩

theorem Occasion.Concerns.congr {s s' : Store} {o : Occasion} (h : o.Concerns workspace s)
    (hagree : s.within workspace = s'.within workspace) : o.Concerns workspace s' := by
  cases o with
  | event e => exact h
  | resume id => exact Store.HasState.congr h hagree
  | form id fields => exact Store.HasState.congr h hagree

/-- What an occasion that `concerns` a workspace calls for is confined to the workspace. -/
theorem Occasion.confined_act {o : Occasion} (hs : b.store.Identified)
    (fresh : b.Fresh env workspace) (concerns : o.Concerns workspace b.store) :
    Act.Confined workspace b env o.act fun _ => True := by
  have hsuits : (Likeness.confinement workspace b).Suits env o := by
    cases o with
    | event e => exact Likeness.confined_hears concerns fresh
    | resume id => exact ⟨Likeness.confined_carries, Calls.confined_state? (concerns.owns hs)⟩
    | form id fields =>
      exact ⟨Likeness.confined_carries, Calls.confined_state? (concerns.owns hs)⟩
  intro w hw
  have hlike : (Likeness.confinement workspace b).Like w (w.within workspace) := ⟨rfl, hw⟩
  obtain ⟨houtcome, hwithin, hbeside⟩ := alike_act hsuits hlike
  exact ⟨houtcome.symm, hwithin, hbeside, trivial⟩

/-- **Workspaces do not interfere.** In two worlds in which a workspace sees the same, an event of
the workspace and a callback for one of its conversations have the same outcome and hand over and
look up the same. Afterwards the workspace sees the same again, and in neither world has a row of
another workspace changed. Identifiers name one row of a table, as they do wherever a run leads
(`World.identified_after`), and new ones are new. -/
theorem workspaces_apart {o : Occasion} {w w' : World} (hs : w.store.Identified)
    (hs' : w'.store.Identified) (fresh : w.Fresh env workspace) (fresh' : w'.Fresh env workspace)
    (agree : w.within workspace = w'.within workspace)
    (concerns : o.Concerns workspace w.store) :
    (o.act env w).1 = (o.act env w').1 ∧
      (o.act env w).2.exchanges = (o.act env w').2.exchanges ∧
      (o.act env w).2.lookups = (o.act env w').2.lookups ∧
      (o.act env w).2.within workspace = (o.act env w').2.within workspace ∧
      (o.act env w).2.store.beyond workspace = w.store.beyond workspace ∧
      (o.act env w').2.store.beyond workspace = w'.store.beyond workspace := by
  have concerns' : o.Concerns workspace w'.store := concerns.congr (congrArg World.store agree)
  obtain ⟨hrun, hlike, hbeside, -⟩ :=
    Occasion.confined_act hs fresh concerns w ⟨hs.beside, le_rfl⟩
  obtain ⟨hrun', hlike', hbeside', -⟩ :=
    Occasion.confined_act hs' fresh' concerns' w' ⟨hs'.beside, le_rfl⟩
  -- Both runs are the one on what the workspace sees.
  have houtcome : (o.act env w).1 = (o.act env w').1 := by rw [← hrun, ← hrun', agree]
  have hwithin : (o.act env w).2.within workspace = (o.act env w').2.within workspace := by
    rw [← hlike, ← hlike', agree]
  exact ⟨houtcome, (congrArg World.exchanges hwithin :), (congrArg World.lookups hwithin :),
    hwithin, hbeside.store.beyond, hbeside'.store.beyond⟩

/-- A shop that greets whoever writes. -/
def Store.shop : Store := { flows := [.ofFlow .greeting] }

/-- The same as `Store.shop`, beside a rival that has a flow of its own and talks to the same
person. -/
def Store.shops : Store :=
  { flows :=
      [.ofFlow .greeting, .ofFlow { Flow.greeting with id := .ofNat 2, workspace := "rival" }]
    states := [.ofConversation (.begun (.ofNat 9) "rival" "main" "555" (.ofNat 2) "start" none
      (.ofSeconds 0))] }

theorem Store.identified_shop : Store.shop.Identified where
  flows := keyed_iff.mpr (keys_nil.concat ⟨.ofNat 1, rfl⟩ fun _ hr => absurd hr List.not_mem_nil)
  rules := keys_nil
  states := keys_nil

theorem Store.identified_shops : Store.shops.Identified where
  flows := by
    refine keyed_iff.mpr
      ((keyed_iff.mp identified_shop.flows).concat ⟨.ofNat 2, rfl⟩ fun r hr => ?_)
    rw [List.mem_singleton.mp hr]
    exact fun h => absurd (Uuid.toString_inj.mp h) (by decide)
  rules := keys_nil
  states := keys_nil.concat ⟨.ofNat 9, rfl⟩ fun _ hr => absurd hr List.not_mem_nil

/-- A calm environment in which one new identifier is enough (`workspaces_apart_shops`). -/
def Environment.shop : Environment :=
  { Environment.calm (.ofSeconds 0) with freshId := fun _ => .ofNat 7 }

theorem workspaces_apart_shops :
    ((Occasion.event .hello).act .shop (.start .shop)).1 =
        ((Occasion.event .hello).act .shop (.start .shops)).1 ∧
      ((Occasion.event .hello).act .shop (.start .shop)).2.exchanges =
        ((Occasion.event .hello).act .shop (.start .shops)).2.exchanges ∧
      ((Occasion.event .hello).act .shop (.start .shop)).2.lookups =
        ((Occasion.event .hello).act .shop (.start .shops)).2.lookups ∧
      ((Occasion.event .hello).act .shop (.start .shop)).2.within "shop" =
        ((Occasion.event .hello).act .shop (.start .shops)).2.within "shop" ∧
      ((Occasion.event .hello).act .shop (.start .shop)).2.store.beyond "shop" =
        Store.shop.beyond "shop" ∧
      ((Occasion.event .hello).act .shop (.start .shops)).2.store.beyond "shop" =
        Store.shops.beyond "shop" := by
  have hnone {ρ : Type} {p : ρ → Prop} : ∀ r ∈ ([] : List ρ), p r :=
    fun _ hr => absurd hr List.not_mem_nil
  refine workspaces_apart Store.identified_shop Store.identified_shops
    (fun _ _ => ⟨hnone, hnone⟩) (fun _ _ => ⟨fun r hr h => ?_, hnone⟩) ?_ rfl
  · rw [List.mem_singleton.mp hr] at h
    exact absurd (Uuid.toString_inj.mp h) (by decide : Uuid.ofNat 9 ≠ .ofNat 7)
  · simp [World.within, World.anew, World.start, Store.within, Store.shop, Store.shops, Store.ruled,
      Store.FlowRow.ofFlow, Store.StateRow.ofConversation, Conversation.begun, Flow.greeting,
      Flow.new]

end Autoresponder
