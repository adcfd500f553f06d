import Autoresponder.Proofs.Engine.Effect

/-!
# Steps whose course is known

Where no call to the store goes wrong and the clock shows one time, the course of a step follows from
the store and from what was handed to the sender before. What it leaves behind are again a store and
what was handed over.
-/

namespace Autoresponder

open Step

/-- No call to the store goes wrong by `env.fault`. -/
def Environment.Faultless (env : Environment) : Prop := ∀ c n, env.fault c n = none

/-- The clock shows `now` whenever it is read. -/
def Environment.Shows (env : Environment) (now : Instant) : Prop := ∀ n, env.clock n = now

/-- The clock stands still at `env.now`, the time that is gone by. -/
def Environment.Still (env : Environment) : Prop := env.Shows env.now

/-- No call to the store goes wrong (`Faultless`), and the clock stands still (`Still`). -/
def Environment.Smooth (env : Environment) : Prop := env.Faultless ∧ env.Still

theorem Environment.Smooth.faultless {env : Environment} (h : env.Smooth) : env.Faultless := h.1

theorem Environment.Smooth.still {env : Environment} (h : env.Smooth) : env.Still := h.2

theorem Environment.Shows.asOf {env : Environment} {now : Instant} (h : env.Shows now) (w : World) :
    env.asOf w = env.atTime now := by
  rw [Environment.asOf, h]

theorem Environment.Still.asOf {env : Environment} (h : env.Still) (w : World) :
    env.asOf w = env :=
  Environment.Shows.asOf h w

section

variable {ε α β : Type} {env : Environment} {w w₁ : World} {c : Call} {a : α} {s : Store}

theorem Step.run_bind_ok {x : Step ε α} (h : x env w = (.ok a, w₁)) (k : α → Step ε β) :
    (x >>= k) env w = k a env w₁ := by
  rw [run_bind, h]

theorem Step.run_bind_error {x : Step ε α} {e : ε} (h : x env w = (.error e, w₁))
    (k : α → Step ε β) : (x >>= k) env w = (.error e, w₁) := by
  rw [run_bind, h]

theorem Step.run_stored {x : Step StoreError α} (h : x env w = (.ok a, w₁)) :
    stored x env w = (.ok a, w₁) := by
  rw [stored, run_mapError, h]
  rfl

theorem Step.run_call (faultless : env.Faultless) {conflict : Option α}
    {run : Store → Except StoreError (α × Option Store)} (written : Option Store)
    (h : run w.store = .ok (a, written)) :
    call c conflict run env w = (.ok a, (w.counting c).writeAny written) := by
  simp only [call, faultless c, h]

theorem Step.run_ask (faultless : env.Faultless) {run : Store → Except StoreError α}
    (h : run w.store = .ok a) : ask c run env w = (.ok a, w.counting c) := by
  unfold ask
  rw [run_call faultless none (by rw [h]; rfl)]
  rfl

-- A write takes place, or the store refuses it.
theorem Step.run_tell_ok (faultless : env.Faultless) {run : Store → Except StoreError Store}
    (h : run w.store = .ok s) : tell c run env w = (.ok (), (w.counting c).write s) :=
  run_call faultless (some s) (by rw [h]; rfl)

theorem Step.run_tell_error (faultless : env.Faultless) {run : Store → Except StoreError Store}
    {e : StoreError} (h : run w.store = .error e) :
    tell c run env w = (.error e, w.counting c) := by
  simp only [tell, call, faultless c, h, Except.map]

end

/-- From the store `s` and the exchanges `es` a step leads to the outcome `r`, the store `s'` and
the exchanges `es'` by then. No identifier is drawn. -/
def Step.Leads {ε α : Type} (env : Environment) (s : Store) (es : List Exchange) (x : Step ε α)
    (r : Except ε α) (s' : Store) (es' : List Exchange) : Prop :=
  ∀ w, w.store = s → w.exchanges = es →
    (x env w).1 = r ∧ (x env w).2.store = s' ∧ (x env w).2.exchanges = es' ∧
      (x env w).2.drawn = w.drawn

/-- `Step.Leads` of something that does not fail. -/
def Act.Leads {α : Type} (env : Environment) (s : Store) (es : List Exchange) (x : Act α)
    (a : α) (s' : Store) (es' : List Exchange) : Prop :=
  ∀ w, w.store = s → w.exchanges = es →
    (x env w).1 = a ∧ (x env w).2.store = s' ∧ (x env w).2.exchanges = es' ∧
      (x env w).2.drawn = w.drawn

section

variable {ε δ α β : Type} {env : Environment} {s s₁ s₂ : Store} {es es₁ es₂ : List Exchange}

/-! ## 1. Rules -/

namespace Step.Leads

theorem pure (a : α) : (Pure.pure a : Step ε α).Leads env s es (.ok a) s es :=
  fun _ hs hes => ⟨rfl, hs, hes, rfl⟩

theorem throw (e : ε) : (MonadExcept.throw e : Step ε α).Leads env s es (.error e) s es :=
  fun _ hs hes => ⟨rfl, hs, hes, rfl⟩

theorem ofResult (r : Except ε α) : (Step.ofResult r).Leads env s es r s es :=
  fun _ hs hes => ⟨rfl, hs, hes, rfl⟩

theorem now : (Step.now : Step ε Instant).Leads env s es (.ok env.now) s es :=
  fun _ hs hes => ⟨rfl, hs, hes, rfl⟩

theorem zones : (Step.zones : Step ε Zones).Leads env s es (.ok env.zones) s es :=
  fun _ hs hes => ⟨rfl, hs, hes, rfl⟩

theorem policy : (Step.policy : Step ε Policy).Leads env s es (.ok env.policy) s es :=
  fun _ hs hes => ⟨rfl, hs, hes, rfl⟩

-- After a step whose course is known, what follows is run in a world that is known as well.
theorem run_bind {x : Step ε α} {a : α} (hx : x.Leads env s es (.ok a) s₁ es₁)
    (k : α → Step ε β) {w : World} (hs : w.store = s) (hes : w.exchanges = es) :
    ∃ w₁, w₁.store = s₁ ∧ w₁.exchanges = es₁ ∧ w₁.drawn = w.drawn ∧
      (x >>= k) env w = k a env w₁ := by
  obtain ⟨hr, hs₁, hes₁, hdrawn⟩ := hx w hs hes
  refine ⟨(x env w).2, hs₁, hes₁, hdrawn, ?_⟩
  rw [Step.run_bind]
  split
  · rename_i hrun
    rw [hrun] at hr ⊢
    cases hr
    rfl
  · rename_i hrun
    rw [hrun] at hr
    cases hr

theorem bind {x : Step ε α} {k : α → Step ε β} {a : α} {r : Except ε β}
    (hx : x.Leads env s es (.ok a) s₁ es₁) (hk : (k a).Leads env s₁ es₁ r s₂ es₂) :
    (x >>= k).Leads env s es r s₂ es₂ := by
  intro w hs hes
  obtain ⟨w₁, hs₁, hes₁, hdrawn, hrun⟩ := hx.run_bind k hs hes
  rw [hrun, ← hdrawn]
  exact hk w₁ hs₁ hes₁

theorem bind_error {x : Step ε α} {k : α → Step ε β} {e : ε}
    (hx : x.Leads env s es (.error e) s₁ es₁) :
    (x >>= k).Leads env s es (.error e) s₁ es₁ := by
  intro w hs hes
  obtain ⟨hr, hs₁, hes₁, hdrawn⟩ := hx w hs hes
  have hrun : (x >>= k) env w = (.error e, (x env w).2) := by
    rw [Step.run_bind]
    split
    · rename_i hrun
      rw [hrun] at hr
      cases hr
    · rename_i hrun
      rw [hrun] at hr ⊢
      cases hr
      rfl
  rw [hrun]
  exact ⟨rfl, hs₁, hes₁, hdrawn⟩

theorem map {x : Step ε α} {f : α → β} {a : α} (hx : x.Leads env s es (.ok a) s₁ es₁) :
    (f <$> x).Leads env s es (.ok (f a)) s₁ es₁ := by
  rw [map_eq_pure_bind]
  exact hx.bind (.pure _)

theorem map_error {x : Step ε α} {f : α → β} {e : ε} (hx : x.Leads env s es (.error e) s₁ es₁) :
    (f <$> x).Leads env s es (.error e) s₁ es₁ := by
  rw [map_eq_pure_bind]
  exact hx.bind_error

-- The same whether there is an outcome or a failure.
theorem map_result {x : Step ε α} {f : α → β} {r : Except ε α} (hx : x.Leads env s es r s₁ es₁) :
    (f <$> x).Leads env s es (r.map f) s₁ es₁ := by
  cases r with
  | ok a => exact hx.map
  | error e => exact hx.map_error

theorem mapError {x : Step ε α} {f : ε → δ} {r : Except ε α} (hx : x.Leads env s es r s₁ es₁) :
    (x.mapError f).Leads env s es (r.mapError f) s₁ es₁ := by
  intro w hs hes
  obtain ⟨hr, hrest⟩ := hx w hs hes
  exact ⟨congrArg (Except.mapError f) hr, hrest⟩

theorem stored {x : Step StoreError α} {r : Except StoreError α} {a : α}
    (hx : x.Leads env s es r s₁ es₁) (hr : r = .ok a) :
    (Step.stored x).Leads env s es (.ok a) s₁ es₁ :=
  (hr ▸ hx).mapError (r := .ok a)

theorem stored_error {x : Step StoreError α} {r : Except StoreError α} {e : StoreError}
    (hx : x.Leads env s es r s₁ es₁) (hr : r = .error e) :
    (Step.stored x).Leads env s es (.error (.store e)) s₁ es₁ :=
  (hr ▸ hx).mapError (r := .error e)

theorem attempt {x : Step ε α} {r : Except ε α} (hx : x.Leads env s es r s₁ es₁) :
    x.attempt.Leads env s es r s₁ es₁ :=
  hx

theorem ofAct {x : Act α} {a : α} (hx : x.Leads env s es a s₁ es₁) :
    (Step.ofAct x : Step ε α).Leads env s es (.ok a) s₁ es₁ := by
  intro w hs hes
  obtain ⟨ha, hrest⟩ := hx w hs hes
  exact ⟨congrArg Except.ok ha, hrest⟩

theorem call (faultless : env.Faultless) {c : Call} {conflict : Option α}
    {x : Store → Except StoreError (α × Option Store)} {a : α} (written : Option Store)
    (hx : x s = .ok (a, written)) :
    (Step.call c conflict x).Leads env s es (.ok a) (written.getD s) es := by
  intro w hs hes
  subst hs
  rw [run_call faultless written hx]
  cases written with
  | none => exact ⟨rfl, rfl, hes, rfl⟩
  | some s₁ => exact ⟨rfl, rfl, hes, rfl⟩

theorem call_error (faultless : env.Faultless) {c : Call} {conflict : Option α}
    {x : Store → Except StoreError (α × Option Store)} {e : StoreError} (hx : x s = .error e) :
    (Step.call c conflict x).Leads env s es (.error e) s es := by
  intro w hs hes
  subst hs
  simp only [Step.call, faultless c, hx]
  exact ⟨trivial, rfl, hes, rfl⟩

-- What is asked is answered from the store, and leaves it as it is.
theorem ask (faultless : env.Faultless) {c : Call} {x : Store → Except StoreError α} :
    (Step.ask c x).Leads env s es (x s) s es := by
  cases hx : x s with
  | ok a => exact .call faultless none (by rw [hx]; rfl)
  | error e => exact .call_error faultless (by rw [hx]; rfl)

theorem tell (faultless : env.Faultless) {c : Call} {x : Store → Except StoreError Store}
    (hx : x s = .ok s₁) : (Step.tell c x).Leads env s es (.ok ()) s₁ es :=
  .call faultless (some s₁) (by rw [hx]; rfl)

-- While the clock shows one time, this is gone by from when it is read.
theorem timed {now : Instant} (shows : env.Shows now) {x : Step ε α} {r : Except ε α}
    (hx : x.Leads (env.atTime now) s es r s₁ es₁) : (Step.timed x).Leads env s es r s₁ es₁ := by
  intro w hs hes
  rw [Step.timed, shows.asOf]
  exact hx w.reading hs hes

end Step.Leads

namespace Act.Leads

theorem pure (a : α) : (Pure.pure a : Act α).Leads env s es a s es :=
  fun _ hs hes => ⟨rfl, hs, hes, rfl⟩

theorem bind {x : Act α} {k : α → Act β} {a : α} {b : β} (hx : x.Leads env s es a s₁ es₁)
    (hk : (k a).Leads env s₁ es₁ b s₂ es₂) : (x >>= k).Leads env s es b s₂ es₂ := by
  intro w hs hes
  obtain ⟨rfl, hs₁, hes₁, hdrawn⟩ := hx w hs hes
  obtain ⟨hb, hs₂, hes₂, hdrawn'⟩ := hk _ hs₁ hes₁
  exact ⟨hb, hs₂, hes₂, hdrawn'.trans hdrawn⟩

end Act.Leads

/-- From the store `s` and the exchanges `es` a step comes to doing `y`, from `s'` and `es'`. -/
def Step.ComesTo (env : Environment) (s : Store) (es : List Exchange) (x : Step ε α) (s' : Store)
    (es' : List Exchange) (y : Step ε α) : Prop :=
  ∀ w, w.store = s → w.exchanges = es →
    ∃ w', w'.store = s' ∧ w'.exchanges = es' ∧ w'.drawn = w.drawn ∧ x env w = y env w'

namespace Step.ComesTo

theorem refl (x : Step ε α) : x.ComesTo env s es s es x :=
  fun w hs hes => ⟨w, hs, hes, rfl, rfl⟩

theorem bind {x : Step ε α} {k : α → Step ε β} {a : α} {y : Step ε β}
    (hx : x.Leads env s es (.ok a) s₁ es₁) (hk : (k a).ComesTo env s₁ es₁ s₂ es₂ y) :
    (x >>= k).ComesTo env s es s₂ es₂ y := by
  intro w hs hes
  obtain ⟨w₁, hs₁, hes₁, hdrawn, hrun⟩ := hx.run_bind k hs hes
  rw [hrun, ← hdrawn]
  exact hk w₁ hs₁ hes₁

theorem leads {x y : Step ε α} {r : Except ε α} (hx : x.ComesTo env s es s₁ es₁ y)
    (hy : y.Leads env s₁ es₁ r s₂ es₂) : x.Leads env s es r s₂ es₂ := by
  intro w hs hes
  obtain ⟨w₁, hs₁, hes₁, hdrawn, hrun⟩ := hx w hs hes
  rw [hrun, ← hdrawn]
  exact hy w₁ hs₁ hes₁

theorem trans {x y z : Step ε α} (hx : x.ComesTo env s es s₁ es₁ y)
    (hy : y.ComesTo env s₁ es₁ s₂ es₂ z) : x.ComesTo env s es s₂ es₂ z := by
  intro w hs hes
  obtain ⟨w₁, hs₁, hes₁, hdrawn, hrun⟩ := hx w hs hes
  rw [hrun, ← hdrawn]
  exact hy w₁ hs₁ hes₁

end Step.ComesTo

/-! ## 2. Calls -/

theorem Calls.leads_snapshot (faultless : env.Faultless) (workspace account : String) :
    (Calls.snapshot workspace account).Leads env s es (s.snapshot workspace account) s es := by
  unfold snapshot
  refine .bind (.ask faultless) (.bind (.ask faultless) ?_)
  cases hsettings : s.settings? workspace account with
  | ok settings =>
    rw [Store.snapshot, hsettings]
    exact .bind (hsettings ▸ .ask faultless) (.pure _)
  | error e =>
    rw [Store.snapshot, hsettings]
    exact .bind_error (hsettings ▸ .ask faultless)

theorem Calls.leads_state? (faultless : env.Faultless) (id : Uuid) :
    (Calls.state? id).Leads env s es (s.state? id) s es := by
  cases hstate : s.state? id with
  | ok found => exact .call faultless none (by rw [hstate]; rfl)
  | error e => exact .call_error faultless (by rw [hstate]; rfl)

theorem Calls.leads_activeState? (faultless : env.Faultless) (workspace phone : String) :
    (Calls.activeState? workspace phone).Leads env s es (s.activeState? workspace phone) s es :=
  .ask faultless

/-! ## 3. Conversations -/

namespace Conversation

-- A copy that is up to date and active is changed.
theorem leads_change (faultless : env.Faultless) (hs : s.Consistent) {c : Conversation}
    (held : s.Holds c) (active : c.isActive = true) (ch : Change) :
    (stored (c.change ch)).Leads env s es (.ok (c.after ch env.now))
      (s.set (c.after ch env.now)) es := by
  refine .mapError (r := .ok (c.after ch env.now)) ?_
  unfold change
  refine .bind .now (.bind (a := true)
    (.call faultless (some (s.set (c.after ch env.now))) ?_) (.pure _))
  rw [held.updateState hs active (c.same_after ch env.now)]
  rfl

theorem leads_finish (faultless : env.Faultless) (hs : s.Consistent) {c : Conversation}
    (held : s.Holds c) (active : c.isActive = true) :
    (stored c.finish).Leads env s es (.ok (c.after .complete env.now))
      (s.set (c.after .complete env.now)) es := by
  rw [finish, if_pos active]
  exact leads_change faultless hs held active .complete

/-- What is handed to the sender, and what it says. -/
def exchange (c : Conversation) (env : Environment) (es : List Exchange) (m : Message) : Exchange :=
  ⟨c.intent m, env.sender es (c.intent m), env.now⟩

theorem leads_send {c : Conversation} (m : Message) :
    (send (c.intent m)).Leads env s es ((env.sender es (c.intent m)).mapError .delivery) s
      (c.exchange env es m :: es) := by
  intro w hs hes
  subst hs hes
  exact ⟨rfl, rfl, rfl, rfl⟩

section

variable {c : Conversation} {m : Message} {now : Instant}

-- While the window is open a message is handed over, at the time that the clock shows then.
theorem leads_deliver (shows : env.Shows now) (hopen : Window.isOpen c.lastInbound now = true)
    (hm : m.requiresWindow = true) :
    (c.deliver m).Leads env s es ((env.sender es (c.intent m)).mapError .delivery) s
      (c.exchange (env.atTime now) es m :: es) := by
  unfold deliver sendGuarded
  dsimp only
  rw [if_pos hm]
  have hnow : (env.atTime now).now = now := rfl
  refine .timed shows (.bind .now ?_)
  rw [hnow, if_pos hopen]
  exact leads_send m

theorem leads_deliver_ok (shows : env.Shows now) (hopen : Window.isOpen c.lastInbound now = true)
    (hm : m.requiresWindow = true) {receipt : Receipt}
    (hsent : env.sender es (c.intent m) = .ok receipt) :
    (c.deliver m).Leads env s es (.ok receipt) s (c.exchange (env.atTime now) es m :: es) := by
  have h := @leads_deliver env s es c m now shows hopen hm
  rwa [hsent] at h

theorem leads_deliver_error (shows : env.Shows now) (hopen : Window.isOpen c.lastInbound now = true)
    (hm : m.requiresWindow = true) {e : DeliveryError}
    (hsent : env.sender es (c.intent m) = .error e) :
    (c.deliver m).Leads env s es (.error (.delivery e)) s
      (c.exchange (env.atTime now) es m :: es) := by
  have h := @leads_deliver env s es c m now shows hopen hm
  rwa [hsent] at h

theorem leads_deliver_closed (shows : env.Shows now)
    (hclosed : Window.isOpen c.lastInbound now = false) (hm : m.requiresWindow = true) :
    (c.deliver m).Leads env s es (.error (.windowClosed c.phone c.lastInbound)) s es := by
  unfold deliver sendGuarded
  dsimp only
  rw [if_pos hm]
  have hnow : (env.atTime now).now = now := rfl
  refine .timed shows (.bind .now ?_)
  rw [hnow, hclosed, if_neg Bool.false_ne_true]
  exact .throw _

end

theorem leads_expireIfStale_fresh {c : Conversation}
    (h : Window.isStale c.lastInbound env.now = false) :
    c.expireIfStale.Leads env s es (.ok false) s es := by
  unfold expireIfStale
  refine .bind .now ?_
  simp only [h, Bool.false_eq_true, if_false]
  exact .pure _

theorem leads_expireIfStale (faultless : env.Faultless) (hs : s.Consistent) {c : Conversation}
    (held : s.Holds c) (active : c.isActive = true)
    (h : Window.isStale c.lastInbound env.now = true) :
    c.expireIfStale.Leads env s es (.ok true) (s.set (c.after .complete env.now)) es := by
  unfold expireIfStale
  refine .bind .now ?_
  simp only [h, if_true]
  exact .bind (leads_finish faultless hs held active) (.pure _)

end Conversation

end

end Autoresponder
