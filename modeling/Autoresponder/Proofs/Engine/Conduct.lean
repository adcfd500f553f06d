import Autoresponder.Proofs.Engine.Effect

/-!
# Conduct

A conduct says what may be done to a world at a time, and what is known of the store all the while.
A step follows a conduct if it does nothing else, and closes one if it may do something more at its
very end.
-/

namespace Autoresponder

/-- What may be done to a world, and what it keeps of the store. The clock is read on from its
reading `first`. -/
structure Conduct where
  Deed : World → World → Prop
  Sound : Store → Prop
  first : Nat
  quiet : ∀ {w w' : World}, w.Idles w' → Deed w w'
  sound : ∀ {w w' : World}, Deed w w' → Sound w.store → Sound w'.store
  readings : ∀ {w w' : World}, Deed w w' → w.readings ≤ w'.readings

/-- From one world to another by deeds. -/
abbrev Conduct.Path (K : Conduct) : World → World → Prop := Relation.ReflTransGen K.Deed

theorem Conduct.Path.sound {K : Conduct} {w w' : World} (h : K.Path w w')
    (hs : K.Sound w.store) : K.Sound w'.store := by
  induction h with
  | refl => exact hs
  | tail _ h ih => exact K.sound h ih

theorem Conduct.Path.readings {K : Conduct} {w w' : World} (h : K.Path w w') :
    w.readings ≤ w'.readings := by
  induction h with
  | refl => exact le_refl _
  | tail _ h ih => exact ih.trans (K.readings h)

-- What the clock has shown it has shown from then on.
theorem Environment.Told.mono {env : Environment} {first : Nat} {w w' : World} {now : Instant}
    (h : env.Told first w now) (hle : w.readings ≤ w'.readings) : env.Told first w' now := by
  obtain ⟨n, hfirst, hn, hnow⟩ := h
  exact ⟨n, hfirst, hn.trans_le hle, hnow⟩

-- The next reading comes after any reading before it.
theorem Environment.Told.asOf {env : Environment} {first : Nat} {w : World} {now : Instant}
    (h : env.Told first w now) : (env.asOf w).Told first w.reading (env.asOf w).now := by
  obtain ⟨n, hfirst, hn, -⟩ := h
  exact ⟨w.readings, by omega, Nat.lt_succ_self _, rfl⟩

theorem World.idles_reading (w : World) : w.Idles w.reading := ⟨rfl, rfl, rfl, Nat.le_succ _⟩

theorem World.idles_counting (w : World) (c : Call) : w.Idles (w.counting c) :=
  ⟨rfl, rfl, rfl, le_refl _⟩

/-- From a sound store with `P` a step that goes by what the clock has shown leads to `Q`, or to `E`
if it fails, by deeds. -/
def Step.Follows {ε α : Type} (K : Conduct) (env : Environment) (P : Store → Prop) (x : Step ε α)
    (Q : α → Store → Prop) (E : ε → Store → Prop) : Prop :=
  ∀ w, env.Told K.first w env.now → K.Sound w.store → P w.store → K.Path w (x env w).2 ∧
    match (x env w).1 with
    | .ok a => Q a (x env w).2.store
    | .error e => E e (x env w).2.store

/-- `Step.Follows` of something that does not fail. -/
def Act.Follows {α : Type} (K : Conduct) (env : Environment) (P : Store → Prop) (x : Act α)
    (Q : α → Store → Prop) : Prop :=
  ∀ w, env.Told K.first w env.now → K.Sound w.store → P w.store →
    K.Path w (x env w).2 ∧ Q (x env w).1 (x env w).2.store

/-- A step of which no more is said than that it does deeds. -/
abbrev Step.Behaves {ε α : Type} (K : Conduct) (env : Environment) (P : Store → Prop)
    (x : Step ε α) : Prop :=
  x.Follows K env P (fun _ _ => True) (fun _ _ => True)

/-- A step that does deeds, and at last perhaps what `T` says for its outcome. -/
def Step.Closes {ε α : Type} (K : Conduct) (T : World → World → Except ε α → Prop)
    (env : Environment) (P : Store → Prop) (x : Step ε α) : Prop :=
  ∀ w, env.Told K.first w env.now → K.Sound w.store → P w.store →
    ∃ w', K.Path w w' ∧ ((x env w).2 = w' ∨ T w' (x env w).2 (x env w).1)

section

variable {ε δ α β : Type} {K : Conduct} {env : Environment} {P : Store → Prop}
  {Q : α → Store → Prop} {E : ε → Store → Prop}

/-! ## 1. Steps that follow a conduct -/

namespace Step.Follows

theorem pure {a : α} (h : ∀ s, P s → Q a s) : (Pure.pure a : Step ε α).Follows K env P Q E :=
  fun w _ _ hP => ⟨.refl, h w.store hP⟩

theorem throw {e : ε} (h : ∀ s, P s → E e s) :
    (MonadExcept.throw e : Step ε α).Follows K env P Q E :=
  fun w _ _ hP => ⟨.refl, h w.store hP⟩

theorem bind {x : Step ε α} {k : α → Step ε β} {R : β → Store → Prop}
    (hx : x.Follows K env P Q E) (hk : ∀ a, (k a).Follows K env (Q a) R E) :
    (x >>= k).Follows K env P R E := by
  intro w told hs hP
  obtain ⟨hpath, hpost⟩ := hx w told hs hP
  rw [Step.run_bind]
  rcases hrun : x env w with ⟨_ | a, w'⟩ <;> rw [hrun] at hpath hpost
  · exact ⟨hpath, hpost⟩
  · obtain ⟨hpath', hpost'⟩ := hk a w' (told.mono hpath.readings) (hpath.sound hs) hpost
    exact ⟨hpath.trans hpath', hpost'⟩

theorem imp {x : Step ε α} {P' : Store → Prop} {Q' : α → Store → Prop} {E' : ε → Store → Prop}
    (hx : x.Follows K env P Q E) (hP : ∀ s, P' s → P s) (hQ : ∀ a s, Q a s → Q' a s)
    (hE : ∀ e s, E e s → E' e s) : x.Follows K env P' Q' E' := by
  intro w told hs hP'
  obtain ⟨hpath, hpost⟩ := hx w told hs (hP w.store hP')
  refine ⟨hpath, ?_⟩
  split <;> rename_i hrun <;> rw [hrun] at hpost
  · exact hQ _ _ hpost
  · exact hE _ _ hpost

theorem pre {x : Step ε α} {P' : Store → Prop} (hx : x.Follows K env P Q E)
    (hP : ∀ s, P' s → P s) : x.Follows K env P' Q E :=
  hx.imp hP (fun _ _ h => h) fun _ _ h => h

theorem post {x : Step ε α} {Q' : α → Store → Prop} (hx : x.Follows K env P Q E)
    (hQ : ∀ a s, Q a s → Q' a s) : x.Follows K env P Q' E :=
  hx.imp (fun _ h => h) hQ fun _ _ h => h

-- What a failure leaves need not be known.
theorem lax {x : Step ε α} (hx : x.Follows K env P Q E) :
    x.Follows K env P Q (fun _ _ => True) :=
  hx.imp (fun _ h => h) (fun _ _ h => h) fun _ _ _ => trivial

theorem behaves {x : Step ε α} (hx : x.Follows K env P Q E) : x.Behaves K env P :=
  hx.lax.post fun _ _ _ => trivial

-- What is known before need not be a property of the store.
theorem of_pre {x : Step ε α} {p : Prop} (h : p → x.Follows K env P Q E) :
    x.Follows K env (fun s => p ∧ P s) Q E :=
  fun w told hs hP => h hP.1 w told hs hP.2

theorem mapError {x : Step ε α} {E : δ → Store → Prop} (f : ε → δ)
    (hx : x.Follows K env P Q fun e => E (f e)) : (x.mapError f).Follows K env P Q E := by
  intro w told hs hP
  obtain ⟨hpath, hpost⟩ := hx w told hs hP
  rw [Step.run_mapError]
  refine ⟨hpath, ?_⟩
  cases hrun : (x env w).1 <;> rw [hrun] at hpost <;> exact hpost

theorem attempt {x : Step ε α} (hx : x.Follows K env P Q E) :
    Act.Follows K env P x.attempt fun r s => match r with
      | .ok a => Q a s
      | .error e => E e s :=
  hx

theorem ofAct {x : Act α} (hx : Act.Follows K env P x Q) :
    (Step.ofAct x : Step ε α).Follows K env P Q E :=
  hx

theorem ofResult {outcome : Except ε α} (hQ : ∀ a s, outcome = .ok a → P s → Q a s)
    (hE : ∀ e s, outcome = .error e → P s → E e s) :
    (Step.ofResult outcome).Follows K env P Q E := by
  intro w _ _ hP
  cases outcome with
  | ok a => exact ⟨.refl, hQ a _ rfl hP⟩
  | error e => exact ⟨.refl, hE e _ rfl hP⟩

-- The time is that of the environment.
theorem now {Q : Instant → Store → Prop} (h : ∀ s, P s → Q env.now s) :
    (Step.now : Step ε Instant).Follows K env P Q E :=
  fun w _ _ hP => ⟨.refl, h w.store hP⟩

-- What follows may use the time.
theorem bind_now {k : Instant → Step ε β} {R : β → Store → Prop}
    (hk : (k env.now).Follows K env P R E) : (Step.now >>= k).Follows K env P R E := by
  refine bind (Q := fun now s => now = env.now ∧ P s) (now fun s h => ⟨rfl, h⟩) fun now => ?_
  refine of_pre ?_
  rintro rfl
  exact hk

theorem policy {Q : Policy → Store → Prop} (h : ∀ s, P s → Q env.policy s) :
    (Step.policy : Step ε Policy).Follows K env P Q E :=
  fun w _ _ hP => ⟨.refl, h w.store hP⟩

theorem freshId {Q : Uuid → Store → Prop} (h : ∀ u s, P s → Q u s) :
    (Step.freshId : Step ε Uuid).Follows K env P Q E :=
  fun w _ _ hP => ⟨.single (K.quiet ⟨rfl, rfl, rfl, le_refl _⟩), h _ w.store hP⟩

theorem map {x : Step ε α} {f : α → β} {R : β → Store → Prop}
    (hx : x.Follows K env P (fun a => R (f a)) E) : (f <$> x).Follows K env P R E := by
  rw [map_eq_pure_bind]
  exact hx.bind fun a => .pure fun _ h => h

-- A call to the store goes wrong, or does what it is meant to do.
theorem call {x : Store → Except StoreError (α × Option Store)} {c : Call} {conflict : Option α}
    {E : StoreError → Store → Prop}
    (hrun : ∀ w : World, env.Told K.first w env.now → K.Sound w.store → P w.store →
      ∀ a written, x w.store = .ok (a, written) →
        K.Deed w (w.writeAny written) ∧ Q a (w.writeAny written).store)
    (hconflict : ∀ a s, conflict = some a → P s → Q a s) (hE : ∀ e s, P s → E e s) :
    (Step.call c conflict x).Follows K env P Q E := by
  intro w told hs hP
  have hcount : K.Deed w (w.counting c) := K.quiet (w.idles_counting c)
  simp only [Step.call]
  split
  · split
    · rename_i a written hx
      obtain ⟨hdeed, hQ⟩ := hrun (w.counting c) told hs hP a written hx
      exact ⟨(Relation.ReflTransGen.single hcount).tail hdeed, hQ⟩
    · exact ⟨.single hcount, hE _ _ hP⟩
  · exact ⟨.single hcount, hconflict _ _ rfl hP⟩
  · exact ⟨.single hcount, hE _ _ hP⟩

theorem ask {x : Store → Except StoreError α} {c : Call} {E : StoreError → Store → Prop}
    (hQ : ∀ a s, K.Sound s → x s = .ok a → P s → Q a s) (hE : ∀ e s, P s → E e s) :
    (Step.ask c x).Follows K env P Q E := by
  refine .call (fun w _ hs hP a written hx => ?_) (by simp) hE
  cases hask : x w.store with
  | error e => simp [hask, Except.map] at hx
  | ok b =>
    simp only [hask, Except.map, Except.ok.injEq, Prod.mk.injEq] at hx
    obtain ⟨rfl, rfl⟩ := hx
    exact ⟨K.quiet ⟨rfl, rfl, rfl, le_refl _⟩, hQ _ _ hs hask hP⟩

theorem tell {x : Store → Except StoreError Store} {c : Call} {Q : Unit → Store → Prop}
    {E : StoreError → Store → Prop}
    (hrun : ∀ w : World, env.Told K.first w env.now → K.Sound w.store → P w.store →
      ∀ s, x w.store = .ok s → K.Deed w (w.write s) ∧ Q () s)
    (hE : ∀ e s, P s → E e s) : (Step.tell c x).Follows K env P Q E := by
  refine .call (fun w told hs hP a written hx => ?_) (by simp) hE
  cases htell : x w.store with
  | error e => simp [htell, Except.map] at hx
  | ok s =>
    simp only [htell, Except.map, Except.ok.injEq, Prod.mk.injEq] at hx
    obtain ⟨-, rfl⟩ := hx
    exact hrun w told hs hP s htell

-- What goes by the clock as it is read now follows the conduct if it does so at any time.
theorem timed {x : Step ε α} (hx : ∀ now, x.Follows K (env.atTime now) P Q E) :
    (Step.timed x).Follows K env P Q E := by
  intro w told hs hP
  obtain ⟨hpath, hpost⟩ := hx _ w.reading told.asOf hs hP
  exact ⟨.head (K.quiet w.idles_reading) hpath, hpost⟩

end Step.Follows

namespace Step.Behaves

theorem pure {a : α} : (Pure.pure a : Step ε α).Behaves K env P :=
  Step.Follows.pure fun _ _ => trivial

theorem throw {e : ε} : (MonadExcept.throw e : Step ε α).Behaves K env P :=
  Step.Follows.throw fun _ _ => trivial

-- What is tried goes on, whatever comes of it.
theorem attempt {x : Step δ α} (hx : x.Behaves K env P) :
    (Step.ofAct x.attempt : Step ε (Except δ α)).Behaves K env P :=
  fun w told hs hP => ⟨(hx w told hs hP).1, trivial⟩

-- What follows need not know anything.
theorem bind {x : Step ε α} {k : α → Step ε β} (hx : x.Behaves K env P)
    (hk : ∀ a, (k a).Behaves K env fun _ => True) : (x >>= k).Behaves K env P :=
  Step.Follows.bind hx hk

end Step.Behaves

namespace Act.Follows

theorem pure {a : α} (h : ∀ s, P s → Q a s) :
    Act.Follows K env P (Pure.pure a : Act α) Q :=
  fun w _ _ hP => ⟨.refl, h w.store hP⟩

theorem bind {x : Act α} {k : α → Act β} {R : β → Store → Prop} (hx : Act.Follows K env P x Q)
    (hk : ∀ a, Act.Follows K env (Q a) (k a) R) : Act.Follows K env P (x >>= k) R := by
  intro w told hs hP
  obtain ⟨hpath, hpost⟩ := hx w told hs hP
  obtain ⟨hpath', hpost'⟩ := hk _ _ (told.mono hpath.readings) (hpath.sound hs) hpost
  exact ⟨hpath.trans hpath', hpost'⟩

theorem post {x : Act α} {Q' : α → Store → Prop} (hx : Act.Follows K env P x Q)
    (hQ : ∀ a s, Q a s → Q' a s) : Act.Follows K env P x Q' :=
  fun w told hs hP => ⟨(hx w told hs hP).1, hQ _ _ (hx w told hs hP).2⟩

theorem of_pre {x : Act α} {p : Prop} (h : p → Act.Follows K env P x Q) :
    Act.Follows K env (fun s => p ∧ P s) x Q :=
  fun w told hs hP => h hP.1 w told hs hP.2

end Act.Follows

/-! ## 2. Steps that close a conduct -/

namespace Step.Closes

variable {T : World → World → Except ε α → Prop}

theorem of_follows {x : Step ε α} (hx : x.Follows K env P Q E) : x.Closes K T env P :=
  fun w told hs hP => ⟨(x env w).2, (hx w told hs hP).1, .inl rfl⟩

theorem bind {T : World → World → Except ε β → Prop} {x : Step ε α} {k : α → Step ε β}
    (hx : x.Follows K env P Q E) (hk : ∀ a, (k a).Closes K T env (Q a)) :
    (x >>= k).Closes K T env P := by
  intro w told hs hP
  obtain ⟨hpath, hpost⟩ := hx w told hs hP
  rw [Step.run_bind]
  rcases hrun : x env w with ⟨_ | a, w'⟩ <;> rw [hrun] at hpath hpost
  · exact ⟨w', hpath, .inl rfl⟩
  · obtain ⟨w₁, hpath', hend⟩ := hk a w' (told.mono hpath.readings) (hpath.sound hs) hpost
    exact ⟨w₁, hpath.trans hpath', hend⟩

theorem bind_now {T : World → World → Except ε β → Prop} {k : Instant → Step ε β}
    (hk : (k env.now).Closes K T env P) : (Step.now >>= k).Closes K T env P :=
  fun w told hs hP => hk w told hs hP

theorem bind_zones {T : World → World → Except ε β → Prop} {k : Zones → Step ε β}
    (hk : (k env.zones).Closes K T env P) : (Step.zones >>= k).Closes K T env P :=
  fun w told hs hP => hk w told hs hP

theorem pre {x : Step ε α} {P' : Store → Prop} (hx : x.Closes K T env P)
    (hP : ∀ s, P' s → P s) : x.Closes K T env P' :=
  fun w told hs hP' => hx w told hs (hP w.store hP')

theorem of_pre {x : Step ε α} {p : Prop} (h : p → x.Closes K T env P) :
    x.Closes K T env fun s => p ∧ P s :=
  fun w told hs hP => h hP.1 w told hs hP.2

end Step.Closes

end

end Autoresponder
