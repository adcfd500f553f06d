import Autoresponder.Proofs.Engine.Acts
import Mathlib.Data.List.Induction

/-!
# Runs

A run is a sequence of operations: events are handled, callbacks are answered, and flows, rules and
settings are written in between. Every operation has an environment of its own, so that the clock
may be set at will, and everything that is asked may answer otherwise, or fail, each time. The clock
goes on, or back, within an operation too.
-/

namespace Autoresponder

/-! ## 1. Operations -/

/-- What is asked of the library. -/
inductive Operation where
  | handle (e : Event)
  | resume (id : Uuid)
  | completeForm (id : Uuid) (fields : List (String × Json))
  | tick
  | putFlow (f : Flow)
  | setFlowStatus (id : Uuid) (status : FlowStatus) (time : Instant)
  | putRule (r : Rule)
  | putSettings (workspace account : String) (settings : AccountSettings)

namespace Operation

def event? : Operation → Option Event
  | handle e => some e
  | _ => none

/-- Flows, rules or settings are to be written. -/
def Configures : Operation → Prop
  | putFlow _ => True
  | setFlowStatus _ _ _ => True
  | putRule _ => True
  | putSettings _ _ _ => True
  | _ => False

/-- Performs an operation. What comes of it is left out. -/
def perform : Operation → Act Unit
  | handle e => discard e.handle
  | resume id => discard (Autoresponder.resume id)
  | completeForm id fields => discard (Autoresponder.completeForm id fields)
  | tick => discard Autoresponder.tick
  | putFlow f => discard (Calls.putFlow f).attempt
  | setFlowStatus id status time => discard (Calls.setFlowStatus id status time).attempt
  | putRule r => discard (Calls.putRule r).attempt
  | putSettings workspace account settings =>
    discard (Calls.putSettings workspace account settings).attempt

end Operation

/-- Operations with the environments in which they are performed. -/
abbrev Run := List (Environment × Operation)

def Run.events (run : Run) : List Event := run.filterMap fun step => step.2.event?

namespace World

/-- Performs an operation. -/
def perform (w : World) (env : Environment) (op : Operation) : World := (op.perform env w).2

/-- Performs the operations of a run one after the other. -/
def after (w : World) : Run → World
  | [] => w
  | (env, op) :: rest => (w.perform env op).after rest

theorem after_append (w : World) (run later : Run) :
    w.after (run ++ later) = (w.after run).after later := by
  induction run generalizing w with
  | nil => rfl
  | cons step rest ih => exact ih _

theorem after_concat (w : World) (run : Run) (env : Environment) (op : Operation) :
    w.after (run ++ [(env, op)]) = (w.after run).perform env op :=
  w.after_append run [(env, op)]

end World

/-! ## 2. What operations do -/

variable {events : List Event} {env : Environment} {w w' : World}

/-- No rule has a cooldown that exceeds what a column holds. -/
def Store.Ranged (s : Store) : Prop := ∀ r ∈ s.rules, r.cooldown.value ≤ Store.IntCell.greatest

/-- The clock is read and conversations are looked up that may be due, or one is called
for because it may be. -/
inductive Resumes (events : List Event) (env : Environment) (w : World) : World → Prop where
  | asks : Resumes events env w (w.reading.counting .dueStates)
  | resumes (id : Uuid)
      (happens : (Occasion.resume id).Happens events env w (resume id env w).1
        (resume id env w).2) : Resumes events env w (resume id env w).2

theorem World.idles_asks (w : World) : w.Idles (w.reading.counting .dueStates) :=
  ⟨rfl, rfl, rfl, Nat.le_succ _⟩

theorem Resumes.happens (h : Resumes events env w w') :
    ∃ id, (Occasion.resume id).Happens events env w (resume id env w).1 w' := by
  cases h with
  | asks => exact ⟨.ofNat 0, .deeds (.single (.quiet w.idles_asks))⟩
  | resumes id happens => exact ⟨id, happens⟩

/-- What an operation does, told by what happens on its `Occasion`. -/
inductive Operation.Happens (events : List Event) (env : Environment) (w : World) :
    Operation → World → Prop where
  | handle {e : Event} {w' : World}
      (happens : (Occasion.event e).Happens events env w (e.handle env w).1 w') :
      Happens events env w (.handle e) w'
  | resume {id : Uuid} {w' : World}
      (happens : (Occasion.resume id).Happens events env w (Autoresponder.resume id env w).1 w') :
      Happens events env w (.resume id) w'
  | completeForm {id : Uuid} {fields : List (String × Json)} {w' : World}
      (happens : (Occasion.form id fields).Happens events env w
        (Autoresponder.completeForm id fields env w).1 w') :
      Happens events env w (.completeForm id fields) w'
  | tick {w' : World} (resumes : Relation.ReflTransGen (Resumes events env) w w') :
      Happens events env w .tick w'
  /-- Flows, rules or settings are to be written, and that goes wrong. -/
  | idle {op : Operation} {w' : World} (configures : op.Configures) (idles : w.Idles w') :
      Happens events env w op w'
  /-- Flows, rules or settings are written. -/
  | configure {op : Operation} {w₁ : World} {s : Store} (configures : op.Configures)
      (idles : w.Idles w₁) (configured : w.store.Configured s) :
      Happens events env w op (w₁.write s)

-- What the clock has shown since a reading it has shown since an earlier one, and nothing goes by the
-- time of the environment itself.
theorem Effect.earlier {t : Instant} {first first' : Nat}
    (h : Effect events (env.atTime t) first w w') (hle : first' ≤ first) :
    Effect events env first' w w' := by
  have told {now : Instant} (h : (env.atTime t).Told first w now) : env.Told first' w now := by
    obtain ⟨n, hn, hlt, hnow⟩ := h
    exact ⟨n, hle.trans hn, hlt, hnow⟩
  cases h with
  | quiet idles => exact .quiet idles
  | change c ch now h live active heard => exact .change c ch now (told h) live active heard
  | begin e id flow node now s h handled created =>
    exact .begin e id flow node now s (told h) handled created
  | send c m now h live window => exact .send c m now (told h) live window
  | reply e m now h handled window => exact .reply e m now (told h) handled window
  | countStart flow now => exact .countStart flow now
  | log entry s logged => exact .log entry s logged
  | configure s configured => exact .configure s configured

theorem Reach.earlier {t : Instant} {first first' : Nat}
    (h : Reach events (env.atTime t) first w w') (hle : first' ≤ first) :
    Reach events env first' w w' :=
  Relation.ReflTransGen.mono (fun _ _ heffect => heffect.earlier hle) _ _ h

theorem Occasion.Happens.reach {o : Occasion} {outcome : Outcome}
    (h : o.Happens events env w outcome w') : Reach events env w.readings w w' := by
  have hreach {before : Store} {w₁ : World}
      (h : (o.conduct events before (env.asOf w) w.readings).Path w w₁) :
      Reach events (env.asOf w) w.readings w w₁ :=
    Relation.ReflTransGen.mono (fun _ _ => Deed.effect) _ _ h
  have hasOf : Reach events (env.asOf w) w.readings w w' := by
    cases h with
    | deeds path => exact hreach path
    | logs _ path logs =>
      obtain ⟨entry, s, _, _, _, _, _, _, _, logged⟩ := logs
      exact (hreach path).tail (.log entry s logged)
    | keeps path _ keep => exact (hreach path).tail keep.effect
  exact hasOf.earlier (le_refl _)

theorem Reach.readings {first : Nat} (h : Reach events env first w w') :
    w.readings ≤ w'.readings := by
  induction h with
  | refl => exact le_refl _
  | tail _ h ih => exact ih.trans h.readings

theorem Operation.Happens.reach {op : Operation} (h : op.Happens events env w w') :
    Reach events env w.readings w w' := by
  cases h with
  | handle happens => exact happens.reach
  | resume happens => exact happens.reach
  | completeForm happens => exact happens.reach
  | tick resumes =>
    induction resumes with
    | refl => exact .refl
    | tail _ h ih => exact ih.trans (h.happens.choose_spec.reach.earlier (t := env.now) ih.readings)
  | idle _ idles => exact .single (.quiet idles)
  | configure _ idles configured =>
    exact (Relation.ReflTransGen.single (.quiet idles)).tail
      (.configure _ (idles.store ▸ configured))

theorem Resumes.traced (h : Resumes events env w w') (hs : Traced events w.store) :
    Traced events w'.store :=
  h.happens.choose_spec.reach.traced hs

-- Conversations are called for one after the other.
theorem resumeAll_cons (c : Conversation) (rest : List Conversation) (env : Environment)
    (w : World) :
    (resumeAll (c :: rest) env w).2 = (resumeAll rest env (resume c.id env w).2).2 := by
  rw [resumeAll, Act.run_bind, Act.run_bind]
  cases (resume c.id env w).1 <;> rfl

theorem resumeAll_concat (cs : List Conversation) (c : Conversation) (env : Environment)
    (w : World) :
    (resumeAll (cs ++ [c]) env w).2 = (resume c.id env (resumeAll cs env w).2).2 := by
  induction cs generalizing w with
  | nil => rw [List.nil_append, resumeAll_cons]; rfl
  | cons d rest ih => rw [List.cons_append, resumeAll_cons, resumeAll_cons, ih]

theorem resumes_resumeAll (cs : List Conversation) (hs : Traced events w.store) :
    Relation.ReflTransGen (Resumes events env) w (resumeAll cs env w).2 := by
  induction cs generalizing w with
  | nil => exact .refl
  | cons c rest ih =>
    have hfirst : Resumes events env w (resume c.id env w).2 := .resumes c.id (happens_resume hs)
    rw [resumeAll_cons]
    exact .head hfirst (ih (hfirst.traced hs))

/-- The conversations that `tick` finds to be due, if that does not go wrong. -/
def Environment.due (env : Environment) (w : World) : List Conversation :=
  match env.fault .dueStates (w.callsOf .dueStates) with
  | none => w.store.dueStates (env.clock w.readings)
  | some _ => []

/-- After those that are due were looked up (`Environment.due`) they are called for; none is if that
goes wrong. -/
theorem tick_eq (env : Environment) (w : World) :
    (tick env w).2 = (resumeAll (env.due w) env (w.reading.counting .dueStates)).2 := by
  have hdue : (Step.attempt (Step.timed do Calls.dueStates (← Step.now))) env w =
      Calls.dueStates (env.clock w.readings) (env.asOf w) w.reading := rfl
  simp only [tick]
  rw [Act.run_bind, hdue]
  simp only [Calls.dueStates, Step.ask, Step.call, Environment.due]
  have hfault : (env.asOf w).fault .dueStates (w.reading.callsOf .dueStates) =
      env.fault .dueStates (w.callsOf .dueStates) := rfl
  rw [hfault]
  cases env.fault .dueStates (w.callsOf .dueStates) with
  | none => rfl
  | some fault => cases fault <;> rfl

theorem resumes_tick (hs : Traced events w.store) :
    Relation.ReflTransGen (Resumes events env) w (tick env w).2 := by
  have hasked : Resumes events env w (w.reading.counting .dueStates) := .asks
  rw [tick_eq]
  exact .head hasked (resumes_resumeAll _ (hasked.traced hs))

theorem Store.IntCell.value_ofUInt64_le (n : UInt64) : (ofUInt64 n).value ≤ greatest := by
  rw [ofUInt64, value_int]
  have hlt : (n.toNat : Int).bmod UInt64.size < (UInt64.size + 1) / 2 := Int.bmod_lt (by decide)
  have hgreatest : greatest = 9223372036854775807 := by decide
  unfold UInt64.size at *
  omega

theorem Store.Ranged.congr {s s' : Store} (hs : s.Ranged) (h : s'.rules = s.rules) : s'.Ranged :=
  fun r hr => hs r (h ▸ hr)

theorem Store.Ranged.putRule {s : Store} (hs : s.Ranged) (r : Rule) : (s.putRule r).Ranged := by
  have hnew : (RuleRow.ofRule r).cooldown.value ≤ IntCell.greatest :=
    IntCell.value_ofUInt64_le r.cooldown
  intro row hrow
  unfold Store.putRule at hrow
  dsimp only at hrow
  split at hrow
  · obtain ⟨old, hold, rfl⟩ := List.mem_map.mp hrow
    split
    · exact hnew
    · exact hs old hold
  · rcases List.mem_append.mp hrow with hrow | hrow
    · exact hs row hrow
    · exact List.mem_singleton.mp hrow ▸ hnew

theorem Store.Configured.ranged {s s' : Store} (h : s.Configured s') (hs : s.Ranged) :
    s'.Ranged := by
  cases h with
  | same => exact hs
  | putFlow f => exact hs.congr (by rw [eq_putFlow])
  | setFlowStatus h => exact hs.congr (by rw [eq_of_setFlowStatus h])
  | putRule r => exact hs.putRule r
  | putSettings workspace account settings => exact hs.congr (by rw [eq_putSettings])

-- What is to be written is written, or that goes wrong.
theorem Operation.run_tell {op : Operation} {c : Call} {x : Store → Except StoreError Store}
    (hop : op.perform = discard (Step.tell c x).attempt) (env : Environment) (w : World) :
    w.perform env op = w.counting c ∨
      ∃ s, x w.store = .ok s ∧ w.perform env op = (w.counting c).write s := by
  have hrun : w.perform env op = (Step.tell c x env w).2 := by
    rw [World.perform, hop]
    rfl
  rw [hrun]
  unfold Step.tell Step.call
  cases env.fault c (w.callsOf c) with
  | some fault => exact .inl (by cases fault <;> rfl)
  | none =>
    cases hrun : x w.store with
    | error e => exact .inl (by simp only [hrun, Except.map])
    | ok s => exact .inr ⟨s, rfl, by simp only [hrun, Except.map, World.writeAny]⟩

theorem happens_configure {op : Operation} {c : Call} {x : Store → Except StoreError Store}
    (configures : op.Configures) (hop : op.perform = discard (Step.tell c x).attempt)
    (hx : ∀ s s', x s = .ok s' → s.Configured s') :
    op.Happens events env w (w.perform env op) := by
  rcases Operation.run_tell hop env w with htell | ⟨s, hs, htell⟩ <;> rw [htell]
  · exact .idle configures (w.idles_counting c)
  · exact .configure configures (w.idles_counting c) (hx w.store s hs)

/-- Whatever fails, an `Operation` does what it may do. -/
theorem Operation.happens_perform {op : Operation} (handled : ∀ e, op.event? = some e → e ∈ events)
    (hs : Traced events w.store) : op.Happens events env w (op.perform env w).2 := by
  cases op with
  | handle e => exact .handle (e.happens_handle (handled e rfl) hs)
  | resume id => exact .resume (happens_resume hs)
  | completeForm id fields => exact .completeForm (happens_completeForm hs)
  | tick => exact .tick (resumes_tick hs)
  | putFlow f => exact happens_configure trivial rfl fun s s' h => Except.ok.inj h ▸ .putFlow f
  | setFlowStatus id status time =>
    exact happens_configure trivial rfl fun s s' h => .setFlowStatus h
  | putRule r => exact happens_configure trivial rfl fun s s' h => Except.ok.inj h ▸ .putRule r
  | putSettings workspace account settings =>
    exact happens_configure trivial rfl fun s s' h =>
      Except.ok.inj h ▸ .putSettings workspace account settings

/-! ## 3. Runs -/

theorem Traced.mono {events events' : List Event} {s : Store} (hs : Traced events s)
    (h : ∀ e ∈ events, e ∈ events') : Traced events' s where
  consistent := hs.consistent
  heard r hr text htext := by
    obtain ⟨e, he, hperson⟩ := hs.heard r hr text htext
    exact ⟨e, h e he, hperson⟩

-- A store without conversations is traced.
theorem traced_of_nil {s : Store} (h : s.states = []) : Traced events s where
  consistent := Store.consistent_of_nil h
  heard r hr := by simp [h] at hr

theorem Run.events_concat (run : Run) (env : Environment) (op : Operation) :
    Run.events (run ++ [(env, op)]) = run.events ++ op.event?.toList := by
  rw [events, List.filterMap_append]
  cases h : op.event? <;> simp [events, h]

-- An operation that is performed where a run has led handles an event of the run that goes on.
theorem Run.handled_concat (run : Run) (env : Environment) (op : Operation) :
    ∀ e, op.event? = some e → e ∈ Run.events (run ++ [(env, op)]) := by
  intro e he
  rw [events_concat, he]
  exact List.mem_append_right _ (List.mem_singleton.mpr rfl)

-- What was handled in a run was handled when the run has gone on.
theorem Traced.concat {run : Run} {s : Store} (hs : Traced run.events s) (env : Environment)
    (op : Operation) : Traced (Run.events (run ++ [(env, op)])) s := by
  refine hs.mono fun e he => ?_
  rw [Run.events_concat]
  exact List.mem_append_left _ he

-- Where a run has led, the next operation does what it may do.
theorem World.happens_perform {w : World} {run : Run} {op : Operation}
    (h : Traced run.events (w.after run).store) :
    op.Happens (Run.events (run ++ [(env, op)])) env (w.after run)
      ((w.after run).perform env op) :=
  Operation.happens_perform (run.handled_concat env op) (h.concat env op)

theorem World.reach_perform {w : World} {run : Run} {op : Operation}
    (h : Traced run.events (w.after run).store) :
    Reach (Run.events (run ++ [(env, op)])) env (w.after run).readings (w.after run)
      ((w.after run).perform env op) :=
  (happens_perform h).reach

/-- A run that begins without conversations leads to a `Traced` store. -/
theorem World.traced_after {w : World} (h : w.store.states = []) (run : Run) :
    Traced run.events (w.after run).store := by
  induction run using List.reverseRecOn with
  | nil => exact traced_of_nil h
  | append_singleton run step ih =>
    rw [after_concat]
    exact (reach_perform ih).traced (ih.concat step.1 step.2)

-- Effects keep the identifiers of flows.
theorem Effect.keyed {first : Nat} (h : Effect events env first w w') (hs : w.store.Keyed) :
    w'.store.Keyed := by
  cases h with
  | quiet idles => exact idles.store ▸ hs
  | change c ch now _ live active heard => exact hs.congr rfl
  | begin e id flow node now s _ handled created =>
    exact hs.congr (by rw [World.write, (Store.states_createState created).1])
  | send c m now _ _ _ => exact hs
  | reply e m now _ _ _ => exact hs
  | countStart flow now => exact hs.countFlowStart flow now
  | log entry s logged => exact hs.congr (by rw [World.write, Store.eq_of_logFiring logged])
  | configure s configured => exact configured.keyed hs

theorem Reach.keyed {first : Nat} (h : Reach events env first w w') (hs : w.store.Keyed) :
    w'.store.Keyed := by
  induction h with
  | refl => exact hs
  | tail _ h ih => exact h.keyed ih

/-- Wherever a run leads, an identifier names one flow (`Store.Keyed`). -/
theorem World.keyed_after {w : World} (h : w.store.states = []) (hs : w.store.Keyed) (run : Run) :
    (w.after run).store.Keyed := by
  induction run using List.reverseRecOn with
  | nil => exact hs
  | append_singleton run step ih =>
    rw [after_concat]
    exact (reach_perform (traced_after h run)).keyed ih

-- Effects keep the identifiers of rules.
theorem Effect.keys_rules {first : Nat} (h : Effect events env first w w')
    (hs : Store.Keys Store.RuleRow.id w.store.rules) :
    Store.Keys Store.RuleRow.id w'.store.rules := by
  cases h with
  | quiet idles => exact idles.store ▸ hs
  | begin e id flow node now s _ handled created =>
    rw [World.write, (Store.states_createState created).1]
    exact hs
  | log entry s logged => exact hs.congr (Store.ids_rules_logFiring logged)
  | configure s configured => exact configured.keys_rules hs
  | _ => exact hs

theorem Reach.keys_rules {first : Nat} (h : Reach events env first w w')
    (hs : Store.Keys Store.RuleRow.id w.store.rules) :
    Store.Keys Store.RuleRow.id w'.store.rules := by
  induction h with
  | refl => exact hs
  | tail _ h ih => exact h.keys_rules ih

/-- Wherever a run leads that begins without conversations, an identifier names one row of a table
(`Store.Identified`). -/
theorem World.identified_after {w : World} (h : w.store.states = []) (hs : w.store.Identified)
    (run : Run) : (w.after run).store.Identified where
  flows := keyed_after h hs.flows run
  rules := by
    induction run using List.reverseRecOn with
    | nil => exact hs.rules
    | append_singleton run step ih =>
      rw [after_concat]
      exact (reach_perform (traced_after h run)).keys_rules ih
  states := (traced_after h run).consistent.keys

/-! ## 4. A small run -/

/-- An environment in which the clock stands still, nothing fails and every message is accepted. -/
def Environment.calm (now : Instant) : Environment where
  now
  clock := fun _ => now
  sender := fun _ _ => .ok ⟨none⟩
  knowledge := none
  responder := none
  zones := fun _ => none
  patterns := fun _ _ => none
  policy := ⟨64, "", default⟩
  fault := fun _ _ => none
  freshId := Uuid.ofNat

/-- The same as `calm` at the beginning of 1970, but a minute goes by from one reading of the clock
to the next. -/
def Environment.passing : Environment :=
  { Environment.calm (.ofSeconds 0) with clock := fun n => .ofSeconds (60 * n) }

/-- Greets whoever writes, and asks again after a minute. -/
def Flow.greeting : Flow :=
  { Flow.new (.ofNat 1) "shop" "main" "greeting" .anyMessage (.ofSeconds 0) with
    nodes := [⟨"start", .trigger⟩, ⟨"hello", .message "Hello"⟩, ⟨"pause", .delay 60⟩,
      ⟨"more", .message "Still there?"⟩]
    edges := [⟨"start", "hello", none⟩, ⟨"hello", "pause", none⟩, ⟨"pause", "more", none⟩] }

def Event.hello : Event :=
  { workspace := "shop", account := "main", conversation := "chat", phone := "555",
    text := "Hi", received := .ofSeconds 0 }

/-- Somebody is greeted by `Flow.greeting`. -/
def Run.greeting : Run :=
  [(.calm (.ofSeconds 0), .putFlow .greeting), (.calm (.ofSeconds 0), .handle .hello)]

end Autoresponder
