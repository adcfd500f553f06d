import Autoresponder.Proofs.Engine.Acts
import Autoresponder.Proofs.Engine.Statistics

/-!
# Worlds that are alike

Two worlds can be alike in many ways: a workspace sees the same in both, or they differ in what
concerns other persons, or in nothing but how often the store was called. Whatever the way, the engine
does the same in both, and they stay alike, as long as that holds of the few things of which
everything it does is made up.
-/

namespace Autoresponder

open Step

/-- A way in which worlds are alike (`Like`), and for what it is meant: the copies of conversations
that are changed, the flows that are started and the rules that are fired. -/
structure Likeness where
  Like : World → World → Prop
  Copy : Conversation → Prop
  Starts : Uuid → Prop
  Fires : Uuid → Prop

/-- The environment at the time that the clock shows when it is read for the `n`-th time. -/
def Environment.shown (env : Environment) (n : Nat) : Environment := env.atTime (env.clock n)

theorem Environment.Still.shown {env : Environment} (h : env.Still) (n : Nat) :
    env.shown n = env := by
  rw [Environment.shown, h, Environment.atTime]

/-- In worlds that are alike a step, by whatever time the clock shows, has the same result and
leaves them alike. If it succeeds its result satisfies `Q`. -/
def Step.Respects {ε α : Type} (K : Likeness) (env : Environment) (x : Step ε α) (Q : α → Prop) :
    Prop :=
  ∀ n w w', K.Like w w' →
    (x (env.shown n) w).1 = (x (env.shown n) w').1 ∧
      K.Like (x (env.shown n) w).2 (x (env.shown n) w').2 ∧ ∀ a, (x (env.shown n) w).1 = .ok a → Q a

/-- `Step.Respects` of something that does not fail. -/
def Act.Respects {α : Type} (K : Likeness) (env : Environment) (x : Act α) (Q : α → Prop) : Prop :=
  ∀ n w w', K.Like w w' →
    (x (env.shown n) w).1 = (x (env.shown n) w').1 ∧
      K.Like (x (env.shown n) w).2 (x (env.shown n) w').2 ∧ Q (x (env.shown n) w).1

/-- In worlds that are alike the clock shows the same when it is read next, and that leaves them
alike. -/
def Likeness.Reads (K : Likeness) (env : Environment) : Prop :=
  ∀ w w', K.Like w w' → env.clock w.readings = env.clock w'.readings ∧ K.Like w.reading w'.reading

theorem Step.run_map {ε α β : Type} (f : α → β) (x : Step ε α) (env : Environment) (w : World) :
    (f <$> x) env w = ((x env w).1.map f, (x env w).2) := by
  rw [map_eq_pure_bind, run_bind]
  rcases x env w with ⟨_ | _, _⟩ <;> rfl

variable {K : Likeness} {env : Environment}

/-! ## 1. Rules -/

section

variable {ε δ α β : Type} {Q : α → Prop} {R : β → Prop}

namespace Step.Respects

theorem pure {a : α} (h : Q a) : (Pure.pure a : Step ε α).Respects K env Q :=
  fun _ _ _ hw => ⟨rfl, hw, fun _ ha => Except.ok.inj ha ▸ h⟩

theorem throw {e : ε} : (MonadExcept.throw e : Step ε α).Respects K env Q :=
  fun _ _ _ hw => ⟨rfl, hw, nofun⟩

theorem bind {x : Step ε α} {k : α → Step ε β} (hx : x.Respects K env Q)
    (hk : ∀ a, Q a → (k a).Respects K env R) : (x >>= k).Respects K env R := by
  intro n w w' hw
  obtain ⟨hrun, hlike, hQ⟩ := hx n w w' hw
  rw [run_bind, run_bind]
  rcases hend : x (env.shown n) w with ⟨r, w₁⟩
  rcases hend' : x (env.shown n) w' with ⟨r', w₁'⟩
  rw [hend, hend'] at hrun hlike
  rw [hend] at hQ
  dsimp only at hrun hlike hQ
  subst hrun
  cases r with
  | error e => exact ⟨rfl, hlike, nofun⟩
  | ok a => exact hk a (hQ a rfl) n w₁ w₁' hlike

theorem imp {x : Step ε α} {Q' : α → Prop} (hx : x.Respects K env Q) (h : ∀ a, Q a → Q' a) :
    x.Respects K env Q' := by
  intro n w w' hw
  obtain ⟨hrun, hlike, hQ⟩ := hx n w w' hw
  exact ⟨hrun, hlike, fun a ha => h a (hQ a ha)⟩

theorem any {x : Step ε α} (hx : x.Respects K env Q) : x.Respects K env fun _ => True :=
  hx.imp fun _ _ => trivial

theorem map {x : Step ε α} {f : α → β} (hx : x.Respects K env fun a => R (f a)) :
    (f <$> x).Respects K env R := by
  rw [map_eq_pure_bind]
  exact hx.bind fun a h => .pure h

-- What comes next need not tell results apart that the worlds do not have in common.
theorem bind_view {x : Step ε α} {k : α → Step ε β} {view : α → α}
    (hx : (view <$> x).Respects K env Q) (hview : ∀ a, k (view a) = k a)
    (hk : ∀ a, Q a → (k a).Respects K env R) : (x >>= k).Respects K env R := by
  have hbind : (x >>= k) = (view <$> x) >>= k := by
    rw [bind_map_left]
    exact congrArg _ (funext fun a => (hview a).symm)
  rw [hbind]
  exact hx.bind hk

theorem mapError {f : ε → δ} {x : Step ε α} (hx : x.Respects K env Q) :
    (x.mapError f).Respects K env Q := by
  intro n w w' hw
  obtain ⟨hrun, hlike, hQ⟩ := hx n w w' hw
  rw [run_mapError, run_mapError, hrun]
  refine ⟨rfl, hlike, fun a ha => hQ a ?_⟩
  rw [hrun]
  cases hend : (x (env.shown n) w').1 with
  | error e => simp [hend, Except.mapError] at ha
  | ok a' =>
    rw [hend] at ha
    rw [Except.ok.inj ha]

theorem stored {x : Step StoreError α} (hx : x.Respects K env Q) :
    (Step.stored x).Respects K env Q :=
  hx.mapError

-- Whether a failure is the store's or the engine's makes no difference to what succeeds.
theorem map_stored {x : Step StoreError α} {f : α → β} (hx : (f <$> x).Respects K env R) :
    (f <$> Step.stored x).Respects K env R := by
  have heq : f <$> Step.stored x = Step.stored (f <$> x) := by
    funext env w
    rw [Step.stored, Step.stored, run_map, run_mapError, run_mapError, run_map]
    cases (x env w).1 <;> rfl
  rw [heq]
  exact hx.stored

theorem attempt {x : Step ε α} (hx : x.Respects K env Q) :
    Act.Respects K env x.attempt fun r => ∀ a, r = .ok a → Q a :=
  hx

theorem ofAct {x : Act α} (hx : Act.Respects K env x Q) :
    (Step.ofAct x : Step ε α).Respects K env Q := by
  intro n w w' hw
  obtain ⟨hrun, hlike, hQ⟩ := hx n w w' hw
  have hsplit (w : World) : (Step.ofAct x : Step ε α) (env.shown n) w =
      (.ok (x (env.shown n) w).1, (x (env.shown n) w).2) := rfl
  rw [hsplit, hsplit]
  exact ⟨congrArg Except.ok hrun, hlike, fun a ha => Except.ok.inj ha ▸ hQ⟩

theorem ofResult {outcome : Except ε α} :
    (Step.ofResult outcome).Respects K env fun _ => True :=
  fun _ _ _ hw => ⟨rfl, hw, fun _ _ => trivial⟩

theorem now : (Step.now : Step ε Instant).Respects K env fun now => ∃ n, env.clock n = now :=
  fun n _ _ hw => ⟨rfl, hw, fun _ h => ⟨n, Except.ok.inj h⟩⟩

theorem zones : (Step.zones : Step ε Zones).Respects K env fun _ => True :=
  fun _ _ _ hw => ⟨rfl, hw, fun _ _ => trivial⟩

theorem policy : (Step.policy : Step ε Policy).Respects K env fun _ => True :=
  fun _ _ _ hw => ⟨rfl, hw, fun _ _ => trivial⟩

-- What goes by the clock goes by the same time in worlds that are alike.
theorem timed {x : Step ε α} (reads : K.Reads env) (hx : x.Respects K env Q) :
    (Step.timed x).Respects K env Q := by
  intro n w w' hw
  obtain ⟨hclock, hlike⟩ := reads w w' hw
  have hrun (v : World) : Step.timed x (env.shown n) v = x (env.shown v.readings) v.reading := rfl
  have hsame : env.shown w'.readings = env.shown w.readings := by
    rw [Environment.shown, Environment.shown, hclock]
  rw [hrun, hrun, hsame]
  exact hx w.readings w.reading w'.reading hlike

end Step.Respects

namespace Act.Respects

theorem pure {a : α} (h : Q a) : Act.Respects K env (Pure.pure a) Q :=
  fun _ _ _ hw => ⟨rfl, hw, h⟩

theorem bind {x : Act α} {k : α → Act β} (hx : Act.Respects K env x Q)
    (hk : ∀ a, Q a → Act.Respects K env (k a) R) : Act.Respects K env (x >>= k) R := by
  intro n w w' hw
  obtain ⟨hrun, hlike, hQ⟩ := hx n w w' hw
  rw [Act.run_bind, Act.run_bind, ← hrun]
  exact hk _ hQ n _ _ hlike

theorem timed {x : Act α} (reads : K.Reads env) (hx : Act.Respects K env x Q) :
    Act.Respects K env x.timed Q := by
  intro n w w' hw
  obtain ⟨hclock, hlike⟩ := reads w w' hw
  have hrun (v : World) : x.timed (env.shown n) v = x (env.shown v.readings) v.reading := rfl
  have hsame : env.shown w'.readings = env.shown w.readings := by
    rw [Environment.shown, Environment.shown, hclock]
  rw [hrun, hrun, hsame]
  exact hx w.readings w.reading w'.reading hlike

end Act.Respects

end

/-! ## 2. What has to be checked -/

/-- Begins a conversation with the person of an event and counts the start of its flow. -/
def Flow.enter (f : Flow) (e : Event) (node : String) : Step AutomationError Conversation := do
  let c ← stored (Conversation.create e.workspace e.account e.phone f.id node (some e.received))
  stored (Calls.countFlowStart f.id (← now))
  return c

/-- What an account has to answer messages with is what a likeness is meant for. -/
structure Likeness.Offers (K : Likeness) (sn : Snapshot) : Prop where
  flows : ∀ f ∈ sn.flows, K.Starts f.id
  rules : ∀ r ∈ sn.rules, K.Fires r.id

-- An account is loaded with three calls.
theorem Step.Respects.snapshot {workspace account : String}
    (flows : (Calls.activeFlows workspace account).Respects K env fun fs => ∀ f ∈ fs, K.Starts f.id)
    (rules : (Calls.activeRules workspace account).Respects K env fun rs => ∀ r ∈ rs, K.Fires r.id)
    (settings : (Calls.settings? workspace account).Respects K env fun _ => True) :
    (Snapshot.plain <$> Calls.snapshot workspace account).Respects K env K.Offers := by
  unfold Calls.snapshot
  refine .map (.bind flows fun fs hfs => .bind rules fun rs hrs => .bind settings fun _ _ =>
    .pure ⟨fun f hf => ?_, fun r hr => ?_⟩)
  · obtain ⟨g, hg, rfl⟩ := List.mem_map.mp hf
    exact hfs g (List.mem_of_mem_filter hg)
  · obtain ⟨q, hq, rfl⟩ := List.mem_map.mp hr
    exact hrs q (List.mem_of_mem_filter hq)

/-- Worlds stay alike through everything that is done for a conversation, which `send` and
`Conversation.change` do. -/
structure Likeness.Carries (K : Likeness) (env : Environment) : Prop where
  reads : K.Reads env
  snapshot : ∀ c, K.Copy c →
    (Snapshot.plain <$> Calls.snapshot c.workspace c.account).Respects K env K.Offers
  change : ∀ c ch, K.Copy c → (c.change ch).Respects K env K.Copy
  send : ∀ c m, K.Copy c → (send (c.intent m)).Respects K env fun _ => True

/-- Worlds stay alike when a conversation is looked up. -/
def Likeness.Knows (K : Likeness) (env : Environment) (id : Uuid) : Prop :=
  (Calls.state? id).Respects K env fun found => ∀ c, found = some c → K.Copy c

/-- Worlds stay alike through everything that `Event.handle` does. -/
structure Likeness.Hears (K : Likeness) (env : Environment) (e : Event) : Prop
    extends K.Carries env where
  account : (Snapshot.plain <$> Calls.snapshot e.workspace e.account).Respects K env K.Offers
  active : (Calls.activeState? e.workspace e.phone).Respects K env fun found =>
    ∀ c, found = some c → K.Copy c
  enter : ∀ (f : Flow) node, K.Starts f.id → (f.enter e node).Respects K env K.Copy
  reply : ∀ m, (Autoresponder.send (e.intent m)).Respects K env fun _ => True
  lastFiring : ∀ rule, K.Fires rule →
    (Calls.lastFiring rule e.conversation).Respects K env fun _ => True
  countFirings : ∀ rule since, K.Fires rule →
    (Calls.countFirings rule e.conversation since).Respects K env fun _ => True
  log : ∀ rule record success, K.Fires rule → record.conversation = e.conversation →
    (logFiring rule record success).Respects K env fun _ => True
  asks : ∀ w w' ls rs, K.Like w w' →
    K.Like { w with lookups := ls ++ w.lookups, requests := rs ++ w.requests }
      { w' with lookups := ls ++ w'.lookups, requests := rs ++ w'.requests }

/-- Where a likeness is meant for everything, all that has to be checked for `Hears` is what is
`called`, `drawn` and `sent`. -/
theorem Likeness.Hears.of_calls (reads : K.Reads env) (copies : ∀ c, K.Copy c)
    (starts : ∀ id, K.Starts id) (fires : ∀ id, K.Fires id)
    (called : ∀ {α : Type} (c : Call) (conflict : Option α)
      (run : Store → Except StoreError (α × Option Store)),
      (Step.call c conflict run).Respects K env fun _ => True)
    (drawn : (Step.freshId : Step StoreError Uuid).Respects K env fun _ => True)
    (sent : ∀ intent, (send intent).Respects K env fun _ => True)
    (asks : ∀ w w' ls rs, K.Like w w' →
      K.Like { w with lookups := ls ++ w.lookups, requests := rs ++ w.requests }
        { w' with lookups := ls ++ w'.lookups, requests := rs ++ w'.requests })
    (e : Event) : K.Hears env e := by
  have hcall {α : Type} {c : Call} {conflict : Option α}
      {run : Store → Except StoreError (α × Option Store)} :
      (Step.call c conflict run).Respects K env fun _ => True := called c conflict run
  have hsnapshot (workspace account : String) :
      (Snapshot.plain <$> Calls.snapshot workspace account).Respects K env K.Offers :=
    .snapshot (hcall.imp fun _ _ _ _ => starts _) (hcall.imp fun _ _ _ _ => fires _) hcall
  refine ⟨⟨reads, fun c _ => hsnapshot _ _, fun c ch _ => ?_, fun c m _ => sent _⟩, hsnapshot _ _,
    hcall.imp fun _ _ _ _ => copies _, fun f node _ => ?_, fun m => sent _, fun _ _ => hcall,
    fun _ _ _ => hcall, fun rule record success _ _ => ?_, asks⟩
  · unfold Conversation.change
    refine .bind .now fun now _ => .bind hcall fun updated _ => ?_
    split
    · exact .pure (copies _)
    · exact .throw
  · unfold Flow.enter Conversation.create
    refine .bind (Q := fun _ => True) (.stored (.bind drawn fun id _ => .bind .now fun now _ =>
      .bind hcall fun _ _ => .pure trivial)) fun c _ => ?_
    exact .bind .now fun now _ => .bind (.stored hcall) fun _ _ => .pure (copies _)
  · unfold logFiring
    exact .bind drawn fun id _ => .bind .now fun now _ => .bind hcall fun _ _ => .pure trivial

/-! ## 3. Conversations -/

namespace Conversation

variable {c : Conversation}

theorem respects_change (h : K.Carries env) (hc : K.Copy c) (ch : Change) :
    (stored (c.change ch)).Respects K env K.Copy :=
  .stored (h.change c ch hc)

theorem respects_finish (h : K.Carries env) (hc : K.Copy c) :
    (stored c.finish).Respects K env K.Copy := by
  unfold finish
  split
  · exact respects_change h hc .complete
  · exact .stored (.pure hc)

end Conversation

theorem respects_sendGuarded {workspace account phone : String} {m : Message} (reads : K.Reads env)
    (h : (send ⟨workspace, account, phone, m⟩).Respects K env fun _ => True)
    (lastInbound : Option Instant) :
    (sendGuarded workspace account phone lastInbound m).Respects K env fun _ => True := by
  unfold sendGuarded
  dsimp only
  split
  · refine .timed reads (.bind .now fun now _ => ?_)
    split
    · exact h
    · exact .throw
  · exact h

namespace Conversation

variable {c : Conversation}

theorem respects_deliver (h : K.Carries env) (hc : K.Copy c) (m : Message) :
    (c.deliver m).Respects K env fun _ => True :=
  respects_sendGuarded h.reads (h.send c m hc) _

theorem respects_expireIfStale (h : K.Carries env) (hc : K.Copy c) :
    c.expireIfStale.Respects K env fun _ => True := by
  unfold expireIfStale
  refine .bind .now fun now _ => ?_
  split
  · exact .bind (respects_finish h hc) fun _ _ => .pure trivial
  · exact .pure trivial

theorem respects_recover (h : K.Carries env) (hc : K.Copy c) (settings : AccountSettings) :
    (c.recover settings).Respects K env fun _ => True := by
  unfold recover
  refine .bind (respects_finish h hc) fun d hd => .bind .policy fun policy _ => ?_
  exact .bind (.ofAct (respects_deliver h hd _).attempt) fun _ _ => .pure trivial

end Conversation

/-! ## 4. Passes -/

namespace Flow

variable {f : Flow} {c : Conversation}

theorem respects_followEdge (h : K.Carries env) (hc : K.Copy c) (node : String)
    (receipt : Option Receipt) :
    (f.followEdge c node receipt).Respects K env fun r => K.Copy r.1 := by
  unfold followEdge
  split
  · exact .bind (Conversation.respects_change h hc _) fun _ hc => .pure hc
  · exact .bind (Conversation.respects_finish h hc) fun _ hc => .pure hc

theorem respects_prompt (h : K.Carries env) (hc : K.Copy c) (m : Message) :
    (prompt c m).Respects K env fun r => K.Copy r.1 := by
  unfold prompt
  refine .bind (Conversation.respects_deliver h hc m) fun receipt _ => ?_
  exact .bind (Conversation.respects_change h hc _) fun _ hc => .pure hc

theorem respects_deadline (f : Flow) (node : String) (seconds : UInt64) :
    (f.deadline node seconds).Respects K env fun _ => True := by
  unfold deadline
  refine .bind .now fun now _ => ?_
  split
  · exact .pure trivial
  · exact .throw

theorem respects_executeNode (h : K.Carries env) (hc : K.Copy c) (n : Node) :
    (f.executeNode c n).Respects K env fun r => K.Copy r.1 := by
  have hend (receipt : Option Receipt) : (stored c.finish >>= fun c =>
      (pure (c, .ended receipt) : Step AutomationError (Conversation × NodeResult))).Respects
      K env fun r => K.Copy r.1 :=
    .bind (Conversation.respects_finish h hc) fun _ hc => .pure hc
  have hdeliver (m : Message) := Conversation.respects_deliver h hc m
  unfold executeNode
  split
  · exact respects_followEdge h hc _ _
  · exact .bind (hdeliver _) fun _ _ => respects_followEdge h hc _ _
  · exact respects_prompt h hc _
  · dsimp only
    split
    · exact .pure hc
    · refine .bind (f.respects_deadline _ _) fun t _ => ?_
      exact .bind (Conversation.respects_change h hc _) fun _ hc => .pure hc
  · exact respects_prompt h hc _
  · dsimp only
    split
    · split
      · exact .bind (Q := fun _ => True) (.pure trivial) fun receipt _ => hend receipt
      · exact .bind (Q := fun _ => True) (.map ((hdeliver _).imp fun _ _ => trivial))
          fun receipt _ => hend receipt
    · exact .bind (Q := fun _ => True) (.pure trivial) fun receipt _ => hend receipt

theorem respects_execute (h : K.Carries env) (hc : K.Copy c) (node : String) (version : Int) :
    (f.execute c node version).Respects K env fun r => K.Copy r.1 := by
  unfold execute
  split
  · split
    · exact .timed h.reads (respects_executeNode h hc _)
    · exact .throw
  · exact .pure hc

theorem respects_passWithin (h : K.Carries env) (budget : Nat) (sofar : Pass) (hc : K.Copy c) :
    Act.Respects K env (f.passWithin budget sofar c) fun r => K.Copy r.1 := by
  induction budget generalizing sofar c with
  | zero =>
    unfold passWithin
    split
    · exact .pure hc
    · exact .pure hc
  | succ budget ih =>
    unfold passWithin
    split
    · exact .pure hc
    · refine .bind (respects_execute h hc c.node c.version).attempt fun r hr => ?_
      split
      · exact .pure hc
      · rename_i next result
        dsimp only
        split
        · exact .pure (hr _ rfl)
        · exact ih _ (hr _ rfl)

theorem respects_runPass (h : K.Carries env) (hc : K.Copy c) :
    (ofAct (f.runPass c) : Step AutomationError _).Respects K env fun r => K.Copy r.1 :=
  .ofAct fun n w w' hw => respects_passWithin h _ _ hc n w w' hw

theorem respects_proceed (h : K.Carries env) (f : Flow) (hc : K.Copy c) :
    (f.proceed c).Respects K env fun _ => True := by
  unfold proceed
  refine .bind (f.respects_runPass h hc) fun r _ => ?_
  exact .bind .ofResult fun _ _ => .pure trivial

end Flow

/-! ## 5. Events -/

-- A flow begins by entering it.
theorem Flow.begin_eq (f : Flow) (e : Event) :
    f.begin e = match f.start? with
      | none => throw (.flow (.invalidGraph f.id "no start node"))
      | some start => do
        let c ← f.enter e start.id
        let (_, outcome) ← ofAct (f.runPass c)
        return .flowStarted f.id c.id (← ofResult outcome) := by
  unfold Flow.begin enter
  cases f.start? with
  | none => rfl
  | some start => simp only [bind_assoc, pure_bind]

section

variable {e : Event} {sn : Snapshot}

theorem Flow.respects_begin {f : Flow} (h : K.Hears env e) (hf : K.Starts f.id) :
    (f.begin e).Respects K env fun _ => True := by
  rw [begin_eq]
  split
  · exact .throw
  · refine .bind (h.enter f _ hf) fun c hc => ?_
    refine .bind (f.respects_runPass h.toCarries hc) fun r _ => ?_
    exact .bind .ofResult fun _ _ => .pure trivial

theorem Rule.respects_limitHit? {r : Rule} (h : K.Hears env e) (hr : K.Fires r.id) (z : Zone) :
    (stored (r.limitHit? e.conversation z)).Respects K env fun _ => True := by
  unfold limitHit?
  refine .stored (.bind (Q := fun _ => True) ?_ fun hit _ => ?_)
  · unfold checkCooldown
    split
    · exact .pure trivial
    · refine .bind (h.lastFiring r.id hr) fun last _ => ?_
      split
      · exact .bind .now fun now _ => .pure trivial
      · exact .pure trivial
  · split
    · exact .pure trivial
    · unfold checkCap
      split
      · exact .pure trivial
      · refine .bind .now fun now _ => ?_
        exact .bind (h.countFirings r.id _ hr) fun _ _ => .pure trivial

namespace Event

theorem respects_reply (h : K.Hears env e) (rule : Uuid) (m : Message) :
    (e.reply rule m).Respects K env fun _ => True := by
  unfold reply
  exact .bind (respects_sendGuarded h.reads (h.reply m) _) fun _ _ => .pure trivial

theorem respects_askResponder (h : K.Hears env e) (instructions : Option String) :
    (e.askResponder instructions).Respects K env fun _ => True := by
  intro n w w' hw
  unfold askResponder
  rw [show (env.shown n).responder = env.responder from rfl]
  cases env.responder with
  | none => exact ⟨rfl, hw, nofun⟩
  | some respond =>
    exact ⟨rfl, h.asks w w' [] [⟨e.workspace, e.account, e.phone, e.text, instructions⟩] hw,
      fun _ _ => trivial⟩

theorem respects_respond (h : K.Hears env e) (hsn : K.Offers sn) (r : Rule)
    (faq : Option FaqAnswer) : (e.respond sn r faq).Respects K env fun _ => True := by
  unfold respond
  dsimp only
  split
  · exact respects_reply h _ _
  · exact respects_reply h _ _
  · exact respects_reply h _ _
  · exact respects_reply h _ _
  · split
    · rename_i f hf
      exact f.respects_begin h (hsn.flows f (List.mem_of_find?_eq_some hf))
    · exact .throw
  · refine .bind (respects_askResponder h _) fun reply _ => ?_
    split
    · exact respects_reply h _ _
    · exact .pure trivial

theorem respects_fire (h : K.Hears env e) (hsn : K.Offers sn) {r : Rule} (hr : K.Fires r.id)
    (selected : Selected) : (e.fire sn r selected).Respects K env fun _ => True := by
  unfold fire
  refine .bind .zones fun zones _ => .bind (Rule.respects_limitHit? h hr _) fun hit _ => ?_
  split
  · exact .throw
  · refine .bind (.ofAct (respects_respond h hsn r _).attempt) fun outcome _ => ?_
    refine .bind (.ofAct (h.log r.id _ _ hr rfl).attempt) fun _ _ => ?_
    exact .ofResult

theorem respects_selected? (h : K.Hears env e) (sn : Snapshot) :
    (ofAct (e.selected? sn) : Step AutomationError _).Respects K env fun found =>
      ∀ selected, found = some selected → selected.candidate ∈ sn.candidates :=
  .ofAct fun _ w w' hw => ⟨rfl, h.asks w w' _ [] hw, fun _ h => candidate_of_select h⟩

theorem respects_answer (h : K.Hears env e) (hsn : K.Offers sn) :
    (e.answer sn).Respects K env fun _ => True := by
  unfold answer
  refine .bind (respects_selected? h sn) fun found hfound => ?_
  split
  · exact .pure trivial
  · rename_i selected
    have hmem := hfound selected rfl
    split
    · rename_i f hf
      exact f.respects_begin h (hsn.flows f (mem_flows_of_candidate (hf ▸ hmem)))
    · rename_i r hr
      exact respects_fire h hsn (hsn.rules r (mem_rules_of_candidate (hr ▸ hmem))) selected

end Event

end

namespace Conversation

variable {c : Conversation}

theorem respects_takeReply (h : K.Carries env) (hc : K.Copy c) (sn : Snapshot) (f : Flow)
    (e : Event) : (c.takeReply sn f e).Respects K env fun _ => True := by
  unfold takeReply
  split
  · exact respects_recover h hc _
  · refine .bind (respects_change h hc _) fun c hc => ?_
    dsimp only
    split
    · refine .bind (respects_change h hc _) fun c hc => ?_
      exact .bind (respects_change h hc _) fun c hc => f.respects_proceed h hc
    · refine .bind (.pure hc) fun c hc => ?_
      exact .bind (respects_change h hc _) fun c hc => f.respects_proceed h hc

theorem respects_takeEvent (h : K.Carries env) (hc : K.Copy c) (sn : Snapshot) (e : Event) :
    (c.takeEvent sn e).Respects K env fun _ => True := by
  have hproceed (f : Flow) {d : Conversation} (hd : K.Copy d) :
      (some <$> f.proceed d).Respects K env fun _ => True :=
    .map (f.respects_proceed h hd).any
  unfold takeEvent
  refine .bind (respects_expireIfStale h hc) fun stale _ => ?_
  split
  · exact .pure trivial
  · split
    · exact .bind (respects_finish h hc) fun _ _ => .pure trivial
    · refine .bind (respects_change h hc _) fun d hd => ?_
      split
      · exact .map (respects_takeReply h hd sn _ e).any
      · exact .pure trivial
      · exact .pure trivial
      · exact hproceed _ hd
      · exact hproceed _ hd
      · exact hproceed _ hd

end Conversation

theorem Event.respects_process {e : Event} (h : K.Hears env e) :
    e.process.Respects K env fun _ => True := by
  unfold process
  refine .bind_view (.map_stored h.account) (fun sn => ?_) fun sn hsn => ?_
  · simp only [answer_plain, Conversation.takeEvent_plain]
  refine .bind (.stored h.active) fun found hfound => ?_
  split
  · exact respects_answer h hsn
  · rename_i c
    refine .bind (Conversation.respects_takeEvent h.toCarries (hfound c rfl) sn e)
      fun outcome _ => ?_
    split
    · exact .pure trivial
    · exact respects_answer h hsn

/-! ## 6. Callbacks -/

namespace Flow

variable {f : Flow} {c : Conversation}

theorem respects_keep (h : K.Carries env) (hc : K.Copy c) (entry : String)
    (back : Option Return) : (keep c entry back).Respects K env fun _ => True := by
  unfold keep
  split
  · refine .bind .now fun now _ => ?_
    exact .bind (Conversation.respects_change h hc _) fun _ _ => .pure trivial
  · exact .pure trivial

theorem respects_callbackPass (h : K.Carries env) (hc : K.Copy c) (back : Option Return) :
    (f.callbackPass c back).Respects K env fun _ => True := by
  unfold callbackPass
  refine .bind (f.respects_runPass h hc) fun r hr => ?_
  split
  · exact .pure trivial
  · exact .bind (respects_keep h hr _ _) fun _ _ => .throw
  · exact .throw

theorem respects_stepPast (h : K.Carries env) (hc : K.Copy c) (node : String) :
    (f.stepPast c node).Respects K env fun _ => True := by
  unfold stepPast
  split
  · exact .bind (Conversation.respects_change h hc _) fun _ hc => respects_callbackPass h hc _
  · exact .bind (Conversation.respects_finish h hc) fun _ _ => .pure trivial

end Flow

/-- A place in a flow but for the statistics of the flow. -/
def plainPlace (place : Option (Flow × Node)) : Option (Flow × Node) :=
  place.map fun place => (place.1.plain, place.2)

theorem Conversation.respects_waitingNode {c : Conversation} (h : K.Carries env) (hc : K.Copy c)
    (wanted : NodeKind → Bool) :
    (plainPlace <$> c.waitingNode wanted).Respects K env fun _ => True := by
  unfold waitingNode
  rw [map_bind]
  refine .bind_view (.map_stored (h.snapshot c hc)) (fun sn => ?_) fun sn _ => ?_
  · rw [Snapshot.flow?_plain]
    cases sn.flow? c.flow with
    | none => rfl
    | some f =>
      simp only [Option.map_some, map_pure, plainPlace, Option.map_map]
      rfl
  split
  · exact .map (.bind (respects_finish h hc) fun _ _ => .pure trivial)
  · exact .map (.pure trivial)

section

variable {id : Uuid}

theorem respects_resumeStep (h : K.Carries env) (knows : K.Knows env id) :
    (resumeStep id).Respects K env fun _ => True := by
  unfold resumeStep
  refine .bind (.stored knows) fun found hfound => ?_
  split
  · exact .pure trivial
  · rename_i c
    have hc := hfound c rfl
    split
    · exact .pure trivial
    · refine .bind .now fun now _ => ?_
      split
      · exact .pure trivial
      · refine .bind (Conversation.respects_expireIfStale h hc) fun stale _ => ?_
        split
        · exact .pure trivial
        · refine .bind_view (Conversation.respects_waitingNode h hc _) (fun found => ?_)
            fun found _ => ?_
          · cases found with
            | none => rfl
            | some place =>
              simp only [plainPlace, Option.map_some, Flow.stepPast_plain,
                Flow.callbackPass_plain]
          split
          · exact .pure trivial
          · split
            · exact Flow.respects_stepPast h hc _
            · refine .bind (Conversation.respects_change h hc _) fun d hd => ?_
              exact Flow.respects_callbackPass h hd _

theorem respects_completeFormStep (h : K.Carries env) (knows : K.Knows env id)
    (fields : List (String × Json)) :
    (completeFormStep id fields).Respects K env fun _ => True := by
  unfold completeFormStep
  refine .bind (.stored knows) fun found hfound => ?_
  split
  · exact .pure trivial
  · rename_i c
    have hc := hfound c rfl
    split
    · exact .pure trivial
    · refine .bind (Conversation.respects_expireIfStale h hc) fun stale _ => ?_
      split
      · exact .pure trivial
      · refine .bind_view (Conversation.respects_waitingNode h hc _) (fun found => ?_)
          fun found _ => ?_
        · cases found with
          | none => rfl
          | some place => simp only [plainPlace, Option.map_some, Flow.stepPast_plain]
        split
        · exact .pure trivial
        · refine .bind (Conversation.respects_change h hc _) fun d hd => ?_
          exact Flow.respects_stepPast h hd _

theorem respects_forState (knows : K.Knows env id) {step : Step AutomationError Outcome}
    (hstep : step.Respects K env fun _ => True) :
    Act.Respects K env (forState id step) fun _ => True := by
  unfold forState
  refine .bind (Step.Respects.stored knows).attempt fun found _ => ?_
  split
  · exact .pure trivial
  · exact .pure trivial
  · exact .bind hstep.attempt fun _ _ => .pure trivial

end

/-! ## 7. Occasions -/

/-- Worlds stay alike through everything that `Occasion.act` does. -/
def Likeness.Suits (K : Likeness) (env : Environment) : Occasion → Prop
  | .event e => K.Hears env e
  | .resume id => K.Carries env ∧ K.Knows env id
  | .form id _ => K.Carries env ∧ K.Knows env id

-- By whatever time an occasion is seen to, that leaves worlds alike.
theorem Occasion.respects_act {o : Occasion} (h : K.Suits env o) :
    Act.Respects K env o.act fun _ => True := by
  cases o with
  | event e => exact .timed h.reads (.bind (e.respects_process h).attempt fun _ _ => .pure trivial)
  | resume id => exact respects_forState h.2 (.timed h.1.reads (respects_resumeStep h.1 h.2))
  | form id fields =>
    exact respects_forState h.2 (.timed h.1.reads (respects_completeFormStep h.1 h.2 fields))

-- A callback reads the clock itself.
theorem forState_atTime (id : Uuid) (step : Step AutomationError Outcome) (env : Environment)
    (now : Instant) : forState id (timed step) (env.atTime now) = forState id (timed step) env := by
  funext w
  have hfound : (stored (Calls.state? id)).attempt (env.atTime now) w =
      (stored (Calls.state? id)).attempt env w := rfl
  unfold forState
  rw [Act.run_bind, Act.run_bind, hfound]
  rcases ((stored (Calls.state? id)).attempt env w).1 with _ | _ | _ <;> rfl

theorem Occasion.act_atTime (o : Occasion) (env : Environment) (now : Instant) :
    o.act (env.atTime now) = o.act env := by
  cases o with
  | event e => rfl
  | resume id => exact forState_atTime id _ env now
  | form id fields => exact forState_atTime id _ env now

/-- In worlds that are alike for it (`Suits`) an occasion comes to the same, and leaves them
alike. -/
theorem Occasion.alike_act {o : Occasion} (h : K.Suits env o) {w w' : World} (hw : K.Like w w') :
    (o.act env w).1 = (o.act env w').1 ∧ K.Like (o.act env w).2 (o.act env w').2 := by
  obtain ⟨houtcome, hlike, -⟩ := respects_act h 0 w w' hw
  rw [Environment.shown, act_atTime] at houtcome hlike
  exact ⟨houtcome, hlike⟩

-- Conversations are resumed one after the other.
theorem respects_resumeAll (h : K.Carries env) (cs : List Conversation)
    (knows : ∀ c ∈ cs, K.Knows env c.id) : Act.Respects K env (resumeAll cs) fun _ => True := by
  induction cs with
  | nil => exact .pure trivial
  | cons c rest ih =>
    have hknows := knows c (List.mem_cons_self ..)
    have hfirst : Act.Respects K env (resume c.id) fun _ => True :=
      respects_forState hknows (.timed h.reads (respects_resumeStep h hknows))
    have hrest := ih fun d hd => knows d (List.mem_cons_of_mem _ hd)
    unfold resumeAll
    refine .bind hfirst fun outcome _ => .bind hrest fun others _ => ?_
    split <;> exact .pure trivial

theorem respects_tick (h : K.Carries env) (due : ∀ now, (Calls.dueStates now).Respects K env
    fun cs => ∀ c ∈ cs, K.Knows env c.id) : Act.Respects K env tick fun _ => True := by
  unfold tick
  refine .bind (Step.Respects.timed h.reads (.bind .now fun now _ => due now)).attempt
    fun found hfound => ?_
  split
  · exact .pure trivial
  · exact respects_resumeAll h _ (hfound _ rfl)

theorem resumeAll_atTime (cs : List Conversation) (env : Environment) (now : Instant) :
    resumeAll cs (env.atTime now) = resumeAll cs env := by
  induction cs with
  | nil => rfl
  | cons c rest ih =>
    funext w
    have hresume : resume c.id (env.atTime now) = resume c.id env := forState_atTime c.id _ env now
    rw [resumeAll, Act.run_bind, Act.run_bind, hresume]
    simp only [Act.run_bind, ih]
    cases (resume c.id env w).1 <;> rfl

theorem tick_atTime (env : Environment) (now : Instant) : tick (env.atTime now) = tick env := by
  funext w
  have hdue : (Step.attempt (Step.timed do Calls.dueStates (← Step.now))) (env.atTime now) w =
      (Step.attempt (Step.timed do Calls.dueStates (← Step.now))) env w := rfl
  simp only [tick]
  rw [Act.run_bind, Act.run_bind, hdue]
  generalize (Step.timed do Calls.dueStates (← Step.now)).attempt env w = found
  rcases found with ⟨_ | cs, w'⟩
  · rfl
  · exact congrFun (resumeAll_atTime cs env now) w'

/-- In worlds that are alike a `tick` comes to the same, and leaves them alike. -/
theorem alike_tick (h : K.Carries env) (due : ∀ now, (Calls.dueStates now).Respects K env
    fun cs => ∀ c ∈ cs, K.Knows env c.id) {w w' : World} (hw : K.Like w w') :
    (tick env w).1 = (tick env w').1 ∧ K.Like (tick env w).2 (tick env w').2 := by
  obtain ⟨hcount, hlike, -⟩ := respects_tick h due 0 w w' hw
  rw [Environment.shown, tick_atTime] at hcount hlike
  exact ⟨hcount, hlike⟩

/-! ## 8. Properties of the store -/

/-- A world is like itself for as long as its store has the property `P`. -/
def Likeness.having (P : Store → Prop) (Starts : Uuid → Prop) : Likeness where
  Like w w' := w = w' ∧ P w.store
  Copy _ := True
  Starts
  Fires _ := True

section

variable {P : Store → Prop} {Starts : Uuid → Prop} {ε α : Type} {Q : α → Prop} {c : Call}

theorem Step.Respects.having {x : Step ε α} (h : ∀ n w, P w.store → P (x (env.shown n) w).2.store ∧
      ∀ a, (x (env.shown n) w).1 = .ok a → Q a) : x.Respects (.having P Starts) env Q := by
  rintro n w _ ⟨rfl, hw⟩
  exact ⟨rfl, ⟨rfl, (h n w hw).1⟩, (h n w hw).2⟩

theorem Likeness.having_reads : (Likeness.having P Starts).Reads env := by
  rintro w _ ⟨rfl, hw⟩
  exact ⟨rfl, rfl, hw⟩

theorem Step.Respects.call_having {conflict : Option α}
    {run : Store → Except StoreError (α × Option Store)}
    (h : ∀ s a written, P s → run s = .ok (a, written) → (∀ s', written = some s' → P s') ∧ Q a)
    (hconflict : ∀ a, conflict = some a → Q a) :
    (Step.call c conflict run).Respects (.having P Starts) env Q := by
  refine .having fun n w hw => ?_
  simp only [Step.call]
  split
  · split
    · rename_i a written hrun
      obtain ⟨hstore, hQ⟩ := h _ _ _ hw hrun
      refine ⟨?_, fun _ ha => Except.ok.inj ha ▸ hQ⟩
      cases written with
      | none => exact hw
      | some s' => exact hstore s' rfl
    · exact ⟨hw, fun _ ha => by cases ha⟩
  · exact ⟨hw, fun _ ha => Except.ok.inj ha ▸ hconflict _ rfl⟩
  · exact ⟨hw, fun _ ha => by cases ha⟩

theorem Step.Respects.ask_having {run : Store → Except StoreError α}
    (h : ∀ s a, P s → run s = .ok a → Q a) :
    (Step.ask c run).Respects (.having P Starts) env Q := by
  refine .call_having (fun s a written hs hrun => ?_) (by simp)
  cases hask : run s with
  | error e => simp [hask, Except.map] at hrun
  | ok b =>
    simp only [hask, Except.map, Except.ok.injEq, Prod.mk.injEq] at hrun
    obtain ⟨rfl, rfl⟩ := hrun
    exact ⟨nofun, h s b hs hask⟩

theorem Step.Respects.tell_having {run : Store → Except StoreError Store}
    (h : ∀ s s', P s → run s = .ok s' → P s') :
    (Step.tell c run).Respects (.having P Starts) env fun _ => True := by
  refine .call_having (fun s a written hs hrun => ?_) (by simp)
  cases htell : run s with
  | error e => simp [htell, Except.map] at hrun
  | ok s₁ =>
    simp only [htell, Except.map, Except.ok.injEq, Prod.mk.injEq] at hrun
    obtain ⟨-, rfl⟩ := hrun
    exact ⟨fun s' hs' => Option.some.inj hs' ▸ h s s₁ hs htell, trivial⟩

theorem Step.Respects.freshId_having :
    (Step.freshId : Step ε Uuid).Respects (.having P Starts) env fun _ => True :=
  .having fun _ _ hw => ⟨hw, fun _ _ => trivial⟩

theorem Likeness.having_knows (id : Uuid) : (Likeness.having P Starts).Knows env id :=
  .call_having (fun s a written hs hrun => by
    cases hfound : s.state? id <;> simp only [hfound, Except.map, Except.ok.injEq, Prod.mk.injEq,
      reduceCtorEq] at hrun
    obtain ⟨-, rfl⟩ := hrun
    exact ⟨nofun, fun _ _ => trivial⟩) fun _ _ _ _ => trivial

-- A change keeps a property of the store that is kept when the conversation is written.
theorem Conversation.respects_change_having {c : Conversation} {ch : Change}
    (set : ∀ s now, P s → P (s.set (c.after ch now))) :
    (c.change ch).Respects (.having P Starts) env fun d => d.id = c.id := by
  unfold change
  refine .bind .now fun now _ => .bind (Q := fun _ => True)
    (.call_having (fun s a written hs hrun => ⟨fun s' hs' => ?_, trivial⟩) fun _ _ => trivial)
    fun updated _ => ?_
  · subst hs'
    cases hupdate : s.updateState (c.after ch now) c.version with
    | error e => simp [hupdate, Except.map] at hrun
    | ok found =>
      simp only [hupdate, Except.map, Except.ok.injEq, Prod.mk.injEq] at hrun
      obtain ⟨-, rfl⟩ := hrun
      rw [(Store.eq_set_of_updateState hupdate).2]
      exact set s now hs
  · split
    · exact .pure (c.id_after ch now)
    · exact .throw

-- An account is loaded without changing anything.
theorem Step.Respects.snapshot_having
    (offers : ∀ s workspace account, P s → ∀ f ∈ s.activeFlows workspace account, Starts f.id)
    (workspace account : String) :
    (Snapshot.plain <$> Calls.snapshot workspace account).Respects (.having P Starts) env
      (Likeness.having P Starts).Offers :=
  .snapshot (.ask_having fun s _ hs hrun => Except.ok.inj hrun ▸ offers s workspace account hs)
    (.ask_having fun _ _ _ _ _ _ => trivial) (.ask_having fun _ _ _ _ => trivial)

theorem Step.Respects.send_having (intent : SendIntent) :
    (Autoresponder.send intent).Respects (.having P Starts) env fun _ => True :=
  .having fun _ _ hw => ⟨hw, fun _ _ => trivial⟩

/-- A property `P` of the store is kept on every occasion if it is kept when a conversation is
written, when one begins and when a firing is logged. -/
theorem Likeness.having_hears
    (offers : ∀ s workspace account, P s → ∀ f ∈ s.activeFlows workspace account, Starts f.id)
    (set : ∀ s c, P s → P (s.set c))
    (enter : ∀ (f : Flow) e node, Starts f.id →
      (f.enter e node).Respects (.having P Starts) env fun _ => True)
    (log : ∀ s entry s', P s → s.logFiring entry = .ok s' → P s') (e : Event) :
    (Likeness.having P Starts).Hears env e := by
  have hsnapshot (workspace account : String) :
      (Snapshot.plain <$> Calls.snapshot workspace account).Respects (.having P Starts) env
        (Likeness.having P Starts).Offers :=
    .snapshot_having offers workspace account
  refine ⟨⟨having_reads, fun c _ => hsnapshot _ _, fun c ch _ => ?_, fun c m _ => .send_having _⟩,
    hsnapshot _ _,
    .ask_having fun _ _ _ _ _ _ => trivial, fun f node hf => enter f e node hf,
    fun m => .send_having _, fun _ _ => .ask_having fun _ _ _ _ => trivial,
    fun _ _ _ => .ask_having fun _ _ _ _ => trivial, fun rule record success _ _ => ?_, ?_⟩
  · exact (Conversation.respects_change_having fun s now hs => set s _ hs).any
  · unfold logFiring
    refine .bind .freshId_having fun id _ => .bind .now fun now _ => ?_
    exact .bind (.tell_having fun s s' hs hrun => log s _ s' hs hrun) fun _ _ => .pure trivial
  · rintro w _ ls rs ⟨rfl, hw⟩
    exact ⟨rfl, hw⟩

end

end Autoresponder
