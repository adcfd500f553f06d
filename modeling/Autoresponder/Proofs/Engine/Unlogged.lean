import Autoresponder.Proofs.Engine.Closed

/-!
# Flows log nothing

Firings are logged of rules. Whatever comes of a flow that begins or of a conversation that goes on
leaves the log as it is, and never ends in the limit of a rule.
-/

namespace Autoresponder

open Step

/-! ## 1. Steps that log nothing -/

def AutomationError.isLimit : AutomationError → Bool
  | .rateLimited _ _ => true
  | _ => false

/-- A flow has begun, or a conversation has taken the event. -/
def Outcome.isOfFlow : Outcome → Bool
  | .flowStarted _ _ _ => true
  | .flowAdvanced _ _ _ => true
  | .waiting _ _ => true
  | .recovered _ _ => true
  | _ => false

namespace Store.SameRecords

variable {s s' s'' : Store}

theorem refl (s : Store) : s.SameRecords s := ⟨rfl, rfl, rfl⟩

theorem trans (h : s.SameRecords s') (h' : s'.SameRecords s'') : s.SameRecords s'' :=
  ⟨h.firings.trans h'.firings, h.rules.trans h'.rules, h.settings.trans h'.settings⟩

theorem of_updateState {c : Conversation} {version : Int}
    (h : s.updateState c version = .ok (some s')) : s'.SameRecords s := by
  obtain ⟨-, rfl⟩ := eq_set_of_updateState h
  exact ⟨rfl, rfl, rfl⟩

end Store.SameRecords

/-- Rules, their log and settings stay as they are. -/
def Conduct.unlogged : Conduct where
  Deed w w' := w'.store.SameRecords w.store ∧ w.readings ≤ w'.readings
  Sound _ := True
  first := 0
  quiet h := ⟨h.store ▸ .refl _, h.readings⟩
  sound _ _ := trivial
  readings h := h.2

theorem Conduct.Path.sameRecords {w w' : World} (h : Conduct.unlogged.Path w w') :
    w'.store.SameRecords w.store := by
  induction h with
  | refl => exact .refl _
  | tail _ h ih => exact h.1.trans ih

/-- A step logs nothing and fails at no limit. What it yields is `Q`. -/
abbrev Step.Unlogged {α : Type} (env : Environment) (x : Step AutomationError α) (Q : α → Prop) :
    Prop :=
  x.Follows .unlogged env (fun _ => True) (fun a _ => Q a) fun err _ => err.isLimit = false

namespace Step.Unlogged

variable {α β : Type} {env : Environment} {Q : α → Prop} {R : β → Prop}

theorem pure {a : α} (h : Q a) : (Pure.pure a : Step AutomationError α).Unlogged env Q :=
  Follows.pure fun _ _ => h

theorem throw {err : AutomationError} (h : err.isLimit = false) :
    (MonadExcept.throw err : Step AutomationError α).Unlogged env Q :=
  Follows.throw fun _ _ => h

theorem bind {x : Step AutomationError α} {k : α → Step AutomationError β} (hx : x.Unlogged env Q)
    (hk : ∀ a, Q a → (k a).Unlogged env R) : (x >>= k).Unlogged env R :=
  Follows.bind hx fun a w told hs h => hk a h w told hs trivial

-- A failure of the store is no limit.
theorem stored {x : Step StoreError α} (hx : x.Behaves .unlogged env fun _ => True) :
    (Step.stored x).Unlogged env fun _ => True :=
  .mapError _ (hx.imp (fun _ h => h) (fun _ _ h => h) fun _ _ _ => rfl)

-- What is tried may fail in any way.
theorem attempt {x : Step AutomationError α} (hx : x.Unlogged env Q) :
    (ofAct x.attempt : Step AutomationError (Except AutomationError α)).Unlogged env
      fun _ => True :=
  fun w told hs hP => ⟨(hx w told hs hP).1, trivial⟩

end Step.Unlogged

variable {env : Environment}

-- Whether a rule has hit a limit is looked up.
theorem Rule.unlogged_limitHit? (r : Rule) (conversation : String) (z : Zone) :
    (r.limitHit? conversation z).Behaves .unlogged env fun _ => True := by
  have hask {α : Type} {c : Call} {run : Store → Except StoreError α} :
      (Step.ask c run).Behaves .unlogged env fun _ => True :=
    .ask (fun _ _ _ _ _ => trivial) fun _ _ _ => trivial
  unfold limitHit?
  refine Behaves.bind ?_ fun hit => ?_
  · unfold checkCooldown
    split
    · exact Behaves.pure
    · refine Behaves.bind hask fun last => ?_
      split
      · exact .bind_now Behaves.pure
      · exact Behaves.pure
  · split
    · exact Behaves.pure
    · unfold checkCap
      split
      · exact Behaves.pure
      · exact .bind_now (Behaves.bind hask fun count => Behaves.pure)

namespace Conversation

theorem unlogged_change (c : Conversation) (ch : Change) :
    (stored (c.change ch)).Unlogged env fun _ => True := by
  refine .stored ?_
  unfold change
  refine .bind_now (Behaves.bind (.call (fun w _ _ _ updated written hrun => ⟨?_, trivial⟩)
    (fun _ _ _ _ => trivial) fun _ _ _ => trivial) fun updated => ?_)
  · cases hupdate : w.store.updateState (c.after ch env.now) c.version with
    | error err =>
      rw [hupdate] at hrun
      cases hrun
    | ok written =>
      rw [hupdate] at hrun
      cases hrun
      cases written with
      | none => exact ⟨.refl _, le_refl _⟩
      | some s' => exact ⟨.of_updateState hupdate, le_refl _⟩
  · split
    · exact Behaves.pure
    · exact Behaves.throw

theorem unlogged_finish (c : Conversation) : (stored c.finish).Unlogged env fun _ => True := by
  unfold finish
  split
  · exact c.unlogged_change .complete
  · exact .stored Behaves.pure

theorem unlogged_deliver (c : Conversation) (m : Message) :
    (c.deliver m).Unlogged env fun _ => True := by
  have hsend (env : Environment) : (send (c.intent m)).Unlogged env fun _ => True := by
    intro w _ _ _
    refine ⟨.single ⟨.refl _, le_refl _⟩, ?_⟩
    unfold send
    cases env.sender w.exchanges (c.intent m) with
    | error err => rfl
    | ok receipt => trivial
  unfold deliver sendGuarded
  dsimp only
  split
  · refine .timed fun now => .bind_now ?_
    split
    · exact hsend _
    · exact Unlogged.throw rfl
  · exact hsend env

end Conversation

/-! ## 2. Flows -/

namespace Flow

variable (f : Flow)

theorem unlogged_followEdge (c : Conversation) (node : String) (receipt : Option Receipt) :
    (f.followEdge c node receipt).Unlogged env fun _ => True := by
  unfold followEdge
  split
  · exact .bind (c.unlogged_change _) fun _ _ => .pure trivial
  · exact .bind c.unlogged_finish fun _ _ => .pure trivial

theorem unlogged_prompt (c : Conversation) (m : Message) :
    (prompt c m).Unlogged env fun _ => True :=
  .bind (c.unlogged_deliver m) fun _ _ => .bind (c.unlogged_change _) fun _ _ => .pure trivial

theorem unlogged_executeNode (c : Conversation) (n : Node) :
    (f.executeNode c n).Unlogged env fun _ => True := by
  unfold executeNode
  split
  · exact f.unlogged_followEdge c _ _
  · exact .bind (c.unlogged_deliver _) fun _ _ => f.unlogged_followEdge c _ _
  · exact unlogged_prompt c _
  · split
    · exact .pure trivial
    · refine .bind (Q := fun _ => True) ?_ fun t _ =>
        .bind (c.unlogged_change _) fun _ _ => .pure trivial
      unfold deadline
      refine .bind_now ?_
      split
      · exact Unlogged.pure trivial
      · exact Unlogged.throw rfl
  · exact unlogged_prompt c _
  · -- Whether something was said makes no difference to how a conversation ends.
    have hend (receipt : Option Receipt) :
        (do let c ← stored c.finish; return (c, NodeResult.ended receipt)).Unlogged env
          fun _ => True :=
      .bind c.unlogged_finish fun _ _ => .pure trivial
    split
    · split
      · exact Unlogged.bind (Q := fun _ => True) (.pure trivial) fun receipt _ => hend receipt
      · exact Unlogged.bind (Q := fun _ => True) (.map (c.unlogged_deliver _))
          fun receipt _ => hend receipt
    · exact Unlogged.bind (Q := fun _ => True) (.pure trivial) fun receipt _ => hend receipt

theorem unlogged_execute (c : Conversation) (node : String) (version : Int) :
    (f.execute c node version).Unlogged env fun _ => True := by
  unfold execute
  split
  · split
    · exact .timed fun now => f.unlogged_executeNode c _
    · exact .throw rfl
  · exact .pure trivial

theorem unlogged_passWithin (budget : Nat) (sofar : Pass) (c : Conversation) :
    Act.Follows .unlogged env (fun _ => True) (f.passWithin budget sofar c)
      fun r _ => ∀ err, r.2 = .error err → err.isLimit = false := by
  induction budget generalizing sofar c with
  | zero =>
    unfold passWithin
    split <;> exact .pure fun _ _ _ h => by cases h
  | succ budget ih =>
    unfold passWithin
    split
    · exact .pure fun _ _ _ h => by cases h
    · refine .bind (Follows.attempt (f.unlogged_execute c c.node c.version)) fun outcome => ?_
      cases outcome with
      | error err =>
        refine .pure fun _ hlimit err' heq => ?_
        cases heq
        exact hlimit
      | ok r =>
        dsimp only
        split
        · exact .pure fun _ _ _ h => by cases h
        · exact ih _ _

theorem unlogged_runPass (c : Conversation) :
    Act.Follows .unlogged env (fun _ => True) (f.runPass c)
      fun r _ => ∀ err, r.2 = .error err → err.isLimit = false :=
  f.unlogged_passWithin _ _ c

-- What is told of a pass is told of every one.
theorem unlogged_pass (c : Conversation) (out : Pass → Outcome) :
    (do let (_, outcome) ← ofAct (f.runPass c); return out (← ofResult outcome)).Unlogged env
      fun o => ∃ pass, o = out pass := by
  refine Follows.bind (.ofAct (f.unlogged_runPass c)) fun r => ?_
  refine Follows.bind (Q := fun _ _ => True)
    (.ofResult (fun _ _ _ _ => trivial) fun err _ heq hlimit => hlimit err heq) fun pass => ?_
  exact Unlogged.pure ⟨pass, rfl⟩

theorem unlogged_proceed (c : Conversation) :
    (f.proceed c).Unlogged env fun o => o.isOfFlow = true :=
  (f.unlogged_pass c _).post fun _ _ ⟨_, ho⟩ => ho ▸ rfl

theorem unlogged_begin (e : Event) : (f.begin e).Unlogged env fun o => o.isOfFlow = true := by
  unfold begin
  split
  · exact .throw rfl
  · refine .bind (Q := fun _ => True) (.stored ?_) fun c _ => ?_
    · unfold Conversation.create
      refine Follows.bind (Q := fun _ _ => True) (.freshId fun _ _ _ => trivial) fun id =>
        .bind_now ?_
      refine Behaves.bind (.tell (fun w _ _ _ s hrun => ⟨⟨?_, le_refl _⟩, trivial⟩)
        fun _ _ _ => trivial) fun _ => Behaves.pure
      rw [World.write, (Store.states_createState hrun).1]
      exact ⟨rfl, rfl, rfl⟩
    · refine .bind_now (Unlogged.bind (.stored ?_) fun _ _ =>
        (f.unlogged_pass c _).post fun o _ ho => ?_)
      swap
      · obtain ⟨_, rfl⟩ := ho
        rfl
      refine .tell (fun w _ _ _ s hrun => ⟨⟨?_, le_refl _⟩, trivial⟩) fun _ _ _ => trivial
      cases hrun
      exact ⟨rfl, rfl, rfl⟩

end Flow

/-! ## 3. Conversations in progress -/

namespace Conversation

theorem unlogged_recover (c : Conversation) (settings : AccountSettings) :
    (c.recover settings).Unlogged env fun o => o.isOfFlow = true := by
  simp only [recover]
  refine .bind c.unlogged_finish fun ended _ => ?_
  refine Follows.bind (Q := fun _ _ => True) (.policy fun _ _ => trivial) fun policy => ?_
  exact Unlogged.bind (ended.unlogged_deliver _).attempt fun _ _ => .pure rfl

theorem unlogged_takeReply (c : Conversation) (sn : Snapshot) (f : Flow) (e : Event) :
    (c.takeReply sn f e).Unlogged env fun o => o.isOfFlow = true := by
  simp only [takeReply]
  split
  · exact c.unlogged_recover _
  · refine .bind (c.unlogged_change _) fun c₁ _ => ?_
    have hadvance (c₂ : Conversation) (target : String) :
        (do let c₃ ← stored (c₂.change (.advance target)); f.proceed c₃).Unlogged env
          fun o => o.isOfFlow = true :=
      .bind (c₂.unlogged_change _) fun c₃ _ => f.unlogged_proceed c₃
    split
    · exact Unlogged.bind (c₁.unlogged_change _) fun c₂ _ => hadvance c₂ _
    · exact Unlogged.bind (Q := fun _ => True) (.pure trivial) fun c₂ _ => hadvance c₂ _

/-- A conversation that is not `Stuck` takes the event, unless something fails. -/
theorem unlogged_takeEvent {c : Conversation} {sn : Snapshot} (stuck : ¬ c.Stuck sn env.now)
    (e : Event) :
    (c.takeEvent sn e).Unlogged env fun o => ∃ outcome, o = some outcome ∧
      outcome.isOfFlow = true := by
  simp only [Stuck, not_or, not_forall] at stuck
  obtain ⟨hfresh, f, hflow, hnode⟩ := stuck
  obtain ⟨n, hn⟩ := Option.ne_none_iff_exists'.mp hnode
  have hexpire : c.expireIfStale.Unlogged env fun expired => expired = false := by
    unfold expireIfStale
    refine .bind_now ?_
    rw [if_neg hfresh]
    exact Unlogged.pure rfl
  unfold takeEvent
  refine .bind hexpire fun expired hexpired => ?_
  rw [hexpired, if_neg Bool.false_ne_true, hflow, Option.bind_some, hn, Option.map_some]
  refine .bind (c.unlogged_change _) fun d _ => ?_
  -- What comes of the event is told as it is.
  have hsome {x : Step AutomationError Outcome} (hx : x.Unlogged env fun o => o.isOfFlow = true) :
      (some <$> x).Unlogged env fun o => ∃ outcome, o = some outcome ∧
        outcome.isOfFlow = true :=
    .map (hx.post fun o _ ho => ⟨o, rfl, ho⟩)
  split
  · exact hsome (d.unlogged_takeReply _ _ _)
  · exact .pure ⟨_, rfl, rfl⟩
  · exact .pure ⟨_, rfl, rfl⟩
  · exact hsome (f.unlogged_proceed d)
  · exact hsome (f.unlogged_proceed d)
  · exact hsome (f.unlogged_proceed d)

end Conversation

end Autoresponder
