import Autoresponder.Proofs.Engine.Walk

/-!
# Doing something again

A sender that refuses messages for a while accepts them when they are handed over again. What a
repetition comes to is told by what was accepted, and by what the store holds but for versions.
-/

namespace Autoresponder

/-! ## 1. Senders and what they accept -/

namespace Sender

/-- Refuses nothing. `Relents` is the weaker condition under which something that is
repeated ends. -/
def Accepts (s : Sender) : Prop := ∀ earlier intent, ∃ r, s earlier intent = .ok r

/-- Refuses nothing any more when `n` messages have been handed over. -/
def Relents (s : Sender) (n : Nat) : Prop :=
  ∀ earlier intent, n ≤ earlier.length → ∃ r, s earlier intent = .ok r

-- What is refused is handed over before the sender relents, so fewer refusals are left.
theorem Relents.refusals_lt {s : Sender} {n : Nat} (h : s.Relents n) {done es : List Exchange}
    {intent : SendIntent} {e : DeliveryError} (hrefused : s (done ++ es) intent = .error e)
    (x : Exchange) : n - (x :: (done ++ es)).length < n - es.length := by
  have hlt : (done ++ es).length < n := by
    by_contra hle
    obtain ⟨r, hr⟩ := h _ intent (not_lt.mp hle)
    rw [hr] at hrefused
    cases hrefused
  rw [List.length_cons]
  rw [List.length_append] at hlt ⊢
  omega

/-- Refuses everything until `n` messages have been handed over. -/
def hesitant (n : Nat) : Sender := fun earlier _ =>
  if earlier.length < n then .error (.transport "refused") else .ok ⟨none⟩

theorem relents_hesitant (n : Nat) : (hesitant n).Relents n := by
  intro earlier intent h
  exact ⟨⟨none⟩, if_neg (by omega)⟩

end Sender

/-- The messages that were accepted, the first one first. -/
def acceptedIntents (es : List Exchange) : List SendIntent :=
  ((es.filter (·.accepted)).map (·.intent)).reverse

theorem Delivered.acceptedIntents {c : Conversation} {ms : List Message} {done : List Exchange}
    (h : Delivered c ms done) (es : List Exchange) :
    acceptedIntents (done ++ es) = acceptedIntents es ++ ms.map c.intent := by
  have hdone : done.filter (·.accepted) = done := List.filter_eq_self.mpr h.accepted
  unfold Autoresponder.acceptedIntents
  rw [List.filter_append, hdone, List.map_append, List.reverse_append, h.intents,
    List.reverse_reverse]

theorem acceptedIntents_cons (x : Exchange) (es : List Exchange) :
    acceptedIntents (x :: es) =
      acceptedIntents es ++ if x.accepted = true then [x.intent] else [] := by
  unfold acceptedIntents
  by_cases hx : x.accepted = true
  · rw [List.filter_cons_of_pos hx, List.map_cons, List.reverse_cons, if_pos hx]
  · rw [List.filter_cons_of_neg hx, if_neg hx, List.append_nil]

theorem Conversation.accepted_exchange {c : Conversation} {env : Environment} {es : List Exchange}
    {m : Message} {e : DeliveryError} (h : env.sender es (c.intent m) = .error e) :
    (c.exchange env es m).accepted = false := by
  simp [Exchange.accepted, Exchange.receipt?, Conversation.exchange, h]

theorem acceptedIntents_refused {c : Conversation} {env : Environment} {es : List Exchange}
    {m : Message} {e : DeliveryError} (h : env.sender es (c.intent m) = .error e) :
    acceptedIntents (c.exchange env es m :: es) = acceptedIntents es := by
  rw [acceptedIntents_cons, Conversation.accepted_exchange h]
  simp

/-- The outcome of something that is done again and again, the `n`-th time, counted from 0, and the
world after it. -/
def Act.again {α : Type} (x : Act α) (env : Environment) (w : World) : Nat → α × World
  | 0 => x env w
  | n + 1 => x env (x.again env w n).2

theorem Act.again_succ {α : Type} (x : Act α) (env : Environment) (w : World) (n : Nat) :
    x.again env w (n + 1) = x.again env (x env w).2 n := by
  induction n with
  | zero => rfl
  | succ n ih => rw [Act.again, ih, Act.again]

/-- The world in which the `n`-th of things that are done one after the other is done, counted
from 0. -/
def Act.before {α : Type} (xs : Nat → Act α) (env : Environment) (w : World) : Nat → World
  | 0 => w
  | n + 1 => (xs n env (Act.before xs env w n)).2

/-- The outcome of the `n`-th one, and the world after it. -/
def Act.series {α : Type} (xs : Nat → Act α) (env : Environment) (w : World) (n : Nat) :
    α × World :=
  xs n env (Act.before xs env w n)

theorem Act.before_succ {α : Type} (xs : Nat → Act α) (env : Environment) (w : World) (n : Nat) :
    Act.before xs env w (n + 1) =
      Act.before (fun i => xs (i + 1)) env (xs 0 env w).2 n := by
  induction n with
  | zero => rfl
  | succ n ih => rw [Act.before, ih, Act.before]

theorem Act.series_succ {α : Type} (xs : Nat → Act α) (env : Environment) (w : World) (n : Nat) :
    Act.series xs env w (n + 1) = Act.series (fun i => xs (i + 1)) env (xs 0 env w).2 n := by
  rw [series, before_succ, series]

/-- A message could not be delivered. -/
def Outcome.IsDeliveryFailure (o : Outcome) : Prop :=
  ∃ reason, o = .degraded "delivery_failure" reason

theorem Outcome.not_isDeliveryFailure {o : Outcome} (h : ∀ kind reason, o ≠ .degraded kind reason) :
    ¬ o.IsDeliveryFailure := by
  rintro ⟨reason, ho⟩
  exact h _ reason ho

/-! ## 2. Stores but for versions -/

/-- A store but for the versions of its conversations, which depend on how often `updateState` was
called. -/
def Store.versionless (s : Store) : Store :=
  { s with states := s.states.map fun r => { r with version := .int 0 } }

-- What is looked at in the rows tells apart what is written of a conversation.
theorem Store.map_set {β : Type} (s : Store) (look : StateRow → β) {c d : Conversation}
    (hid : c.id = d.id) (hlook : ∀ r : StateRow,
      look (r.revised (.ofConversation c)) = look (r.revised (.ofConversation d))) :
    (s.set c).states.map look = (s.set d).states.map look := by
  unfold set
  rw [List.map_map, List.map_map]
  apply List.map_congr_left
  intro r _
  simp only [Function.comp_apply, hid]
  split
  · exact hlook r
  · rfl

theorem Store.versionless_set {s : Store} {c d : Conversation} (hbare : c.bare = d.bare)
    (hupdated : c.updated = d.updated) : (s.set c).versionless = (s.set d).versionless := by
  have hid : c.id = d.id := (congrArg Conversation.id hbare :)
  have hrow (r : StateRow) : { r.revised (.ofConversation c) with version := .int 0 } =
      { r.revised (.ofConversation d) with version := .int 0 } := by
    have hnode : c.node = d.node := (congrArg Conversation.node hbare :)
    have hbutton : c.lastButton = d.lastButton := (congrArg Conversation.lastButton hbare :)
    have hcollected : c.collected = d.collected := (congrArg Conversation.collected hbare :)
    have hinbound : c.lastInbound = d.lastInbound := (congrArg Conversation.lastInbound hbare :)
    have hresume : c.resumeAt = d.resumeAt := (congrArg Conversation.resumeAt hbare :)
    have hactive : c.isActive = d.isActive := (congrArg Conversation.isActive hbare :)
    have hcompleted : c.completed = d.completed := (congrArg Conversation.completed hbare :)
    simp only [StateRow.revised, StateRow.ofConversation, hnode, hbutton, hcollected, hinbound,
      hresume, hactive, hcompleted, hupdated]
  exact congrArg (fun states => { s with states })
    (s.map_set (fun r => { r with version := .int 0 }) hid hrow)

-- What is kept of a copy does not depend on versions either.
theorem Conversation.kept_congr {c d : Conversation} (h : c.bare = d.bare) :
    c.kept.bare = d.kept.bare := by
  have hbare (c : Conversation) : c.kept.bare = c.bare.kept.bare := rfl
  rw [hbare c, h, hbare d]

theorem Store.Holds.kept {s : Store} {c : Conversation} (h : s.Holds c) : s.Holds c.kept := by
  obtain ⟨d, hd, hkept⟩ := h
  exact ⟨d, hd, hkept.trans c.kept_kept.symm⟩

end Autoresponder
