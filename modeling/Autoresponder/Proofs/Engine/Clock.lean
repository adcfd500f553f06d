import Autoresponder.Proofs.Engine.Walk

/-!
# Readings of the clock

The clock is read when a node is executed, and once more when its message is sent. These are the only
times that a node goes by: whatever else the clock would show makes no difference.
-/

namespace Autoresponder

open Step

/-- The same as `env` with a clock that has stopped at `now`. -/
def Environment.stoppedAt (env : Environment) (now : Instant) : Environment :=
  { env with clock := fun _ => now }

theorem Environment.shows_stoppedAt (env : Environment) (now : Instant) :
    (env.stoppedAt now).Shows now :=
  fun _ => rfl

/-! ## 1. Steps -/

namespace Step

/-- A step does not read the clock: it leaves `World.readings` as they are. -/
def Timeless {ε α : Type} (x : Step ε α) : Prop :=
  ∀ env now w, x (env.stoppedAt now) w = x env w ∧ (x env w).2.readings = w.readings

/-- A step reads the clock `k` times, and always finds what it shows at first, as it would with a
clock that has stopped then (`stoppedAt`). -/
def Glances {ε α : Type} (k : Nat) (x : Step ε α) : Prop :=
  ∀ env w, x (env.stoppedAt (env.clock w.readings)) w = x env w ∧
    (x env w).2.readings = w.readings + k

section

variable {ε δ α β : Type} {k : Nat}

namespace Timeless

theorem pure (a : α) : (Pure.pure a : Step ε α).Timeless := fun _ _ _ => ⟨rfl, rfl⟩

theorem throw (e : ε) : (MonadExcept.throw e : Step ε α).Timeless := fun _ _ _ => ⟨rfl, rfl⟩

theorem now : (Step.now : Step ε Instant).Timeless := fun _ _ _ => ⟨rfl, rfl⟩

theorem bind {x : Step ε α} {f : α → Step ε β} (hx : x.Timeless) (hf : ∀ a, (f a).Timeless) :
    (x >>= f).Timeless := by
  intro env now w
  obtain ⟨hrun, hreadings⟩ := hx env now w
  rw [run_bind, run_bind, hrun]
  rcases hresult : x env w with ⟨e | a, w₁⟩ <;> rw [hresult] at hreadings
  · exact ⟨rfl, hreadings⟩
  · obtain ⟨hrun', hreadings'⟩ := hf a env now w₁
    exact ⟨hrun', hreadings'.trans hreadings⟩

theorem mapError {x : Step ε α} (hx : x.Timeless) (f : ε → δ) : (x.mapError f).Timeless := by
  intro env now w
  obtain ⟨hrun, hreadings⟩ := hx env now w
  rw [run_mapError, run_mapError, hrun]
  exact ⟨rfl, hreadings⟩

theorem call (c : Call) (conflict : Option α)
    (run : Store → Except StoreError (α × Option Store)) : (Step.call c conflict run).Timeless := by
  intro env now w
  refine ⟨rfl, ?_⟩
  unfold Step.call
  split
  · split
    · rename_i written _
      cases written <;> rfl
    · rfl
  · rfl
  · rfl

theorem glances {x : Step ε α} (hx : x.Timeless) : x.Glances 0 :=
  fun env w => hx env (env.clock w.readings) w

end Timeless

theorem Glances.timed {x : Step ε α} (hx : x.Timeless) : (Step.timed x).Glances 1 :=
  fun env w => hx (env.asOf w) (env.clock w.readings) w.reading

-- What comes after the clock was read must not read it again.
theorem Glances.bind {x : Step ε α} {f : α → Step ε β} (hx : x.Glances k)
    (hf : ∀ a, (f a).Timeless) : (x >>= f).Glances k := by
  intro env w
  obtain ⟨hrun, hreadings⟩ := hx env w
  rw [run_bind, run_bind, hrun]
  rcases hresult : x env w with ⟨e | a, w₁⟩ <;> rw [hresult] at hreadings
  · exact ⟨rfl, hreadings⟩
  · obtain ⟨hrun', hreadings'⟩ := hf a env (env.clock w.readings) w₁
    exact ⟨hrun', hreadings'.trans hreadings⟩

theorem Glances.map {x : Step ε α} (hx : x.Glances k) (f : α → β) : (f <$> x).Glances k := by
  rw [map_eq_pure_bind]
  exact hx.bind fun _ => .pure _

end

end Step

/-! ## 2. Nodes -/

theorem timeless_send (intent : SendIntent) : (send intent).Timeless := fun _ _ _ => ⟨rfl, rfl⟩

section

variable {c : Conversation} {f : Flow}

namespace Conversation

theorem timeless_change (ch : Change) : (stored (c.change ch)).Timeless := by
  refine .mapError (.bind .now fun now => .bind (.call _ _ _) fun written => ?_) _
  split
  · exact .pure _
  · exact .throw _

theorem timeless_finish : (stored c.finish).Timeless := by
  unfold finish
  split
  · exact timeless_change .complete
  · exact .mapError (.pure c) _

theorem glances_deliver {m : Message} (hm : m.requiresWindow = true) :
    (c.deliver m).Glances 1 := by
  unfold deliver sendGuarded
  rw [if_pos hm]
  refine .timed (.bind .now fun now => ?_)
  split
  · exact timeless_send _
  · exact .throw _

end Conversation

namespace Flow

theorem timeless_followEdge (node : String) (receipt : Option Receipt) :
    (f.followEdge c node receipt).Timeless := by
  unfold followEdge
  split
  · exact .bind (Conversation.timeless_change _) fun _ => .pure _
  · exact .bind Conversation.timeless_finish fun _ => .pure _

theorem glances_prompt {m : Message} (hm : m.requiresWindow = true) : (prompt c m).Glances 1 :=
  (Conversation.glances_deliver hm).bind fun _ =>
    .bind (Conversation.timeless_change _) fun _ => .pure _

theorem timeless_deadline (node : String) (seconds : UInt64) :
    (f.deadline node seconds).Timeless := by
  refine .bind .now fun now => ?_
  split
  · exact .pure _
  · exact .throw _

/-- By `executeNode` a node reads the clock once for its message, if it has one. -/
theorem glances_executeNode {now : Instant} {n : Node} (hn : f.node? c.node = some n) {l : Leg}
    (hl : f.leg? now c = some l) : (f.executeNode c n).Glances l.message.toList.length := by
  have hend (receipt : Option Receipt) :
      (do let c' ← stored c.finish; return (c', NodeResult.ended receipt)).Timeless :=
    .bind Conversation.timeless_finish fun _ => .pure _
  have hkind := nodeLeg_of_leg? hl hn
  obtain ⟨id, kind⟩ := n
  dsimp only at hkind
  unfold executeNode
  cases hkind with
  | trigger =>
    rw [message_leave]
    exact (timeless_followEdge id none).glances
  | message text =>
    rw [message_leave]
    exact (Conversation.glances_deliver rfl).bind fun receipt => timeless_followEdge id receipt
  | buttons text bs variableName => exact glances_prompt rfl
  | delayed seconds resume =>
    dsimp only
    rw [resume]
    exact (Timeless.pure _).glances
  | delay seconds t resume ends =>
    dsimp only
    rw [resume]
    exact Timeless.glances (.bind (timeless_deadline id seconds) fun _ =>
      .bind (Conversation.timeless_change _) fun _ => .pure _)
  | form formId body callToAction => exact glances_prompt rfl
  | finish => exact Timeless.glances (.bind (.pure none) hend)
  | finishBlank text blank =>
    simp only [blank, if_true]
    exact Timeless.glances (.bind (.pure none) hend)
  | finishText text blank =>
    simp only [blank, Bool.false_eq_true, if_false]
    exact .bind (.map (Conversation.glances_deliver rfl) _) hend

-- So a node is executed by two times: that of the node, and that of its message.
theorem run_execute {env : Environment} {w : World} (active : c.isActive = true)
    (flow : c.flow = f.id) {n : Node} (hn : f.node? c.node = some n) {l : Leg}
    (hl : f.leg? (env.clock w.readings) c = some l) :
    f.execute c c.node c.version env w =
      f.executeNode c n ((env.asOf w).stoppedAt (env.clock (w.readings + 1))) w.reading ∧
    (f.execute c c.node c.version env w).2.readings =
      w.readings + 1 + l.message.toList.length := by
  obtain ⟨hrun, hreadings⟩ := glances_executeNode hn hl (env.asOf w) w.reading
  rw [execute_self active flow hn]
  exact ⟨hrun.symm, hreadings⟩

/-- How `Flow.execute` goes, by the times that the clock shows to it: the leg of the node is made,
or its message is refused. -/
inductive Steps (f : Flow) (c : Conversation) (l : Leg) (env : Environment) (w : World)
    (result : Except AutomationError (Conversation × NodeResult)) (w' : World) : Prop where
  | made (r : NodeResult) (accepted : l.Accepted env w.exchanges c)
      (result : result = .ok (l.apply (env.clock w.readings) c, r))
      (store : w'.store = l.write (env.clock w.readings) c w.store)
      (exchanges : w'.exchanges =
        l.handed (env.atTime (env.clock (w.readings + 1))) w.exchanges c)
      (stops : stopAfter c.node r = l.stop) (sent : r.sent = l.message.isSome)
  | refused (m : Message) (e : DeliveryError) (message : l.message = some m)
      (refusal : env.sender w.exchanges (c.intent m) = .error e)
      (result : result = .error (.delivery e)) (store : w'.store = w.store)
      (exchanges : w'.exchanges =
        c.exchange (env.atTime (env.clock (w.readings + 1))) w.exchanges m :: w.exchanges)

/-- By `Flow.execute` a copy that is up to date executes its node, while the `window` is open for
the message. -/
theorem steps_execute {env : Environment} {w : World} (faultless : env.Faultless)
    (hs : w.store.Consistent) (held : w.store.Holds c) (active : c.isActive = true)
    (flow : c.flow = f.id) {l : Leg} (hl : f.leg? (env.clock w.readings) c = some l)
    (window : l.message ≠ none →
      Window.isOpen c.lastInbound (env.clock (w.readings + 1)) = true) :
    f.Steps c l env w (f.execute c c.node c.version env w).1
        (f.execute c c.node c.version env w).2 ∧
      (f.execute c c.node c.version env w).2.readings =
        w.readings + 1 + l.message.toList.length ∧
      (f.execute c c.node c.version env w).2.drawn = w.drawn := by
  obtain ⟨n, hn⟩ := node_of_leg?_eq_some hl
  obtain ⟨hrun, hreadings⟩ := run_execute active flow hn hl
  have hfaultless : ((env.asOf w).stoppedAt (env.clock (w.readings + 1))).Faultless := faultless
  have hshows := (env.asOf w).shows_stoppedAt (env.clock (w.readings + 1))
  rw [hrun] at hreadings ⊢
  rcases leads_executeNode_or w.exchanges hfaultless hshows hs held active hn hl window with
    ⟨accepted, r, hleads, hstop, hsent⟩ | ⟨m, e, hm, hrefused, hleads⟩
  · obtain ⟨hresult, hstore, hexchanges, hdrawn⟩ := hleads w.reading rfl rfl
    exact ⟨.made r accepted hresult hstore hexchanges hstop hsent, hreadings, hdrawn⟩
  · obtain ⟨hresult, hstore, hexchanges, hdrawn⟩ := hleads w.reading rfl rfl
    exact ⟨.refused m e hm hrefused hresult hstore hexchanges, hreadings, hdrawn⟩

end Flow

end

end Autoresponder
