import Autoresponder.Proofs.Engine.Budget
import Autoresponder.Proofs.Engine.Clock
import Autoresponder.Proofs.Store.Versions

/-!
# Routes

Where a pass leads can be told from the graph alone: from node to node along the edges, up to the
first one that waits, ends the conversation or leads nowhere, and no further than the budget goes. A
pass executes just these nodes. It hands over what they tell, in this order and each message once,
until the sender refuses one, and says truthfully why it stops.
-/

namespace Autoresponder

open Step

/-! ## 1. The reference -/

namespace Flow

/-- The nodes from a node on, as far as a pass may execute one after the other. -/
def route (f : Flow) : Nat → String → List Node
  | 0, _ => []
  | budget + 1, id =>
    match f.node? id with
    | none => []
    | some n =>
      if n.kind.isPlain then
        match f.next? id with
        | some next => n :: f.route budget next
        | none => [n]
      else [n]

/-- Why a pass goes no further than the node `n`, and what it leaves behind there as the last change
of the conversation. A node that needs no reply is gone no further than if the budget is spent. -/
def halt? (f : Flow) (now : Instant) (n : Node) : Option (Stop × Conversation.Change) :=
  match n.kind with
  | .trigger | .message _ =>
    match f.next? n.id with
    | some next => some (.limitReached next, .advance next)
    | none => some (.completed, .complete)
  | .buttons _ _ _ | .form _ _ _ => some (.waiting n.id, .markWaiting)
  | .delay seconds =>
    (now.add? (Span.ofSeconds seconds.toNat)).map fun t => (.delayed n.id t, .scheduleResume t)
  | .finish _ => some (.completed, .complete)

end Flow

/-- What `nodes` tell the person of a conversation. -/
def Conversation.told (c : Conversation) (nodes : List Node) : List Message :=
  nodes.filterMap (·.kind.tells c)

/-- A conversation when it has come to a node after a number of others. -/
def Conversation.on (c : Conversation) (n : Node) (passed : Nat) (now : Instant) : Conversation :=
  { c with node := n.id, resumeAt := none, version := c.version + passed, updated := now }

/-- How often the clock is read when nodes are executed: for every node, and for every message that
they tell. -/
def Conversation.readings (c : Conversation) (nodes : List Node) : Nat :=
  nodes.length + (c.told nodes).length

/-- What the clock shows when a conversation comes to the node behind those of `before`. -/
def Conversation.reached (c : Conversation) (env : Environment) (w : World) (before : List Node) :
    Instant :=
  env.clock (w.readings + c.readings before)

/-- How something goes that is to execute `nodes`, when some nodes were executed before (`sofar`):
it gets through, or a message is refused and the conversation is left on the node that tells it, as
the node before it left it. -/
inductive Flow.Treads (f : Flow) (env : Environment) (w : World) (c : Conversation) (sofar : Pass)
    (nodes : List Node) (run : (Conversation × Except AutomationError Pass) × World) : Prop where
  | through (before : List Node) (n : Node) (stop : Stop) (ch : Conversation.Change)
      (last : Conversation) (done : List Exchange) (route : nodes = before ++ [n])
      (halts : f.halt? (c.reached env w before) n = some (stop, ch))
      (changed : last = (c.on n before.length (c.reached env w before)).after ch
        (c.reached env w before))
      (delivered : Delivered c (c.told nodes) done)
      (result : run.1 =
        (last, .ok ⟨sofar.executed + nodes.length, sofar.sent + (c.told nodes).length, stop⟩))
      (store : run.2.store = w.store.set last) (exchanges : run.2.exchanges = done ++ w.exchanges)
      (drawn : run.2.drawn = w.drawn)
  | refused (before after : List Node) (n : Node) (m : Message) (e : DeliveryError)
      (left : Conversation) (done : List Exchange) (route : nodes = before ++ n :: after)
      (tells : n.kind.tells c = some m) (delivered : Delivered c (c.told before) done)
      (refusal : env.sender (done ++ w.exchanges) (c.intent m) = .error e)
      (unmoved : before = [] → left = c ∧ run.2.store = w.store)
      (moved : before ≠ [] → left = c.on n before.length (c.reached env w before.dropLast) ∧
        run.2.store = w.store.set left)
      (result : run.1 = (left, .error (.delivery e)))
      (exchanges : run.2.exchanges =
        c.exchange (env.atTime (env.clock (w.readings + c.readings before + 1)))
          (done ++ w.exchanges) m :: (done ++ w.exchanges))
      (drawn : run.2.drawn = w.drawn)

/-- The clock may show `now` to a pass. It is read twice for a node at most. -/
def Environment.Upcoming (env : Environment) (w : World) (budget : Nat) (now : Instant) : Prop :=
  ∃ n, w.readings ≤ n ∧ n < w.readings + 2 * budget ∧ env.clock n = now

/-! ## 2. Routes -/

/-- Why a pass stops whatever its budget. -/
def Stop.final? : Stop → Option Stop
  | limitReached _ => none
  | stop => some stop

theorem Stop.eq_of_final? {stop stop' : Stop} (h : stop.final? = some stop') : stop = stop' := by
  cases stop <;> cases h <;> rfl

namespace Flow

variable {f : Flow} {now : Instant} {c : Conversation} {n : Node} {stop : Stop}
  {ch : Conversation.Change} {id : String}

-- Where a pass goes on, there is a node that follows.
theorem next_of_halt? (h : f.halt? now n = some (stop, ch)) (hfinal : stop.final? = none) :
    ∃ next, stop = .limitReached next ∧ ch = .advance next ∧ n.kind.isPlain = true ∧
      f.next? n.id = some next := by
  unfold halt? at h
  split at h
  case h_1 hkind | h_2 hkind =>
    rw [hkind]
    split at h
    · rename_i next hnext
      cases h
      exact ⟨next, rfl, rfl, rfl, hnext⟩
    · cases h
      cases hfinal
  case h_5 =>
    obtain ⟨t, -, ht⟩ := Option.map_eq_some_iff.mp h
    cases ht
    cases hfinal
  all_goals
    cases h
    cases hfinal

-- A route ends at a node where a pass stops whatever its budget.
theorem route_of_final (hn : f.node? id = some n) (h : f.halt? now n = some (stop, ch))
    (hfinal : stop.final? ≠ none) (budget : Nat) : f.route (budget + 1) id = [n] := by
  obtain rfl := node?_id hn
  rw [route, hn]
  dsimp only
  cases hplain : n.kind.isPlain with
  | false => rw [if_neg (by simp)]
  | true =>
    cases hnext : f.next? n.id with
    | none => rw [if_pos rfl]
    | some next =>
      -- A node that needs no reply and leads on is no such node.
      refine absurd ?_ hfinal
      unfold halt? at h
      rw [hnext] at h
      split at h
      case h_1 | h_2 =>
        cases h
        rfl
      all_goals
        rename_i hkind
        rw [hkind] at hplain
        cases hplain

theorem route_of_next (hn : f.node? id = some n) (plain : n.kind.isPlain = true) {next : String}
    (hnext : f.next? id = some next) (budget : Nat) :
    f.route (budget + 1) id = n :: f.route budget next := by
  rw [route, hn]
  dsimp only
  rw [if_pos plain, hnext]

-- A route begins at the node it is from.
theorem route_cons (hn : f.node? id = some n) (budget : Nat) :
    ∃ after, f.route (budget + 1) id = n :: after := by
  rw [route, hn]
  dsimp only
  split
  · split
    · exact ⟨_, rfl⟩
    · exact ⟨[], rfl⟩
  · exact ⟨[], rfl⟩

theorem exists_node? (h : f.hasNode id = true) : ∃ n, f.node? id = some n := by
  rw [← Option.isSome_iff_exists, node?, List.find?_isSome]
  exact List.any_eq_true.mp h

theorem head?_route (h : f.hasNode id = true) (budget : Nat) :
    ∀ n ∈ (f.route (budget + 1) id).head?, n.id = id := by
  obtain ⟨n, hn⟩ := exists_node? h
  obtain ⟨after, hroute⟩ := route_cons hn budget
  intro n' hhead
  rw [hroute] at hhead
  obtain rfl := Option.some.inj hhead
  exact node?_id hn

-- Unless a delay ends beyond the calendar, it is known what comes behind a node.
theorem exists_halt? (ends : ∀ seconds, n.kind = .delay seconds →
    ∃ t, now.add? (Span.ofSeconds seconds.toNat) = some t) :
    ∃ stop ch, f.halt? now n = some (stop, ch) := by
  unfold halt?
  split
  case h_1 | h_2 =>
    split
    · exact ⟨_, _, rfl⟩
    · exact ⟨_, _, rfl⟩
  case h_5 seconds hkind =>
    obtain ⟨t, ht⟩ := ends seconds hkind
    exact ⟨_, _, by rw [ht]; rfl⟩
  all_goals exact ⟨_, _, rfl⟩

/-- The leg from a node (`Flow.leg?`) is what the node tells and what comes behind it. -/
theorem leg?_eq (hn : f.node? c.node = some n) (resume : c.resumeAt = none) :
    f.leg? now c = (f.halt? now n).map fun h => ⟨n.kind.tells c, some h.2, h.1.final?⟩ := by
  have hid := node?_id hn
  obtain ⟨id, kind⟩ := n
  dsimp only at hid
  subst hid
  rw [leg?, hn, Option.bind_some, halt?]
  cases kind with
  | trigger | message =>
    simp only [leave]
    cases f.next? c.node <;> rfl
  | delay seconds =>
    simp only [resume, Option.map_map]
    rfl
  | _ => rfl

end Flow

/-! ## 3. Conversations on a route -/

namespace Conversation

variable {c : Conversation} {n : Node} {now : Instant}

theorem told_cons (c : Conversation) (n : Node) (nodes : List Node) :
    c.told (n :: nodes) = (n.kind.tells c).toList ++ c.told nodes := by
  rw [told, List.filterMap_cons]
  cases n.kind.tells c <;> rfl

-- What is told and to whom stays the same on the way.
theorem tells_advance (c : Conversation) (next : String) (now : Instant) (kind : NodeKind) :
    kind.tells (c.after (.advance next) now) = kind.tells c := by
  cases kind <;> rfl

theorem told_advance (c : Conversation) (next : String) (now : Instant) (nodes : List Node) :
    (c.after (.advance next) now).told nodes = c.told nodes := by
  simp only [told, tells_advance]

-- What was sent is counted node by node.
theorem sent_cons (c : Conversation) (n : Node) (nodes : List Node) (sofar : Pass) :
    sofar.sent + (c.told (n :: nodes)).length =
      (sofar.count (n.kind.tells c).isSome).sent + (c.told nodes).length := by
  rw [told_cons, List.length_append, Pass.count]
  cases n.kind.tells c with
  | none => simp
  | some m =>
    simp
    omega

theorem readings_cons (c : Conversation) (n : Node) (nodes : List Node) :
    c.readings (n :: nodes) = 1 + (n.kind.tells c).toList.length + c.readings nodes := by
  rw [readings, readings, told_cons, List.length_append, List.length_cons]
  omega

theorem readings_advance (c : Conversation) (next : String) (now : Instant) (nodes : List Node) :
    (c.after (.advance next) now).readings nodes = c.readings nodes := by
  rw [readings, readings, told_advance]

-- The clock shows the same to a node, whether the one before it was executed already or not.
theorem reached_advance {env : Environment} {w w₁ : World} {next : String} {nodes : List Node}
    (hreadings : w₁.readings = w.readings + 1 + (n.kind.tells c).toList.length) :
    (c.after (.advance next) now).reached env w₁ nodes = c.reached env w (n :: nodes) := by
  rw [reached, reached, readings_advance, readings_cons, hreadings, Nat.add_assoc, Nat.add_assoc,
    Nat.add_assoc]

theorem on_zero (hid : n.id = c.node) (resume : c.resumeAt = none) (ch : Change) :
    (c.on n 0 now).after ch now = c.after ch now := by
  have hon : c.on n 0 now = { c with updated := now } := by
    rw [on, hid, ← resume]
    simp
  rw [hon]
  cases ch with
  | recordInbound time =>
    simp only [after, Change.apply]
    split
    · split <;> rfl
    · rfl
  | _ => rfl

theorem on_advance (c : Conversation) (next : String) (n : Node) (passed : Nat) (t now : Instant) :
    (c.after (.advance next) t).on n passed now = c.on n (passed + 1) now := by
  simp only [on, after, Change.apply, Conversation.mk.injEq, true_and, and_true]
  omega

-- A conversation that has moved on stands on the node it moved to.
theorem after_advance (c : Conversation) (n : Node) (now : Instant) :
    c.after (.advance n.id) now = c.on n 1 now := by
  rw [after, Change.apply, on]
  simp

end Conversation

/-! ## 4. Passes -/

namespace Flow

variable {f : Flow} {env : Environment} {w w₁ : World} {c : Conversation} {n : Node} {stop : Stop}
  {ch : Conversation.Change} {sofar : Pass}
  {run : (Conversation × Except AutomationError Pass) × World}

-- A pass that stops behind its first node gets through.
theorem Treads.of_halt (halts : f.halt? (env.clock w.readings) n = some (stop, ch))
    (hid : n.id = c.node) (resume : c.resumeAt = none)
    (accepted : Leg.Accepted ⟨n.kind.tells c, some ch, stop.final?⟩ env w.exchanges c)
    (store : w₁.store = w.store.set (c.after ch (env.clock w.readings))) {now : Instant}
    (exchanges : w₁.exchanges =
      Leg.handed ⟨n.kind.tells c, some ch, stop.final?⟩ (env.atTime now) w.exchanges c)
    (drawn : w₁.drawn = w.drawn) :
    f.Treads env w c sofar [n]
      ((c.after ch (env.clock w.readings),
        .ok { sofar.count (n.kind.tells c).isSome with stop }), w₁) := by
  have accepted : Leg.Accepted ⟨n.kind.tells c, some ch, stop.final?⟩ (env.atTime now)
      w.exchanges c := accepted
  obtain ⟨done, hhanded, hdelivered⟩ := delivered_leg accepted
  have htold : c.told [n] = (n.kind.tells c).toList := by
    rw [Conversation.told_cons, Conversation.told, List.filterMap_nil, List.append_nil]
  refine .through [] n stop ch _ done rfl halts (Conversation.on_zero hid resume ch).symm
    (htold ▸ hdelivered) ?_ store (exchanges.trans hhanded) drawn
  rw [htold]
  cases n.kind.tells c <;> rfl

-- A pass that goes on behind its first node treads the rest of the route.
theorem Treads.of_next {next : String} {rest : List Node} (head : ∀ n ∈ rest.head?, n.id = next)
    (accepted : Leg.Accepted ⟨n.kind.tells c, some (.advance next), none⟩ env w.exchanges c)
    (store : w₁.store = w.store.set (c.after (.advance next) (env.clock w.readings)))
    {now : Instant}
    (exchanges : w₁.exchanges = Leg.handed ⟨n.kind.tells c, some (.advance next), none⟩
      (env.atTime now) w.exchanges c)
    (readings : w₁.readings = w.readings + 1 + (n.kind.tells c).toList.length)
    (drawn : w₁.drawn = w.drawn)
    (h : f.Treads env w₁ (c.after (.advance next) (env.clock w.readings))
      (sofar.count (n.kind.tells c).isSome) rest run) :
    f.Treads env w c sofar (n :: rest) run := by
  have accepted : Leg.Accepted ⟨n.kind.tells c, some (.advance next), none⟩ (env.atTime now)
      w.exchanges c := accepted
  obtain ⟨done, hhanded, hdelivered⟩ := delivered_leg accepted
  rw [hhanded] at exchanges
  have hsame := c.same_after (.advance next) (env.clock w.readings)
  rcases h with
    ⟨before, n', stop, ch, last, done', hroute, halts, hchanged, hdelivered', hresult, hstore,
      hexchanges, hdrawn⟩ |
    ⟨before, after, n', m, e, left, done', hroute, htells, hdelivered', hrefusal, hunmoved, hmoved,
      hresult, hexchanges, hdrawn⟩
  · rw [Conversation.reached_advance readings] at halts hchanged
    rw [Conversation.told_advance] at hdelivered' hresult
    rw [Conversation.on_advance] at hchanged
    refine .through (n :: before) n' stop ch last (done' ++ done) (by rw [hroute]; rfl) halts
      hchanged ?_ ?_ ?_ (by rw [hexchanges, exchanges, List.append_assoc]) (hdrawn.trans drawn)
    · rw [Conversation.told_cons]
      exact hdelivered.append hdelivered' hsame
    · rw [Conversation.sent_cons, List.length_cons, Nat.add_comm rest.length, ← Nat.add_assoc]
      exact hresult
    · rw [hstore, store, Store.set_set _ (by rw [hchanged]; simp [Conversation.on])]
  · rw [exchanges, ← List.append_assoc] at hexchanges hrefusal
    rw [Conversation.tells_advance] at htells
    rw [Conversation.told_advance] at hdelivered'
    have hclock : w₁.readings +
        (c.after (.advance next) (env.clock w.readings)).readings before + 1 =
        w.readings + c.readings (n :: before) + 1 := by
      rw [Conversation.readings_advance, Conversation.readings_cons, readings]
      omega
    rw [hclock] at hexchanges
    refine .refused (n :: before) after n' m e left (done' ++ done) (by rw [hroute]; rfl) htells ?_
      hrefusal (fun h => by cases h) (fun _ => ?_) hresult hexchanges (hdrawn.trans drawn)
    · rw [Conversation.told_cons]
      exact hdelivered.append hdelivered' hsame
    · cases before with
      | nil =>
        obtain ⟨rfl, hstore⟩ := hunmoved rfl
        have hid : n'.id = next := head n' (by rw [hroute]; rfl)
        subst hid
        exact ⟨c.after_advance n' _, hstore.trans store⟩
      | cons b before =>
        obtain ⟨hleft, hstore⟩ := hmoved (by simp)
        rw [Conversation.on_advance, Conversation.reached_advance readings] at hleft
        refine ⟨hleft, ?_⟩
        rw [hstore, store, Store.set_set _ (by rw [hleft]; simp [Conversation.on])]

-- A message that is refused at once leaves everything as it was.
theorem Treads.of_refused {nodes : List Node} (hroute : ∃ after, nodes = n :: after) {m : Message}
    (htells : n.kind.tells c = some m) {e : DeliveryError}
    (refusal : env.sender w.exchanges (c.intent m) = .error e) (store : w₁.store = w.store)
    (exchanges : w₁.exchanges =
      c.exchange (env.atTime (env.clock (w.readings + 1))) w.exchanges m :: w.exchanges)
    (drawn : w₁.drawn = w.drawn) :
    f.Treads env w c sofar nodes ((c, .error (.delivery e)), w₁) := by
  obtain ⟨after, hnodes⟩ := hroute
  exact .refused [] after n m e c [] hnodes htells (delivered_nil c) refusal
    (fun _ => ⟨rfl, store⟩) (fun h => absurd rfl h) rfl exchanges drawn

-- What comes up after a node comes up from the node on.
theorem upcoming_next {budget : Nat} {now : Instant} (hle : w.readings ≤ w₁.readings)
    (hlt : w₁.readings ≤ w.readings + 2) (h : env.Upcoming w₁ budget now) :
    env.Upcoming w (budget + 1) now := by
  obtain ⟨k, hfirst, hlast, hk⟩ := h
  exact ⟨k, by omega, by omega, hk⟩

/-- By `passWithin` a pass treads the `Flow.route` that the graph gives for its `budget`. -/
theorem treads_passWithin (faultless : env.Faultless) (valid : f.problem? = none) (budget : Nat) :
    ∀ (sofar : Pass) {c : Conversation} {w : World}, 0 < budget →
      w.store.Consistent → w.store.Holds c → c.isActive = true → c.flow = f.id →
      f.hasNode c.node = true → c.resumeAt = none →
      (∀ now, env.Upcoming w budget now → Window.isOpen c.lastInbound now = true) →
      (∀ n ∈ f.route budget c.node, ∀ seconds, n.kind = .delay seconds →
        ∀ now, env.Upcoming w budget now → ∃ t, now.add? (Span.ofSeconds seconds.toNat) = some t) →
      f.Treads env w c sofar (f.route budget c.node) (f.passWithin budget sofar c env w) := by
  induction budget with
  | zero =>
    intro _ _ _ hbudget
    exact absurd hbudget (Nat.lt_irrefl 0)
  | succ budget ih =>
    intro sofar c w _ hs held active flow hasNode resume opens ends
    obtain ⟨n, hn⟩ := exists_node? hasNode
    have hid := node?_id hn
    obtain ⟨after, hroute⟩ := route_cons hn budget
    have hfirst : env.Upcoming w (budget + 1) (env.clock w.readings) :=
      ⟨w.readings, by omega, by omega, rfl⟩
    have hsecond : env.Upcoming w (budget + 1) (env.clock (w.readings + 1)) :=
      ⟨w.readings + 1, by omega, by omega, rfl⟩
    obtain ⟨stop, ch, halts⟩ := exists_halt? fun seconds hkind =>
      ends n (by simp [hroute]) seconds hkind _ hfirst
    have hl : f.leg? (env.clock w.readings) c = some ⟨n.kind.tells c, some ch, stop.final?⟩ := by
      rw [leg?_eq hn resume, halts]
      rfl
    obtain ⟨hsteps, hreadings, hdrawn⟩ :=
      steps_execute faultless hs held active flow hl fun _ => opens _ hsecond
    rcases hrun : f.execute c c.node c.version env w with ⟨result, w₁⟩
    rw [hrun] at hsteps hreadings hdrawn
    rcases hsteps with
      ⟨r, accepted, rfl, hstore, hexchanges, hstop, hsent⟩ |
      ⟨m, e, hm, hrefused, rfl, hstore, hexchanges⟩
    · have hmade : f.execute c c.node c.version env w =
          (.ok (c.after ch (env.clock w.readings), r), w₁) := hrun
      have hset : w₁.store = w.store.set (c.after ch (env.clock w.readings)) := hstore
      have htold : r.sent = (n.kind.tells c).isSome := hsent
      cases hfinal : stop.final? with
      | some stop' =>
        obtain rfl := Stop.eq_of_final? hfinal
        rw [route_of_final hn halts (by simp [hfinal]),
          run_round_stop budget sofar active hmade (hstop.trans hfinal), htold]
        exact .of_halt halts hid resume accepted hset hexchanges hdrawn
      | none =>
        obtain ⟨next, rfl, rfl, plain, hnext⟩ := next_of_halt? halts hfinal
        rw [hid] at hnext
        rw [route_of_next hn plain hnext, run_round_go budget sofar active hmade hstop, htold]
        cases budget with
        | zero =>
          -- The budget is spent where the pass would go on.
          have hactive : (c.after (.advance next) (env.clock w.readings)).isActive = true := active
          rw [run_spent _ hactive]
          exact .of_halt halts hid resume accepted hset hexchanges hdrawn
        | succ budget =>
          have hnode : f.hasNode next = true := (joins_of_next? hnext).hasNode valid
          have hsame := c.same_after (.advance next) (env.clock w.readings)
          have hconsistent : w₁.store.Consistent := hset ▸ hs.set held active hsame
          have hheld : w₁.store.Holds (c.after (.advance next) (env.clock w.readings)) :=
            hset ▸ held.set hsame
          have hone : (n.kind.tells c).toList.length ≤ 1 := by cases n.kind.tells c <;> simp
          have hreadings : w₁.readings = w.readings + 1 + (n.kind.tells c).toList.length :=
            hreadings
          have hupcoming {now : Instant} (h : env.Upcoming w₁ (budget + 1) now) :
              env.Upcoming w (budget + 1 + 1) now :=
            upcoming_next (by omega) (by omega) h
          refine .of_next (head?_route hnode budget) accepted hset hexchanges hreadings hdrawn
            (ih _ (Nat.succ_pos _) hconsistent hheld active flow hnode rfl
              (fun now h => opens now (hupcoming h)) fun n' hn' seconds hkind now h =>
                ends n' ?_ seconds hkind now (hupcoming h))
          rw [route_of_next hn plain hnext]
          exact List.mem_cons_of_mem _ hn'
    · rw [run_round_error budget sofar active hrun]
      exact .of_refused ⟨after, hroute⟩ hm hrefused hstore hexchanges hdrawn

end Flow

/-! ## 5. Rows -/

namespace Conversation

variable {c : Conversation} {n : Node} {now : Instant}

-- A copy that was read stays as it would be read if all instants that are added do so.
theorem kept_on (hc : c.kept = c) (hnow : now.FourDigitYear) (n : Node) (passed : Nat) :
    (c.on n passed now).kept = c.on n passed now := by
  obtain ⟨hlast, -, hcreated, -, hcompleted⟩ := kept_eq_iff.mp hc
  exact kept_eq_iff.mpr ⟨hlast, rfl, hcreated, Instant.kept_of_fourDigitYear hnow, hcompleted⟩

end Conversation

namespace Flow

variable {f : Flow} {env : Environment} {w : World} {c : Conversation} {n : Node} {stop : Stop}
  {ch : Conversation.Change} {sofar : Pass}
  {run : (Conversation × Except AutomationError Pass) × World}

-- What comes behind a node, and the end of a delay.
theorem change_of_halt? {now : Instant} (h : f.halt? now n = some (stop, ch)) :
    (∃ node, ch = .advance node) ∨ ch = .markWaiting ∨ ch = .complete ∨
      ∃ seconds t, n.kind = .delay seconds ∧
        now.add? (Span.ofSeconds seconds.toNat) = some t ∧ ch = .scheduleResume t := by
  unfold halt? at h
  split at h
  case h_1 | h_2 =>
    split at h
    · cases h
      exact .inl ⟨_, rfl⟩
    · cases h
      exact .inr (.inr (.inl rfl))
  case h_5 seconds hkind =>
    obtain ⟨t, ht, heq⟩ := Option.map_eq_some_iff.mp h
    cases heq
    exact .inr (.inr (.inr ⟨seconds, t, hkind, ht, rfl⟩))
  case h_6 =>
    cases h
    exact .inr (.inr (.inl rfl))
  all_goals
    cases h
    exact .inr (.inl rfl)

theorem route_length_le (budget : Nat) (id : String) : (f.route budget id).length ≤ budget := by
  induction budget generalizing id with
  | zero => exact Nat.le_refl 0
  | succ budget ih =>
    unfold route
    split
    · exact Nat.zero_le _
    · split
      · split
        · exact Nat.succ_le_succ (ih _)
        · exact Nat.succ_le_succ (Nat.zero_le _)
      · exact Nat.succ_le_succ (Nat.zero_le _)

-- What the clock shows on the way comes up.
theorem upcoming_reached {budget : Nat} {before : List Node} (h : before.length < budget) :
    env.Upcoming w budget (c.reached env w before) := by
  have htold : (c.told before).length ≤ before.length := List.length_filterMap_le _ _
  refine ⟨w.readings + c.readings before, by omega, ?_, rfl⟩
  rw [Conversation.readings]
  omega

-- The row of the conversation is the copy again.
theorem Treads.state? {budget : Nat} {id : String}
    (h : f.Treads env w c sofar (f.route budget id) run) (hs : w.store.Consistent)
    (held : w.store.Holds c) (active : c.isActive = true) (hc : c.kept = c)
    (year : ∀ now, env.Upcoming w budget now → now.FourDigitYear)
    (ends : ∀ n ∈ f.route budget id, ∀ seconds, n.kind = .delay seconds →
      ∀ now, env.Upcoming w budget now →
        ∃ t, now.add? (Span.ofSeconds seconds.toNat) = some t ∧ t.FourDigitYear) :
    run.2.store.state? c.id = .ok (some run.1.1) := by
  have hset {last : Conversation} (hlast : last.Same c) (hkept : last.kept = last) :
      (w.store.set last).state? c.id = .ok (some last) := by
    have hstate := (held.set hlast).state? (hs.set held active hlast)
    rwa [hkept, hlast.id] at hstate
  have hon (n : Node) (passed : Nat) (now : Instant) : (c.on n passed now).Same c :=
    ⟨rfl, rfl, rfl, rfl, rfl, rfl⟩
  have hlength := f.route_length_le budget id
  cases h with
  | through before n stop ch last done route halts changed delivered result store =>
    rw [route, List.length_append, List.length_singleton] at hlength
    have hreached : env.Upcoming w budget (c.reached env w before) := upcoming_reached hlength
    rw [store, result]
    refine hset (changed ▸ (Conversation.same_after _ ch _).trans (hon n _ _)) ?_
    rw [changed]
    refine Conversation.kept_after (Conversation.kept_on hc (year _ hreached) n _) ?_
      (year _ hreached)
    rcases change_of_halt? halts with ⟨node, rfl⟩ | rfl | rfl | ⟨seconds, t, hkind, ht, rfl⟩
    · trivial
    · trivial
    · trivial
    · obtain ⟨t', ht', hyear⟩ := ends n (by simp [route]) seconds hkind _ hreached
      cases ht.symm.trans ht'
      exact hyear
  | refused before after n m e left done route tells delivered refusal unmoved moved result =>
    rw [route, List.length_append, List.length_cons] at hlength
    rw [result]
    cases before with
    | nil =>
      obtain ⟨rfl, hstore⟩ := unmoved rfl
      rw [hstore]
      exact (held.state? hs).trans (by rw [hc])
    | cons b before =>
      obtain ⟨rfl, hstore⟩ := moved (by simp)
      have hreached : env.Upcoming w budget (c.reached env w (b :: before).dropLast) := by
        refine upcoming_reached ?_
        rw [List.length_dropLast, List.length_cons]
        rw [List.length_cons] at hlength
        omega
      rw [hstore]
      exact hset (hon n _ _) (Conversation.kept_on hc (year _ hreached) n _)

/-- A pass from a node of a flow that can be walked executes the nodes of `Flow.route`, whichever
way `Environment.clock` goes on, and the row of the conversation is afterwards what the copy is: it
hands over what they tell, one after the other, up to and including the first message that is
refused. If none is refused it reports how many nodes and messages there were, and why it went no
further. While it lasts the window is open, and all times have years of four digits. -/
theorem runPass_treads (faultless : env.Faultless) (hs : w.store.Consistent)
    (valid : f.validate = .ok ()) (row : w.store.state? c.id = .ok (some c))
    (active : c.isActive = true) (flow : c.flow = f.id) (hasNode : f.hasNode c.node = true)
    (resume : c.resumeAt = none) {budget : Nat} (hbudget : budget = max 1 env.policy.maxNodes)
    (opens : ∀ now, env.Upcoming w budget now → Window.isOpen c.lastInbound now = true)
    (year : ∀ now, env.Upcoming w budget now → now.FourDigitYear)
    (ends : ∀ n ∈ f.route budget c.node, ∀ seconds, n.kind = .delay seconds →
      ∀ now, env.Upcoming w budget now →
        ∃ t, now.add? (Span.ofSeconds seconds.toNat) = some t ∧ t.FourDigitYear) :
    f.Treads env w c ⟨0, 0, .completed⟩ (f.route budget c.node) (f.runPass c env w) ∧
      (f.runPass c env w).2.store.state? c.id = .ok (some (f.runPass c env w).1.1) := by
  subst hbudget
  obtain ⟨-, hkept, hholds⟩ := hs.holds_of_state? row
  have hvalid : f.problem? = none := by
    unfold validate at valid
    split at valid
    · assumption
    · cases valid
  have htreads : f.Treads env w c ⟨0, 0, .completed⟩ (f.route (max 1 env.policy.maxNodes) c.node)
      (f.runPass c env w) :=
    treads_passWithin faultless hvalid (max 1 env.policy.maxNodes) ⟨0, 0, .completed⟩
      (Nat.lt_of_lt_of_le Nat.one_pos (Nat.le_max_left _ _)) hs (hholds active) active flow hasNode
      resume opens fun n hn seconds hkind now h =>
        (ends n hn seconds hkind now h).imp fun _ h => h.1
  exact ⟨htreads, htreads.state? hs (hholds active) active hkept year ends⟩

/-- By `Flow.asking` somebody is greeted while the clock goes on, and asked nothing yet. -/
def halfAsked : World :=
  (World.start {}).after [(.passing, .putFlow .asking),
    (Environment.passing.withBudget 1, .handle .hello)]

/-- In `halfAsked` a pass goes on from the greeting and stops behind the question that follows,
while the clock goes on: a conversation that was changed in the second minute is changed for the
last time in the fifth. -/
theorem runPass_treads_asking :
    ∃ c run, run = Flow.asking.runPass c (Environment.passing.withBudget 2) halfAsked ∧
      halfAsked.store.state? (.ofNat 0) = .ok (some c) ∧ c.node = "hello" ∧
      c.updated = .ofSeconds 60 ∧ run.1.1.updated = .ofSeconds 240 ∧
      (Flow.asking.route 2 c.node).map (·.id) = ["hello", "ask"] ∧
      Flow.asking.Treads (Environment.passing.withBudget 2) halfAsked c ⟨0, 0, .completed⟩
        (Flow.asking.route 2 c.node) run ∧
      run.2.store.state? (.ofNat 0) = .ok (some run.1.1) := by
  have hreadings : halfAsked.readings = 2 := by decide +kernel
  have hminutes : ∀ n < 6, Window.isOpen (some (.ofSeconds 0)) (.ofSeconds (60 * (n : Nat))) = true ∧
      (Instant.ofSeconds (60 * (n : Nat))).FourDigitYear := by decide +kernel
  have hshown : ∀ now, (Environment.passing.withBudget 2).Upcoming halfAsked 2 now →
      Window.isOpen (some (.ofSeconds 0)) now = true ∧ now.FourDigitYear := by
    rintro now ⟨n, -, hn, rfl⟩
    rw [hreadings] at hn
    exact hminutes n hn
  have hplain : ∀ n ∈ Flow.asking.route 2 "hello", n.kind.isDelay = false := by decide +kernel
  refine ⟨(Conversation.begun (.ofNat 0) "shop" "main" "555" (.ofNat 1) "start"
      (some (.ofSeconds 0)) (.ofSeconds 0)).after (.advance "hello") (.ofSeconds 60), _, rfl,
    by decide +kernel, rfl, rfl, by decide +kernel, by decide +kernel,
    runPass_treads (fun _ _ => rfl) (World.traced_after rfl _).consistent (by decide +kernel)
      (by decide +kernel) rfl rfl (by decide +kernel) rfl rfl (fun now h => (hshown now h).1)
      (fun now h => (hshown now h).2) fun n hn seconds hkind => ?_⟩
  have hdelay := hplain n hn
  rw [hkind] at hdelay
  cases hdelay

end Flow

end Autoresponder
