import Autoresponder.Proofs.Engine.Lifecycle
import Autoresponder.Proofs.Flow.Graph
import Mathlib.Data.List.Chain
import Mathlib.Data.List.Infix

/-!
# Where conversations go

A conversation stands on a node of its flow, and moves along edges. Buttons are left only by a reply
that stands for one of them, a delay only when it is over, and a form only when it was filled in. A
callback whose delivery failed may put the conversation back to where it was found. This is told of
every store that was held on the way, each of which was written over the one before.
-/

namespace Autoresponder

open Store

/-! ## 1. Flows that keep their graph -/

/-- Whatever flow is stored under the identifier of `f` has its graph (`SameGraph`). -/
def Store.Draws (s : Store) (f : Flow) : Prop :=
  ∀ r ∈ s.flows, ∀ g, r.read = .ok g → g.id = f.id → g.SameGraph f

instance (s : Store) (f : Flow) : Decidable (s.Draws f) :=
  decidable_of_iff (∀ r ∈ s.flows, ∀ g ∈ r.read.toOption, g.id = f.id → g.SameGraph f) <| by
    unfold Draws
    refine forall₂_congr fun r _ => forall_congr' fun g => ?_
    cases r.read <;> simp [Except.toOption, eq_comm]

-- A flow that is loaded is one that is stored and can be walked.
theorem Store.Charts.sameGraph {s : Store} {workspace account : String} {f g : Flow}
    (h : s.Charts workspace account g) (draws : s.Draws f) (hid : g.id = f.id) :
    g.SameGraph f ∧ f.problem? = none := by
  obtain ⟨sn, hsn, hg⟩ := h
  obtain ⟨⟨r, hr, -, hread⟩, -, hvalid⟩ := (mem_flows_of_snapshot hsn).mp hg
  have hgraph := draws r hr g hread hid
  exact ⟨hgraph, hgraph.problem? ▸ hvalid⟩

-- To count a start changes no graph.
theorem Store.Draws.countFlowStart {s : Store} {f : Flow} (h : s.Draws f) (id : Uuid)
    (time : Instant) : (s.countFlowStart id time).Draws f := by
  intro r hr g hread hid
  obtain ⟨old, hold, rfl⟩ := List.mem_map.mp hr
  split at hread
  · rw [FlowRow.read_counted] at hread
    cases hold' : old.read with
    | error e =>
      rw [hold'] at hread
      cases hread
    | ok g' =>
      rw [hold'] at hread
      cases hread
      obtain ⟨hid', hnodes, hedges⟩ := h old hold g' hold' hid
      exact ⟨hid', hnodes, hedges⟩
  · exact h old hold g hread hid

theorem Deed.draws {events : List Event} {o : Occasion} {before : Store} {env : Environment}
    {first : Nat} {w w' : World} {f : Flow} (h : Deed events o before env first w w')
    (hs : w.store.Draws f) : w'.store.Draws f := by
  cases h with
  | quiet idles => exact idles.store ▸ hs
  | begin e id now s _ _ _ _ _ created =>
    rw [World.write, (states_createState created).1]
    exact hs
  | countStart flow now => exact hs.countFlowStart flow now
  | _ => exact hs

/-! ## 2. Moves -/

/-- An event stands for a button `b` that the node of a row offers. -/
structure Clicks (f : Flow) (o : Occasion) (r : StateRow) (b : Button) : Prop where
  meant : ∃ e, o = .event e ∧ b.IsMeantBy e.button e.text
  offered : ∃ n text bs variableName, f.node? r.node = some n ∧
    n.kind = .buttons text bs variableName ∧ b ∈ bs

/-- A reason to leave the node of a row for the `next` one while the occasion `o` is seen to that
arises in the world `w`. -/
inductive Exit (f : Flow) (o : Occasion) (env : Environment) (w : World) (r : StateRow)
    (next : String) : Prop where
  /-- A node that needs no reply is left. -/
  | pass {n : Node} (node : f.node? r.node = some n) (plain : n.kind.isPlain = true)
      (edge : f.Joins r.node next)
  /-- Buttons are left along the edge of the one that is stored and that the event stands for. -/
  | answer {b : Button} {x : Edge} (clicks : Clicks f o r b) (stored : r.lastButton = some b.id)
      (mem : x ∈ f.edges) (source : x.source = r.node) (target : x.target = next)
      (handle : x.handle = some b.id)
  /-- A delay is left when it is over by what the clock shows at first. -/
  | wake {id : Uuid} {n : Node} {text : String} (occasion : o = .resume id)
      (row : r.id = toString id) (node : f.node? r.node = some n) (kind : n.kind.isDelay = true)
      (resumeAt : r.resumeAt = some text) (read : w.readings < (o.act env w).2.readings)
      (due : TimeText.readStored text ≤ env.clock w.readings) (edge : f.Joins r.node next)
  /-- A form is left when it was filled in. -/
  | fill {id : Uuid} {fields : List (String × Json)} {n : Node} (occasion : o = .form id fields)
      (row : r.id = toString id) (node : f.node? r.node = some n) (kind : n.kind.isForm = true)
      (edge : f.Joins r.node next)

/-- A row is on the node where another one is, and is resumed when that one is. -/
structure Store.StateRow.Rests (r r' : StateRow) : Prop where
  node : r'.node = r.node
  /-- The instants that are read are the same. -/
  resumeAt : r'.resumeAt.map TimeText.readStored = r.resumeAt.map TimeText.readStored

/-- How a row goes on while the occasion `o` is seen to that arises in the world `w`, as far as its
node and the instant are concerned at which it is resumed. -/
inductive Move (f : Flow) (o : Occasion) (env : Environment) (w : World) (r r' : StateRow) :
    Prop where
  | rest (rests : r.Rests r')
  /-- The conversation is over. -/
  | close (node : r'.node = r.node) (inactive : r'.isActive = .int 0) (resumeAt : r'.resumeAt = none)
  /-- A delay begins, at a time that the clock shows meanwhile. -/
  | delay {n : Node} {seconds : UInt64} {now t : Instant} (node : r'.node = r.node)
      (stands : f.node? r.node = some n) (kind : n.kind = .delay seconds)
      (fresh : r.resumeAt = none) (told : env.Told w.readings (o.act env w).2 now)
      (ends : now.add? (Span.ofSeconds seconds.toNat) = some t)
      (resumeAt : r'.resumeAt = some t.stored)
  /-- A message was refused. It is due now, or tried again. -/
  | retry {n : Node} (node : r'.node = r.node) (stands : f.node? r.node = some n)
      (kind : n.kind.isDelay = false)
  | leave (exit : Exit f o env w r r'.node) (resumeAt : r'.resumeAt = none)

/-- A conversation begins at the start of a flow that can be walked. -/
structure Enters (f : Flow) (r : StateRow) : Prop where
  valid : f.problem? = none
  start : ∃ n, f.start? = some n ∧ r.node = n.id
  resumeAt : r.resumeAt = none

/-- The row of an active conversation is written over. -/
structure Store.StateRow.Rewritten (r r' : StateRow) : Prop where
  id : r'.id = r.id
  flow : r'.flow = r.flow
  active : r.isActive = .int 1
  version : r.version.Before r'.version

/-- A row goes back to the node and to the instant that it had when it was `found`. -/
structure Undoes (found r' : StateRow) : Prop where
  rests : found.Rests r'
  /-- Where an instant was read, its text is as it was. -/
  text : ∀ text, found.resumeAt = some text → (TimeText.readStored text).FourDigitYear →
    r'.resumeAt = some text

/-- How the row of a conversation of the flow `f` is written over while the occasion `o` is seen to
that arises in the world `w`. -/
inductive Goes (f : Flow) (o : Occasion) (env : Environment) (w : World) (r r' : StateRow) :
    Prop where
  /-- The conversation goes on in its flow. -/
  | moves (rewritten : r.Rewritten r') (move : Move f o env w r r')
      (button : r'.lastButton = r.lastButton)
  /-- It is noted which button an event stands for. -/
  | clicks {b : Button} (rewritten : r.Rewritten r') (rests : r.Rests r') (clicks : Clicks f o r b)
      (button : r'.lastButton = some b.id)
  /-- A callback for the conversation fails, and it goes back to where that found it. -/
  | undoes {id : Uuid} {found : StateRow} (rewritten : r.Rewritten r')
      (called : o.conversation? = some id) (row : r.id = toString id)
      (failed : (o.act env w).1.IsDeliveryFailure) (there : found ∈ w.store.states)
      (same : found.id = r.id ∧ found.flow = r.flow) (active : found.isActive = .int 1)
      (undone : Undoes found r')
      (button : r'.lastButton = r.lastButton)

theorem Goes.rewritten {f : Flow} {o : Occasion} {env : Environment} {w : World} {r r' : StateRow}
    (h : Goes f o env w r r') : r.Rewritten r' := by
  cases h with
  | moves rewritten _ _ => exact rewritten
  | clicks rewritten _ _ _ => exact rewritten
  | undoes rewritten _ _ _ _ _ _ _ _ => exact rewritten

/-- The store `s'` is written over `s` while the occasion `o` is seen to that arises in the world
`w`. -/
structure Stride (f : Flow) (o : Occasion) (env : Environment) (w : World) (s s' : Store) :
    Prop where
  /-- No row is lost. -/
  keeps : ∀ r ∈ s.states, ∃ r' ∈ s'.states, r'.id = r.id
  /-- The row of a conversation of the flow is as it was, or is written over. -/
  goes : ∀ r ∈ s.states, ∀ r' ∈ s'.states, r'.id = r.id → r.flow = toString f.id →
    r'.flow = r.flow ∧ (r' = r ∨ Goes f o env w r r')
  /-- A row that was not there before has begun with an event, at the start of the flow. -/
  begins : ∀ r' ∈ s'.states, r'.flow = toString f.id →
    (∃ r ∈ s.states, r.id = r'.id ∧ r.flow = r'.flow) ∨
      (∀ r ∈ s.states, r.id ≠ r'.id) ∧ ∃ e, o = .event e ∧ Enters f r'

/-- The stores that a world has held, newest first. -/
def World.held (w : World) : List Store := w.store :: w.past

/-- Every store that is held from the world `w` to `w'` has the property `P`. -/
def World.Always (P : Store → Prop) (w w' : World) : Prop :=
  ∃ written, w'.held = written ++ w.held ∧ ∀ s ∈ written ++ [w.store], P s

/-- From the world `w` to `w'`, while the occasion `o` is seen to that arises in `w`, every store
that is held is a stride away from the one before. -/
def Walks (f : Flow) (o : Occasion) (env : Environment) (w w' : World) : Prop :=
  ∃ written, w'.held = written ++ w.held ∧
    (written ++ [w.store]).IsChain fun s' s => Stride f o env w s s'

section

variable {events : List Event} {o : Occasion} {env : Environment} {w w₁ w₂ : World} {f : Flow}
  {r r' : StateRow}

-- The row of a conversation after an effect is the row that was there, or it has been rewritten.
theorem Effect.rewritten {first : Nat} (h : Effect events env first w₁ w₂)
    (hs : Traced events w₁.store) (hr : r ∈ w₁.store.states) (hr' : r' ∈ w₂.store.states)
    (hid : r'.id = r.id) : r' = r ∨ r.Rewritten r' := by
  have hdescends := h.descends hs hr'
  rcases hdescends.evolves hs.consistent hr hid with heq | ⟨active, n, hn, hbefore⟩
  · exact .inl heq
  · refine .inr ⟨hid, ?_, active, hn ▸ hbefore⟩
    cases hdescends with
    | same stored => rw [hs.consistent.eq_of_id stored hr hid]
    | changed c d ch now _ stored kept _ =>
      have hsame := (c.same_after ch now).trans (.symm (.of_kept_eq kept))
      have hrow : .ofConversation d = r := hs.consistent.eq_of_id stored hr
        ((congrArg toString hsame.id).symm.trans hid)
      rw [← hrow]
      exact congrArg toString hsame.flow
    | displaced old time stored _ =>
      obtain rfl : old = r := hs.consistent.eq_of_id stored hr hid
      rfl
    | begun e id flow node now _ fresh => exact absurd hid.symm (fresh r hr)

-- The flow in which a conversation stands has the graph of the flow that is told of.
theorem Conversation.Stands.graph {before : Store} {c : Conversation} {g : Flow} {n : Node}
    (h : c.Stands before o g n) (draws : before.Draws f) (hflow : c.flow = f.id) {node : String}
    (hnode : node = c.node) : g.SameGraph f ∧ f.node? node = some n := by
  have hg := (h.charted.sameGraph draws (h.flow.trans hflow)).1
  refine ⟨hg, ?_⟩
  rw [← hg.node?, ← h.node, ← hnode]

-- The rows of two states of a conversation, where the one is as late as the other.
theorem Store.StateRow.rests_ofConversation {c d : Conversation} (hnode : d.node = c.node)
    (hresumeAt : d.resumeAt.map Instant.kept = c.resumeAt.map Instant.kept) :
    (ofConversation c).Rests (ofConversation d) where
  node := hnode
  resumeAt :=
    calc (optionalStored d.resumeAt).map TimeText.readStored
        = d.resumeAt.map Instant.kept := map_readStored _
      _ = c.resumeAt.map Instant.kept := hresumeAt
      _ = (optionalStored c.resumeAt).map TimeText.readStored := (map_readStored _).symm

-- A delay that is over was given an end, and that has passed.
theorem Window.exists_of_delayDue {resumeAt : Option Instant} {now : Instant}
    (h : Window.delayDue resumeAt now = true) : ∃ t, resumeAt = some t ∧ t ≤ now := by
  unfold Window.delayDue at h
  split at h
  · rename_i t
    exact ⟨t, rfl, by simpa using h⟩
  · cases h

-- The text of an instant that is kept.
theorem Store.StateRow.exists_text {d : Conversation} {t : Instant}
    (h : d.resumeAt.map Instant.kept = some t) :
    ∃ text, (ofConversation d).resumeAt = some text ∧ TimeText.readStored text = t := by
  rw [← map_readStored] at h
  exact Option.map_eq_some_iff.mp h

/-- What a `Cause` makes of a copy is how its row goes on. -/
theorem Cause.goes {c d : Conversation} {ch : Conversation.Change} {now : Instant}
    (h : Cause w.store o (env.clock w.readings) now c ch)
    (told : env.Told w.readings (o.act env w).2 now) (draws : w.store.Draws f)
    (hkept : d.kept = c.kept) (hflow : c.flow = f.id)
    (hrewritten : (StateRow.ofConversation d).Rewritten
      (.ofConversation { c.after ch now with created := d.created })) :
    Goes f o env w (.ofConversation d)
      (.ofConversation { c.after ch now with created := d.created }) := by
  have hnode : d.node = c.node := (congrArg Conversation.node hkept :)
  have hid : d.id = c.id := (congrArg Conversation.id hkept :)
  have hbutton : d.lastButton = c.lastButton := (congrArg Conversation.lastButton hkept :)
  have hresumeAt : d.resumeAt.map Instant.kept = c.resumeAt.map Instant.kept :=
    (congrArg Conversation.resumeAt hkept :)
  have hgraph {g : Flow} {n : Node} (stands : c.Stands w.store o g n) :
      g.SameGraph f ∧ f.node? (StateRow.ofConversation d).node = some n :=
    stands.graph draws hflow hnode
  have hedge {g : Flow} {next : String} (hg : g.SameGraph f) (h : g.next? c.node = some next) :
      f.Joins (StateRow.ofConversation d).node next := by
    rw [hg.next?, ← hnode] at h
    exact Flow.joins_of_next? h
  cases h with
  | notes h =>
    obtain ⟨hsame, hsame', hsame''⟩ := h.after c now
    refine .moves hrewritten (.rest (StateRow.rests_ofConversation (hsame.trans hnode.symm) ?_))
      (hsame''.trans hbutton.symm)
    rw [hresumeAt, ← hsame']
  | complete => exact .moves hrewritten (.close hnode.symm rfl rfl) hbutton.symm
  | @record g n e choice occasion stands chosen =>
    obtain ⟨hg, -⟩ := hgraph stands
    rw [hg.continuation?, ← hnode] at chosen
    obtain ⟨n', text, bs, hn', hkind, hoffered, hmeant, -⟩ := Flow.continuation?_eq_some chosen
    exact .clicks hrewritten (StateRow.rests_ofConversation hnode.symm hresumeAt.symm)
      ⟨⟨e, occasion, hmeant⟩, n', text, bs, _, hn', hkind, hoffered⟩ rfl
  | retry _ stands kind =>
    exact .moves hrewritten (.retry hnode.symm (hgraph stands).2 kind) hbutton.symm
  | delay stands kind fresh ends =>
    have hfresh : d.resumeAt = none := by simpa [fresh] using hresumeAt
    refine .moves hrewritten (.delay hnode.symm (hgraph stands).2 kind ?_ told ends rfl)
      hbutton.symm
    rw [StateRow.ofConversation, hfresh]
    rfl
  | pass stands plain edge =>
    obtain ⟨hg, hn⟩ := hgraph stands
    exact .moves hrewritten (.leave (.pass hn plain (hedge hg edge)) rfl) hbutton.symm
  | @answer g n e choice occasion stands chosen recorded =>
    obtain ⟨hg, -⟩ := hgraph stands
    rw [hg.continuation?, ← hnode] at chosen
    obtain ⟨n', text, bs, hn', hkind, hoffered, hmeant, htarget⟩ :=
      Flow.continuation?_eq_some chosen
    obtain ⟨x, hx, hsource, hend, hhandle⟩ := Flow.edge_of_target? htarget
    exact .moves hrewritten (.leave (.answer ⟨⟨e, occasion, hmeant⟩, n', text, bs, _, hn', hkind,
      hoffered⟩ (hbutton.trans recorded) hx hsource hend hhandle) rfl) hbutton.symm
  | wake occasion stands kind read due edge =>
    obtain ⟨hg, hn⟩ := hgraph stands
    obtain ⟨t, ht, hdue⟩ := Window.exists_of_delayDue due
    have hresume : d.resumeAt.map Instant.kept = some t := by
      rw [← ht, ← read, ← hkept]
      rfl
    obtain ⟨text, htext, rfl⟩ := StateRow.exists_text hresume
    obtain ⟨m, hle, hlt, -⟩ := told
    exact .moves hrewritten (.leave (.wake occasion (congrArg toString hid) hn kind htext
      (hle.trans_lt hlt) hdue (hedge hg edge)) rfl) hbutton.symm
  | fill occasion stands kind edge =>
    obtain ⟨hg, hn⟩ := hgraph stands
    exact .moves hrewritten (.leave (.fill occasion (congrArg toString hid) hn kind
      (hedge hg edge)) rfl) hbutton.symm

/-! ## 3. Writes -/

-- Where conversations are as they were, a write is a stride.
theorem Stride.of_states {s s' : Store} (hs : s.Consistent) (h : s'.states = s.states) :
    Stride f o env w s s' where
  keeps r hr := ⟨r, h ▸ hr, rfl⟩
  goes r hr r' hr' hid _ := by
    obtain rfl := hs.eq_of_id (h ▸ hr') hr hid
    exact ⟨rfl, .inl rfl⟩
  begins r' hr' _ := .inl ⟨r', h ▸ hr', rfl, rfl⟩

-- No row is lost, and none changes its flow.
theorem Effect.stride {first : Nat} (h : Effect events env first w₁ w₂)
    (hs : Traced events w₁.store) {env : Environment}
    (goes : ∀ r ∈ w₁.store.states, ∀ r' ∈ w₂.store.states, r'.id = r.id →
      r.flow = toString f.id → r.Rewritten r' → Goes f o env w r r')
    (begins : ∀ r' ∈ w₂.store.states, r'.flow = toString f.id →
      (∀ r ∈ w₁.store.states, r.id ≠ r'.id) → ∃ e, o = .event e ∧ Enters f r') :
    Stride f o env w w₁.store w₂.store where
  keeps r hr := h.persists hr
  goes r hr r' hr' hid hflow := by
    rcases h.rewritten hs hr hr' hid with rfl | hrewritten
    · exact ⟨rfl, .inl rfl⟩
    · exact ⟨hrewritten.flow, .inr (goes r hr r' hr' hid hflow hrewritten)⟩
  begins r' hr' hflow := by
    by_cases hold : ∃ r ∈ w₁.store.states, r.id = r'.id
    · obtain ⟨r, hr, hid⟩ := hold
      refine .inl ⟨r, hr, hid, ?_⟩
      rcases h.rewritten hs hr hr' hid.symm with rfl | hrewritten
      · rfl
      · exact hrewritten.flow.symm
    · have hnew : ∀ r ∈ w₁.store.states, r.id ≠ r'.id := fun r hr hid => hold ⟨r, hr, hid⟩
      exact .inr ⟨hnew, begins r' hr' hflow hnew⟩

/-- A `Deed` is a `Stride`. -/
theorem Deed.stride (h : Deed events o w.store (env.asOf w) w.readings w₁ w₂)
    (hs : Traced events w₁.store) (draws : w.store.Draws f)
    (hread : w₁.readings ≤ (o.act env w).2.readings) :
    Stride f o env w w₁.store w₂.store := by
  have heffect := h.effect
  cases h with
  | quiet idles => exact .of_states hs.consistent (congrArg Store.states idles.store)
  | change c ch now told live active _ cause =>
    refine heffect.stride hs (fun r hr r' hr' hid hflow hrewritten => ?_) fun r' hr' _ hnew => ?_
    · rcases live.held.eq_of_set hs.consistent (c.same_after ch now) hr hr' hid with
        rfl | ⟨d, rfl, hkept, rfl⟩
      · exact .moves hrewritten (.rest ⟨rfl, rfl⟩) rfl
      · have hflow' : c.flow = f.id :=
          (congrArg Conversation.flow hkept :).symm.trans (Uuid.toString_inj.mp hflow)
        exact cause.goes (told.mono hread) draws hkept hflow' hrewritten
    · rcases mem_set hr' with hr' | ⟨old, hold, -, rfl⟩
      · exact absurd rfl (hnew r' hr')
      · exact absurd rfl (hnew old hold)
  | @begin g start e id now s _ occasion _ charted starts created =>
    obtain ⟨hstates, hfresh⟩ := states_createState created
    have hnews {r' : StateRow} (hr' : r' ∈ s.states) :
        (∃ old ∈ w₁.store.states, r' = old.yielded (.begun id e.workspace e.account e.phone g.id
          start.id (some e.received) now)) ∨
        r' = .ofConversation (.begun id e.workspace e.account e.phone g.id start.id
          (some e.received) now) := by
      rw [hstates, List.mem_append, List.mem_map] at hr'
      rcases hr' with ⟨old, hold, rfl⟩ | hr'
      · exact .inl ⟨old, hold, rfl⟩
      · exact .inr (List.mem_singleton.mp hr')
    refine heffect.stride hs (fun r hr r' hr' hid hflow hrewritten => ?_)
      fun r' hr' hflow hnew => ?_
    · rcases hnews hr' with ⟨old, hold, rfl⟩ | rfl
      · obtain rfl : old = r := hs.consistent.eq_of_id hold hr ((old.id_yielded _).symm.trans hid)
        unfold StateRow.yielded at hrewritten ⊢
        split
        · rename_i hfor
          rw [if_pos hfor] at hrewritten
          exact .moves hrewritten (.close rfl rfl rfl) rfl
        · exact .moves (by rename_i hfor; rwa [if_neg hfor] at hrewritten) (.rest ⟨rfl, rfl⟩) rfl
      · exact absurd hid.symm (hfresh r hr)
    · rcases hnews hr' with ⟨old, hold, rfl⟩ | rfl
      · exact absurd (old.id_yielded _).symm (hnew old hold)
      · obtain ⟨hg, hvalid⟩ := charted.sameGraph draws (Uuid.toString_inj.mp hflow)
        exact ⟨e, occasion, hvalid, ⟨start, hg.start? ▸ starts, rfl⟩, rfl⟩
  | send c m now _ _ _ _ _ => exact .of_states hs.consistent rfl
  | reply e m now _ _ _ _ _ _ => exact .of_states hs.consistent rfl
  | countStart flow now => exact .of_states hs.consistent rfl

/-! ## 4. Calls -/

-- An effect writes one store over the last, or none.
theorem Effect.held {first : Nat} (h : Effect events env first w₁ w₂) :
    w₂.held = w₁.held ∨ w₂.held = w₂.store :: w₁.held := by
  cases h with
  | quiet idles => exact .inl (by rw [World.held, idles.store, idles.past, World.held])
  | send c m now _ _ _ => exact .inl rfl
  | reply e m now _ _ _ => exact .inl rfl
  | _ => exact .inr rfl

theorem Walks.refl (f : Flow) (o : Occasion) (env : Environment) (w : World) :
    Walks f o env w w :=
  ⟨[], rfl, .singleton _⟩

-- What is written last was written over the store that was held.
theorem Walks.tail {first : Nat} {env' : Environment} (h : Walks f o env w w₁)
    (heffect : Effect events env' first w₁ w₂) (hstride : Stride f o env w w₁.store w₂.store) :
    Walks f o env w w₂ := by
  obtain ⟨written, hheld, hchain⟩ := h
  rcases heffect.held with hsame | hnew
  · exact ⟨written, hsame.trans hheld, hchain⟩
  · refine ⟨w₂.store :: written, by rw [hnew, hheld, List.cons_append], ?_⟩
    rw [List.cons_append]
    refine List.isChain_cons.mpr ⟨fun s hs => ?_, hchain⟩
    have hlast : (written ++ [w.store]).head? = some w₁.store := by
      have hhead := congrArg List.head? hheld
      cases written <;> exact hhead.symm
    obtain rfl := Option.some.inj (hlast.symm.trans hs)
    exact hstride

/-- What every `Stride` keeps holds of every store that is held on the way. -/
theorem Walks.induct {P : Store → Prop} (h : Walks f o env w w₁) (start : P w.store)
    (step : ∀ s s', P s → Stride f o env w s s' → P s') : World.Always P w w₁ := by
  obtain ⟨written, hheld, hchain⟩ := h
  refine ⟨written, hheld, ?_⟩
  clear hheld
  induction written with
  | nil => exact fun s hs => List.mem_singleton.mp hs ▸ start
  | cons s rest ih =>
    rw [List.cons_append, List.isChain_cons] at hchain
    obtain ⟨hfirst, hrest⟩ := hchain
    have ih := ih hrest
    intro s' hs'
    rcases List.mem_cons.mp hs' with rfl | hs'
    · have hne : rest ++ [w.store] ≠ [] :=
        List.append_ne_nil_of_right_ne_nil rest (List.cons_ne_nil w.store [])
      obtain ⟨s, hs⟩ := Option.isSome_iff_exists.mp (List.isSome_head?.mpr hne)
      exact step s s' (ih s (List.mem_of_mem_head? hs)) (hfirst s hs)
    · exact ih s' hs'

namespace World.Always

variable {P : Store → Prop}

-- The last store that is held is the one that the world has.
theorem store (h : Always P w w₁) : P w₁.store := by
  obtain ⟨written, hheld, h⟩ := h
  refine h _ ?_
  cases written with
  | nil => exact List.mem_singleton.mpr (List.cons.inj hheld).1
  | cons s rest => exact (List.cons.inj hheld).1 ▸ List.mem_cons_self

theorem of_held_eq (h : P w.store) (hheld : w₁.held = w.held) : Always P w w₁ :=
  ⟨[], hheld, fun _ hs => List.mem_singleton.mp hs ▸ h⟩

theorem trans (h : Always P w w₁) (h' : Always P w₁ w₂) : Always P w w₂ := by
  obtain ⟨written, hheld, h⟩ := h
  obtain ⟨written', hheld', h'⟩ := h'
  refine ⟨written' ++ written, by rw [hheld', hheld, List.append_assoc], fun s hs => ?_⟩
  rw [List.append_assoc, List.mem_append] at hs
  exact hs.elim (fun hs => h' s (List.mem_append_left _ hs)) (h s)

end World.Always

/-- Along a path of deeds conversations walk (`Walks`). -/
theorem walks_of_path (h : (o.conduct events w.store (env.asOf w) w.readings).Path w w₁)
    (hs : Traced events w.store) (draws : w.store.Draws f)
    (hread : w₁.readings ≤ (o.act env w).2.readings) : Walks f o env w w₁ := by
  induction h with
  | refl => exact .refl f o env w
  | tail hpath hdeed ih =>
    have hs₁ := Conduct.Path.sound hpath ⟨hs, rfl, rfl, rfl⟩
    have hread₁ := hdeed.effect.readings.trans hread
    exact (ih hread₁).tail hdeed.effect (hdeed.stride hs₁.1 draws hread₁)

theorem Store.StateRow.place_read {c : Conversation} (h : r.read = .ok c) :
    c.node = r.node ∧ c.resumeAt = r.resumeAt.map TimeText.readStored := by
  simp only [StateRow.read, bind, Except.bind, pure, Except.pure] at h
  repeat' split at h
  all_goals cases h
  exact ⟨rfl, rfl⟩

-- A text from which an instant was read is how the instant is written.
theorem Store.StateRow.Written.stored_readStored (h : r.Written) {text : String}
    (htext : r.resumeAt = some text) (hyear : (TimeText.readStored text).FourDigitYear) :
    (TimeText.readStored text).stored = text := by
  obtain ⟨c, version, rfl, -⟩ := h
  obtain ⟨t, -, rfl⟩ := Option.map_eq_some_iff.mp htext
  rw [← t.kept_def] at hyear ⊢
  by_cases ht : t.FourDigitYear
  · rw [Instant.kept_of_fourDigitYear ht]
  · rw [Instant.kept_of_not_fourDigitYear ht] at hyear
    exact absurd hyear Instant.not_fourDigitYear_first

-- A conversation that is found was read from a row that is there.
theorem Store.Consistent.exists_of_state? {s : Store} (hs : s.Consistent) {id : Uuid}
    {c : Conversation} (h : s.state? id = .ok (some c)) :
    ∃ found ∈ s.states, found.id = toString id ∧ found.read = .ok c := by
  obtain ⟨hid, -, -⟩ := hs.holds_of_state? h
  unfold state? readFirst at h
  split at h
  · rename_i found hfind
    refine ⟨found, List.mem_of_find?_eq_some hfind, by simpa using List.find?_some hfind, ?_⟩
    cases hread : found.read with
    | error e => simp [hread, Except.map] at h
    | ok d => simpa [hread, Except.map] using h
  · cases h

-- A row that takes its node and its instant from what was read of another row goes back to that one.
theorem Store.Consistent.undoes {s : Store} {found : StateRow} (hs : s.Consistent)
    (hfound : found ∈ s.states) {c : Conversation} (hread : found.read = .ok c)
    (hnode : r'.node = c.node) (hresumeAt : r'.resumeAt = optionalStored c.resumeAt) :
    Undoes found r' := by
  obtain ⟨hnode', hresume⟩ := StateRow.place_read hread
  obtain ⟨-, -, -, -, hkept, -⟩ := (hs.written found hfound).holds hfound hread
  refine ⟨⟨hnode.trans hnode', ?_⟩, fun text htext hyear => ?_⟩
  · calc r'.resumeAt.map TimeText.readStored
        = c.resumeAt.map Instant.kept := by rw [hresumeAt, StateRow.map_readStored]
      _ = c.kept.resumeAt := rfl
      _ = c.resumeAt := by rw [hkept]
      _ = found.resumeAt.map TimeText.readStored := hresume
  · rw [htext] at hresume
    rw [hresumeAt, hresume]
    exact congrArg some ((hs.written found hfound).stored_readStored htext hyear)

-- The flow of a conversation never changes.
theorem Reach.flow {first : Nat} (h : Reach events env first w w₁) (hs : Traced events w.store)
    (hr : r ∈ w.store.states) : ∃ r' ∈ w₁.store.states, r'.id = r.id ∧ r'.flow = r.flow := by
  induction h with
  | refl => exact ⟨r, hr, rfl, rfl⟩
  | tail hreach heffect ih =>
    obtain ⟨r₁, hr₁, hid, hflow⟩ := ih
    obtain ⟨r₂, hr₂, hid'⟩ := heffect.persists hr₁
    refine ⟨r₂, hr₂, hid'.trans hid, ?_⟩
    rcases heffect.rewritten (Reach.traced hreach hs) hr₁ hr₂ hid' with rfl | hrewritten
    · exact hflow
    · exact hrewritten.flow.trans hflow

/-- By `Keep` a conversation stays where it is, or goes back to where it was found. -/
theorem Keep.stride {first : Nat} (h : Keep events o w.store (env.asOf w) w.readings w₁ w₂)
    (hreach : Reach events env first w w₁) (hs : Traced events w.store) (draws : w.store.Draws f)
    (fails : (o.act env w).1.IsDeliveryFailure) : Stride f o env w w₁.store w₂.store := by
  have hs₁ := hreach.traced hs
  have heffect := h.effect
  -- No conversation begins when one is kept.
  have hnone {c : Conversation} {ch : Conversation.Change} {now : Instant} {r' : StateRow}
      (hr' : r' ∈ (w₁.store.set (c.after ch now)).states)
      (hnew : ∀ r ∈ w₁.store.states, r.id ≠ r'.id) : False := by
    rcases mem_set hr' with hr' | ⟨old, hold, -, rfl⟩
    · exact hnew r' hr' rfl
    · exact hnew old hold rfl
  cases h with
  | rewind c c₀ told occasion live active stored =>
    refine heffect.stride hs₁ (fun r hr r' hr' hid hflow hrewritten => ?_)
      fun r' hr' _ hnew => (hnone hr' hnew).elim
    rcases live.held.eq_of_set hs₁.consistent (c.same_after _ _) hr hr' hid with
      rfl | ⟨d, rfl, hkept, rfl⟩
    · exact .moves hrewritten (.rest ⟨rfl, rfl⟩) rfl
    · have hrow : (StateRow.ofConversation d).id = toString c.id :=
        congrArg toString (congrArg Conversation.id hkept :)
      obtain ⟨found, hfound, hid₀, hread⟩ := hs.consistent.exists_of_state? stored
      obtain ⟨r₁, hr₁, hid₁, hflow₁⟩ := hreach.flow hs hfound
      obtain rfl := hs₁.consistent.eq_of_id hr₁ hr ((hid₁.trans hid₀).trans hrow.symm)
      have hactive : found.isActive = .int 1 := by
        obtain ⟨r₂, hr₂, hid₂, hevolves⟩ := hreach.evolves hs hfound
        obtain rfl := hs₁.consistent.eq_of_id hr₂ hr (hid₂.trans hid₁.symm)
        exact hevolves.elim (fun heq => heq ▸ hrewritten.active) And.left
      exact .undoes hrewritten occasion hrow fails hfound ⟨hid₁.symm, hflow₁.symm⟩ hactive
        (hs.consistent.undoes hfound hread rfl rfl) (congrArg Conversation.lastButton hkept.symm :)
  | postpone c told occasion live active stands kind =>
    refine heffect.stride hs₁ (fun r hr r' hr' hid hflow hrewritten => ?_)
      fun r' hr' _ hnew => (hnone hr' hnew).elim
    rcases live.held.eq_of_set hs₁.consistent (c.same_after _ _) hr hr' hid with
      rfl | ⟨d, rfl, hkept, rfl⟩
    · exact .moves hrewritten (.rest ⟨rfl, rfl⟩) rfl
    · have hnode : d.node = c.node := (congrArg Conversation.node hkept :)
      have hflow' : c.flow = f.id :=
        (congrArg Conversation.flow hkept :).symm.trans (Uuid.toString_inj.mp hflow)
      exact .moves hrewritten (.retry hnode.symm (stands.graph draws hflow' hnode).2 kind)
        (congrArg Conversation.lastButton hkept.symm :)

/-- What is done on an `Occasion` makes conversations walk. -/
theorem Occasion.walks_act (handled : ∀ e, o = .event e → e ∈ events)
    (hs : Traced events w.store) (draws : w.store.Draws f) : Walks f o env w (o.act env w).2 := by
  have hhappens : o.Happens events env w (o.act env w).1 (o.act env w).2 :=
    o.happens_act handled hs
  generalize hw : (o.act env w).2 = w' at hhappens
  generalize houtcome : (o.act env w).1 = outcome at hhappens
  cases hhappens with
  | deeds path => exact walks_of_path path hs draws (hw ▸ le_refl _)
  | @logs _ _ w₁ _ _ path logs =>
    obtain ⟨entry, s, _, _, _, _, _, _, _, logged⟩ := logs
    have heffect : Effect events env w.readings w₁ (w₁.write s) := .log entry s logged
    have hs₁ := Conduct.Path.sound path ⟨hs, rfl, rfl, rfl⟩
    exact (walks_of_path path hs draws (hw ▸ le_refl _)).tail heffect
      (.of_states hs₁.1.consistent (states_logFiring logged))
  | @keeps _ w₁ _ path fails keep =>
    have hdeeds : o.Happens events env w outcome w₁ := .deeds path
    have hreach : Reach events env w.readings w w₁ := hdeeds.reach
    have hkept := keep.effect.earlier (le_refl _)
    exact (walks_of_path path hs draws (hw ▸ hkept.readings)).tail hkept
      (keep.stride hreach hs draws (houtcome ▸ fails))

theorem Occasion.draws_act (handled : ∀ e, o = .event e → e ∈ events)
    (hs : Traced events w.store) (draws : w.store.Draws f) : (o.act env w).2.store.Draws f := by
  have hpath {w₁ : World}
      (path : (o.conduct events w.store (env.asOf w) w.readings).Path w w₁) :
      w₁.store.Draws f := by
    induction path with
    | refl => exact draws
    | tail _ hdeed ih => exact hdeed.draws ih
  have hhappens : o.Happens events env w (o.act env w).1 (o.act env w).2 :=
    o.happens_act handled hs
  generalize (o.act env w).2 = w' at hhappens ⊢
  generalize (o.act env w).1 = outcome at hhappens
  cases hhappens with
  | deeds path => exact hpath path
  | logs _ path logs =>
    obtain ⟨entry, s, _, _, _, _, _, _, _, logged⟩ := logs
    have hdraws := hpath path
    rw [World.write, eq_of_logFiring logged]
    exact hdraws
  | keeps path _ keep =>
    have hdraws := hpath path
    cases keep with
    | rewind c found _ _ _ _ _ => exact hdraws
    | postpone c _ _ _ _ _ _ => exact hdraws

end

/-! ## 5. Operations -/

/-- The world to which a tick has led when the first `i` of the conversations that are due have been
called for. -/
def Environment.amid (env : Environment) (w : World) (i : Nat) : World :=
  (resumeAll ((env.due w).take i) env (w.reading.counting .dueStates)).2

/-- Conversations of the flow `f` walk in an operation. -/
def Operation.Walks (f : Flow) (env : Environment) (w : World) (op : Operation) : Prop :=
  match op with
  | handle e => Autoresponder.Walks f (.event e) env w (w.perform env op)
  | resume id => Autoresponder.Walks f (.resume id) env w (w.perform env op)
  | completeForm id fields => Autoresponder.Walks f (.form id fields) env w (w.perform env op)
  | tick => (env.amid w 0).held = w.held ∧ env.amid w (env.due w).length = w.perform env op ∧
      ∀ (i : Nat) (c : Conversation), (env.due w)[i]? = some c →
        Autoresponder.Walks f (.resume c.id) env (env.amid w i) (env.amid w (i + 1))
  | _ => ∃ written, (w.perform env op).held = written ++ w.held ∧
      ∀ s ∈ written, s.states = w.store.states

section

variable {f : Flow} {o : Occasion} {env : Environment} {w w' : World} {r r' : StateRow}

theorem Exit.hasNode {next : String} (h : Exit f o env w r next) (valid : f.problem? = none) :
    f.hasNode next = true := by
  cases h with
  | pass _ _ edge => exact edge.hasNode valid
  | answer _ _ mem source target _ => exact Flow.Joins.hasNode ⟨_, mem, source, target⟩ valid
  | wake _ _ _ _ _ _ _ edge => exact edge.hasNode valid
  | fill _ _ _ _ edge => exact edge.hasNode valid

theorem Move.hasNode (h : Move f o env w r r') (valid : f.problem? = none)
    (hr : f.hasNode r.node = true) : f.hasNode r'.node = true := by
  cases h with
  | rest rests => exact rests.node ▸ hr
  | close node _ _ => exact node ▸ hr
  | delay node _ _ _ _ _ _ => exact node ▸ hr
  | retry node _ _ => exact node ▸ hr
  | leave exit _ => exact exit.hasNode valid

-- Conversations are called for one after the other.
theorem Environment.amid_succ {i : Nat} {c : Conversation} (hc : (env.due w)[i]? = some c) :
    env.amid w (i + 1) = (resume c.id env (env.amid w i)).2 := by
  rw [amid, List.take_add_one, hc, Option.toList_some, resumeAll_concat, amid]

variable {events : List Event}

-- To write flows, rules or settings leaves conversations as they are.
theorem Operation.Happens.held {op : Operation} (h : op.Happens events env w w')
    (configures : op.Configures) :
    ∃ written, w'.held = written ++ w.held ∧ ∀ s ∈ written, s.states = w.store.states := by
  cases h with
  | idle _ idles =>
    exact ⟨[], by rw [World.held, idles.store, idles.past, World.held, List.nil_append], nofun⟩
  | @configure _ w₁ s _ idles configured =>
    refine ⟨[s], ?_, fun s' hs' => List.mem_singleton.mp hs' ▸ configured.states⟩
    change s :: w₁.store :: w₁.past = s :: w.store :: w.past
    rw [idles.store, idles.past]
  | _ => exact configures.elim

-- Whatever callbacks a tick has made, flows have kept their graph.
theorem Environment.draws_amid (hs : Traced events w.store) (draws : w.store.Draws f) (i : Nat) :
    Traced events (env.amid w i).store ∧ (env.amid w i).store.Draws f := by
  induction i with
  | zero => exact ⟨hs, draws⟩
  | succ i ih =>
    obtain ⟨hs, draws⟩ := ih
    cases hc : (env.due w)[i]? with
    | none =>
      rw [amid, List.take_add_one, hc, Option.toList_none, List.append_nil]
      exact ⟨hs, draws⟩
    | some c =>
      rw [amid_succ hc]
      exact ⟨(happens_resume hs).reach.traced hs,
        (Occasion.resume c.id).draws_act nofun hs draws⟩

/-- In every `Operation` conversations walk, whatever fails. -/
theorem Operation.walks_perform {op : Operation} (handled : ∀ e, op.event? = some e → e ∈ events)
    (hs : Traced events w.store) (draws : w.store.Draws f) : op.Walks f env w := by
  have hhappens : op.Happens events env w (op.perform env w).2 := op.happens_perform handled hs
  have hconfigures (configures : op.Configures) := hhappens.held configures
  cases op with
  | handle e =>
    exact (Occasion.event e).walks_act (fun _ he => handled _ (by cases he; rfl)) hs draws
  | resume id => exact (Occasion.resume id).walks_act nofun hs draws
  | completeForm id fields => exact (Occasion.form id fields).walks_act nofun hs draws
  | tick =>
    refine ⟨rfl, ?_, fun i c hc => ?_⟩
    · exact (congrArg (fun cs => (resumeAll cs env (w.reading.counting .dueStates)).2)
        List.take_length).trans (tick_eq env w).symm
    · obtain ⟨hs, draws⟩ : Traced events (env.amid w i).store ∧ (env.amid w i).store.Draws f :=
        Environment.draws_amid hs draws i
      rw [Environment.amid_succ hc]
      exact (Occasion.resume c.id).walks_act nofun hs draws
  | _ => exact hconfigures trivial

-- The clock is read on from one callback of a tick to the next.
theorem Environment.readings_amid (hs : Traced events w.store) (draws : w.store.Draws f) :
    Monotone fun i => (env.amid w i).readings := by
  refine monotone_nat_of_le_succ fun i => ?_
  cases hc : (env.due w)[i]? with
  | none => rw [amid, amid, List.take_add_one, hc, Option.toList_none, List.append_nil]
  | some c =>
    rw [amid_succ hc]
    exact (happens_resume (draws_amid hs draws i).1).reach.readings

/-- What every `Stride` of an operation keeps (`step`) holds of every store that is held in it. -/
theorem Operation.always_perform {P : Store → Prop} {op : Operation}
    (handled : ∀ e, op.event? = some e → e ∈ events) (hs : Traced events w.store)
    (draws : w.store.Draws f) (start : P w.store)
    (states : ∀ s s', s'.states = s.states → P s → P s')
    (step : ∀ o w₁, Traced events w₁.store → P w₁.store →
      (∀ now, env.Told w₁.readings (o.act env w₁).2 now →
        env.Told w.readings (w.perform env op) now) →
      ∀ s s', P s → Stride f o env w₁ s s' → P s') :
    World.Always P w (w.perform env op) := by
  have hwalks : op.Walks f env w := op.walks_perform handled hs draws
  have hconfigures (h : ∃ written, (w.perform env op).held = written ++ w.held ∧
      ∀ s ∈ written, s.states = w.store.states) : World.Always P w (w.perform env op) := by
    obtain ⟨written, hheld, hstates⟩ := h
    refine ⟨written, hheld, fun s hmem => ?_⟩
    rcases List.mem_append.mp hmem with hmem | hmem
    · exact states w.store s (hstates s hmem) start
    · exact List.mem_singleton.mp hmem ▸ start
  cases op with
  | handle e => exact Walks.induct hwalks start (step _ w hs start fun _ told => told)
  | resume id => exact Walks.induct hwalks start (step _ w hs start fun _ told => told)
  | completeForm id fields => exact Walks.induct hwalks start (step _ w hs start fun _ told => told)
  | tick =>
    obtain ⟨hfirst, hlast, hwalks⟩ := hwalks
    have hreadings : Monotone fun i => (env.amid w i).readings :=
      Environment.readings_amid hs draws
    have hamid : ∀ i ≤ (env.due w).length, World.Always P w (env.amid w i) := by
      intro i hi
      induction i with
      | zero => exact .of_held_eq start hfirst
      | succ i ih =>
        have ih := ih (Nat.le_of_succ_le hi)
        have hc := List.getElem?_eq_getElem hi
        refine ih.trans (Walks.induct (hwalks i _ hc) ih.store
          (step _ _ (Environment.draws_amid hs draws i).1 ih.store fun now told => ?_))
        -- What the clock shows for one of the callbacks it shows in the operation.
        obtain ⟨n, hle, hlt, hnow⟩ := told
        have hbefore : w.readings ≤ (env.amid w i).readings :=
          (Nat.le_succ _).trans (hreadings (Nat.zero_le i))
        have hafter : (env.amid w (i + 1)).readings ≤ (w.perform env .tick).readings :=
          hlast ▸ hreadings hi
        rw [Environment.amid_succ hc] at hafter
        exact ⟨n, hbefore.trans hle, hlt.trans_le hafter, hnow⟩
    exact hlast ▸ hamid _ (le_refl _)
  | _ => exact hconfigures hwalks

end

/-! ## 6. Runs -/

section

variable {f : Flow} {w : World} {run : Run}

end

end Autoresponder
