import Autoresponder.Proofs.Engine.Likeness
import Autoresponder.Proofs.Engine.Leads
import Autoresponder.Proofs.Store.Party
import Autoresponder.Proofs.Store.Workspace

/-!
# What is done for a party

In two worlds in which a party sees the same, the same is done for it. Afterwards it sees the same
again, and both worlds have come from what they were by the same output: which flows were started,
which rules succeeded, and what was handed over to the person.
-/

namespace Autoresponder

open Step

/-! ## 1. Output -/

/-- What is put out: which flows were started, which rules succeeded and what was handed to the
sender, newest first, and how many identifiers were drawn. -/
structure Output where
  starts : List String
  hits : List String
  exchanges : List Exchange
  drawn : Nat

/-- Output for a party goes to its person. Without a chat nothing begins. -/
structure Output.For (o : Output) (p : Party) : Prop where
  heard : ∀ x ∈ o.exchanges, x.intent.workspace = p.workspace ∧ x.intent.phone = p.phone
  still : p.chat = none → o.starts = [] ∧ o.hits = [] ∧ o.drawn = 0

/-- An identifier may be drawn for a party. Without a chat none is. -/
def Party.Draws (p : Party) (env : Environment) (id : Uuid) : Prop :=
  p.chat ≠ none ∧ ∃ n, env.freshId n = id

/-- A world `w` has come from `b` by what was done for a party, with the output `o`. -/
structure World.Aside (p : Party) (env : Environment) (o : Output) (b w : World) : Prop where
  store : Store.Aside p env.now.stored (p.Draws env) o.starts o.hits b.store w.store
  exchanges : w.exchanges = o.exchanges ++ b.exchanges
  drawn : w.drawn = b.drawn + o.drawn

/-- In two worlds a party sees the same (`Store.seen`), and both have come from worlds before by the
same output for it. -/
structure World.Alike (p : Party) (env : Environment) (b b' w w' : World) : Prop where
  seen : w.store.seen p = w'.store.seen p
  drawn : w.drawn = w'.drawn
  output : ∃ o : Output, o.For p ∧ World.Aside p env o b w ∧ World.Aside p env o b' w'

/-- Worlds are alike for a party, and its are the conversations that are changed. -/
def Likeness.apart (p : Party) (env : Environment) (b b' : World) : Likeness where
  Like := World.Alike p env b b'
  Copy c := (c.workspace = p.workspace ∧ c.phone = p.phone) ∧ b.store.Grants p c.id ∧
    b'.store.Grants p c.id
  Starts _ := True
  Fires _ := True

/-- A sender that judges each message by itself. -/
def Sender.Forgetful (sender : Sender) : Prop :=
  ∀ es es' intent, sender es intent = sender es' intent

section

variable {p : Party} {env : Environment} {b b' w w' : World} {ε α : Type} {Q : α → Prop}

-- How often the store was called does not count.
theorem World.Alike.congr {w₁ w₁' : World} (h : World.Alike p env b b' w w')
    (hw : w₁.store = w.store ∧ w₁.exchanges = w.exchanges ∧ w₁.drawn = w.drawn)
    (hw' : w₁'.store = w'.store ∧ w₁'.exchanges = w'.exchanges ∧ w₁'.drawn = w'.drawn) :
    World.Alike p env b b' w₁ w₁' := by
  obtain ⟨hstore, hexchanges, hdrawn⟩ := hw
  obtain ⟨hstore', hexchanges', hdrawn'⟩ := hw'
  obtain ⟨hseen, hcount, o, ofor, haside, haside'⟩ := h
  refine ⟨by rw [hstore, hstore', hseen], by rw [hdrawn, hdrawn', hcount], o, ofor, ?_, ?_⟩
  · exact ⟨hstore ▸ haside.store, hexchanges.trans haside.exchanges, hdrawn.trans haside.drawn⟩
  · exact ⟨hstore' ▸ haside'.store, hexchanges'.trans haside'.exchanges,
      hdrawn'.trans haside'.drawn⟩

/-! ## 2. Calls to the store -/

-- What is asked is answered alike if the answer can be told from what the party sees.
theorem Step.Respects.asked {x : Step ε α} {f : Store → Except ε α} (still : env.Still)
    (hx : ∀ s es, x.Leads env s es (f s) s es)
    (h : ∀ w w', World.Alike p env b b' w w' →
      f w.store = f w'.store ∧ ∀ a, f w.store = .ok a → Q a) :
    x.Respects (.apart p env b b') env Q := by
  intro n w w' hw
  rw [still.shown]
  obtain ⟨hsame, hQ⟩ := h w w' hw
  obtain ⟨hrun, hworld⟩ := hx w.store w.exchanges w rfl rfl
  obtain ⟨hrun', hworld'⟩ := hx w'.store w'.exchanges w' rfl rfl
  rw [hrun, hrun']
  exact ⟨hsame, World.Alike.congr hw hworld hworld', hQ⟩

theorem World.writeAny_counting (w : World) (c : Call) (written : Option Store) :
    (w.counting c).writeAny written = (w.writeAny written).counting c := by
  cases written <;> rfl

-- What is written is written to both stores, or refused by both.
theorem Step.Respects.written (faultless : env.Faultless) {c : Call} {conflict : Option α}
    {run : Store → Except StoreError (α × Option Store)}
    (h : ∀ w w', World.Alike p env b b' w w' →
      (∃ e, run w.store = .error e ∧ run w'.store = .error e) ∨
      ∃ a written written', run w.store = .ok (a, written) ∧ run w'.store = .ok (a, written') ∧
        Q a ∧ World.Alike p env b b' (w.writeAny written) (w'.writeAny written')) :
    (Step.call c conflict run).Respects (.apart p env b b') env Q := by
  intro n w w' hw
  have hfaultless : (env.shown n).Faultless := faultless
  simp only [Step.call, hfaultless c]
  rcases h w w' hw with ⟨e, hrun, hrun'⟩ | ⟨a, s, s', hrun, hrun', hQ, hlike⟩
  · rw [hrun, hrun']
    exact ⟨rfl, World.Alike.congr hw ⟨rfl, rfl, rfl⟩ ⟨rfl, rfl, rfl⟩, fun _ ha => by cases ha⟩
  · rw [hrun, hrun']
    dsimp only
    rw [World.writeAny_counting, World.writeAny_counting]
    exact ⟨rfl, World.Alike.congr hlike ⟨rfl, rfl, rfl⟩ ⟨rfl, rfl, rfl⟩,
      fun _ ha => Except.ok.inj ha ▸ hQ⟩

-- Calls that come to the same as far as can be told both fail, or both succeed.
theorem exists_of_map_eq {β δ : Type} {f : α → β} {x x' : Except δ α} (h : x.map f = x'.map f) :
    (∃ e, x = .error e ∧ x' = .error e) ∨ ∃ a a', x = .ok a ∧ x' = .ok a' ∧ f a = f a' := by
  cases x with
  | error e =>
    cases x' with
    | error e' =>
      cases h
      exact .inl ⟨e, rfl, rfl⟩
    | ok a' => cases h
  | ok a =>
    cases x' with
    | error e' => cases h
    | ok a' => exact .inr ⟨a, a', rfl, rfl, Except.ok.inj h⟩

-- What is written makes the same difference to both worlds.
theorem World.Alike.write (h : World.Alike p env b b' w w')
    (starts hits : List String → List String)
    (still : p.chat = none → starts [] = [] ∧ hits [] = []) {s s' : Store}
    (hseen : s.seen p = s'.seen p)
    (haside : ∀ ts rs, Store.Aside p env.now.stored (p.Draws env) ts rs b.store w.store →
      Store.Aside p env.now.stored (p.Draws env) (starts ts) (hits rs) b.store s)
    (haside' : ∀ ts rs, Store.Aside p env.now.stored (p.Draws env) ts rs b'.store w'.store →
      Store.Aside p env.now.stored (p.Draws env) (starts ts) (hits rs) b'.store s') :
    World.Alike p env b b' (w.write s) (w'.write s') := by
  obtain ⟨-, hdrawn, o, ofor, hw, hw'⟩ := h
  refine ⟨hseen, hdrawn, { o with starts := starts o.starts, hits := hits o.hits },
    ⟨ofor.heard, fun hchat => ?_⟩, ⟨haside _ _ hw.store, hw.exchanges, hw.drawn⟩,
    ⟨haside' _ _ hw'.store, hw'.exchanges, hw'.drawn⟩⟩
  obtain ⟨hstarts, hhits, hnone⟩ := ofor.still hchat
  dsimp only
  rw [hstarts, hhits]
  exact ⟨(still hchat).1, (still hchat).2, hnone⟩

-- What is read from a row of the person is the person's.
theorem World.Alike.copy (h : World.Alike p env b b' w w')
    {r : Store.StateRow} (hr : r ∈ w.store.states) (howns : p.owns r = true) {c : Conversation}
    (hread : r.read = .ok c) : (Likeness.apart p env b b').Copy c := by
  obtain ⟨hseen, -, o, -, hw, hw'⟩ := h
  obtain ⟨hid, hworkspace, hphone, -⟩ := Store.StateRow.readUuid_of_read hread
  obtain ⟨hrow, hrow'⟩ := Party.owns_iff.mp howns
  have hr' : r ∈ w'.store.states := by
    have hmem : r ∈ (w.store.seen p).states := List.mem_filter.mpr ⟨hr, howns⟩
    rw [hseen] at hmem
    exact List.mem_of_mem_filter hmem
  have hkey : r.id = toString c.id := hw.store.keys.eq_toString hr hid
  exact ⟨⟨hworkspace.trans hrow, hphone.trans hrow'⟩,
    (hw.store.keys.grants hr hkey howns).congr hw.store.unseen.symm,
    (hw'.store.keys.grants hr' hkey howns).congr hw'.store.unseen.symm⟩

end

/-! ## 3. Conversations -/

section

variable {p : Party} {env : Environment} {b b' : World}

theorem Likeness.apart_snapshot (smooth : env.Smooth) (workspace account : String) :
    (Snapshot.plain <$> Calls.snapshot workspace account).Respects (.apart p env b b') env
      (Likeness.apart p env b b').Offers := by
  refine .asked smooth.still (f := fun s => (s.snapshot workspace account).map Snapshot.plain)
    (fun s es => (Calls.leads_snapshot smooth.faultless workspace account).map_result)
    fun w w' hw => ?_
  refine ⟨?_, fun _ _ => ⟨fun _ _ => trivial, fun _ _ => trivial⟩⟩
  rw [← Store.snapshot_seen w.store p, ← Store.snapshot_seen w'.store p, hw.seen]

theorem Likeness.apart_knows (smooth : env.Smooth) {id : Uuid} (hid : b.store.Grants p id)
    (hid' : b'.store.Grants p id) : (Likeness.apart p env b b').Knows env id := by
  refine .asked smooth.still (fun s es => Calls.leads_state? smooth.faultless id)
    fun w w' hw => ⟨?_, ?_⟩
  · obtain ⟨hseen, -, o, -, haside, haside'⟩ := hw
    rw [← Store.state?_seen (haside.store.grants hid), hseen,
      Store.state?_seen (haside'.store.grants hid')]
  · intro found hfound c hc
    obtain ⟨r, hr, hwanted, hread⟩ := Store.exists_of_readFirst (hc ▸ hfound)
    obtain ⟨o, -, haside, -⟩ := hw.output
    exact hw.copy hr (haside.store.grants hid r hr (eq_of_beq hwanted)) hread

theorem Likeness.apart_change (smooth : env.Smooth) {c : Conversation}
    (ch : Conversation.Change) (hc : (Likeness.apart p env b b').Copy c) :
    (c.change ch).Respects (.apart p env b b') env (Likeness.apart p env b b').Copy := by
  have hsame := c.same_after ch env.now
  have hcopy : (Likeness.apart p env b b').Copy (c.after ch env.now) := by
    obtain ⟨⟨hworkspace, hphone⟩, hid, hid'⟩ := hc
    exact ⟨⟨hsame.workspace.trans hworkspace, hsame.phone.trans hphone⟩, hsame.id ▸ hid,
      hsame.id ▸ hid'⟩
  have hid := hcopy.2.1
  have hid' := hcopy.2.2
  have hupdate : (Calls.updateState (c.after ch env.now) c.version).Respects
      (.apart p env b b') env fun _ => True := by
    refine .written smooth.faultless fun w w' hw => ?_
    obtain ⟨o, -, haside, haside'⟩ := hw.output
    have hboth : (w.store.updateState (c.after ch env.now) c.version).map (·.map (·.seen p)) =
        (w'.store.updateState (c.after ch env.now) c.version).map (·.map (·.seen p)) := by
      rw [← (Store.view_seen p).updateState_of_shown (haside.store.grants hid), hw.seen,
        (Store.view_seen p).updateState_of_shown (haside'.store.grants hid')]
    rcases exists_of_map_eq hboth with ⟨e, hrun, hrun'⟩ | ⟨found, found', hrun, hrun', hsame⟩
    · exact .inl ⟨e, by rw [hrun]; rfl, by rw [hrun']; rfl⟩
    · cases found with
      | none =>
        cases found' with
        | none =>
          exact .inr ⟨false, none, none, by rw [hrun]; rfl, by rw [hrun']; rfl, trivial, hw⟩
        | some s' => cases hsame
      | some s =>
        cases found' with
        | none => cases hsame
        | some s' =>
          refine .inr ⟨true, some s, some s', by rw [hrun]; rfl, by rw [hrun']; rfl, trivial, ?_⟩
          exact hw.write id id (fun _ => ⟨rfl, rfl⟩) (Option.some.inj hsame)
            (fun _ _ h => h.updateState hid hrun) fun _ _ h => h.updateState hid' hrun'
  unfold Conversation.change
  refine .bind .now fun now ⟨n, hnow⟩ => ?_
  obtain rfl : env.now = now := (smooth.still n).symm.trans hnow
  refine .bind hupdate fun updated _ => ?_
  split
  · exact .pure hcopy
  · exact .throw

theorem Likeness.apart_send (still : env.Still) (forgetful : env.sender.Forgetful)
    {intent : SendIntent} (hintent : intent.workspace = p.workspace ∧ intent.phone = p.phone) :
    (send intent).Respects (.apart p env b b') env fun _ => True := by
  rintro n w w' ⟨hseen, hdrawn, o, ofor, hw, hw'⟩
  rw [still.shown]
  unfold send
  rw [forgetful w.exchanges w'.exchanges]
  refine ⟨rfl, ⟨hseen, hdrawn, { o with
    exchanges := ⟨intent, env.sender w'.exchanges intent, env.now⟩ :: o.exchanges }, ?_, ?_, ?_⟩,
    fun _ _ => trivial⟩
  · exact ⟨List.forall_mem_cons.mpr ⟨hintent, ofor.heard⟩, ofor.still⟩
  · exact ⟨hw.store, congrArg _ hw.exchanges, hw.drawn⟩
  · exact ⟨hw'.store, congrArg _ hw'.exchanges, hw'.drawn⟩

theorem Likeness.apart_reads (still : env.Still) : (Likeness.apart p env b b').Reads env :=
  fun _ _ hw => ⟨(still _).trans (still _).symm, hw.congr ⟨rfl, rfl, rfl⟩ ⟨rfl, rfl, rfl⟩⟩

/-- Worlds stay alike for a party (`Likeness.apart`) through everything that is done for its
conversations, where the clock is `smooth` and the sender `forgetful`. -/
theorem Likeness.apart_carries (smooth : env.Smooth) (forgetful : env.sender.Forgetful) :
    (Likeness.apart p env b b').Carries env where
  reads := apart_reads smooth.still
  snapshot _ _ := apart_snapshot smooth _ _
  change _ ch hc := apart_change smooth ch hc
  send _ _ hc := apart_send smooth.still forgetful hc.1

/-! ## 4. Events -/

-- What is drawn is new.
theorem Step.Respects.drawn_apart {ε : Type} {chat : String} (hchat : p.chat = some chat) :
    (Step.freshId : Step ε Uuid).Respects (.apart p env b b') env (p.Draws env) := by
  rintro n w w' ⟨hseen, hdrawn, o, ofor, hw, hw'⟩
  refine ⟨congrArg (fun n => Except.ok (env.freshId n)) hdrawn, ⟨hseen, congrArg Nat.succ hdrawn,
    { o with drawn := o.drawn + 1 }, ⟨ofor.heard, fun hnone => ?_⟩, ?_, ?_⟩, fun id hid => ?_⟩
  · rw [hchat] at hnone
    cases hnone
  · exact ⟨hw.store, hw.exchanges, congrArg Nat.succ hw.drawn⟩
  · exact ⟨hw'.store, hw'.exchanges, congrArg Nat.succ hw'.drawn⟩
  · refine ⟨?_, w.drawn, Except.ok.inj hid⟩
    rw [hchat]
    exact Option.some_ne_none chat

/-- An event of a party: it is the person's, in the chat. -/
structure Event.Of (e : Event) (p : Party) : Prop where
  workspace : e.workspace = p.workspace
  phone : e.phone = p.phone
  chat : p.chat = some e.conversation

/-- What `freshId` gives is new to a world. -/
def Environment.NewTo (env : Environment) (b : World) : Prop :=
  ∀ n, toString (env.freshId n) ∉ b.store.names

section

theorem Environment.NewTo.new (h : env.NewTo b) {id : Uuid} (hid : p.Draws env id) :
    toString id ∉ b.store.names := by
  obtain ⟨-, n, rfl⟩ := hid
  exact h n

variable {e : Event}

-- A conversation with the person begins in both worlds.
theorem Likeness.apart_createState (smooth : env.Smooth) (fresh : env.NewTo b)
    (fresh' : env.NewTo b') {c : Conversation} (howns : p.owns (.ofConversation c) = true)
    (hid : p.Draws env c.id) :
    (Calls.createState c).Respects (.apart p env b b') env fun _ => True := by
  refine .written smooth.faultless fun w w' hw => ?_
  obtain ⟨o, -, haside, haside'⟩ := hw.output
  have hgrants := haside.store.grants (Store.grants_of_new (fresh.new hid))
  have hgrants' := haside'.store.grants (Store.grants_of_new (fresh'.new hid))
  have hboth : (w.store.createState c).map (·.seen p) =
      (w'.store.createState c).map (·.seen p) := by
    rw [← (Store.view_seen p).createState_of_shown hgrants howns, hw.seen,
      (Store.view_seen p).createState_of_shown hgrants' howns]
  rcases exists_of_map_eq hboth with ⟨e, hrun, hrun'⟩ | ⟨s, s', hrun, hrun', hsame⟩
  · exact .inl ⟨e, congrArg (Except.map ((), some ·)) hrun, congrArg (Except.map ((), some ·)) hrun'⟩
  · refine .inr ⟨(), some s, some s', congrArg (Except.map ((), some ·)) hrun,
      congrArg (Except.map ((), some ·)) hrun', trivial, ?_⟩
    exact hw.write id id (fun _ => ⟨rfl, rfl⟩) hsame (fun _ _ h => h.createState howns hid hrun)
      fun _ _ h => h.createState howns hid hrun'

-- So is a start of a flow counted.
theorem Likeness.apart_countFlowStart (smooth : env.Smooth) {chat : String}
    (hchat : p.chat = some chat) (id : Uuid) :
    (Calls.countFlowStart id env.now).Respects (.apart p env b b') env fun _ => True := by
  refine .written smooth.faultless fun w w' hw => .inr ⟨(), some _, some _, rfl, rfl, trivial, ?_⟩
  refine hw.write (toString id :: ·) (fun rs => rs) (fun hnone => ?_) ?_
    (fun _ _ h => h.countFlowStart id) fun _ _ h => h.countFlowStart id
  · rw [hchat] at hnone
    cases hnone
  · have hseen := hw.seen
    simp only [Store.seen, Store.plain_countFlowStart] at hseen ⊢
    exact hseen

-- A firing in the chat is logged in both worlds.
theorem Likeness.apart_logFiring (smooth : env.Smooth) (fresh : env.NewTo b)
    (fresh' : env.NewTo b') {entry : Firing} (hchat : p.chat = some entry.conversation)
    (hid : p.Draws env entry.id) (hnow : entry.time = env.now) :
    (Calls.logFiring entry).Respects (.apart p env b b') env fun _ => True := by
  refine .written smooth.faultless fun w w' hw => ?_
  obtain ⟨o, -, haside, haside'⟩ := hw.output
  have hadmits := haside.store.admits (Store.admits_of_new (fresh.new hid))
  have hadmits' := haside'.store.admits (Store.admits_of_new (fresh'.new hid))
  have hboth : (w.store.logFiring entry).map (·.seen p) =
      (w'.store.logFiring entry).map (·.seen p) := by
    rw [Store.logFiring_seen hadmits, hw.seen, ← Store.logFiring_seen hadmits']
  rcases exists_of_map_eq hboth with ⟨e, hrun, hrun'⟩ | ⟨s, s', hrun, hrun', hsame⟩
  · exact .inl ⟨e, congrArg (Except.map ((), some ·)) hrun, congrArg (Except.map ((), some ·)) hrun'⟩
  · refine .inr ⟨(), some s, some s', congrArg (Except.map ((), some ·)) hrun,
      congrArg (Except.map ((), some ·)) hrun', trivial, ?_⟩
    refine hw.write (fun ts => ts)
      (fun rs => if entry.success then toString entry.rule :: rs else rs) (fun hnone => ?_) hsame
      (fun _ _ h => ?_) fun _ _ h => ?_
    · rw [hchat] at hnone
      cases hnone
    · rw [← hnow] at h ⊢
      exact h.logFiring hchat hid hrun
    · rw [← hnow] at h ⊢
      exact h.logFiring hchat hid hrun'

theorem Likeness.apart_enter (smooth : env.Smooth) (he : e.Of p) (fresh : env.NewTo b)
    (fresh' : env.NewTo b') (f : Flow) (node : String) :
    (f.enter e node).Respects (.apart p env b b') env (Likeness.apart p env b b').Copy := by
  have howns {c : Conversation} (hworkspace : c.workspace = e.workspace)
      (hphone : c.phone = e.phone) : p.owns (.ofConversation c) = true :=
    Party.owns_iff.mpr ⟨hworkspace.trans he.workspace, hphone.trans he.phone⟩
  unfold Flow.enter Conversation.create
  refine .bind (Q := (Likeness.apart p env b b').Copy) (.stored (.bind (.drawn_apart he.chat)
    fun id hid => .bind .now fun now _ => .bind
      (apart_createState smooth fresh fresh' (howns rfl rfl) hid) fun _ _ => .pure ?_))
    fun c hc => ?_
  · exact ⟨⟨he.workspace, he.phone⟩, Store.grants_of_new (fresh.new hid),
      Store.grants_of_new (fresh'.new hid)⟩
  · refine .bind .now fun now ⟨n, hnow⟩ => ?_
    obtain rfl : env.now = now := (smooth.still n).symm.trans hnow
    exact .bind (.stored (apart_countFlowStart smooth he.chat f.id)) fun _ _ => .pure hc

theorem Likeness.apart_log (smooth : env.Smooth) (he : e.Of p) (fresh : env.NewTo b)
    (fresh' : env.NewTo b') (rule : Uuid) {record : FiringRecord}
    (hrecord : record.conversation = e.conversation) (success : Bool) :
    (logFiring rule record success).Respects (.apart p env b b') env fun _ => True := by
  unfold logFiring
  refine .bind (.drawn_apart he.chat) fun id hid => .bind .now fun now ⟨n, hnow⟩ => ?_
  obtain rfl : env.now = now := (smooth.still n).symm.trans hnow
  exact .bind (apart_logFiring smooth fresh fresh' (he.chat.trans (congrArg some hrecord.symm))
    hid rfl) fun _ _ => .pure trivial

/-- Worlds stay alike for a party (`Likeness.apart`) through everything that is done for an event of
it. -/
theorem Likeness.apart_hears (smooth : env.Smooth) (forgetful : env.sender.Forgetful)
    (he : e.Of p) (fresh : env.NewTo b) (fresh' : env.NewTo b') :
    (Likeness.apart p env b b').Hears env e where
  toCarries := apart_carries smooth forgetful
  account := apart_snapshot smooth _ _
  active := by
    refine .asked smooth.still (fun s es => Calls.leads_activeState? smooth.faultless _ _)
      fun w w' hw => ⟨?_, ?_⟩
    · rw [he.workspace, he.phone, ← Store.activeState?_seen, hw.seen, Store.activeState?_seen]
    · intro found hfound c hc
      obtain ⟨r, hr, hwanted, hread⟩ := Store.exists_of_readFirst (hc ▸ hfound)
      simp only [Store.isActiveFor, Bool.and_eq_true, beq_iff_eq] at hwanted
      exact hw.copy hr (Party.owns_iff.mpr ⟨hwanted.1.1.trans he.workspace,
        hwanted.1.2.trans he.phone⟩) hread
  enter f node _ := apart_enter smooth he fresh fresh' f node
  reply _ := apart_send smooth.still forgetful ⟨he.workspace, he.phone⟩
  lastFiring rule _ := .asked smooth.still (fun s es => .ask smooth.faultless) fun w w' hw => by
    simp only [Store.lastFiring]
    rw [← Store.successes_seen he.chat, hw.seen, Store.successes_seen he.chat]
    exact ⟨rfl, fun _ _ => trivial⟩
  countFirings rule since _ := .asked smooth.still (fun s es => .ask smooth.faultless)
    fun w w' hw => by
    simp only [Store.countFirings]
    rw [← Store.successes_seen he.chat, hw.seen, Store.successes_seen he.chat]
    exact ⟨rfl, fun _ _ => trivial⟩
  log rule _ success _ hrecord := apart_log smooth he fresh fresh' rule hrecord success
  asks _ _ _ _ hw := hw.congr ⟨rfl, rfl, rfl⟩ ⟨rfl, rfl, rfl⟩

end

/-! ## 5. Occasions -/

/-- An occasion is for a party. An event is of it, and what is drawn is new; a conversation that is
called for is nobody else's (`Grants`). -/
def Occasion.For (p : Party) (env : Environment) (b : World) : Occasion → Prop
  | event e => e.Of p ∧ env.NewTo b
  | resume id => b.store.Grants p id
  | form id _ => b.store.Grants p id

/-- In worlds in which a party sees the same (`Store.seen`), what is done for it comes to
the same. -/
theorem Occasion.alike_apart (smooth : env.Smooth) (forgetful : env.sender.Forgetful)
    {o : Occasion} (h : o.For p env b) (h' : o.For p env b')
    (keys : Store.Keys Store.StateRow.id b.store.states)
    (keys' : Store.Keys Store.StateRow.id b'.store.states)
    (seen : b.store.seen p = b'.store.seen p) (drawn : b.drawn = b'.drawn) :
    (o.act env b).1 = (o.act env b').1 ∧
      World.Alike p env b b' (o.act env b).2 (o.act env b').2 := by
  have hsuits : (Likeness.apart p env b b').Suits env o := by
    cases o with
    | event e => exact Likeness.apart_hears smooth forgetful h.1 h.2 h'.2
    | resume id =>
      exact ⟨Likeness.apart_carries smooth forgetful, Likeness.apart_knows smooth h h'⟩
    | form id fields =>
      exact ⟨Likeness.apart_carries smooth forgetful, Likeness.apart_knows smooth h h'⟩
  have hlike : World.Alike p env b b' b b' :=
    ⟨seen, drawn, ⟨[], [], [], 0⟩, ⟨nofun, fun _ => ⟨rfl, rfl, rfl⟩⟩, ⟨.refl keys, rfl, rfl⟩,
      ⟨.refl keys', rfl, rfl⟩⟩
  exact alike_act hsuits hlike

end

/-! ## 6. Persons -/

/-- The conversations with a person, and what was handed over to the person, newest first. -/
def World.ofPerson (w : World) (workspace phone : String) : List Store.StateRow × List Exchange :=
  (w.store.states.filter fun r => r.workspace == workspace && r.phone == phone,
   w.exchanges.filter fun x => x.intent.workspace == workspace && x.intent.phone == phone)

section

variable {p : Party} {env : Environment} {o : Output} {b b' w w' : World} {workspace phone : String}

-- What is put out for a party goes to nobody else.
theorem Output.For.exchanges_of (h : o.For p)
    (other : ¬ (workspace = p.workspace ∧ phone = p.phone)) :
    (o.exchanges.filter fun x => x.intent.workspace == workspace && x.intent.phone == phone) =
      [] := by
  rw [List.filter_eq_nil_iff]
  intro x hx hperson
  rw [Bool.and_eq_true, beq_iff_eq, beq_iff_eq] at hperson
  obtain ⟨hworkspace, hphone⟩ := h.heard x hx
  exact other ⟨hperson.1.symm.trans hworkspace, hperson.2.symm.trans hphone⟩

-- For everybody else nothing has happened.
theorem World.Aside.ofPerson (h : World.Aside p env o b w) (ofor : o.For p)
    (other : ¬ (workspace = p.workspace ∧ phone = p.phone)) :
    w.ofPerson workspace phone = b.ofPerson workspace phone := by
  unfold World.ofPerson
  rw [h.store.states_of other, h.exchanges, List.filter_append, ofor.exchanges_of other,
    List.nil_append]

-- For the person the same has happened.
theorem World.Alike.ofPerson (h : World.Alike p env b b' w w')
    (hb : b.ofPerson p.workspace p.phone = b'.ofPerson p.workspace p.phone) :
    w.ofPerson p.workspace p.phone = w'.ofPerson p.workspace p.phone := by
  obtain ⟨hseen, -, o, ofor, hw, hw'⟩ := h
  have hstates : w.store.states.filter p.owns = w'.store.states.filter p.owns :=
    congrArg Store.states hseen
  unfold World.ofPerson at hb ⊢
  rw [hw.exchanges, hw'.exchanges, List.filter_append, List.filter_append, (Prod.mk.inj hb).2]
  exact congrArg (·, _) hstates

end

end Autoresponder
