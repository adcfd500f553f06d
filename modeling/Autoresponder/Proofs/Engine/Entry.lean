import Autoresponder.Proofs.Engine.Again
import Autoresponder.Proofs.Selection.Precedence

/-!
# Events that come to a pass

An event that gets somewhere comes to one pass of a flow, for a conversation that begins or for one
that takes the event. What is done before does not depend on the sender, nor on the budget of the
pass, and what is done after leaves conversations and flows alone.
-/

namespace Autoresponder

open Step

/-! ## 1. Coming to a pass -/

/-- Stores that differ in rules and firings at most. -/
structure Store.Alike (s s' : Store) : Prop where
  states : s.states = s'.states
  flows : s.flows = s'.flows
  settings : s.settings = s'.settings

theorem Store.Alike.refl (s : Store) : s.Alike s := ⟨rfl, rfl, rfl⟩

theorem Store.Alike.trans {s s' s'' : Store} (h : s.Alike s') (h' : s'.Alike s'') : s.Alike s'' :=
  ⟨h.states.trans h'.states, h.flows.trans h'.flows, h.settings.trans h'.settings⟩

def Outcome.pass? : Outcome → Option (Uuid × Uuid × Pass)
  | flowStarted flow state pass => some (flow, state, pass)
  | flowAdvanced flow state pass => some (flow, state, pass)
  | _ => none

theorem Outcome.pass?_ofError (e : AutomationError) :
    (Outcome.ofExcept (.error e)).pass? = none := by
  cases e <;> rfl

/-- An environment with another sender, and another budget for a pass. -/
abbrev Environment.varied (env : Environment) (v : Sender × Nat) : Environment :=
  { env with sender := v.1, policy := { env.policy with maxNodes := v.2 } }

-- Whether calls to the store go wrong or the clock moves has nothing to do with either.
theorem Environment.Smooth.withSender {env : Environment} (h : env.Smooth)
    (sender : Sender) : ({ env with sender } : Environment).Smooth := h

theorem Environment.Faultless.varied {env : Environment} (h : env.Faultless) (v : Sender × Nat) :
    (env.varied v).Faultless := h

theorem Environment.Smooth.varied {env : Environment} (h : env.Smooth) (v : Sender × Nat) :
    (env.varied v).Smooth := h

/-- Whoever the sender is and whatever the budget (`Environment.varied`), a step comes to a pass of
a flow and reports what came of it. -/
def Step.Passes (env : Environment) (s : Store) (es : List Exchange) (drawn : Nat)
    (x : Step AutomationError Outcome) (f : Flow) (c : Conversation) (s₁ : Store)
    (report : Pass → Outcome) : Prop :=
  ∀ (v : Sender × Nat) (w : World), w.store = s → w.exchanges = es → w.drawn = drawn →
    ∀ {r : Conversation × Except AutomationError Pass} {s' : Store} {es' : List Exchange},
      (f.runPass c).Leads (env.varied v) s₁ es r s' es' →
        (x (env.varied v) w).1 = r.2.map report ∧
          (x (env.varied v) w).2.store.Alike s' ∧
          (x (env.varied v) w).2.exchanges = es'

/-- Whoever the sender is and whatever the budget (`Environment.varied`), a step tells of no
pass. -/
def Step.Fruitless (env : Environment) (s : Store) (es : List Exchange) (drawn : Nat)
    (x : Step AutomationError Outcome) : Prop :=
  ∀ (v : Sender × Nat) (w : World), w.store = s → w.exchanges = es → w.drawn = drawn →
    (Outcome.ofExcept (x (env.varied v) w).1).pass? = none

section

variable {env : Environment} {s s₁ s₂ : Store} {es : List Exchange} {drawn : Nat}
  {x y : Step AutomationError Outcome} {f : Flow} {c : Conversation} {report : Pass → Outcome}

theorem Step.Passes.of_comesTo (hy : y.Passes env s₂ es drawn f c s₁ report)
    (hx : ∀ v, x.ComesTo (env.varied v) s es s₂ es y) :
    x.Passes env s es drawn f c s₁ report := by
  intro v w hs hes hdrawn r s' es' hpass
  obtain ⟨w₂, hs₂, hes₂, hdrawn₂, hrun⟩ := hx v w hs hes
  rw [hrun]
  exact hy v w₂ hs₂ hes₂ (hdrawn₂.trans hdrawn) hpass

theorem Step.Passes.of_leads
    (hx : ∀ (v : Sender × Nat) {r : Conversation × Except AutomationError Pass} {s' : Store}
      {es' : List Exchange}, (f.runPass c).Leads (env.varied v) s₁ es r s' es' →
        x.Leads (env.varied v) s es (r.2.map report) s' es') :
    x.Passes env s es drawn f c s₁ report := by
  intro v w hs hes _ r s' es' hpass
  obtain ⟨hresult, hstore, hexchanges, -⟩ := hx v hpass w hs hes
  exact ⟨hresult, hstore ▸ .refl _, hexchanges⟩

theorem Step.Fruitless.of_comesTo (hy : y.Fruitless env s₂ es drawn)
    (hx : ∀ v, x.ComesTo (env.varied v) s es s₂ es y) : x.Fruitless env s es drawn := by
  intro v w hs hes hdrawn
  obtain ⟨w₂, hs₂, hes₂, hdrawn₂, hrun⟩ := hx v w hs hes
  rw [hrun]
  exact hy v w₂ hs₂ hes₂ (hdrawn₂.trans hdrawn)

theorem Step.Fruitless.of_leads (hx : ∀ v, ∃ r s' es',
      x.Leads (env.varied v) s es r s' es' ∧ (Outcome.ofExcept r).pass? = none) :
    x.Fruitless env s es drawn := by
  intro v w hs hes _
  obtain ⟨r, s', es', hleads, hr⟩ := hx v
  rw [(hleads w hs hes).1]
  exact hr

end

/-! ## 2. Conversations that are ready for an event -/

namespace Conversation

/-- The last message of a conversation is no older than an instant. -/
def Knows (c : Conversation) (t : Instant) : Prop := ∃ last, c.lastInbound = some last ∧ ¬ last < t

theorem knows_recordInbound (c : Conversation) (t now : Instant) :
    (c.after (.recordInbound t) now).Knows t := by
  have hself : ¬ t < t := lt_irrefl t
  unfold after Change.apply Knows
  dsimp only
  split
  · rename_i last hlast
    split
    · exact ⟨t, rfl, hself⟩
    · exact ⟨last, hlast, ‹_›⟩
  · exact ⟨t, rfl, hself⟩

theorem node_recordInbound (c : Conversation) (t now : Instant) :
    (c.after (.recordInbound t) now).node = c.node := by
  unfold after
  rcases apply_recordInbound now t c with happly | happly <;> rw [happly]

-- The window stays open with a message for which it is open.
theorem isOpen_recordInbound {c : Conversation} {t now : Instant}
    (h : Window.isOpen c.lastInbound now = true) (ht : Window.isOpen (some t) now = true) :
    Window.isOpen (c.after (.recordInbound t) now).lastInbound now = true := by
  unfold after
  rcases apply_recordInbound now t c with happly | happly <;> rw [happly]
  · exact h
  · exact ht

-- What is known already changes nothing.
theorem Knows.bare_after {c : Conversation} {t : Instant} (h : c.Knows t) (now : Instant) :
    (c.after (.recordInbound t) now).bare = c.bare := by
  obtain ⟨last, hlast, hle⟩ := h
  have happly : (Change.recordInbound t).apply now c = c := by
    simp only [Change.apply, hlast, if_neg hle]
  unfold after
  rw [happly]
  rfl

/-- A copy whose instants are stored as they are. -/
def Lasting (c : Conversation) : Prop := c.kept.bare = c.bare

theorem Lasting.after {c : Conversation} (h : c.Lasting) {ch : Change} {now : Instant}
    (hch : (∃ t, ch = .recordInbound t ∧ t.kept = t) ∨ (∃ node, ch = .advance node) ∨
      (∃ button, ch = .recordButton button) ∨ ∃ entries, ch = .mergeVariables entries) :
    (c.after ch now).Lasting := by
  have hinbound : c.lastInbound.map Instant.kept = c.lastInbound :=
    (congrArg Conversation.lastInbound h :)
  have hresume : c.resumeAt.map Instant.kept = c.resumeAt :=
    (congrArg Conversation.resumeAt h :)
  have hcompleted : c.completed.map Instant.kept = c.completed :=
    (congrArg Conversation.completed h :)
  rcases hch with ⟨t, rfl, ht⟩ | ⟨node, rfl⟩ | ⟨button, rfl⟩ | ⟨entries, rfl⟩
  · unfold Conversation.after
    rcases apply_recordInbound now t c with happly | happly <;> rw [happly] <;>
      simp [Lasting, kept, bare, hinbound, hresume, hcompleted, ht]
  all_goals
    simp [Conversation.after, Change.apply, Lasting, kept, bare, hinbound, hresume, hcompleted]

end Conversation

/-- A copy `c` from which the pass is made to which an event comes, in `f`. Another event finds the
flow by its identifier, as `g`. -/
structure Ready (e : Event) (now : Instant) (f g : Flow) (c : Conversation) (s : Store) : Prop where
  consistent : s.Consistent
  held : s.Holds c
  written : s.set c = s
  active : c.isActive = true
  flow : c.flow = f.id
  workspace : c.workspace = e.workspace
  phone : c.phone = e.phone
  knows : c.Knows e.received
  opens : Window.isOpen (some e.received) now = true → Window.isOpen c.lastInbound now = true
  lasting : c.Lasting
  updated : c.updated = now
  offered : s.Offers e.workspace e.account g
  graph : g.SameGraph f

/-- A step comes to a pass (`Passes`) of a flow that is offered, for a conversation that is ready,
or it tells of no pass (`Fruitless`). -/
inductive Step.Fares (env : Environment) (s : Store) (es : List Exchange) (drawn : Nat) (e : Event)
    (x : Step AutomationError Outcome) : Prop where
  | passes {f g : Flow} {c : Conversation} {s₁ : Store} {report : Pass → Outcome}
      (passes : x.Passes env s es drawn f c s₁ report) (ready : Ready e env.now f g c s₁)
      (offered : s.Offers e.workspace e.account f)
      (reports : report = .flowStarted f.id c.id ∨ report = .flowAdvanced f.id c.id)
  | fruitless (fruitless : x.Fruitless env s es drawn)

theorem Step.Fares.of_comesTo {env : Environment} {s s₁ : Store} {es : List Exchange} {drawn : Nat}
    {e : Event} {x y : Step AutomationError Outcome} (hy : y.Fares env s₁ es drawn e)
    (hx : ∀ v, x.ComesTo (env.varied v) s es s₁ es y) (hflows : s.flows = s₁.flows)
    (hsettings : s.settings = s₁.settings) : x.Fares env s es drawn e := by
  cases hy with
  | passes hpasses ready offered reports =>
    exact .passes (hpasses.of_comesTo hx) ready (offered.congr hflows hsettings) reports
  | fruitless h => exact .fruitless (h.of_comesTo hx)

/-! ## 3. Conversations that take an event -/

namespace Conversation

/-- A copy that came from another one without ending or hearing anything. -/
structure Follows (d c : Conversation) : Prop where
  same : d.Same c
  active : d.isActive = c.isActive
  inbound : d.lastInbound = c.lastInbound
  lasting : c.Lasting → d.Lasting

theorem Follows.trans {a b c : Conversation} (h : a.Follows b) (h' : b.Follows c) : a.Follows c :=
  ⟨h.same.trans h'.same, h.active.trans h'.active, h.inbound.trans h'.inbound,
    fun lasting => h.lasting (h'.lasting lasting)⟩

theorem follows_advance (c : Conversation) (node : String) (now : Instant) :
    (c.after (.advance node) now).Follows c :=
  ⟨c.same_after _ now, rfl, rfl, fun h => h.after (.inr (.inl ⟨_, rfl⟩))⟩

theorem follows_recordButton (c : Conversation) (button : String) (now : Instant) :
    (c.after (.recordButton button) now).Follows c :=
  ⟨c.same_after _ now, rfl, rfl, fun h => h.after (.inr (.inr (.inl ⟨_, rfl⟩)))⟩

theorem follows_mergeVariables (c : Conversation) (entries : List (String × String))
    (now : Instant) : (c.after (.mergeVariables entries) now).Follows c :=
  ⟨c.same_after _ now, rfl, rfl, fun h => h.after (.inr (.inr (.inr ⟨_, rfl⟩)))⟩

/-- Where a conversation goes on with the button that a reply stands for. -/
def answered (c : Conversation) (choice : Continuation) (now : Instant) : Conversation :=
  let chosen := c.after (.recordButton choice.button.id) now
  let noted := match choice.variableName with
    | some name => chosen.after (.mergeVariables [(name, choice.button.title)]) now
    | none => chosen
  noted.after (.advance choice.target) now

theorem follows_answered (c : Conversation) (choice : Continuation) (now : Instant) :
    (c.answered choice now).Follows c := by
  unfold answered
  dsimp only
  cases choice.variableName with
  | none => exact (follows_advance _ _ now).trans (follows_recordButton _ _ now)
  | some name =>
    exact (follows_advance _ _ now).trans
      ((follows_mergeVariables _ _ now).trans (follows_recordButton _ _ now))

end Conversation

/-- What comes of an event that a conversation heard and `takeReply` does not take: it goes on
waiting, or ends with a word about that. -/
inductive Conversation.Untaken (env : Environment) (s : Store) (es : List Exchange)
    (heard : Conversation) : NodeKind → Outcome → Store → List Exchange → Prop where
  | waits {kind : NodeKind} (waits : (kind.isDelay || kind.isForm) = true) :
      Untaken env s es heard kind (.waiting heard.id heard.node) (s.set heard) es
  | ends {text : String} {bs : List Button} {variableName : Option String} {s' : Store}
      {es' : List Exchange}
      (handed : es' = es ∨ ∃ (d : Conversation) (body : String),
        es' = d.exchange env es (.text body) :: es) :
      Untaken env s es heard (.buttons text bs variableName) (.recovered heard.id heard.node) s' es'

theorem Conversation.Untaken.pass?_eq_none {env : Environment} {s s' : Store}
    {es es' : List Exchange} {heard : Conversation} {kind : NodeKind} {o : Outcome}
    (h : Untaken env s es heard kind o s' es') : o.pass? = none := by
  cases h <;> rfl

/-- Where a conversation goes on that has heard an event at a node and takes it. -/
def Flow.taken? (f : Flow) (e : Event) (now : Instant) (c : Conversation) (n : Node) :
    Option Conversation :=
  match n.kind with
  | .buttons _ _ _ => (f.continuation? c.node e.button e.text).map fun choice =>
      c.answered choice now
  | .delay _ => none
  | .form _ _ _ => none
  | _ => some c

section

variable {env : Environment} {s : Store} {es : List Exchange} {f : Flow} {c d : Conversation}
  {e : Event} {n : Node} {sn : Snapshot}

theorem Flow.follows_taken? {now : Instant} (h : f.taken? e now c n = some d) :
    d.Follows c := by
  unfold taken? at h
  split at h
  · obtain ⟨choice, -, rfl⟩ := Option.map_eq_some_iff.mp h
    exact c.follows_answered choice now
  · cases h
  · cases h
  · cases h
    exact ⟨.refl c, rfl, rfl, fun lasting => lasting⟩

theorem Flow.updated_taken? {now : Instant} (h : f.taken? e now c n = some d)
    (hc : c.updated = now) : d.updated = now := by
  unfold taken? at h
  split at h
  · obtain ⟨choice, -, rfl⟩ := Option.map_eq_some_iff.mp h
    rfl
  · cases h
  · cases h
  · cases h
    exact hc

theorem Flow.leads_proceed {r : Conversation × Except AutomationError Pass} {s' : Store}
    {es' : List Exchange} (hpass : (f.runPass c).Leads env s es r s' es') :
    (f.proceed c).Leads env s es (r.2.map (.flowAdvanced f.id c.id)) s' es' := by
  obtain ⟨last, outcome⟩ := r
  unfold proceed
  refine .bind (.ofAct hpass) ?_
  cases outcome with
  | ok pass => exact .bind (.ofResult _) (.pure _)
  | error e => exact .bind_error (.ofResult _)

namespace Conversation

-- A copy that is active is changed, and what is done next begins with what was written.
theorem leads_change_bind {α : Type} (faultless : env.Faultless) (hs : s.Consistent)
    (held : s.Holds c) (active : c.isActive = true) {ch : Change}
    {k : Conversation → Step AutomationError α} {r : Except AutomationError α} {s' : Store}
    {es' : List Exchange}
    (hk : (s.set (c.after ch env.now)).Consistent →
      (s.set (c.after ch env.now)).Holds (c.after ch env.now) →
      (k (c.after ch env.now)).Leads env (s.set (c.after ch env.now)) es r s' es') :
    (stored (c.change ch) >>= k).Leads env s es r s' es' :=
  .bind (leads_change faultless hs held active ch)
    (hk (hs.set held active (c.same_after ch env.now)) (held.set (c.same_after ch env.now)))

section

variable (faultless : env.Faultless) (hs : s.Consistent) (held : s.Holds c)
  (active : c.isActive = true)

include faultless hs held active

-- A reply to a message with buttons leads to where its button does.
theorem leads_takeReply {choice : Continuation}
    (hchoice : f.continuation? c.node e.button e.text = some choice)
    {r : Conversation × Except AutomationError Pass} {s' : Store} {es' : List Exchange}
    (hpass : (f.runPass (c.answered choice env.now)).Leads env
      (s.set (c.answered choice env.now)) es r s' es') :
    (c.takeReply sn f e).Leads env s es
      (r.2.map (.flowAdvanced f.id (c.answered choice env.now).id)) s' es' := by
  unfold takeReply
  rw [hchoice]
  refine leads_change_bind faultless hs held active fun hs₁ held₁ => ?_
  cases hname : choice.variableName with
  | none =>
    simp only [answered, hname] at hpass ⊢
    refine .bind (.pure _) (leads_change_bind faultless hs₁ held₁ active fun _ _ => ?_)
    -- Of the writes over the row the last is left, which is where the pass begins.
    rw [Store.set_set]
    · exact Flow.leads_proceed hpass
    · rfl
  | some name =>
    simp only [answered, hname] at hpass ⊢
    refine leads_change_bind faultless hs₁ held₁ active fun hs₂ held₂ => ?_
    refine leads_change_bind faultless hs₂ held₂ active fun _ _ => ?_
    rw [Store.set_set, Store.set_set]
    · exact Flow.leads_proceed hpass
    · rfl
    · rfl

-- What a conversation makes of a reply that stands for no button. The person is told so.
theorem leads_recover (still : env.Still) (es : List Exchange) (settings : AccountSettings) :
    ∃ body es', (c.recover settings).Leads env s es (.ok (.recovered c.id c.node))
        (s.set (c.after .complete env.now)) es' ∧
      (es' = es ∨ es' = (c.after .complete env.now).exchange env es (.text body) :: es) := by
  unfold recover
  let body := (settings.recovery.filter fun m => !Text.blank m).getD env.policy.recovery
  cases hopen : Window.isOpen (c.after .complete env.now).lastInbound env.now with
  | true =>
    refine ⟨body, _, ?_, .inr rfl⟩
    exact .bind (leads_finish faultless hs held active)
      (.bind .policy (.bind (.ofAct (leads_deliver still hopen rfl).attempt) (.pure _)))
  | false =>
    refine ⟨body, _, ?_, .inl rfl⟩
    exact .bind (leads_finish faultless hs held active)
      (.bind .policy (.bind (.ofAct (leads_deliver_closed still hopen rfl).attempt)
        (.pure _)))

-- A conversation that is fresh, and has lost neither its flow nor its node, hears an event.
theorem comesTo_heard (es : List Exchange) (sn : Snapshot) (e : Event)
    (fresh : Window.isStale c.lastInbound env.now = false)
    (hflow : sn.flow? c.flow = some f) (hnode : f.node? c.node = some n) {heard : Conversation}
    (hheard : heard = c.after (.recordInbound e.received) env.now) :
    (c.takeEvent sn e).ComesTo env s es (s.set heard) es
      (match n.kind with
        | .buttons _ _ _ => some <$> heard.takeReply sn f e
        | .delay _ => return some (.waiting heard.id n.id)
        | .form _ _ _ => return some (.waiting heard.id n.id)
        | .trigger => some <$> f.proceed heard
        | .message _ => some <$> f.proceed heard
        | .finish _ => some <$> f.proceed heard) := by
  subst hheard
  unfold takeEvent
  refine .bind (leads_expireIfStale_fresh fresh) ?_
  simp only [Bool.false_eq_true, if_false, hflow, Option.bind_some, hnode, Option.map_some]
  exact .bind (leads_change faultless hs held active _) (.refl _)

-- It goes on with an event that it takes.
theorem leads_takeEvent_taken (fresh : Window.isStale c.lastInbound env.now = false)
    (hflow : sn.flow? c.flow = some f) (hnode : f.node? c.node = some n)
    (htaken : f.taken? e env.now (c.after (.recordInbound e.received) env.now) n = some d)
    {r : Conversation × Except AutomationError Pass} {s' : Store} {es' : List Exchange}
    (hpass : (f.runPass d).Leads env (s.set d) es r s' es') :
    (c.takeEvent sn e).Leads env s es ((r.2.map (.flowAdvanced f.id d.id)).map some) s' es' := by
  have hsame := c.same_after (.recordInbound e.received) env.now
  have hheard : (c.after (.recordInbound e.received) env.now).isActive = true :=
    (isActive_after (by simp)).trans active
  have hid : (c.after (.recordInbound e.received) env.now).id = d.id :=
    (Flow.follows_taken? htaken).same.id.symm
  refine (comesTo_heard faultless hs held active es sn e fresh hflow hnode rfl).leads ?_
  unfold Flow.taken? at htaken
  cases hkind : n.kind with
  | buttons text bs variableName =>
    rw [hkind] at htaken
    obtain ⟨choice, hchoice, rfl⟩ := Option.map_eq_some_iff.mp htaken
    rw [← Store.set_set s hid] at hpass
    exact (leads_takeReply faultless (hs.set held active hsame) (held.set hsame) hheard hchoice
      hpass).map_result
  | delay seconds =>
    rw [hkind] at htaken
    cases htaken
  | form id body callToAction =>
    rw [hkind] at htaken
    cases htaken
  | _ =>
    rw [hkind] at htaken
    cases htaken
    exact (Flow.leads_proceed hpass).map_result

-- It goes on waiting after an event that it does not take, or ends with a word about that.
theorem leads_takeEvent_untaken (still : env.Still) (es : List Exchange)
    (fresh : Window.isStale c.lastInbound env.now = false)
    (hflow : sn.flow? c.flow = some f) (hnode : f.node? c.node = some n)
    (htaken : f.taken? e env.now (c.after (.recordInbound e.received) env.now) n = none) :
    ∃ o s' es', (c.takeEvent sn e).Leads env s es (.ok (some o)) s' es' ∧
      Untaken env s es (c.after (.recordInbound e.received) env.now) n.kind o s' es' := by
  have hsame := c.same_after (.recordInbound e.received) env.now
  have hheard : (c.after (.recordInbound e.received) env.now).isActive = true :=
    (isActive_after (by simp)).trans active
  have hentry := comesTo_heard faultless hs held active es sn e fresh hflow hnode rfl
  have hid : n.id = (c.after (.recordInbound e.received) env.now).node :=
    (Flow.node?_id hnode).trans (node_recordInbound c _ _).symm
  rw [hid] at hentry
  unfold Flow.taken? at htaken
  cases hkind : n.kind with
  | buttons text bs variableName =>
    rw [hkind] at htaken hentry
    have hchoice := Option.map_eq_none_iff.mp htaken
    obtain ⟨body, es', hrecover, hes'⟩ := leads_recover faultless (hs.set held active hsame)
      (held.set hsame) hheard still es sn.settings
    have hreply : (c.after (.recordInbound e.received) env.now).takeReply sn f e =
        (c.after (.recordInbound e.received) env.now).recover sn.settings := by
      rw [takeReply, hchoice]
    rw [← hreply] at hrecover
    exact ⟨_, _, es', hentry.leads hrecover.map,
      .ends (hes'.imp (fun h => h) fun h => ⟨_, body, h⟩)⟩
  | delay seconds =>
    rw [hkind] at hentry
    exact ⟨_, _, _, hentry.leads (.pure _), .waits rfl⟩
  | form id body callToAction =>
    rw [hkind] at hentry
    exact ⟨_, _, _, hentry.leads (.pure _), .waits rfl⟩
  | _ =>
    rw [hkind] at htaken
    cases htaken

-- A conversation that is stale, or has lost its flow or its node, is closed.
theorem leads_takeEvent_closed (h : Window.isStale c.lastInbound env.now = true ∨
      (sn.flow? c.flow).bind (fun f => (f.node? c.node).map fun n => (f, n)) = none) :
    (c.takeEvent sn e).Leads env s es (.ok none) (s.set (c.after .complete env.now)) es := by
  unfold takeEvent
  cases hstale : Window.isStale c.lastInbound env.now with
  | true =>
    refine .bind (leads_expireIfStale faultless hs held active hstale) ?_
    simp only [if_true]
    exact .pure _
  | false =>
    have hlost := h.resolve_left (by simp [hstale])
    refine .bind (leads_expireIfStale_fresh hstale) ?_
    simp only [Bool.false_eq_true, if_false, hlost]
    exact .bind (leads_finish faultless hs held active) (.pure _)

end

end Conversation

/-! ## 4. Conversations that begin -/

/-- Starts a flow for a conversation that is still to be stored. -/
def Flow.beginFor (f : Flow) (c : Conversation) : Step AutomationError Outcome := do
  stored (Calls.createState c)
  stored (Calls.countFlowStart f.id (← now))
  let (_, outcome) ← ofAct (f.runPass c)
  return .flowStarted f.id c.id (← ofResult outcome)

-- A flow is started for a conversation under the identifier that is drawn.
theorem Flow.run_begin (hstart : f.start? = some n) (w : World)
    (hc : c = .begun (env.freshId w.drawn) e.workspace e.account e.phone f.id n.id
      (some e.received) env.now) :
    f.begin e env w = f.beginFor c env { w with drawn := w.drawn + 1 } := by
  -- The identifier is drawn before anything is written.
  have hcreate : Conversation.create e.workspace e.account e.phone f.id n.id (some e.received)
      env w = (Calls.createState c >>= fun _ => pure c) env { w with drawn := w.drawn + 1 } := by
    rw [hc]
    rfl
  rw [begin, beginFor, hstart]
  dsimp only
  rw [run_bind, run_bind, stored, stored, run_mapError, run_mapError, hcreate, run_bind]
  rcases Calls.createState c env _ with ⟨_ | _, w'⟩ <;> rfl

theorem Flow.leads_beginFor (faultless : env.Faultless) (hcreate : s.createState c = .ok s₁)
    {r : Conversation × Except AutomationError Pass} {s' : Store} {es' : List Exchange}
    (hpass : (f.runPass c).Leads env (s₁.countFlowStart f.id env.now) es r s' es') :
    (f.beginFor c).Leads env s es (r.2.map (.flowStarted f.id c.id)) s' es' := by
  obtain ⟨last, outcome⟩ := r
  have hcreated : (Calls.createState c).Leads env s es (.ok ()) s₁ es := .tell faultless hcreate
  have hcounted : (Calls.countFlowStart f.id env.now).Leads env s₁ es (.ok ())
      (s₁.countFlowStart f.id env.now) es := .tell faultless rfl
  refine .bind (.stored hcreated rfl) (.bind .now (.bind (.stored hcounted rfl)
    (.bind (.ofAct hpass) ?_)))
  cases outcome with
  | ok pass => exact .bind (.ofResult _) (.pure _)
  | error e => exact .bind_error (.ofResult _)

theorem Flow.leads_beginFor_error (faultless : env.Faultless) {err : StoreError}
    (hcreate : s.createState c = .error err) :
    (f.beginFor c).Leads env s es (.error (.store err)) s es := by
  have hfailed : (Calls.createState c).Leads env s es (.error err) s es :=
    .call_error faultless (congrArg (Except.map _) hcreate)
  exact .bind_error (.stored_error hfailed rfl)

-- A conversation that has just begun is ready.
theorem ready_begun (hs : s.Consistent) (keyed : s.Keyed)
    (offered : s.Offers e.workspace e.account f) (hkept : e.received.kept = e.received) {id : Uuid}
    {node : String} {now : Instant}
    (hc : c = .begun id e.workspace e.account e.phone f.id node (some e.received) now) {s₁ : Store}
    (hcreate : s.createState c = .ok s₁) :
    ∃ g, Ready e now f g c (s₁.countFlowStart f.id now) := by
  obtain ⟨hs₁, held⟩ := hs.createState hcreate
  have heq := (Store.states_createState hcreate).1
  have hflows : s₁.flows = s.flows := by rw [heq]
  have hsettings : s₁.settings = s.settings := by rw [heq]
  obtain ⟨g, hg, hgraph⟩ :=
    (keyed.congr hflows).offers_countFlowStart (offered.congr hflows hsettings) f.id now
  subst hc
  refine ⟨g, hs₁.congr rfl, held.congr rfl, ?_, rfl, rfl, rfl, rfl, ⟨_, rfl, ?_⟩, fun h => h, ?_,
    rfl, hg, hgraph⟩
  · exact congrArg (Store.countFlowStart · f.id now) (Store.set_createState hcreate)
  · -- The event is the last message of the conversation that begins with it.
    simp
  · simp [Conversation.Lasting, Conversation.kept, Conversation.bare, Conversation.begun, hkept]

-- A flow that is started comes to a pass for the conversation that begins, unless it cannot begin.
theorem fares_begin (faultless : env.Faultless) (hs : s.Consistent) (keyed : s.Keyed)
    (offered : s.Offers e.workspace e.account f) (hkept : e.received.kept = e.received)
    (es : List Exchange) (drawn : Nat) : (f.begin e).Fares env s es drawn e := by
  cases hstart : f.start? with
  | none =>
    have hthrow (v : Sender × Nat) : (f.begin e).Leads (env.varied v) s es
        (.error (.flow (.invalidGraph f.id "no start node"))) s es := by
      rw [Flow.begin, hstart]
      exact .throw _
    exact .fruitless (.of_leads fun v => ⟨_, s, es, hthrow v, Outcome.pass?_ofError _⟩)
  | some n =>
    obtain ⟨c, hc⟩ : ∃ c, c = Conversation.begun (env.freshId drawn) e.workspace e.account e.phone
      f.id n.id (some e.received) env.now := ⟨_, rfl⟩
    cases hcreate : s.createState c with
    | error err =>
      refine .fruitless fun v w hw hes hdrawn => ?_
      have hrun : f.begin e (env.varied v) w =
          f.beginFor c (env.varied v) { w with drawn := w.drawn + 1 } :=
        Flow.run_begin hstart w (by rw [hdrawn]; exact hc)
      have hleads : (f.beginFor c).Leads (env.varied v) s es _ s es :=
        Flow.leads_beginFor_error (faultless.varied v) hcreate
      rw [hrun, (hleads { w with drawn := w.drawn + 1 } hw hes).1]
      exact Outcome.pass?_ofError _
    | ok s₁ =>
      obtain ⟨g, hready⟩ := ready_begun hs keyed offered hkept hc hcreate
      refine .passes (fun v w hw hes hdrawn r s' es' hpass => ?_) hready offered (.inl rfl)
      have hrun : f.begin e (env.varied v) w =
          f.beginFor c (env.varied v) { w with drawn := w.drawn + 1 } :=
        Flow.run_begin hstart w (by rw [hdrawn]; exact hc)
      have hleads : (f.beginFor c).Leads (env.varied v) s es _ s' es' :=
        Flow.leads_beginFor (faultless.varied v) hcreate hpass
      obtain ⟨hresult, hstore, hexchanges, -⟩ := hleads { w with drawn := w.drawn + 1 } hw hes
      rw [hrun]
      exact ⟨hresult, hstore ▸ .refl _, hexchanges⟩

/-! ## 5. Rules -/

/-- What `Rule.limitHit?` finds for a rule in a conversation, as far as the store tells. -/
def Store.limitHit? (s : Store) (r : Rule) (conversation : String) (z : Zone) (now : Instant) :
    Option LimitHit :=
  (if r.cooldown = 0 then none
    else (s.lastFiring r.id conversation).bind fun last => r.cooldownHit? last now).or
    (if r.dailyCap = 0 then none
      else r.capHit? (s.countFirings r.id conversation (z.localMidnight now)))

theorem Rule.leads_limitHit? (s : Store) (es : List Exchange) (faultless : env.Faultless)
    (r : Rule) (conversation : String) (z : Zone) :
    (r.limitHit? conversation z).Leads env s es (.ok (s.limitHit? r conversation z env.now))
      s es := by
  have hlast : (Calls.lastFiring r.id conversation).Leads env s es
      (.ok (s.lastFiring r.id conversation)) s es := .ask faultless
  have hcount (since : Instant) : (Calls.countFirings r.id conversation since).Leads env s es
      (.ok (s.countFirings r.id conversation since)) s es := .ask faultless
  have hcooldown : (r.checkCooldown conversation).Leads env s es
      (.ok (if r.cooldown = 0 then none
        else (s.lastFiring r.id conversation).bind fun last =>
          r.cooldownHit? last env.now)) s es := by
    unfold checkCooldown
    by_cases hzero : r.cooldown = 0
    · rw [if_pos hzero, if_pos hzero]
      exact .pure _
    · rw [if_neg hzero, if_neg hzero]
      refine .bind hlast ?_
      cases s.lastFiring r.id conversation with
      | none => exact .pure _
      | some last =>
        rw [Option.bind_some]
        exact .bind .now (.pure _)
  have hcap : (r.checkCap conversation z).Leads env s es
      (.ok (if r.dailyCap = 0 then none
        else r.capHit? (s.countFirings r.id conversation (z.localMidnight env.now)))) s es := by
    unfold checkCap
    by_cases hzero : r.dailyCap = 0
    · rw [if_pos hzero, if_pos hzero]
      exact .pure _
    · rw [if_neg hzero, if_neg hzero]
      exact .bind .now (.bind (hcount _) (.pure _))
  unfold limitHit? Store.limitHit?
  refine .bind hcooldown ?_
  cases (if r.cooldown = 0 then none
    else (s.lastFiring r.id conversation).bind fun last => r.cooldownHit? last env.now) with
  | none => exact hcap
  | some hit => exact .pure _

def FiringRecord.firing (record : FiringRecord) (id rule : Uuid) (success : Bool) (now : Instant) :
    Firing :=
  { id, rule, conversation := record.conversation, messageId := record.messageId,
    text := record.text, keyword := record.keyword, success, time := now }

-- An identifier is drawn before the firing is written.
theorem exists_entry (env : Environment) (rule : Uuid) (record : FiringRecord) (success : Bool)
    (w : World) :
    ∃ entry, entry = record.firing (env.freshId w.drawn) rule success env.now ∧
      logFiring rule record success env w =
        (Calls.logFiring entry >>= fun _ => pure entry) env { w with drawn := w.drawn + 1 } :=
  ⟨_, rfl, rfl⟩

-- Logging a firing leaves conversations and flows alone.
theorem alike_logFiring (faultless : env.Faultless) (rule : Uuid) (record : FiringRecord)
    (success : Bool) (w : World) :
    (logFiring rule record success env w).2.store.Alike w.store ∧
      (logFiring rule record success env w).2.exchanges = w.exchanges := by
  obtain ⟨entry, -, hrun⟩ := exists_entry env rule record success w
  rw [hrun]
  cases hlog : w.store.logFiring entry with
  | error err =>
    have hcall : (Calls.logFiring entry).Leads env w.store w.exchanges (.error err) w.store
        w.exchanges := .call_error faultless (congrArg (Except.map _) hlog)
    obtain ⟨-, hstore, hexchanges, -⟩ :=
      hcall.bind_error (k := fun _ => pure entry) { w with drawn := w.drawn + 1 } rfl rfl
    rw [hstore]
    exact ⟨.refl _, hexchanges⟩
  | ok s' =>
    have hcall : (Calls.logFiring entry).Leads env w.store w.exchanges (.ok ()) s' w.exchanges :=
      .tell faultless hlog
    obtain ⟨-, hstore, hexchanges, -⟩ :=
      hcall.bind (k := fun _ => pure entry) (.pure entry) { w with drawn := w.drawn + 1 } rfl rfl
    refine ⟨?_, hexchanges⟩
    rw [hstore, Store.eq_of_logFiring hlog]
    exact ⟨rfl, rfl, rfl⟩

-- A step without an outcome that tells of a pass is fruitless.
theorem Step.fruitless_of_outcome {x : Step AutomationError Outcome}
    (hx : ∀ env w o, (x env w).1 = .ok o → o.pass? = none) {drawn : Nat} :
    x.Fruitless env s es drawn := by
  intro v w _ _ _
  cases hrun : (x (env.varied v) w).1 with
  | ok o => exact hx _ _ o hrun
  | error err => exact Outcome.pass?_ofError err

theorem pass?_reply {rule : Uuid} {m : Message} {env : Environment} {w : World} {o : Outcome}
    (h : (e.reply rule m env w).1 = .ok o) : o.pass? = none := by
  rw [Event.reply, run_bind] at h
  split at h <;> cases h
  rfl

-- A rule that starts a flow comes to what starting it comes to. Any other one tells of no pass.
theorem respond_begin_or_fruitless (e : Event) (sn : Snapshot) (r : Rule) (faq : Option FaqAnswer) :
    (∃ id f, sn.flow? id = some f ∧ e.respond sn r faq = f.begin e) ∨
      ∀ {env s es drawn}, (e.respond sn r faq).Fruitless env s es drawn := by
  cases hfaq : faq with
  | some answer => exact .inr (fruitless_of_outcome fun _ _ _ => pass?_reply)
  | none =>
    unfold Event.respond
    cases r.response with
    | startFlow id =>
      dsimp only
      cases hflow : sn.flow? id with
      | some f => exact .inl ⟨id, f, hflow, rfl⟩
      | none => exact .inr (fruitless_of_outcome fun _ _ _ h => by cases h)
    | ai instructions =>
      refine .inr (fruitless_of_outcome fun env w o h => ?_)
      dsimp only at h
      rw [run_bind] at h
      split at h
      · split at h
        · exact pass?_reply h
        · cases h
          rfl
      · cases h
    | _ => exact .inr (fruitless_of_outcome fun _ _ _ => pass?_reply)

/-- Where `limitHit?` finds no limit, `Event.fire` is what `Event.respond` comes to, and that it is
logged. -/
theorem run_fire_allowed (faultless : env.Faultless) (e : Event) (sn : Snapshot) (r : Rule)
    (selected : Selected) {w : World}
    (hlimit : w.store.limitHit? r e.conversation (sn.settings.zone env.zones) env.now = none) :
    ∃ w₁, w₁ = (r.limitHit? e.conversation (sn.settings.zone env.zones) env w).2 ∧
      w₁.store = w.store ∧ w₁.exchanges = w.exchanges ∧ w₁.drawn = w.drawn ∧
      e.fire sn r selected env w = ((e.respond sn r selected.faq env w₁).1,
        (logFiring r.id ⟨e.conversation, e.messageId, e.text, selected.keyword⟩
          (Outcome.ofExcept (e.respond sn r selected.faq env w₁).1).isSuccess env
          (e.respond sn r selected.faq env w₁).2).2) := by
  have hchecked := Rule.leads_limitHit? w.store w.exchanges faultless r
    e.conversation (sn.settings.zone env.zones) w rfl rfl
  rw [hlimit] at hchecked
  obtain ⟨hresult, hstore, hexchanges, hdrawn⟩ := hchecked
  obtain ⟨w₁, hw₁⟩ :
      ∃ w₁, w₁ = (r.limitHit? e.conversation (sn.settings.zone env.zones) env w).2 := ⟨_, rfl⟩
  rw [← hw₁] at hstore hexchanges hdrawn
  have hzones : (Step.zones : Step AutomationError Zones) env w = (.ok env.zones, w) := rfl
  have hallowed : stored (r.limitHit? e.conversation (sn.settings.zone env.zones)) env w =
      (.ok none, w₁) := run_stored (Prod.ext hresult hw₁.symm)
  refine ⟨w₁, hw₁, hstore, hexchanges, hdrawn, ?_⟩
  unfold Event.fire
  rw [run_bind_ok hzones, run_bind_ok hallowed]
  dsimp only
  rw [run_ofAct_bind, run_ofAct_bind]
  simp only [attempt]
  -- An answer counts as a success by what it is told as.
  cases hanswer : (e.respond sn r selected.faq env w₁).1 with
  | ok o => rfl
  | error err => cases err <;> rfl

-- What is logged of a rule concerns neither conversations nor what was handed over.
theorem run_fire (faultless : env.Faultless) (e : Event) (sn : Snapshot) (r : Rule)
    (selected : Selected) {w : World}
    (hlimit : w.store.limitHit? r e.conversation (sn.settings.zone env.zones) env.now = none) :
    ∃ w₁, w₁.store = w.store ∧ w₁.exchanges = w.exchanges ∧ w₁.drawn = w.drawn ∧
      (e.fire sn r selected env w).1 = (e.respond sn r selected.faq env w₁).1 ∧
      (e.fire sn r selected env w).2.store.Alike (e.respond sn r selected.faq env w₁).2.store ∧
      (e.fire sn r selected env w).2.exchanges =
        (e.respond sn r selected.faq env w₁).2.exchanges := by
  obtain ⟨w₁, -, hstore, hexchanges, hdrawn, hfire⟩ :=
    run_fire_allowed faultless e sn r selected hlimit
  rw [hfire]
  exact ⟨w₁, hstore, hexchanges, hdrawn, rfl, alike_logFiring faultless _ _ _ _⟩

-- A rule that hits a limit answers nothing.
theorem leads_fire_limited (faultless : env.Faultless) (e : Event) (sn : Snapshot) (r : Rule)
    (selected : Selected) {hit : LimitHit}
    (hlimit : s.limitHit? r e.conversation (sn.settings.zone env.zones) env.now = some hit) :
    (e.fire sn r selected).Leads env s es (.error (.rateLimited r.id hit.message)) s es := by
  have hchecked := Rule.leads_limitHit? s es faultless r e.conversation
    (sn.settings.zone env.zones)
  rw [hlimit] at hchecked
  exact .bind .zones (.bind (hchecked.stored rfl) (.throw _))

-- A rule that fires comes to a pass for the conversation that begins, or tells of no pass.
theorem fares_fire (faultless : env.Faultless) (hs : s.Consistent) (keyed : s.Keyed)
    (hsnapshot : s.snapshot e.workspace e.account = .ok sn) (hkept : e.received.kept = e.received)
    (es : List Exchange) (drawn : Nat) (r : Rule) (selected : Selected) :
    (e.fire sn r selected).Fares env s es drawn e := by
  cases hlimit : s.limitHit? r e.conversation (sn.settings.zone env.zones) env.now with
  | some hit =>
    exact .fruitless (.of_leads fun v => ⟨_, s, es,
      leads_fire_limited (faultless.varied v) e sn r selected hlimit,
      Outcome.pass?_ofError _⟩)
  | none =>
    have hfire (v : Sender × Nat) (w : World) (hw : w.store = s) :=
      run_fire (faultless.varied v) e sn r selected (w := w) (by rw [hw]; exact hlimit)
    have hfruitless : (e.respond sn r selected.faq).Fruitless env s es drawn →
        (e.fire sn r selected).Fruitless env s es drawn := by
      intro h v w hw hes hdrawn
      obtain ⟨w₁, hw₁, hes₁, hdrawn₁, hresult, -⟩ := hfire v w hw
      rw [hresult]
      exact h v w₁ (hw₁.trans hw) (hes₁.trans hes) (hdrawn₁.trans hdrawn)
    rcases respond_begin_or_fruitless e sn r selected.faq with ⟨id, f, hflow, hrespond⟩ | hother
    · have hid : f.id = id := by simpa using List.find?_some hflow
      have offered : s.Offers e.workspace e.account f := ⟨sn, hsnapshot, hid ▸ hflow⟩
      rw [hrespond] at hfruitless
      cases fares_begin faultless hs keyed offered hkept es drawn with
      | passes hpasses hready offered hreport =>
        -- What is logged afterwards concerns neither conversations nor what was handed over.
        refine .passes (fun v w hw hes hdrawn r s' es' hpass => ?_) hready offered hreport
        obtain ⟨w₁, hw₁, hes₁, hdrawn₁, hresult, halike, hexchanges⟩ := hfire v w hw
        rw [hrespond] at hresult halike hexchanges
        obtain ⟨hbegun, halike', hexchanges'⟩ := hpasses v w₁ (hw₁.trans hw) (hes₁.trans hes)
          (hdrawn₁.trans hdrawn) hpass
        exact ⟨hresult.trans hbegun, halike.trans halike', hexchanges.trans hexchanges'⟩
      | fruitless hbegin => exact .fruitless (hfruitless hbegin)
    · exact .fruitless (hfruitless hother)

/-! ## 6. Events -/

-- What is selected is one of the candidates, whatever was asked before.
theorem mem_of_selectFrom {m : Matcher} {q : Query} {selected : Selected} {cs : List Candidate}
    {asked : List Lookup} (h : (sn.selectFrom m q cs asked).1 = some selected) :
    selected.candidate ∈ cs := by
  induction cs generalizing asked with
  | nil => cases h
  | cons c rest ih =>
    rw [selectFrom_cons] at h
    rcases hevaluate : sn.evaluate m q c asked with ⟨_ | found, asked'⟩ <;> rw [hevaluate] at h
    · exact List.mem_cons_of_mem c (ih h)
    · cases h
      have hfound : (sn.evaluate m q c asked).1 = some selected := by rw [hevaluate]
      exact candidate_of_evaluate hfound ▸ List.mem_cons_self

theorem candidate_of_select {m : Matcher} {q : Query} {selected : Selected}
    (h : (sn.select m q).1 = some selected) : selected.candidate ∈ sn.candidates :=
  mem_of_selectFrom h

theorem mem_flows_of_candidate (h : Candidate.flow f ∈ sn.candidates) : f ∈ sn.flows := by
  unfold Snapshot.candidates at h
  rw [List.mem_mergeSort] at h
  rcases List.mem_append.mp h with h | h
  · obtain ⟨g, hg, heq⟩ := List.mem_map.mp h
    cases heq
    exact hg
  · obtain ⟨r, -, heq⟩ := List.mem_map.mp h
    cases heq

-- What answers an event comes to a pass for the conversation that begins, or tells of no pass.
theorem fares_answer (faultless : env.Faultless) (hs : s.Consistent) (keyed : s.Keyed)
    (hsnapshot : s.snapshot e.workspace e.account = .ok sn) (hkept : e.received.kept = e.received)
    (es : List Exchange) (drawn : Nat) : (e.answer sn).Fares env s es drawn e := by
  have hselected (v : Sender × Nat) : (e.selected? sn).Leads (env.varied v) s es
      (sn.select env.matcher ⟨e.text, e.isFirst, env.now⟩).1 s es :=
    fun _ hw hes => ⟨rfl, hw, hes, rfl⟩
  cases hselect : (sn.select env.matcher ⟨e.text, e.isFirst, env.now⟩).1 with
  | none =>
    refine .fruitless (.of_leads fun v => ⟨.ok .noMatch, s, es, ?_, rfl⟩)
    have hnone := hselected v
    rw [hselect] at hnone
    exact .bind (.ofAct hnone) (.pure _)
  | some selected =>
    have hcandidate := candidate_of_select hselect
    rw [hselect] at hselected
    obtain ⟨candidate, keyword, faq⟩ := selected
    cases candidate with
    | flow f =>
      have hbegins (v : Sender × Nat) :
          (e.answer sn).ComesTo (env.varied v) s es s es (f.begin e) :=
        .bind (.ofAct (hselected v)) (.refl _)
      have offered : s.Offers e.workspace e.account f :=
        ⟨sn, hsnapshot, keyed.flow?_of_mem hsnapshot (mem_flows_of_candidate hcandidate)⟩
      exact (fares_begin faultless hs keyed offered hkept es drawn).of_comesTo hbegins rfl rfl
    | rule r =>
      have hfires (v : Sender × Nat) : (e.answer sn).ComesTo (env.varied v) s es s es
          (e.fire sn r ⟨.rule r, keyword, faq⟩) :=
        .bind (.ofAct (hselected v)) (.refl _)
      exact (fares_fire faultless hs keyed hsnapshot hkept es drawn r _).of_comesTo hfires rfl rfl

-- A conversation that goes on with an event is ready.
theorem ready_taken (hs : s.Consistent) (held : s.Holds c) (active : c.isActive = true)
    (workspace : c.workspace = e.workspace) (phone : c.phone = e.phone) (hc : c.kept = c)
    (hkept : e.received.kept = e.received)
    (hsnapshot : s.snapshot e.workspace e.account = .ok sn) (hflow : sn.flow? c.flow = some f)
    {now : Instant} (fresh : Window.isStale c.lastInbound now = false)
    (htaken : f.taken? e now (c.after (.recordInbound e.received) now) n = some d) :
    Ready e now f f d (s.set d) ∧ s.Offers e.workspace e.account f := by
  have hfollows := Flow.follows_taken? htaken
  have hsame : d.Same c := hfollows.same.trans (c.same_after _ now)
  have hid : f.id = c.flow := by simpa using List.find?_some hflow
  have offered : s.Offers e.workspace e.account f := ⟨sn, hsnapshot, hid ▸ hflow⟩
  have hlasting : c.Lasting := congrArg Conversation.bare hc
  have hopen : Window.isOpen c.lastInbound now = true := by simpa [Window.isStale] using fresh
  have hactive : d.isActive = true :=
    hfollows.active.trans ((Conversation.isActive_after (by simp)).trans active)
  have hknows : d.Knows e.received := by
    obtain ⟨last, hlast, hle⟩ := c.knows_recordInbound e.received now
    exact ⟨last, hfollows.inbound.trans hlast, hle⟩
  exact ⟨{ consistent := hs.set held active hsame
           held := held.set hsame
           written := s.set_set rfl
           active := hactive
           flow := hsame.flow.trans hid.symm
           workspace := hsame.workspace.trans workspace
           phone := hsame.phone.trans phone
           knows := hknows
           opens := fun h => hfollows.inbound ▸ Conversation.isOpen_recordInbound hopen h
           lasting := hfollows.lasting (hlasting.after (.inl ⟨_, rfl, hkept⟩))
           updated := Flow.updated_taken? htaken rfl
           offered := offered.congr rfl rfl
           graph := ⟨rfl, rfl, rfl⟩ }, offered⟩

section

variable (faultless : env.Faultless) (hs : s.Consistent)
  (hsnapshot : s.snapshot e.workspace e.account = .ok sn)

include faultless hsnapshot

theorem comesTo_answer (es : List Exchange)
    (hstate : s.activeState? e.workspace e.phone = .ok none) :
    e.process.ComesTo env s es s es (e.answer sn) :=
  .bind (.stored (Calls.leads_snapshot faultless _ _) hsnapshot)
    (.bind (.stored (Calls.leads_activeState? faultless _ _) hstate) (.refl _))

-- Where a person has an active conversation, that is asked first.
theorem comesTo_takeEvent (es : List Exchange)
    (hstate : s.activeState? e.workspace e.phone = .ok (some c)) :
    e.process.ComesTo env s es s es (do
      match ← c.takeEvent sn e with
      | some outcome => return outcome
      | none => e.answer sn) :=
  .bind (.stored (Calls.leads_snapshot faultless _ _) hsnapshot)
    (.bind (.stored (Calls.leads_activeState? faultless _ _) hstate) (.refl _))

include hs

-- After a conversation was closed, what answers the event comes to a pass, or tells of no pass.
theorem fares_closed (keyed : s.Keyed) (hkept : e.received.kept = e.received) (es : List Exchange)
    (drawn : Nat) (hstate : s.activeState? e.workspace e.phone = .ok (some c))
    (hclosed : Window.isStale c.lastInbound env.now = true ∨
      (sn.flow? c.flow).bind (fun f => (f.node? c.node).map fun n => (f, n)) = none) :
    e.process.Fares env s es drawn e := by
  obtain ⟨workspace, phone, active, hc, held⟩ := hs.holds_of_activeState? hstate
  -- Closing hands nothing over, and leaves what the account offers as it is.
  have hanswer (v : Sender × Nat) : e.process.ComesTo (env.varied v) s es
      (s.set (c.after .complete env.now)) es (e.answer sn) :=
    (comesTo_takeEvent (faultless.varied v) hsnapshot es hstate).trans
      (.bind (Conversation.leads_takeEvent_closed (faultless.varied v) hs held active
        hclosed) (.refl _))
  have hs' := hs.set held active (c.same_after .complete env.now)
  have hfares : (e.answer sn).Fares env (s.set (c.after .complete env.now)) es drawn e :=
    fares_answer faultless hs' (keyed.congr rfl) hsnapshot hkept es drawn
  exact hfares.of_comesTo hanswer rfl rfl

-- A conversation that takes an event comes to a pass from where it goes on.
theorem passes_taken (hkept : e.received.kept = e.received) (es : List Exchange) (drawn : Nat)
    (hstate : s.activeState? e.workspace e.phone = .ok (some c))
    (fresh : Window.isStale c.lastInbound env.now = false)
    (hflow : sn.flow? c.flow = some f) (hnode : f.node? c.node = some n)
    (htaken : f.taken? e env.now (c.after (.recordInbound e.received) env.now) n = some d) :
    e.process.Passes env s es drawn f d (s.set d) (.flowAdvanced f.id d.id) ∧
      Ready e env.now f f d (s.set d) ∧ s.Offers e.workspace e.account f := by
  obtain ⟨workspace, phone, active, hc, held⟩ := hs.holds_of_activeState? hstate
  refine ⟨.of_leads fun v r s' es' hpass => ?_,
    ready_taken hs held active workspace phone hc hkept hsnapshot hflow fresh htaken⟩
  have htake := Conversation.leads_takeEvent_taken (faultless.varied v) hs held active
    fresh hflow hnode htaken hpass
  refine (comesTo_takeEvent (faultless.varied v) hsnapshot es hstate).leads ?_
  cases hr : r.2 with
  | ok pass =>
    rw [hr] at htake
    exact .bind htake (.pure _)
  | error err =>
    rw [hr] at htake
    exact .bind_error htake

-- A conversation that does not take an event goes on waiting, or ends with a word about that.
theorem leads_untaken (still : env.Still) (es : List Exchange)
    (hstate : s.activeState? e.workspace e.phone = .ok (some c))
    (fresh : Window.isStale c.lastInbound env.now = false)
    (hflow : sn.flow? c.flow = some f) (hnode : f.node? c.node = some n)
    (htaken : f.taken? e env.now (c.after (.recordInbound e.received) env.now) n = none) :
    ∃ o s' es', e.process.Leads env s es (.ok o) s' es' ∧ Conversation.Untaken env s es
      (c.after (.recordInbound e.received) env.now) n.kind o s' es' := by
  obtain ⟨-, -, active, -, held⟩ := hs.holds_of_activeState? hstate
  obtain ⟨o, s', es', htake, huntaken⟩ := Conversation.leads_takeEvent_untaken faultless hs
    held active still es fresh hflow hnode htaken
  exact ⟨o, s', es', (comesTo_takeEvent faultless hsnapshot es hstate).leads
    (.bind htake (.pure _)), huntaken⟩

end

/-- By `Event.process` an event comes to a pass of a flow that is offered, or tells of no pass. -/
theorem fares_process (smooth : env.Smooth) (hs : s.Consistent) (keyed : s.Keyed)
    (hkept : e.received.kept = e.received) (es : List Exchange) (drawn : Nat) :
    e.process.Fares env s es drawn e := by
  have hloaded (v : Sender × Nat) : (Calls.snapshot e.workspace e.account).Leads (env.varied v)
      s es (s.snapshot e.workspace e.account) s es :=
    Calls.leads_snapshot (smooth.varied v).faultless e.workspace e.account
  have hfound (v : Sender × Nat) : (Calls.activeState? e.workspace e.phone).Leads (env.varied v)
      s es (s.activeState? e.workspace e.phone) s es :=
    Calls.leads_activeState? (smooth.varied v).faultless e.workspace e.phone
  have hunread {err : StoreError} (hx : ∀ v, e.process.Leads (env.varied v) s es
      (.error (.store err)) s es) : e.process.Fares env s es drawn e :=
    .fruitless (.of_leads fun v => ⟨_, s, es, hx v, Outcome.pass?_ofError _⟩)
  cases hsnapshot : s.snapshot e.workspace e.account with
  | error err =>
    exact hunread fun v => .bind_error (.stored_error (hloaded v) hsnapshot)
  | ok sn =>
    cases hstate : s.activeState? e.workspace e.phone with
    | error err =>
      exact hunread fun v => .bind (.stored (hloaded v) hsnapshot)
        (.bind_error (.stored_error (hfound v) hstate))
    | ok found =>
      cases found with
      | none =>
        exact (fares_answer smooth.faultless hs keyed hsnapshot hkept es drawn).of_comesTo
          (fun v => comesTo_answer (smooth.varied v).faultless hsnapshot es hstate) rfl rfl
      | some c =>
        have hclosed := fares_closed smooth.faultless hs hsnapshot keyed hkept es drawn hstate
        cases fresh : Window.isStale c.lastInbound env.now with
        | true => exact hclosed (.inl fresh)
        | false =>
          cases hplace : (sn.flow? c.flow).bind fun f => (f.node? c.node).map fun n => (f, n) with
          | none => exact hclosed (.inr hplace)
          | some place =>
            obtain ⟨f, hflow, hplace⟩ := Option.bind_eq_some_iff.mp hplace
            obtain ⟨n, hnode, rfl⟩ := Option.map_eq_some_iff.mp hplace
            cases htaken : f.taken? e env.now (c.after (.recordInbound e.received) env.now) n with
            | none =>
              refine .fruitless (.of_leads fun v => ?_)
              obtain ⟨o, s', es', hleads, huntaken⟩ := leads_untaken (smooth.varied v).faultless hs
                hsnapshot (smooth.varied v).still es hstate fresh hflow hnode htaken
              exact ⟨.ok o, s', es', hleads, huntaken.pass?_eq_none⟩
            | some d =>
              obtain ⟨hpasses, hready, offered⟩ := passes_taken smooth.faultless hs hsnapshot hkept es
                drawn hstate fresh hflow hnode htaken
              exact .passes hpasses hready offered (.inr rfl)

end

end Autoresponder
