import Autoresponder.Engine.Resume
import Autoresponder.Proofs.Store.Configured
import Mathlib.Logic.Relation

/-!
# Effects

Everything that the engine does to its world is made up of a few effects: an up-to-date copy of an
active conversation is changed, a conversation begins, a message is handed to the sender while its
window is open, or something is counted and logged. A property of the world that every effect keeps
is kept by every operation.
-/

namespace Autoresponder

/-! ## 1. Running steps -/

namespace Step

variable {ε δ α β : Type}

theorem run_bind (x : Step ε α) (k : α → Step ε β) (env : Environment) (w : World) :
    (x >>= k) env w =
      match x env w with
      | (.ok a, w') => k a env w'
      | (.error e, w') => (.error e, w') := by
  rcases h : x env w with ⟨_ | _, w'⟩
  all_goals
    simp only [bind, ReaderT.bind, ExceptT.bind, ExceptT.mk, StateT.bind, h]
    rfl

theorem run_ofAct_bind (x : Act α) (k : α → Step ε β) (env : Environment) (w : World) :
    ((ofAct x : Step ε α) >>= k) env w = k (x env w).1 env (x env w).2 := by
  rw [run_bind]
  rfl

theorem run_mapError (f : ε → δ) (x : Step ε α) (env : Environment) (w : World) :
    x.mapError f env w = ((x env w).1.mapError f, (x env w).2) := rfl

end Step

theorem Act.run_bind {α β : Type} (x : Act α) (k : α → Act β) (env : Environment) (w : World) :
    (x >>= k) env w = k (x env w).1 env (x env w).2 := rfl

/-- The clock has shown the time `now`, and not before its reading `first`. -/
def Environment.Told (env : Environment) (first : Nat) (w : World) (now : Instant) : Prop :=
  ∃ n, first ≤ n ∧ n < w.readings ∧ env.clock n = now

/-- Between two worlds nothing is written or handed over. -/
structure World.Idles (w w' : World) : Prop where
  store : w'.store = w.store
  past : w'.past = w.past
  exchanges : w'.exchanges = w.exchanges
  readings : w.readings ≤ w'.readings

/-- The time by which `m` is handed over: for one that `requiresWindow` the clock is read. -/
def Environment.moment (env : Environment) (w : World) (m : Message) : Instant :=
  if m.requiresWindow then env.clock w.readings else env.now

/-- Hands a message to the sender, at its `moment`. -/
def World.handing (w : World) (env : Environment) (intent : SendIntent) : World :=
  { w with
    readings := if intent.message.requiresWindow then w.readings + 1 else w.readings
    exchanges := ⟨intent, env.sender w.exchanges intent, env.moment w intent.message⟩ ::
      w.exchanges }

def Conversation.intent (c : Conversation) (m : Message) : SendIntent :=
  ⟨c.workspace, c.account, c.phone, m⟩

def Event.intent (e : Event) (m : Message) : SendIntent := ⟨e.workspace, e.account, e.phone, m⟩

/-! ## 2. Messages that came in -/

/-- An instant at which, as far as a row tells, one of some events came in from a person. -/
def CameIn (events : List Event) (workspace phone : String) (t : Instant) : Prop :=
  ∃ e ∈ events, e.workspace = workspace ∧ e.phone = phone ∧
    (t = e.received ∨ t = e.received.kept)

theorem CameIn.kept {events : List Event} {workspace phone : String} {t : Instant}
    (h : CameIn events workspace phone t) :
    CameIn events workspace phone t.kept := by
  obtain ⟨e, he, hworkspace, hphone, rfl | rfl⟩ := h
  · exact ⟨e, he, hworkspace, hphone, .inr rfl⟩
  · exact ⟨e, he, hworkspace, hphone, .inr e.received.kept_kept⟩

/-- The last message of a copy is one of some events. -/
def Conversation.Heard (c : Conversation) (events : List Event) : Prop :=
  ∀ t, c.lastInbound = some t → CameIn events c.workspace c.phone t

/-- A copy that is up to date (`Holds`), and whose last message is one of some events. -/
structure Live (events : List Event) (c : Conversation) (s : Store) : Prop where
  held : s.Holds c
  heard : c.Heard events

/-- A `Consistent` store in which the last message of every conversation is one of some events. -/
structure Traced (events : List Event) (s : Store) : Prop where
  consistent : s.Consistent
  heard : ∀ r ∈ s.states, ∀ text, r.lastInbound = some text →
    CameIn events r.workspace r.phone (TimeText.readStored text)

/-! ## 3. Effects -/

/-- The effects on a world while the last of some events, or none, is handled. Those that need the
time go by what the clock has shown since its reading `first`. -/
inductive Effect (events : List Event) (env : Environment) (first : Nat) (w : World) :
    World → Prop where
  /-- Something is asked, drawn, read or called in vain. -/
  | quiet {w' : World} (idles : w.Idles w') : Effect events env first w w'
  /-- An active conversation changes. -/
  | change (c : Conversation) (ch : Conversation.Change) (now : Instant)
      (told : env.Told first w now) (live : Live events c w.store) (active : c.isActive = true)
      (heard : (c.after ch now).Heard events) :
      Effect events env first w (w.write (w.store.set (c.after ch now)))
  /-- A conversation begins with an event. -/
  | begin (e : Event) (id flow : Uuid) (node : String) (now : Instant) (s : Store)
      (told : env.Told first w now) (handled : e ∈ events)
      (created : w.store.createState (.begun id e.workspace e.account e.phone flow node
        (some e.received) now) = .ok s) :
      Effect events env first w (w.write s)
  /-- A message goes to the person of a conversation. -/
  | send (c : Conversation) (m : Message) (now : Instant) (told : env.Told first w now)
      (live : Live events c w.store)
      (window : m.requiresWindow = true →
        Window.isOpen c.lastInbound (env.clock w.readings) = true) :
      Effect events env first w (w.handing (env.atTime now) (c.intent m))
  /-- A message answers an event. -/
  | reply (e : Event) (m : Message) (now : Instant) (told : env.Told first w now)
      (handled : e ∈ events)
      (window : m.requiresWindow = true →
        Window.isOpen (some e.received) (env.clock w.readings) = true) :
      Effect events env first w (w.handing (env.atTime now) (e.intent m))
  /-- The start of a flow is counted. -/
  | countStart (flow : Uuid) (now : Instant) :
      Effect events env first w (w.write (w.store.countFlowStart flow now))
  /-- A firing of a rule is logged. -/
  | log (entry : Firing) (s : Store) (logged : w.store.logFiring entry = .ok s) :
      Effect events env first w (w.write s)
  /-- Flows, rules or settings are written. -/
  | configure (s : Store) (configured : w.store.Configured s) :
      Effect events env first w (w.write s)

/-- What can be reached by effects (`Effect`). -/
abbrev Reach (events : List Event) (env : Environment) (first : Nat) : World → World → Prop :=
  Relation.ReflTransGen (Effect events env first)

-- Logging a firing concerns firings and the statistics of rules.
theorem Store.eq_of_logFiring {s s' : Store} {entry : Firing} (h : s.logFiring entry = .ok s') :
    s' = { s with firings := s'.firings, rules := s'.rules } := by
  obtain ⟨-, -, rfl⟩ := logged_of_logFiring h
  rfl

theorem Store.ids_rules_logFiring {s s' : Store} {entry : Firing}
    (h : s.logFiring entry = .ok s') : s'.rules.map (·.id) = s.rules.map (·.id) := by
  obtain ⟨-, -, rfl⟩ := logged_of_logFiring h
  rw [List.map_map]
  refine List.map_congr_left fun r _ => ?_
  rw [Function.comp_apply]
  split <;> rfl

theorem Store.states_logFiring {s s' : Store} {entry : Firing} (h : s.logFiring entry = .ok s') :
    s'.states = s.states := by
  rw [eq_of_logFiring h]

section

variable {events : List Event} {env : Environment} {first : Nat}

theorem Traced.congr {s s' : Store} (hs : Traced events s) (h : s'.states = s.states) :
    Traced events s' where
  consistent := hs.consistent.congr h
  heard := h ▸ hs.heard

-- A row that is written for a copy tells what the copy does.
theorem Conversation.Heard.stored {c : Conversation} (h : c.Heard events) :
    ∀ text, (Store.StateRow.ofConversation c).lastInbound = some text →
      CameIn events c.workspace c.phone (TimeText.readStored text) := by
  intro text htext
  obtain ⟨t, ht, rfl⟩ := Option.map_eq_some_iff.mp htext
  exact t.kept_def ▸ (h t ht).kept

-- A change keeps the last message, or records one that came in.
theorem Conversation.Heard.after {c : Conversation} (h : c.Heard events) {ch : Change}
    {now : Instant}
    (recorded : ∀ t, ch = .recordInbound t → CameIn events c.workspace c.phone t) :
    (c.after ch now).Heard events := by
  cases ch with
  | recordInbound time =>
    unfold Conversation.after
    rcases apply_recordInbound now time c with heq | heq <;> rw [heq]
    · exact h
    · intro t ht
      cases ht
      exact recorded time rfl
  | _ => exact h

-- Writing a copy that is up to date keeps the store traced.
theorem Traced.set {s : Store} (hs : Traced events s) {c c' : Conversation} (h : s.Holds c)
    (active : c.isActive = true) (hsame : c'.Same c) (heard : c'.Heard events) :
    Traced events (s.set c') where
  consistent := hs.consistent.set h active hsame
  heard := by
    intro r hr text htext
    rcases Store.mem_set hr with hr | ⟨old, hold, hid, rfl⟩
    · exact hs.heard r hr text htext
    · obtain ⟨d, hd, hkept⟩ := h
      have hsame' : c'.Same d := hsame.trans (.symm (.of_kept_eq hkept))
      have hrow : old = .ofConversation d :=
        hs.consistent.eq_of_id hold hd (hid.trans (congrArg toString hsame'.id))
      have hheard := heard.stored text htext
      rw [hsame'.workspace, hsame'.phone] at hheard
      rw [hrow]
      exact hheard

-- Beginning a conversation with an event keeps the store traced.
theorem Traced.createState {s s' : Store} (hs : Traced events s) {c : Conversation}
    (heard : c.Heard events) (h : s.createState c = .ok s') : Traced events s' where
  consistent := (hs.consistent.createState h).1
  heard := by
    intro r hr
    rw [(Store.states_createState h).1, List.mem_append, List.mem_map] at hr
    rcases hr with ⟨old, hold, rfl⟩ | hr
    · unfold Store.StateRow.yielded
      split <;> exact hs.heard old hold
    · rw [List.mem_singleton.mp hr]
      exact heard.stored

-- An active conversation that is read from a traced store is live.
theorem Traced.live_of_readFirst {s : Store} (hs : Traced events s)
    {wanted : Store.StateRow → Bool} {c : Conversation}
    (h : Store.readFirst Store.StateRow.read (s.states.find? wanted) = .ok (some c))
    (active : c.isActive = true) : Live events c s where
  held := by
    obtain ⟨_, _, _, _, _, _, _, _, held⟩ := hs.consistent.holds_of_readFirst h
    exact held active
  heard := by
    intro t ht
    -- Apart from the row nothing is known of the copy, so the row has to be read again.
    unfold Store.readFirst at h
    split at h
    · rename_i r hfind
      cases hread : r.read with
      | error e => simp [hread, Except.map] at h
      | ok c' =>
        obtain rfl : c' = c := by simpa [hread, Except.map] using h
        obtain ⟨hworkspace, hphone, hlast⟩ := Store.StateRow.lastInbound_read hread
        rw [hlast] at ht
        obtain ⟨text, htext, rfl⟩ := Option.map_eq_some_iff.mp ht
        rw [hworkspace, hphone]
        exact hs.heard r (List.mem_of_find?_eq_some hfind) text htext
    · simp at h

theorem heard_begun {e : Event} {id flow : Uuid} {node : String} {now : Instant} (he : e ∈ events) :
    (Conversation.begun id e.workspace e.account e.phone flow node (some e.received) now).Heard
      events := by
  intro t ht
  cases ht
  exact ⟨e, he, rfl, rfl, .inl rfl⟩

theorem Effect.traced {w w' : World} (h : Effect events env first w w') (hs : Traced events w.store) :
    Traced events w'.store := by
  cases h with
  | quiet idles => exact idles.store ▸ hs
  | change c ch now _ live active heard =>
    exact hs.set live.held active (c.same_after ch now) heard
  | begin e id flow node now s _ handled created =>
    exact hs.createState (heard_begun handled) created
  | send c m now _ _ _ => exact hs
  | reply e m now _ _ _ => exact hs
  | countStart flow now => exact hs.congr rfl
  | log entry s logged => exact hs.congr (Store.states_logFiring logged)
  | configure s configured => exact hs.congr configured.states

theorem Reach.traced {w w' : World} (h : Reach events env first w w') (hs : Traced events w.store) :
    Traced events w'.store := by
  induction h with
  | refl => exact hs
  | tail _ h ih => exact h.traced ih

end

end Autoresponder
