import Autoresponder.Proofs.Engine.Leads
import Autoresponder.Proofs.Engine.Lifecycle
import Autoresponder.Proofs.Store.Versions
import Mathlib.Data.List.Induction
import Mathlib.Logic.Function.Basic

/-!
# Copies that many hold

Any number of callers hold copies of conversations, old ones and new ones, and change them in any
order without regard for one another. A copy is always a row as it once was. A change takes effect
exactly when nobody has written since the copy was read, so the rows are at any time what the changes
that took effect make of them, one after the other.
-/

namespace Autoresponder

open Step Store

/-! ## 1. Callers -/

/-- Asks for a change of a conversation through a copy. To complete what is completed is nothing
(`Conversation.finish`). -/
def Conversation.mutate (c : Conversation) : Change → Step StoreError Conversation
  | .complete => c.finish
  | ch => c.change ch

inductive Request where
  | get (id : Uuid)
  | getActive (workspace phone : String)
  | create (workspace account phone : String) (flow : Uuid) (node : String)
    (lastInbound : Option Instant)
  | change (ch : Conversation.Change)
  /-- A copy of the copy in another place. -/
  | clone (place : Nat)

/-- A write that took effect. -/
inductive Write where
  | begun (c : Conversation)
  | changed (id : Uuid) (ch : Conversation.Change) (time : Instant)

namespace Request

/-- Does what is asked for. A change is asked of the copy in the caller's place. -/
def run (copies : Nat → Option Conversation) (place : Nat) :
    Request → Step StoreError (Option Conversation)
  | get id => Calls.state? id
  | getActive workspace phone => Calls.activeState? workspace phone
  | create workspace account phone flow node lastInbound =>
    some <$> Conversation.create workspace account phone flow node lastInbound
  | change ch =>
    match copies place with
    | some c => some <$> c.mutate ch
    | none => pure none
  | clone other => pure (copies other)

/-- What was written when a request has come to a copy. -/
def written (held : Option Conversation) (now : Instant) (result : Conversation) :
    Request → List Write
  | create _ _ _ _ _ _ => [.begun result]
  | change ch =>
    match held with
    | some c => if ch = .complete ∧ c.isActive = false then [] else [.changed c.id ch now]
    | none => []
  | _ => []

def InYears : Request → Prop
  | create _ _ _ _ _ lastInbound => ∀ t, lastInbound = some t → t.FourDigitYear
  | change ch => ch.InYears
  | _ => True

end Request

/-- What one caller does at one time. -/
structure Turn where
  place : Nat
  env : Environment
  request : Request

/-- Nothing goes wrong with the store, and all instants lie in the four-digit years. -/
structure Turn.Orderly (t : Turn) : Prop where
  faultless : t.env.Faultless
  now : t.env.now.FourDigitYear
  request : t.request.InYears

/-- Callers who share a store. Everybody's copies have places of their own. -/
structure Callers where
  world : World
  copies : Nat → Option Conversation
  /-- The writes that took effect, in their order. -/
  writes : List Write

namespace Callers

def start (w : World) : Callers := ⟨w, fun _ => none, []⟩

/-- One caller has a turn. What `Request.run` comes to takes the place of the caller's copy; if
nothing comes of it the copy stays. -/
def take (s : Callers) (t : Turn) : Callers :=
  match t.request.run s.copies t.place t.env s.world with
  | (.ok (some c), w) =>
    ⟨w, Function.update s.copies t.place (some c),
      s.writes ++ t.request.written (s.copies t.place) t.env.now c⟩
  | (_, w) => { s with world := w }

def after (s : Callers) (turns : List Turn) : Callers := turns.foldl take s

theorem after_concat (s : Callers) (turns : List Turn) (t : Turn) :
    s.after (turns ++ [t]) = (s.after turns).take t := by
  rw [after, List.foldl_append]
  rfl

abbrev rows (s : Callers) : List StateRow := s.world.store.states

end Callers

/-! ## 2. What a turn does -/

namespace Conversation

section

variable {env : Environment} {s : Store} {es : List Exchange} {c : Conversation} {ch : Change}

theorem mutate_eq_change (h : ch = .complete → c.isActive = true) : c.mutate ch = c.change ch := by
  cases ch with
  | complete => rw [mutate, finish, if_pos (h rfl)]
  | _ => rfl

theorem mutate_complete (h : c.isActive = false) : c.mutate .complete = pure c := by
  rw [mutate, finish, h, if_neg Bool.false_ne_true]

-- A copy of the version that is stored is changed.
theorem leads_change_of_mem (faultless : env.Faultless) (hs : s.Consistent)
    (hc : .ofConversation c ∈ s.states) :
    (c.change ch).Leads env s es (.ok (c.after ch env.now)) (s.set (c.after ch env.now)) es := by
  unfold change
  refine .bind .now (.bind (a := true)
    (.call faultless (some (s.set (c.after ch env.now))) ?_) (.pure _))
  rw [updateState_of_mem hs hc (c.same_after ch env.now) isActive_of_after]
  rfl

-- A copy of any other version is not.
theorem leads_change_of_not_mem (faultless : env.Faultless)
    (h : ∀ r ∈ s.states, r.id = toString c.id → r.version ≠ .int c.version) :
    (c.change ch).Leads env s es (.error c.outdated) s es := by
  unfold change
  refine .bind .now (.bind (a := false) (.call faultless none ?_) (.throw _))
  rw [updateState_of_not_mem (by rwa [id_after])]
  rfl

-- Whoever begins a conversation gets a copy of what is written, if anything is.
theorem run_create (faultless : env.Faultless) (workspace account phone : String) (flow : Uuid)
    (node : String) (lastInbound : Option Instant) (w : World) :
    ∃ c, c = begun (env.freshId w.drawn) workspace account phone flow node lastInbound env.now ∧
      ((∃ err, (create workspace account phone flow node lastInbound env w).1 = .error err ∧
          (create workspace account phone flow node lastInbound env w).2.store = w.store) ∨
        ∃ s', w.store.createState c = .ok s' ∧
          (create workspace account phone flow node lastInbound env w).1 = .ok c ∧
          (create workspace account phone flow node lastInbound env w).2.store = s') := by
  refine ⟨_, rfl, ?_⟩
  have hrun : create workspace account phone flow node lastInbound env w =
      (Calls.createState (begun (env.freshId w.drawn) workspace account phone flow node lastInbound
        env.now) >>= fun _ => pure (begun (env.freshId w.drawn) workspace account phone flow node
        lastInbound env.now)) env { w with drawn := w.drawn + 1 } := rfl
  rw [hrun]
  generalize begun (env.freshId w.drawn) workspace account phone flow node lastInbound env.now = c
  cases hcreate : w.store.createState c with
  | error err =>
    have hcall : (Calls.createState c).Leads env w.store w.exchanges (.error err) w.store
        w.exchanges := .call_error faultless (congrArg (Except.map _) hcreate)
    obtain ⟨hresult, hstore, -⟩ :=
      hcall.bind_error (k := fun _ => pure c) { w with drawn := w.drawn + 1 } rfl rfl
    exact .inl ⟨err, hresult, hstore⟩
  | ok s' =>
    have hcall : (Calls.createState c).Leads env w.store w.exchanges (.ok ()) s' w.exchanges :=
      .tell faultless hcreate
    obtain ⟨hresult, hstore, -⟩ :=
      hcall.bind (k := fun _ => pure c) (.pure c) { w with drawn := w.drawn + 1 } rfl rfl
    exact .inr ⟨s', rfl, hresult, hstore⟩

end

end Conversation

namespace Callers

/-- A copy has been read from a row, or written to it. -/
def Read (r : StateRow) (c : Conversation) : Prop := r.id = toString c.id ∧ r.read = .ok c

/-- What one turn can make of the callers (`Callers.take`). -/
inductive Turned (s : Callers) (t : Turn) : Callers → Prop where
  /-- Nothing came of it. -/
  | nothing {w : World} (store : w.store = s.world.store) : Turned s t { s with world := w }
  /-- A copy is read, or is taken from a place. -/
  | copied {w : World} (c : Conversation) (store : w.store = s.world.store)
      (read : (∃ r ∈ s.rows, Read r c) ∨ ∃ place, s.copies place = some c) :
      Turned s t ⟨w, Function.update s.copies t.place (some c), s.writes⟩
  /-- A conversation is changed through a copy of the version that is stored. -/
  | changed {w : World} (c : Conversation) (ch : Conversation.Change)
      (stored : .ofConversation c ∈ s.rows) (exact : c.kept = c)
      (kept : (c.after ch t.env.now).kept = c.after ch t.env.now)
      (store : w.store = s.world.store.set (c.after ch t.env.now)) :
      Turned s t ⟨w, Function.update s.copies t.place (some (c.after ch t.env.now)),
        s.writes ++ [.changed c.id ch t.env.now]⟩
  /-- A conversation begins. -/
  | begun {w : World} (c : Conversation) (created : s.world.store.createState c = .ok w.store)
      (kept : c.kept = c) (years : c.created.FourDigitYear) :
      Turned s t ⟨w, Function.update s.copies t.place (some c), s.writes ++ [.begun c]⟩

end Callers

/-! ## 3. What every turn keeps -/

/-- A row `r` and a later row `r'` of the same conversation: either nobody has written it in
between, or its version went up. -/
def Store.StateRow.Grows (r r' : StateRow) : Prop :=
  r' = r ∨ ∃ n, r.version = .int n ∧ (IntCell.int n).Before r'.version

theorem Store.StateRow.Grows.trans {r r' r'' : StateRow} (h : r.Grows r') (h' : r'.Grows r'') :
    r.Grows r'' := by
  rcases h with rfl | ⟨n, hn, hbefore⟩
  · exact h'
  · rcases h' with rfl | ⟨m, hm, hbefore'⟩
    · exact .inr ⟨n, hn, hbefore⟩
    · rw [← hm] at hbefore'
      exact .inr ⟨n, hn, hbefore.trans hbefore'⟩

-- A row with the version of an earlier one is that row.
theorem Store.StateRow.Grows.eq_of_version {r r' : StateRow} (h : r.Grows r')
    (hversion : r'.version = r.version) : r' = r := by
  rcases h with h | ⟨n, hn, -, hne⟩
  · exact h
  · exact absurd (hn.symm.trans hversion.symm) hne

/-- The row of a conversation after a change of what it reads as. -/
def Store.StateRow.changed (r : StateRow) (ch : Conversation.Change) (time : Instant) : StateRow :=
  match r.read with
  | .ok c => .ofConversation (c.after ch time)
  | .error _ => r

/-- What a write makes of the row with an identifier. -/
def Write.apply (id : Uuid) (row : Option StateRow) : Write → Option StateRow
  | begun c => if c.id = id then some (.ofConversation c) else row.map (·.yielded c)
  | changed other ch time => if other = id then row.map (·.changed ch time) else row

namespace Callers

/-- What holds of the callers at any time: their `writes` lead to the rows there are
(`Write.apply`). -/
structure Sound (s : Callers) : Prop where
  consistent : s.world.store.Consistent
  exact : ∀ r ∈ s.rows, r.Exact
  replayed : ∀ id : Uuid,
    s.rows.find? (·.id == toString id) = s.writes.foldl (Write.apply id) none

variable {s s' : Callers} {t : Turn}

theorem sound_start {w : World} (h : w.store.states = []) : (start w).Sound where
  consistent := consistent_of_nil h
  exact r hr := by simp [start, rows, h] at hr
  replayed id := by simp [start, rows, h]

-- What is found is read from a row.
theorem read_of_readFirst (hs : s.Sound) {wanted : StateRow → Bool} {c : Conversation}
    (h : readFirst StateRow.read (s.rows.find? wanted) = .ok (some c)) : ∃ r ∈ s.rows, Read r c := by
  unfold readFirst at h
  split at h
  · rename_i r hfind
    have hr := List.mem_of_find?_eq_some hfind
    obtain ⟨d, hread, -, hid, -⟩ := (hs.exact r hr).read
    rw [hread] at h
    cases h
    exact ⟨r, hr, hid, hread⟩
  · cases h

/-- A turn (`Turned`) leaves the callers `Sound`. -/
theorem Turned.sound (h : Turned s t s') (hs : s.Sound) : s'.Sound := by
  cases h with
  | nothing store =>
    exact ⟨hs.consistent.congr (congrArg Store.states store), by
      simpa only [rows, store] using hs.exact, by simpa only [rows, store] using hs.replayed⟩
  | copied c store read =>
    exact ⟨hs.consistent.congr (congrArg Store.states store), by
      simpa only [rows, store] using hs.exact, by simpa only [rows, store] using hs.replayed⟩
  | changed c ch stored exact kept store =>
    have hsame := c.same_after ch t.env.now
    have hcreated := c.created_after ch t.env.now
    refine ⟨?_, fun r hr => ?_, fun id => ?_⟩
    · rw [store]
      exact hs.consistent.set_of_mem stored hsame hcreated Conversation.isActive_of_after
    · rw [rows, store, mem_set_iff hs.consistent stored hsame hcreated] at hr
      rcases hr with rfl | ⟨hr, -⟩
      · exact StateRow.exact_ofConversation kept
      · exact hs.exact r hr
    · rw [List.foldl_append, ← hs.replayed, rows, store,
        find?_set_of_mem hs.consistent stored hsame hcreated]
      change _ = if c.id = id then _ else _
      split
      · rename_i hid
        rw [rows, hs.consistent.find?_id stored (congrArg toString hid), Option.map_some,
          StateRow.changed, StateRow.read_of_kept exact]
      · rfl
  | begun c created kept years =>
    refine ⟨(hs.consistent.createState created).1, fun r hr => ?_, fun id => ?_⟩
    · rw [rows, (states_createState created).1, List.mem_append, List.mem_map] at hr
      rcases hr with ⟨old, hold, rfl⟩ | hr
      · exact (hs.exact old hold).yielded years
      · rw [List.mem_singleton.mp hr]
        exact StateRow.exact_ofConversation kept
    · rw [List.foldl_append, ← hs.replayed, rows, find?_createState created]
      simp only [Uuid.toString_inj]
      rfl

/-- A turn loses no row, and a row that it writes gets a later version (`StateRow.Grows`). -/
theorem Turned.grows (h : Turned s t s') (hs : s.Sound) {r : StateRow} (hr : r ∈ s.rows) :
    ∃ r' ∈ s'.rows, r'.id = r.id ∧ r.Grows r' := by
  cases h with
  | nothing store => exact ⟨r, by rwa [rows, store], rfl, .inl rfl⟩
  | copied c store read => exact ⟨r, by rwa [rows, store], rfl, .inl rfl⟩
  | changed c ch stored exact kept store =>
    have hmem {r : StateRow} := mem_set_iff (r := r) hs.consistent stored
      (c.same_after ch t.env.now) (c.created_after ch t.env.now)
    by_cases hid : r.id = toString c.id
    · obtain rfl : r = .ofConversation c := hs.consistent.eq_of_id hr stored hid
      refine ⟨.ofConversation (c.after ch t.env.now), ?_, ?_, .inr ⟨c.version, rfl, ?_⟩⟩
      · rw [rows, store]
        exact hmem.mpr (.inl rfl)
      · exact congrArg toString (c.id_after ch t.env.now)
      · exact ⟨by simp [StateRow.ofConversation, IntCell.notAfter], by simp [StateRow.ofConversation]⟩
    · refine ⟨r, ?_, rfl, .inl rfl⟩
      rw [rows, store]
      exact hmem.mpr (.inr ⟨hr, hid⟩)
  | begun c created kept years =>
    refine ⟨r.yielded c, ?_, r.id_yielded c, ?_⟩
    · rw [rows, (states_createState created).1]
      exact List.mem_append_left _ (List.mem_map_of_mem hr)
    · unfold StateRow.yielded
      split
      · rename_i hfor
        obtain ⟨d, version, rfl, -, hversion⟩ := hs.exact r hr
        simp only [isActiveFor, Bool.and_eq_true, beq_iff_eq] at hfor
        have hd : d.isActive = true := by
          by_contra h
          simp [StateRow.ofConversation, IntCell.ofBool, h] at hfor
        refine .inr ⟨d.version, hversion hd, ?_⟩
        change (IntCell.int d.version).Before version.next
        rw [hversion hd]
        exact IntCell.before_next d.version
      · exact .inl rfl

/-- A copy that somebody has after a turn is `Read` from a row, or somebody had it before. -/
theorem Turned.read (h : Turned s t s') (hs : s.Sound) {place : Nat} {c : Conversation}
    (hc : s'.copies place = some c) :
    (∃ r ∈ s'.rows, Read r c) ∨ ∃ place, s.copies place = some c := by
  have hupdate {d : Conversation} (hc : Function.update s.copies t.place (some d) place = some c) :
      d = c ∨ ∃ place, s.copies place = some c := by
    by_cases hplace : place = t.place
    · rw [hplace, Function.update_self] at hc
      exact .inl (Option.some.inj hc)
    · rw [Function.update_of_ne hplace] at hc
      exact .inr ⟨place, hc⟩
  cases h with
  | nothing store => exact .inr ⟨place, hc⟩
  | copied d store read =>
    rcases hupdate hc with rfl | hold
    · rcases read with ⟨r, hr, hread⟩ | hold
      · exact .inl ⟨r, by rwa [rows, store], hread⟩
      · exact .inr hold
    · exact .inr hold
  | changed d ch stored exact kept store =>
    rcases hupdate hc with rfl | hold
    · refine .inl ⟨_, ?_, rfl, StateRow.read_of_kept kept⟩
      rw [rows, store]
      exact (mem_set_iff hs.consistent stored (d.same_after ch t.env.now)
        (d.created_after ch t.env.now)).mpr (.inl rfl)
    · exact .inr hold
  | begun d created kept years =>
    rcases hupdate hc with rfl | hold
    · refine .inl ⟨_, ?_, rfl, StateRow.read_of_kept kept⟩
      rw [rows, (states_createState created).1]
      exact List.mem_append_right _ (List.mem_singleton.mpr rfl)
    · exact .inr hold

/-- A copy was read from a row that is still there, perhaps in a later version (`Grows`). -/
def Remembered (s : Callers) (c : Conversation) : Prop :=
  ∃ r, r.Exact ∧ Read r c ∧ ∃ r' ∈ s.rows, r'.id = r.id ∧ r.Grows r'

-- A row of the version of a copy is the row of the copy.
theorem Remembered.row {c : Conversation} (h : s.Remembered c) :
    c.kept = c ∧ ∃ r ∈ s.rows, r.id = toString c.id ∧
      (r.version = .int c.version → r = .ofConversation c) := by
  obtain ⟨r, hexact, ⟨hid, hread⟩, r', hr', hid', hgrows⟩ := h
  obtain ⟨d, hread', hkept, -, hvalue, hrow⟩ := hexact.read
  obtain rfl : c = d := Except.ok.inj (hread.symm.trans hread')
  refine ⟨hkept, r', hr', hid'.trans hid, fun hversion => ?_⟩
  have hsame : r' = r := by
    rcases hgrows with h | ⟨n, hn, -, hne⟩
    · exact h
    · rw [hn] at hvalue
      rw [hversion, hvalue] at hne
      exact absurd rfl hne
  rw [hsame]
  exact hrow (hsame ▸ hversion)

/-- What a caller who asks for the change `ch` of the copy `c` gets, given the callers before. -/
inductive Mutated (s : Callers) (place : Nat) (env : Environment) (c : Conversation)
    (ch : Conversation.Change) : Prop where
  /-- The stored row has the version of the copy, so the copy is the row. The row becomes that of the
  changed conversation, and the caller's copy becomes the changed conversation. -/
  | accepted (r : StateRow) (mem : r ∈ s.rows) (read : Read r c)
      (version : r.version = .int c.version)
      (result : (c.mutate ch env s.world).1 = .ok (c.after ch env.now))
      (written : (s.take ⟨place, env, .change ch⟩).rows = s.rows.map fun other =>
        if other.id = r.id then .ofConversation (c.after ch env.now) else other)
      (copies : (s.take ⟨place, env, .change ch⟩).copies =
        Function.update s.copies place (some (c.after ch env.now)))
  /-- The stored row has another version. Row and copy stay as they are. -/
  | refused (r : StateRow) (mem : r ∈ s.rows) (id : r.id = toString c.id)
      (version : r.version ≠ .int c.version)
      (result : ∃ message, (c.mutate ch env s.world).1 = .error (.constraint message))
      (untouched : (s.take ⟨place, env, .change ch⟩).rows = s.rows)
      (copies : (s.take ⟨place, env, .change ch⟩).copies = s.copies)
  /-- A completed copy is completed again, and nothing happens. -/
  | idle (complete : ch = .complete) (inactive : c.isActive = false)
      (result : (c.mutate ch env s.world).1 = .ok c)
      (untouched : (s.take ⟨place, env, .change ch⟩).rows = s.rows)
      (copies : (s.take ⟨place, env, .change ch⟩).copies = s.copies)

theorem run_map_some {ε α : Type} (x : Step ε α) (env : Environment) (w : World) :
    (some <$> x) env w =
      match x env w with
      | (.ok a, w) => (.ok (some a), w)
      | (.error e, w) => (.error e, w) := by
  rw [map_eq_pure_bind, run_bind]
  rcases x env w with ⟨_ | _, w⟩ <;> rfl

-- A turn that asks a copy for a change.
theorem take_change {place : Nat} {env : Environment} {c : Conversation} {ch : Conversation.Change}
    (hc : s.copies place = some c) :
    s.take ⟨place, env, .change ch⟩ =
      match c.mutate ch env s.world with
      | (.ok d, w) => ⟨w, Function.update s.copies place (some d), s.writes ++
          if ch = .complete ∧ c.isActive = false then [] else [.changed c.id ch env.now]⟩
      | (.error _, w) => { s with world := w } := by
  simp only [take, Request.run, Request.written, hc, run_map_some]
  rcases c.mutate ch env s.world with ⟨_ | _, w⟩ <;> rfl

-- What comes of asking a copy for a change: nothing is to be done, or the copy is a row and is
-- changed, or the row of the copy has another version.
theorem run_mutate (hs : s.Sound) {env : Environment} (faultless : env.Faultless) {c : Conversation}
    (hc : s.Remembered c) (ch : Conversation.Change) :
    (ch = .complete ∧ c.isActive = false ∧ c.mutate ch env s.world = (.ok c, s.world)) ∨
      (¬ (ch = .complete ∧ c.isActive = false) ∧ ∃ w : World,
        (.ofConversation c ∈ s.rows ∧ w.store = s.world.store.set (c.after ch env.now) ∧
          c.mutate ch env s.world = (.ok (c.after ch env.now), w)) ∨
        ((∃ r ∈ s.rows, r.id = toString c.id ∧ r.version ≠ .int c.version) ∧
          w.store = s.world.store ∧ c.mutate ch env s.world = (.error c.outdated, w))) := by
  by_cases hidle : ch = .complete ∧ c.isActive = false
  · refine .inl ⟨hidle.1, hidle.2, ?_⟩
    rw [hidle.1, Conversation.mutate_complete hidle.2]
    rfl
  · refine .inr ⟨hidle, (c.mutate ch env s.world).2, ?_⟩
    have hmutate : c.mutate ch = c.change ch :=
      Conversation.mutate_eq_change fun h => by simpa using fun hinactive => hidle ⟨h, hinactive⟩
    rw [hmutate]
    obtain ⟨-, r, hr, hid, hrow⟩ := hc.row
    by_cases hversion : r.version = .int c.version
    · have hleads : (c.change ch).Leads env s.world.store s.world.exchanges _ _ _ :=
        Conversation.leads_change_of_mem faultless hs.consistent (hrow hversion ▸ hr)
      obtain ⟨hresult, hstore, -⟩ := hleads s.world rfl rfl
      exact .inl ⟨hrow hversion ▸ hr, hstore, Prod.ext hresult rfl⟩
    · have hother : ∀ r' ∈ s.rows, r'.id = toString c.id → r'.version ≠ .int c.version := by
        intro r' hr' hid'
        rwa [hs.consistent.eq_of_id hr' hr (hid'.trans hid.symm)]
      have hleads : (c.change ch).Leads env s.world.store s.world.exchanges _ _ _ :=
        Conversation.leads_change_of_not_mem faultless hother
      obtain ⟨hresult, hstore, -⟩ := hleads s.world rfl rfl
      exact .inr ⟨⟨r, hr, hid, hversion⟩, hstore, Prod.ext hresult rfl⟩

/-- Asking a copy for a change `ch` has one of three outcomes, which the version of its row decides
(`Mutated`). -/
theorem mutated (hs : s.Sound) {env : Environment} (faultless : env.Faultless) {place : Nat}
    {c : Conversation} (hc : s.copies place = some c) (remembered : s.Remembered c)
    (ch : Conversation.Change) : s.Mutated place env c ch := by
  have htake : s.take ⟨place, env, .change ch⟩ = _ := take_change hc
  rcases run_mutate hs faultless remembered ch with
    ⟨hcomplete, hinactive, hrun⟩ |
    ⟨-, w, ⟨hmem, hstore, hrun⟩ | ⟨⟨r, hr, hid, hversion⟩, hstore, hrun⟩⟩
  · rw [hrun] at htake
    refine .idle hcomplete hinactive (congrArg Prod.fst hrun) (by rw [htake]) ?_
    rw [htake]
    exact Function.update_eq_self_iff.mpr hc.symm
  · rw [hrun] at htake
    refine .accepted _ hmem ⟨rfl, StateRow.read_of_kept remembered.row.1⟩ rfl
      (congrArg Prod.fst hrun) ?_ (by rw [htake])
    rw [htake]
    change w.store.states = _
    rw [hstore, Store.set]
    refine List.map_congr_left fun other hother => ?_
    by_cases hid : other.id = toString c.id
    · obtain rfl : other = .ofConversation c := hs.consistent.eq_of_id hother hmem hid
      rw [if_pos rfl, if_pos (by simp [StateRow.ofConversation]),
        StateRow.revised_ofConversation (c.same_after ch env.now), ← c.created_after ch env.now]
    · rw [if_neg (by simpa using hid)]
      exact (if_neg hid).symm
  · rw [hrun] at htake
    refine .refused r hr hid hversion ⟨_, congrArg Prod.fst hrun⟩ ?_ (by rw [htake])
    rw [htake]
    exact congrArg Store.states hstore

-- A turn in which somebody asks for a copy, and writes nothing.
theorem turned_copied {place : Nat} {env : Environment} {request : Request}
    {result : Except StoreError (Option Conversation)}
    (hleads : (request.run s.copies place).Leads env s.world.store s.world.exchanges result
      s.world.store s.world.exchanges)
    (hwritten : ∀ c, request.written (s.copies place) env.now c = [])
    (hresult : ∀ c, result = .ok (some c) →
      (∃ r ∈ s.rows, Read r c) ∨ ∃ place, s.copies place = some c) :
    Turned s ⟨place, env, request⟩ (s.take ⟨place, env, request⟩) := by
  obtain ⟨heq, hstore, -⟩ := hleads s.world rfl rfl
  rcases hrun : request.run s.copies place env s.world with ⟨_ | _ | c, w⟩ <;>
    rw [hrun] at heq hstore <;> simp only [take, hrun]
  · exact .nothing hstore
  · exact .nothing hstore
  · rw [hwritten, List.append_nil]
    exact .copied c hstore (hresult c heq.symm)

-- A turn in which a conversation is to begin.
theorem turned_create {place : Nat} {env : Environment} {workspace account phone : String}
    {flow : Uuid} {node : String} {lastInbound : Option Instant} (faultless : env.Faultless)
    (hnow : env.now.FourDigitYear) (hlast : ∀ t, lastInbound = some t → t.FourDigitYear) :
    Turned s ⟨place, env, .create workspace account phone flow node lastInbound⟩
      (s.take ⟨place, env, .create workspace account phone flow node lastInbound⟩) := by
  obtain ⟨c, hc, hcreate⟩ := Conversation.run_create faultless workspace account phone flow node
    lastInbound s.world
  have hkept : c.kept = c := by
    have hnow' : env.now.kept = env.now := Instant.kept_of_fourDigitYear hnow
    rw [hc]
    exact Conversation.kept_eq_iff.mpr
      ⟨Conversation.map_kept_of_inYears hlast, rfl, hnow', hnow', rfl⟩
  simp only [take, Request.run, Request.written, run_map_some]
  rcases hresult : Conversation.create workspace account phone flow node lastInbound env s.world
    with ⟨_ | _, w⟩ <;> rw [hresult] at hcreate
  · rcases hcreate with ⟨_, -, hstore⟩ | ⟨_, -, h, -⟩
    · exact .nothing hstore
    · cases h
  · rcases hcreate with ⟨_, h, -⟩ | ⟨s', hcreated, h, hstore⟩
    · cases h
    · cases h
      refine .begun c (hstore ▸ hcreated) hkept ?_
      rw [hc]
      exact hnow

-- A turn in which a copy is asked for a change.
theorem turned_change (hs : s.Sound)
    (remembered : ∀ place c, s.copies place = some c → s.Remembered c) {place : Nat}
    {env : Environment} {ch : Conversation.Change} (faultless : env.Faultless)
    (hnow : env.now.FourDigitYear) (hch : ch.InYears) :
    Turned s ⟨place, env, .change ch⟩ (s.take ⟨place, env, .change ch⟩) := by
  cases hc : s.copies place with
  | none =>
    have hrun : Request.run s.copies place (.change ch) = pure none := by rw [Request.run, hc]
    simp only [take, hrun]
    exact .nothing rfl
  | some c =>
    rw [take_change hc]
    rcases run_mutate hs faultless (remembered place c hc) ch with
      ⟨hcomplete, hinactive, hrun⟩ | ⟨hidle, w, ⟨hmem, hstore, hrun⟩ | ⟨-, hstore, hrun⟩⟩
    · simp only [hrun, if_pos (And.intro hcomplete hinactive), List.append_nil]
      exact .copied c rfl (.inr ⟨place, hc⟩)
    · simp only [hrun, if_neg hidle]
      have hkept := (remembered place c hc).row.1
      exact .changed c ch hmem hkept (Conversation.kept_after hkept hch hnow) hstore
    · simp only [hrun]
      exact .nothing hstore

/-- An `Orderly` turn does one of the things that a turn can do. -/
theorem turned (hs : s.Sound) (remembered : ∀ place c, s.copies place = some c → s.Remembered c)
    (orderly : t.Orderly) : Turned s t (s.take t) := by
  obtain ⟨faultless, hnow, hyears⟩ := orderly
  obtain ⟨place, env, request⟩ := t
  cases request with
  | get id =>
    exact turned_copied (Calls.leads_state? faultless id) (fun _ => rfl) fun c hc =>
      .inl (read_of_readFirst hs hc)
  | getActive workspace phone =>
    exact turned_copied (Calls.leads_activeState? faultless workspace phone) (fun _ => rfl)
      fun c hc => .inl (read_of_readFirst hs hc)
  | clone other =>
    exact turned_copied (.pure _) (fun _ => rfl) fun c hc => .inr ⟨other, Except.ok.inj hc⟩
  | create workspace account phone flow node lastInbound =>
    exact turned_create faultless hnow hyears
  | change ch => exact turned_change hs remembered faultless hnow hyears

/-! ## 4. Histories -/

/-- A row as it was at some time while the callers had their turns. -/
def Past (w : World) (turns : List Turn) (r : StateRow) : Prop :=
  ∃ earlier, earlier <+: turns ∧ r ∈ ((start w).after earlier).rows

/-- The callers after some turns, and how they came there. -/
structure History (w : World) (turns : List Turn) : Prop where
  sound : ((start w).after turns).Sound
  past : ∀ r, Past w turns r → r.Exact ∧
    ∃ r' ∈ ((start w).after turns).rows, r'.id = r.id ∧ r.Grows r'
  copies : ∀ place c, ((start w).after turns).copies place = some c →
    ∃ r, Past w turns r ∧ Read r c

theorem History.remembered {w : World} {turns : List Turn} (h : History w turns) (place : Nat)
    (c : Conversation) (hc : ((start w).after turns).copies place = some c) :
    ((start w).after turns).Remembered c := by
  obtain ⟨r, hr, hread⟩ := h.copies place c hc
  obtain ⟨hexact, hgrown⟩ := h.past r hr
  exact ⟨r, hexact, hread, hgrown⟩

theorem past_concat {w : World} {turns : List Turn} {t : Turn} {r : StateRow} :
    Past w (turns ++ [t]) r ↔
      Past w turns r ∨ r ∈ ((start w).after (turns ++ [t])).rows := by
  constructor
  · rintro ⟨earlier, hearlier, hr⟩
    rcases List.prefix_concat_iff.mp hearlier with rfl | hearlier
    · exact .inr hr
    · exact .inl ⟨earlier, hearlier, hr⟩
  · rintro (⟨earlier, hearlier, hr⟩ | hr)
    · exact ⟨earlier, hearlier.trans (List.prefix_append _ _), hr⟩
    · exact ⟨_, List.prefix_rfl, hr⟩

theorem history {w : World} (h : w.store.states = []) (turns : List Turn)
    (orderly : ∀ t ∈ turns, t.Orderly) : History w turns := by
  induction turns using List.reverseRecOn with
  | nil =>
    refine ⟨sound_start h, ?_, fun place c hc => by cases hc⟩
    rintro r ⟨earlier, hearlier, hr⟩
    obtain rfl := List.prefix_nil.mp hearlier
    simp [after, start, rows, h] at hr
  | append_singleton turns t ih =>
    have hold := ih fun t' ht' => orderly t' (List.mem_append_left _ ht')
    have hturned : Turned ((start w).after turns) t ((start w).after (turns ++ [t])) := by
      rw [after_concat]
      exact turned hold.sound hold.remembered (orderly t (by simp))
    have hsound := hturned.sound hold.sound
    refine ⟨hsound, fun r hr => ?_, fun place c hc => ?_⟩
    · rcases past_concat.mp hr with hr | hr
      · obtain ⟨hexact, r', hr', hid, hgrows⟩ := hold.past r hr
        obtain ⟨r'', hr'', hid', hgrows'⟩ := hturned.grows hold.sound hr'
        exact ⟨hexact, r'', hr'', hid'.trans hid, hgrows.trans hgrows'⟩
      · exact ⟨hsound.exact r hr, r, hr, rfl, .inl rfl⟩
    · rcases hturned.read hold.sound hc with ⟨r, hr, hread⟩ | ⟨place', hc'⟩
      · exact ⟨r, past_concat.mpr (.inr hr), hread⟩
      · obtain ⟨r, hr, hread⟩ := hold.copies place' c hc'
        exact ⟨r, past_concat.mpr (.inl hr), hread⟩

-- From one time to a later one rows grow.
theorem grows {w : World} (h : w.store.states = []) {earlier later : List Turn}
    (orderly : ∀ t ∈ later, t.Orderly) (hle : earlier <+: later) {r : StateRow}
    (hr : r ∈ ((start w).after earlier).rows) :
    ∃ r' ∈ ((start w).after later).rows, r'.id = r.id ∧ r.Grows r' :=
  ((history h later orderly).past r ⟨earlier, hle, hr⟩).2

-- An identifier and a version stand for one row, whenever it was there.
theorem Past.eq_of_version {w : World} {turns : List Turn} (h : w.store.states = [])
    (orderly : ∀ t ∈ turns, t.Orderly) {r r' : StateRow} (hr : Past w turns r)
    (hr' : Past w turns r') (hid : r'.id = r.id) (hversion : r'.version = r.version) : r' = r := by
  obtain ⟨earlier, hearlier, hmem⟩ := hr
  obtain ⟨earlier', hearlier', hmem'⟩ := hr'
  -- Of two rows at different times the earlier one has grown to the later one.
  have hordered {first second : List Turn} (hfirst : first <+: second) (hsecond : second <+: turns)
      {r r' : StateRow} (hr : r ∈ ((start w).after first).rows)
      (hr' : r' ∈ ((start w).after second).rows) (hid : r'.id = r.id)
      (hversion : r'.version = r.version) : r' = r := by
    have horderly : ∀ t ∈ second, t.Orderly := fun t ht => orderly t (hsecond.subset ht)
    obtain ⟨grown, hgrown, hid', hgrows⟩ := grows h horderly hfirst hr
    obtain rfl : grown = r' := (history h second horderly).sound.consistent.eq_of_id hgrown hr'
      (hid'.trans hid.symm)
    exact hgrows.eq_of_version hversion
  rcases List.prefix_or_prefix_of_prefix hearlier hearlier' with hle | hle
  · exact hordered hle hearlier' hmem hmem' hid hversion
  · exact (hordered hle hearlier hmem' hmem hid.symm hversion.symm).symm

end Callers

/-- What holds of callers who share a store after `turns`. -/
structure Coherent (w : World) (turns : List Turn) : Prop where
  /-- A copy is a row as it once was, and no other row has ever had its identifier and version. -/
  copies : ∀ place c, ((Callers.start w).after turns).copies place = some c →
    ∃ r, Callers.Past w turns r ∧ Callers.Read r c ∧
      ∀ r', Callers.Past w turns r' → r'.id = r.id → r'.version = r.version → r' = r
  /-- The version of its row decides what comes of a change that is asked of a copy. -/
  mutated : ∀ place c, ((Callers.start w).after turns).copies place = some c →
    ∀ env : Environment, env.Faultless → ∀ ch,
      ((Callers.start w).after turns).Mutated place env c ch
  /-- Since any earlier time no row was lost, and a row that was written has a later version. -/
  grows : ∀ earlier, earlier <+: turns → ∀ r ∈ ((Callers.start w).after earlier).rows,
    ∃ r' ∈ ((Callers.start w).after turns).rows, r'.id = r.id ∧ r.Grows r'
  /-- A row is what the writes that took effect make of it, in their order. -/
  replayed : ∀ id : Uuid, ((Callers.start w).after turns).rows.find? (·.id == toString id) =
    ((Callers.start w).after turns).writes.foldl (Write.apply id) none

/-- However callers take `turns`, no change that took effect is lost (`Coherent`). -/
theorem turns_coherent {w : World} (h : w.store.states = []) (turns : List Turn)
    (orderly : ∀ t ∈ turns, t.Orderly) : Coherent w turns := by
  have hhistory := Callers.history h turns orderly
  refine ⟨fun place c hc => ?_, fun place c hc env faultless ch => ?_,
    fun earlier hearlier r hr => Callers.grows h orderly hearlier hr, hhistory.sound.replayed⟩
  · obtain ⟨r, hr, hread⟩ := hhistory.copies place c hc
    exact ⟨r, hr, hread, fun r' hr' hid hversion => hr.eq_of_version h orderly hr' hid hversion⟩
  · exact Callers.mutated hhistory.sound faultless hc (hhistory.remembered place c hc) ch

/-- Two callers have a copy each of one conversation, and the first one moves on with it
(`turns_coherent_race`). -/
def Turn.race : List Turn :=
  [⟨0, .calm (.ofSeconds 0), .create "shop" "main" "555" (.ofNat 1) "start" (some (.ofSeconds 0))⟩,
    ⟨1, .calm (.ofSeconds 1), .get (.ofNat 0)⟩,
    ⟨0, .calm (.ofSeconds 2), .change (.advance "hello")⟩]

/-- The one who was too late in `Turn.race` has a copy of the row as it was when the conversation
began. -/
theorem turns_coherent_race :
    (World.start {}).store.states = [] ∧ (∀ t ∈ Turn.race, t.Orderly) ∧
      ((Callers.start (.start {})).after Turn.race).rows.map (·.version) = [.int 2] ∧
      (((Callers.start (.start {})).after Turn.race).copies 1).map (·.version) = some 1 ∧
      Coherent (.start {}) Turn.race := by
  have orderly : ∀ t ∈ Turn.race, t.Orderly := by
    intro t ht
    simp only [Turn.race, List.mem_cons, List.not_mem_nil, or_false] at ht
    rcases ht with rfl | rfl | rfl
    · exact ⟨fun _ _ => rfl, by decide, fun t ht => Option.some.inj ht ▸ by decide⟩
    · exact ⟨fun _ _ => rfl, by decide, trivial⟩
    · exact ⟨fun _ _ => rfl, by decide, trivial⟩
  exact ⟨rfl, orderly, by decide +kernel, by decide +kernel, turns_coherent rfl _ orderly⟩

end Autoresponder
