import Autoresponder.Proofs.Engine.Statistics
import Autoresponder.Proofs.Store.Counter
import Autoresponder.Proofs.Store.Part

/-!
# Parties

What is done for a person goes by the person's conversations, by the firings that were logged in the
chat of the event, and by what everybody is offered. It leaves the conversations of others and the
firings in other chats as they are, and of what is offered it touches the statistics alone.
-/

namespace Autoresponder

open Store

/-- Whom something is done for: a person, and the chat of the event if there is one. -/
structure Party where
  workspace : String
  phone : String
  chat : Option String

namespace Party

def owns (p : Party) (r : StateRow) : Bool := r.workspace == p.workspace && r.phone == p.phone

def logs (p : Party) (r : FiringRow) : Bool := p.chat == some r.conversation

/-- Two parties have neither the person nor the chat in common. -/
structure Apart (p q : Party) : Prop where
  person : ¬ (p.workspace = q.workspace ∧ p.phone = q.phone)
  chat : ∀ chat, p.chat = some chat → q.chat ≠ some chat

theorem Apart.symm {p q : Party} (h : p.Apart q) : q.Apart p where
  person h' := h.person ⟨h'.1.symm, h'.2.symm⟩
  chat chat h' h'' := h.chat chat h'' h'

theorem owns_iff {p : Party} {r : StateRow} :
    p.owns r = true ↔ r.workspace = p.workspace ∧ r.phone = p.phone := by
  rw [owns, Bool.and_eq_true, beq_iff_eq, beq_iff_eq]

theorem logs_iff {p : Party} {r : FiringRow} :
    p.logs r = true ↔ p.chat = some r.conversation := by
  rw [logs, beq_iff_eq]

end Party

namespace Store

/-! ## 1. What a party sees -/

/-- What a party sees of a store. `unseen` has the rest. -/
def seen (s : Store) (p : Party) : Store :=
  { s.plain with firings := s.firings.filter p.logs, states := s.states.filter p.owns }

/-- What a party does not see of a store, and what is offered. -/
def unseen (s : Store) (p : Party) : Store :=
  { s.plain with firings := s.firings.filter (!p.logs ·), states := s.states.filter (!p.owns ·) }

theorem view_seen (p : Party) : View p.owns (·.seen p) :=
  ⟨fun _ _ => rfl, fun _ _ h h' => by rw [Party.owns, Party.owns, h, h']⟩

theorem view_unseen (p : Party) : View (!p.owns ·) (·.unseen p) :=
  ⟨fun _ _ => rfl, fun _ _ h h' => by rw [Party.owns, Party.owns, h, h']⟩

section

variable {s s' : Store} {p q : Party}

theorem snapshot_seen (s : Store) (p : Party) (workspace account : String) :
    (s.seen p).snapshot workspace account = (s.snapshot workspace account).map Snapshot.plain :=
  snapshot_plain s workspace account

theorem activeState?_seen (s : Store) (p : Party) :
    (s.seen p).activeState? p.workspace p.phone = s.activeState? p.workspace p.phone := by
  simp only [activeState?, seen]
  rw [find?_filter_of_imp]
  intro r _ hr
  simp only [isActiveFor, Bool.and_eq_true] at hr
  rw [Party.owns, Bool.and_eq_true]
  exact hr.1

theorem state?_seen {id : Uuid} (h : ∀ r ∈ s.states, r.id = toString id → p.owns r = true) :
    (s.seen p).state? id = s.state? id := by
  simp only [state?, seen]
  rw [find?_filter_of_imp]
  exact fun r hr hid => h r hr (eq_of_beq hid)

theorem successes_seen {chat : String} (h : p.chat = some chat) (s : Store) (rule : Uuid) :
    (s.seen p).successes rule chat = s.successes rule chat := by
  simp only [successes, seen, List.filter_filter]
  refine List.filter_congr fun r _ => ?_
  by_cases hchat : r.conversation = chat
  · rw [Party.logs_iff.mpr (hchat ▸ h), Bool.and_true]
  · simp [hchat]

/-! ## 2. What is done for a party -/

theorem plain_countFlowStart (s : Store) (id : Uuid) (time : Instant) :
    (s.countFlowStart id time).plain = s.plain := by
  simp only [countFlowStart, plain, List.map_map]
  congr 1
  refine List.map_congr_left fun r _ => ?_
  rw [Function.comp_apply]
  split <;> rfl

theorem rules_plain_logFiring {e : Firing} (h : s.logFiring e = .ok s') :
    s'.rules.map RuleRow.plain = s.rules.map RuleRow.plain := by
  obtain ⟨-, -, rfl⟩ := logged_of_logFiring h
  rw [List.map_map]
  refine List.map_congr_left fun r _ => ?_
  rw [Function.comp_apply]
  split <;> rfl

-- A firing in the chat is logged as far as the party sees as it is in the store.
theorem logFiring_seen {e : Firing}
    (h : ∀ r ∈ s.firings, r.id = toString e.id → p.logs r = true) :
    (s.logFiring e).map (·.seen p) = ((s.seen p).logFiring e).map (·.seen p) := by
  have hfirings : (s.seen p).firings.any (·.id == (FiringRow.ofFiring e).id) =
      s.firings.any (·.id == (FiringRow.ofFiring e).id) :=
    any_filter_of_imp fun r hr hid => h r hr (eq_of_beq hid)
  have hrules : (s.seen p).rules.any (·.id == (FiringRow.ofFiring e).rule) =
      s.rules.any (·.id == (FiringRow.ofFiring e).rule) :=
    List.any_map
  cases hlog : s.logFiring e with
  | error err =>
    simp only [logFiring] at hlog ⊢
    rw [hfirings, hrules]
    split at hlog
    · rw [if_pos ‹_›]
      exact congrArg (Except.map (·.seen p)) hlog.symm
    · split at hlog
      · rw [if_neg ‹_›, if_pos ‹_›]
        exact congrArg (Except.map (·.seen p)) hlog.symm
      · cases hlog
  | ok s' =>
    cases hlog' : (s.seen p).logFiring e with
    | error err =>
      obtain ⟨hunused, hruling, -⟩ := logged_of_logFiring hlog
      simp only [logFiring] at hlog'
      rw [hfirings, hrules, if_neg hunused, if_neg hruling] at hlog'
      cases hlog'
    | ok s'' =>
      have hplain := rules_plain_logFiring hlog
      have hplain' := rules_plain_logFiring hlog'
      obtain ⟨-, -, rfl⟩ := logged_of_logFiring hlog
      obtain ⟨-, -, rfl⟩ := logged_of_logFiring hlog'
      simp only [Except.map, seen, plain] at hplain hplain' ⊢
      rw [hplain, hplain']
      simp only [List.filter_append, List.filter_filter, List.map_map, Bool.and_self]
      rfl

theorem unseen_logFiring {e : Firing} (hchat : p.chat = some e.conversation)
    (h : s.logFiring e = .ok s') : s'.unseen p = s.unseen p := by
  have hrules := rules_plain_logFiring h
  obtain ⟨-, -, rfl⟩ := logged_of_logFiring h
  have hnew : [FiringRow.ofFiring e].filter (!p.logs ·) = [] := by
    have hlogs : p.logs (.ofFiring e) = true := Party.logs_iff.mpr hchat
    simp [hlogs]
  simp only [unseen, plain, List.filter_append, hnew, List.append_nil] at hrules ⊢
  rw [hrules]

end

/-! ## 3. Identifiers -/

/-- The identifiers under which conversations and firings are stored. -/
def names (s : Store) : List String := s.states.map (·.id) ++ s.firings.map (·.id)

/-- An identifier is that of no conversation of another person. -/
def Grants (s : Store) (p : Party) (id : Uuid) : Prop :=
  ∀ r ∈ s.states, r.id = toString id → p.owns r = true

/-- An identifier is that of no firing in another chat. -/
def Admits (s : Store) (p : Party) (id : Uuid) : Prop :=
  ∀ r ∈ s.firings, r.id = toString id → p.logs r = true

section

variable {s s' b : Store} {p q : Party} {id : Uuid}

-- That can be told from what the party does not see.

theorem Grants.congr (h : b.Grants p id) (hs : s.unseen p = b.unseen p) : s.Grants p id := by
  intro r hr hid
  by_contra hother
  have hmem : r ∈ (s.unseen p).states := List.mem_filter.mpr ⟨hr, by simpa using hother⟩
  rw [hs] at hmem
  exact hother (h r (List.mem_of_mem_filter hmem) hid)

theorem Admits.congr (h : b.Admits p id) (hs : s.unseen p = b.unseen p) : s.Admits p id := by
  intro r hr hid
  by_contra hother
  have hmem : r ∈ (s.unseen p).firings := List.mem_filter.mpr ⟨hr, by simpa using hother⟩
  rw [hs] at hmem
  exact hother (h r (List.mem_of_mem_filter hmem) hid)

-- Where each identifier names one row, that of a person's conversation names no other one's.
theorem Keys.grants (keys : Keys StateRow.id s.states) {r : StateRow} (hr : r ∈ s.states)
    (hid : r.id = toString id) (howns : p.owns r = true) : s.Grants p id :=
  fun _ hr' hid' => keys.eq_of_id hr' hr (hid'.trans hid.symm) ▸ howns

-- A new identifier is nobody else's.

theorem grants_of_new (h : toString id ∉ s.names) : s.Grants p id :=
  fun _ hr hid => absurd (List.mem_append_left _ (List.mem_map.mpr ⟨_, hr, hid⟩)) h

theorem admits_of_new (h : toString id ∉ s.names) : s.Admits p id :=
  fun _ hr hid => absurd (List.mem_append_right _ (List.mem_map.mpr ⟨_, hr, hid⟩)) h

theorem ids_createState {c : Conversation} (h : s.createState c = .ok s') :
    s'.states.map (·.id) = s.states.map (·.id) ++ [toString c.id] := by
  rw [(states_createState h).1, List.map_append, List.map_map]
  congr 1
  exact List.map_congr_left fun r _ => r.id_yielded c

theorem ids_logFiring {e : Firing} (h : s.logFiring e = .ok s') :
    s'.firings.map (·.id) = s.firings.map (·.id) ++ [toString e.id] := by
  rw [(logged_of_logFiring h).2.2, List.map_append]
  rfl

end

/-- What rows have new names for was drawn. -/
def Named (drawn : Uuid → Prop) (names names' : List String) : Prop :=
  ∀ name ∈ names', name ∈ names ∨ ∃ id, drawn id ∧ name = toString id

section

variable {drawn : Uuid → Prop} {names names' : List String} {id : Uuid}

theorem Named.concat (h : Named drawn names names') (hid : drawn id) :
    Named drawn names (names' ++ [toString id]) := by
  intro name hname
  rcases List.mem_append.mp hname with hname | hname
  · exact h name hname
  · exact .inr ⟨id, hid, List.mem_singleton.mp hname⟩

-- What is new and was not drawn is still new.
theorem Named.new (h : Named drawn names names') (hnew : toString id ∉ names)
    (hid : ¬ drawn id) : toString id ∉ names' := by
  intro hname
  rcases h _ hname with hname | ⟨id', hid', heq⟩
  · exact hnew hname
  · exact hid (Uuid.toString_inj.mp heq ▸ hid')

end

/-! ## 4. What is done for a party leaves others alone -/

/-- A statistic after all that was triggered at an instant. -/
def Statistic.afterAll (time : String) (ids : List String) (r : Statistic) : Statistic :=
  ids.foldr (fun id r => r.after ⟨id, time⟩) r

theorem Statistic.after_comm (id id' time : String) (r : Statistic) :
    (r.after ⟨id', time⟩).after ⟨id, time⟩ = (r.after ⟨id, time⟩).after ⟨id', time⟩ := by
  have hid (m : Mark) : (r.after m).id = r.id := by
    unfold after
    split <;> rfl
  by_cases h : r.id = id
  · by_cases h' : r.id = id'
    · rw [← h, ← h']
    · have hother : r.after ⟨id', time⟩ = r := if_neg (by simpa using h')
      have hother' : (r.after ⟨id, time⟩).after ⟨id', time⟩ = r.after ⟨id, time⟩ :=
        if_neg (by simpa [hid] using h')
      rw [hother, hother']
  · have hother : r.after ⟨id, time⟩ = r := if_neg (by simpa using h)
    have hother' : (r.after ⟨id', time⟩).after ⟨id, time⟩ = r.after ⟨id', time⟩ :=
      if_neg (by simpa [hid] using h)
    rw [hother, hother']

-- In which order things are triggered at one instant makes no difference.
theorem Statistic.afterAll_comm (time : String) (ids ids' : List String) (r : Statistic) :
    (r.afterAll time ids').afterAll time ids = (r.afterAll time ids).afterAll time ids' := by
  unfold afterAll
  rw [← List.foldr_append, ← List.foldr_append]
  exact List.perm_append_comm.foldr_eq' (fun id _ id' _ r => after_comm id' id time r) r

theorem Statistic.map_afterAll_comm (time : String) (ids ids' : List String)
    (rows : List Statistic) : (rows.map (afterAll time ids)).map (afterAll time ids') =
      (rows.map (afterAll time ids')).map (afterAll time ids) := by
  rw [List.map_map, List.map_map]
  exact List.map_congr_left fun r _ => afterAll_comm time ids' ids r

/-- A store `s` has come from `b` by what was done for a party at an instant, when some flows were
started and some rules succeeded. What is new is stored under identifiers that were `drawn`. -/
structure Aside (p : Party) (time : String) (drawn : Uuid → Prop) (starts hits : List String)
    (b s : Store) : Prop where
  unseen : s.unseen p = b.unseen p
  flows : s.flows.map FlowRow.statistic =
    (b.flows.map FlowRow.statistic).map (Statistic.afterAll time starts)
  rules : s.rules.map RuleRow.statistic =
    (b.rules.map RuleRow.statistic).map (Statistic.afterAll time hits)
  keys : Keys StateRow.id s.states
  states : Named drawn (b.states.map (·.id)) (s.states.map (·.id))
  firings : Named drawn (b.firings.map (·.id)) (s.firings.map (·.id))

namespace Aside

variable {s s' b : Store} {p q : Party} {time : String} {drawn : Uuid → Prop}
  {starts hits : List String} {c : Conversation}

theorem refl (keys : Keys StateRow.id b.states) : Aside p time drawn [] [] b b where
  unseen := rfl
  flows := (List.map_id _).symm
  rules := (List.map_id _).symm
  keys := keys
  states _ := .inl
  firings _ := .inl

theorem grants (h : Aside p time drawn starts hits b s) {id : Uuid} (hb : b.Grants p id) :
    s.Grants p id :=
  hb.congr h.unseen

theorem admits (h : Aside p time drawn starts hits b s) {id : Uuid} (hb : b.Admits p id) :
    s.Admits p id :=
  hb.congr h.unseen

theorem new (h : Aside p time drawn starts hits b s) {id : Uuid} (hb : toString id ∉ b.names)
    (hid : ¬ drawn id) : toString id ∉ s.names := by
  intro hname
  rcases List.mem_append.mp hname with hname | hname
  · exact h.states.new (fun h => hb (List.mem_append_left _ h)) hid hname
  · exact h.firings.new (fun h => hb (List.mem_append_right _ h)) hid hname

theorem updateState (h : Aside p time drawn starts hits b s) (hc : b.Grants p c.id)
    {version : Int} (hupdate : s.updateState c version = .ok (some s')) :
    Aside p time drawn starts hits b s' := by
  have hunseen : s'.unseen p = s.unseen p :=
    (view_unseen p).updateState_of_hidden (fun r hr hid => by rw [h.grants hc r hr hid]; rfl)
      hupdate
  obtain ⟨-, rfl⟩ := eq_set_of_updateState hupdate
  refine ⟨hunseen.trans h.unseen, h.flows, h.rules, h.keys.congr (ids_set s c), ?_, h.firings⟩
  rw [ids_set]
  exact h.states

theorem createState (h : Aside p time drawn starts hits b s)
    (hc : p.owns (.ofConversation c) = true) (hid : drawn c.id)
    (hcreate : s.createState c = .ok s') : Aside p time drawn starts hits b s' := by
  have hunseen : s'.unseen p = s.unseen p :=
    (view_unseen p).createState_of_hidden (by rw [hc]; rfl) hcreate
  have hids := ids_createState hcreate
  obtain ⟨rfl, hnew⟩ := states_createState hcreate
  refine ⟨hunseen.trans h.unseen, h.flows, h.rules, ?_, hids ▸ h.states.concat hid, h.firings⟩
  have hkeys : Keys StateRow.id (s.states.map (·.yielded c)) :=
    h.keys.map fun r _ => r.id_yielded c
  refine hkeys.concat ⟨c.id, rfl⟩ fun r hr => ?_
  obtain ⟨old, hold, rfl⟩ := List.mem_map.mp hr
  rw [StateRow.id_yielded]
  exact hnew old hold

theorem countFlowStart {now : Instant} (h : Aside p now.stored drawn starts hits b s)
    (id : Uuid) :
    Aside p now.stored drawn (toString id :: starts) hits b (s.countFlowStart id now) := by
  refine ⟨?_, ?_, h.rules, h.keys, h.states, h.firings⟩
  · rw [← h.unseen]
    simp only [Store.unseen, plain_countFlowStart]
    rfl
  · rw [statistics_countFlowStart, h.flows, List.map_map]
    rfl

theorem logFiring {e : Firing} (h : Aside p e.time.stored drawn starts hits b s)
    (hchat : p.chat = some e.conversation) (hid : drawn e.id) (hlog : s.logFiring e = .ok s') :
    Aside p e.time.stored drawn starts (if e.success then toString e.rule :: hits else hits)
      b s' := by
  have heq := (logged_of_logFiring hlog).2.2
  refine ⟨(unseen_logFiring hchat hlog).trans h.unseen, ?_, ?_, ?_, ?_, ?_⟩
  · rw [heq]
    exact h.flows
  · rw [statistics_logFiring hlog, h.rules]
    cases e.success with
    | false => rfl
    | true =>
      simp only [if_true, List.map_map]
      rfl
  · rw [heq]
    exact h.keys
  · rw [heq]
    exact h.states
  · rw [ids_logFiring hlog]
    exact h.firings.concat hid

-- Everything else can be told from what the party does not see.

theorem states_of (h : Aside p time drawn starts hits b s) {workspace phone : String}
    (other : ¬ (workspace = p.workspace ∧ phone = p.phone)) :
    s.states.filter (fun r => r.workspace == workspace && r.phone == phone) =
      b.states.filter fun r => r.workspace == workspace && r.phone == phone := by
  refine filter_eq_of_hidden (p := p.owns) (congrArg Store.states h.unseen :) fun r hr => ?_
  rw [Bool.and_eq_true, beq_iff_eq, beq_iff_eq] at hr
  rw [← Bool.not_eq_true, Party.owns_iff, hr.1, hr.2]
  exact other

theorem firings_in (h : Aside p time drawn starts hits b s) {chat : String}
    (other : p.chat ≠ some chat) :
    s.firings.filter (·.conversation == chat) = b.firings.filter (·.conversation == chat) := by
  refine filter_eq_of_hidden (p := p.logs) (congrArg Store.firings h.unseen :) fun r hr => ?_
  rw [← Bool.not_eq_true, Party.logs_iff, beq_iff_eq.mp hr]
  exact other

theorem plain (h : Aside p time drawn starts hits b s) :
    s.flows.map FlowRow.plain = b.flows.map FlowRow.plain ∧
      s.rules.map RuleRow.plain = b.rules.map RuleRow.plain ∧ s.settings = b.settings :=
  ⟨(congrArg Store.flows h.unseen :), (congrArg Store.rules h.unseen :),
    (congrArg Store.settings h.unseen :)⟩

-- Another party sees the same as before.
theorem seen (h : Aside p time drawn starts hits b s) (apart : p.Apart q) :
    s.seen q = b.seen q := by
  obtain ⟨hflows, hrules, hsettings⟩ := h.plain
  have hstates : s.states.filter q.owns = b.states.filter q.owns :=
    h.states_of fun h' => apart.person ⟨h'.1.symm, h'.2.symm⟩
  have hfirings : s.firings.filter q.logs = b.firings.filter q.logs := by
    refine filter_eq_of_hidden (p := p.logs) (congrArg Store.firings h.unseen :) fun r hr => ?_
    rw [← Bool.not_eq_true, Party.logs_iff]
    exact fun hchat => apart.chat _ hchat (Party.logs_iff.mp hr)
  simp only [Store.seen, Store.plain, hflows, hrules, hsettings, hstates, hfirings]

-- What was its conversation still is.
theorem grants_of (h : Aside p time drawn starts hits b s) (apart : p.Apart q) {id : Uuid}
    (hb : b.Grants q id) (hid : ¬ drawn id) : s.Grants q id := by
  intro r hr hrid
  have hname : toString id ∈ s.states.map (·.id) := List.mem_map.mpr ⟨r, hr, hrid⟩
  rcases h.states _ hname with hname | ⟨id', hid', heq⟩
  · obtain ⟨old, hold, holdid⟩ := List.mem_map.mp hname
    have howns : q.owns old = true := hb old hold holdid
    have hmem : old ∈ (s.seen q).states :=
      h.seen apart ▸ List.mem_filter.mpr ⟨hold, howns⟩
    rw [h.keys.eq_of_id hr (List.mem_of_mem_filter hmem) (hrid.trans holdid.symm)]
    exact howns
  · exact absurd (Uuid.toString_inj.mp heq ▸ hid') hid

end Aside

end Store

end Autoresponder
