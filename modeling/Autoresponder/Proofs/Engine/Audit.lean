import Autoresponder.Proofs.Engine.Limits
import Autoresponder.Proofs.Engine.Unlogged

/-!
# The log of rules

Handling an event logs one firing if matching is reached, selects a rule and the limits of the rule
allow it, and otherwise none. What is logged says what the outcome says: it is a success when the
rule has responded or a flow has begun.
-/

namespace Autoresponder

open Step Store

variable {env : Environment}

/-! ## 1. Replies -/

/-- A responder reports what goes wrong as its own failure, a `collaborator` that has failed. -/
def Environment.Candid (env : Environment) : Prop :=
  ∀ respond, env.responder = some respond → ∀ request err, respond request = .error err →
    ∃ name reason, err = .collaborator name reason

/-- Exactly one message has been handed to the sender since `w`, and it was accepted. -/
def World.Accepts (w : World) (messageId : Option String) (w' : World) : Prop :=
  ∃ x receipt, w'.exchanges = x :: w.exchanges ∧ x.verdict = .ok receipt ∧
    receipt.messageId = messageId

/-- Nothing has answered the event: `noMatch`, or a limit. -/
def Outcome.isSilent : Outcome → Bool
  | .noMatch => true
  | .rateLimited _ _ => true
  | _ => false

/-- What an attempt to answer comes to before `logFiring`. -/
structure Served (env : Environment) (w : World) (outcome : Outcome) (w' : World) : Prop where
  records : w'.store.SameRecords w.store
  responded : ∀ rule messageId, outcome = .responded rule messageId → w.Accepts messageId w'
  heard : env.Candid → outcome.isSilent = false

section

variable {w w₁ w' w₁' : World} {outcome : Outcome} {messageId : Option String}

theorem World.Accepts.congr (h : w.Accepts messageId w') (hw : w₁.exchanges = w.exchanges)
    (hw' : w₁'.exchanges = w'.exchanges) : w₁.Accepts messageId w₁' := by
  obtain ⟨x, receipt, hx, haccepted⟩ := h
  exact ⟨x, receipt, by rw [hw', hw, hx], haccepted⟩

theorem Outcome.isSilent_ofError {err : AutomationError} (h : err.isLimit = false) :
    (ofError err).isSilent = false := by
  cases err <;> first | rfl | cases h

theorem Served.of_error {err : AutomationError} (hs : w'.store.SameRecords w.store)
    (h : env.Candid → err.isLimit = false) : Served env w (.ofExcept (.error err)) w' where
  records := hs
  responded rule messageId heq := by cases err <;> cases heq
  heard candid := Outcome.isSilent_ofError (h candid)

-- What has changed neither the store nor what was handed over may come before.
theorem Served.of_same (h : Served env w₁ outcome w') (hstore : w₁.store = w.store)
    (hexchanges : w₁.exchanges = w.exchanges) : Served env w outcome w' where
  records := hstore ▸ h.records
  responded rule messageId heq := (h.responded rule messageId heq).congr hexchanges.symm rfl
  heard := h.heard

/-- A step that may be what an attempt to answer comes to, once the clock has been read. -/
def Step.Serves (env : Environment) (x : Step AutomationError Outcome) : Prop :=
  ∀ w, env.Told 0 w env.now → Served env w (.ofExcept (x env w).1) (x env w).2

theorem Step.Unlogged.serves {x : Step AutomationError Outcome}
    (hx : x.Unlogged env fun o => o.isOfFlow = true) : x.Serves env := by
  intro w told
  obtain ⟨hpath, hpost⟩ := hx w told trivial trivial
  rcases hrun : (x env w).1 with err | o <;> rw [hrun] at hpost
  · exact .of_error hpath.sameRecords fun _ => hpost
  · refine ⟨hpath.sameRecords, fun rule messageId heq => ?_, fun _ => ?_⟩
    · obtain rfl : o = .responded rule messageId := heq
      cases hpost
    · cases o <;> first | rfl | cases hpost

end

namespace Event

variable {e : Event} {sn : Snapshot} {r : Rule}

-- What is handed over, at whatever time, responds if it is accepted.
theorem served_send (rule : Uuid) (intent : SendIntent) (now : Instant) (w : World) :
    Served env w (.ofExcept ((send intent >>= fun receipt =>
        pure (Outcome.responded rule receipt.messageId)) (env.atTime now) w).1)
      ((send intent >>= fun receipt =>
        pure (Outcome.responded rule receipt.messageId)) (env.atTime now) w).2 := by
  cases hverdict : (env.atTime now).sender w.exchanges intent with
  | error err =>
    have hrun : send intent (env.atTime now) w = (.error (.delivery err),
        { w with exchanges := ⟨intent, .error err, now⟩ :: w.exchanges }) := by
      simp only [send, hverdict, Except.mapError]
      rfl
    rw [run_bind_error hrun]
    exact .of_error (.refl _) fun _ => rfl
  | ok receipt =>
    have hrun : send intent (env.atTime now) w = (.ok receipt,
        { w with exchanges := ⟨intent, .ok receipt, now⟩ :: w.exchanges }) := by
      simp only [send, hverdict, Except.mapError]
      rfl
    rw [run_bind_ok hrun]
    refine ⟨.refl _, fun rule' messageId heq => ?_, fun _ => rfl⟩
    cases heq
    exact ⟨_, receipt, rfl, rfl, rfl⟩

-- What is guarded fails at the window or is handed over, perhaps after the clock was read.
theorem run_sendGuarded (workspace account phone : String) (lastInbound : Option Instant)
    (m : Message) (env : Environment) (w : World) :
    ∃ now w₁, w₁.store = w.store ∧ w₁.exchanges = w.exchanges ∧
      (sendGuarded workspace account phone lastInbound m env w =
          (.error (.windowClosed phone lastInbound), w₁) ∨
        sendGuarded workspace account phone lastInbound m env w =
          send ⟨workspace, account, phone, m⟩ (env.atTime now) w₁) := by
  unfold sendGuarded
  split
  · have hrun : (timed do
          if Window.isOpen lastInbound (← Step.now) then send ⟨workspace, account, phone, m⟩
          else throw (.windowClosed phone lastInbound) : Step AutomationError Receipt) env w =
        (if Window.isOpen lastInbound (env.asOf w).now then send ⟨workspace, account, phone, m⟩
          else throw (.windowClosed phone lastInbound) : Step AutomationError Receipt)
          (env.asOf w) w.reading := rfl
    refine ⟨env.clock w.readings, w.reading, rfl, rfl, ?_⟩
    rw [hrun]
    split
    · exact .inr rfl
    · exact .inl rfl
  · exact ⟨env.now, w, rfl, rfl, .inr rfl⟩

/-- With `Event.reply` a rule responds when its message is handed over and accepted. -/
theorem serves_reply (rule : Uuid) (m : Message) : (e.reply rule m).Serves env := by
  intro w _
  obtain ⟨now, w₁, hstore, hexchanges, hrun | hrun⟩ :=
    run_sendGuarded e.workspace e.account e.phone (some e.received) m env w
  · unfold reply
    rw [run_bind_error hrun]
    exact .of_error (hstore ▸ .refl _) fun _ => rfl
  · have hreply : e.reply rule m env w = (send (e.intent m) >>= fun receipt =>
        pure (Outcome.responded rule receipt.messageId)) (env.atTime now) w₁ := by
      unfold reply
      rw [run_bind, hrun, run_bind]
      rfl
    rw [hreply]
    exact (served_send rule (e.intent m) now w₁).of_same hstore hexchanges

-- What a responder is asked changes neither the store nor what was handed over.
theorem run_askResponder (instructions : Option String) (w : World) :
    (e.askResponder instructions env w).2.store = w.store ∧
      (e.askResponder instructions env w).2.exchanges = w.exchanges ∧
      ∀ err, (e.askResponder instructions env w).1 = .error err → env.Candid →
        err.isLimit = false := by
  unfold askResponder
  split
  · exact ⟨rfl, rfl, fun err heq _ => by cases heq; rfl⟩
  · rename_i respond hrespond
    refine ⟨rfl, rfl, fun err heq candid => ?_⟩
    dsimp only at heq
    cases hanswer : respond ⟨e.workspace, e.account, e.phone, e.text, instructions⟩ with
    | ok reply =>
      rw [hanswer] at heq
      cases heq
    | error err' =>
      obtain ⟨name, reason, rfl⟩ := candid respond hrespond _ _ hanswer
      rw [hanswer] at heq
      cases heq
      rfl

theorem readings_askResponder (instructions : Option String) (w : World) :
    (e.askResponder instructions env w).2.readings = w.readings := by
  unfold askResponder
  split <;> rfl

theorem serves_respond (sn : Snapshot) (r : Rule) (faq : Option FaqAnswer) :
    (e.respond sn r faq).Serves env := by
  simp only [respond]
  split
  · exact serves_reply _ _
  · exact serves_reply _ _
  · exact serves_reply _ _
  · exact serves_reply _ _
  · split
    · rename_i f _
      exact (f.unlogged_begin e).serves
    · exact fun w _ => .of_error (.refl _) fun _ => rfl
  · rename_i instructions _
    intro w told
    obtain ⟨hstore, hexchanges, hlimit⟩ := @run_askResponder env e instructions w
    have hreadings := @readings_askResponder env e instructions w
    rcases hrun : e.askResponder instructions env w with ⟨err | reply, w₁⟩ <;>
      rw [hrun] at hstore hexchanges hlimit hreadings
    · rw [run_bind_error hrun]
      exact .of_error (hstore ▸ .refl _) (hlimit err rfl)
    · rw [run_bind_ok hrun]
      cases reply with
      | none =>
        refine ⟨by rw [← hstore]; exact .refl _, fun _ _ h => ?_, fun _ => rfl⟩
        cases h
      | some body =>
        exact (serves_reply _ _ w₁ (told.mono hreadings.ge)).of_same hstore hexchanges

end Event

/-! ## 2. What is drawn -/

/-- Worlds in which some identifiers have been drawn. -/
def Likeness.since (n : Nat) : Likeness where
  Like w w' := w' = w ∧ n ≤ w.drawn
  Copy _ := True
  Starts _ := True
  Fires _ := True

theorem Step.Respects.since {ε α : Type} {n : Nat} {x : Step ε α}
    (h : ∀ m w, w.drawn ≤ (x (env.shown m) w).2.drawn) : x.Respects (.since n) env fun _ => True := by
  rintro m w _ ⟨rfl, hw⟩
  exact ⟨rfl, ⟨rfl, hw.trans (h m _)⟩, fun _ _ => trivial⟩

theorem Likeness.since_reads (n : Nat) : (Likeness.since n).Reads env := by
  rintro w _ ⟨rfl, hw⟩
  exact ⟨rfl, rfl, hw⟩

theorem Step.drawn_call {α : Type} (c : Call) (conflict : Option α)
    (run : Store → Except StoreError (α × Option Store)) (w : World) :
    (call c conflict run env w).2.drawn = w.drawn := by
  unfold call
  dsimp only
  split
  · split
    · rename_i written _
      cases written <;> rfl
    · rfl
  · rfl
  · rfl

theorem Likeness.Hears.since (n : Nat) (e : Event) : (Likeness.since n).Hears env e :=
  .of_calls (since_reads n) (fun _ => trivial)
    (fun _ => trivial) (fun _ => trivial)
    (fun c conflict run => .since fun _ w => (Step.drawn_call c conflict run w).ge)
    (.since fun _ w => w.drawn.le_succ) (fun _ => .since fun _ w => le_refl w.drawn)
    (fun _ _ _ _ ⟨heq, hw⟩ => ⟨by rw [heq], hw⟩) e

-- What has been drawn is not drawn again.
theorem Event.drawn_le_respond (e : Event) (sn : Snapshot) (r : Rule) (faq : Option FaqAnswer)
    (w : World) {n : Nat} (told : env.clock n = env.now) :
    w.drawn ≤ (e.respond sn r faq env w).2.drawn := by
  have hhears : (Likeness.since w.drawn).Hears env e := .since w.drawn e
  have hoffers : (Likeness.since w.drawn).Offers sn := ⟨fun _ _ => trivial, fun _ _ => trivial⟩
  obtain ⟨-, ⟨-, hle⟩, -⟩ := Event.respects_respond hhears hoffers r faq n w w ⟨rfl, le_rfl⟩
  rw [Environment.shown, told] at hle
  exact hle

/-- No firing has an identifier that `freshId` is still to give. -/
def World.Undrawn (w : World) (env : Environment) : Prop :=
  ∀ n, w.drawn ≤ n → ∀ row ∈ w.store.firings, row.id ≠ toString (env.freshId n)

theorem World.Undrawn.congr {w w' : World} (h : w.Undrawn env)
    (hfirings : w'.store.firings = w.store.firings) (hdrawn : w.drawn ≤ w'.drawn) :
    w'.Undrawn env :=
  fun n hn row hrow => h n (hdrawn.trans hn) row (hfirings ▸ hrow)

/-! ## 3. The log -/

/-- What is logged of a rule that has fired with an event. -/
def Event.entry (e : Event) (id : Uuid) (r : Rule) (keyword : Option String) (success : Bool)
    (now : Instant) : Firing :=
  { id, rule := r.id, conversation := e.conversation, messageId := e.messageId, text := e.text,
    keyword, success, time := now }

-- A firing of a rule that is there is logged, if it has a new identifier.
theorem Store.exists_logFiring {s : Store} {entry : Firing}
    (new : ∀ row ∈ s.firings, row.id ≠ toString entry.id)
    (there : ∃ row ∈ s.rules, row.id = toString entry.rule) :
    ∃ s', s.logFiring entry = .ok s' := by
  have hunused : ¬ s.firings.any (·.id == (FiringRow.ofFiring entry).id) = true := by
    simpa [FiringRow.ofFiring] using new
  have hthere : ¬ (!s.rules.any (·.id == (FiringRow.ofFiring entry).rule)) = true := by
    simpa [FiringRow.ofFiring] using there
  simp only [Store.logFiring, if_neg hunused, if_neg hthere]
  exact ⟨_, rfl⟩

-- A rule that was loaded is there.
theorem Store.Keys.exists_rule {s : Store} (keys : Keys RuleRow.id s.rules)
    {workspace account : String} {sn : Snapshot} (loaded : s.snapshot workspace account = .ok sn)
    {r : Rule} (hr : r ∈ sn.rules) : ∃ row ∈ s.rules, row.id = toString r.id := by
  obtain ⟨settings, -, rfl⟩ := settings?_of_snapshot loaded
  obtain ⟨row, hrow, -, hread⟩ := mem_activeRules.mp (List.mem_of_mem_filter hr)
  exact ⟨row, hrow, keys.eq_toString hrow (RuleRow.readUuid_of_read hread)⟩

-- A firing of a rule that is there is logged under the identifier that is drawn.
theorem run_logFiring_new (faultless : env.Faultless) {rule : Uuid} (record : FiringRecord)
    (success : Bool) {w : World}
    (new : w.Undrawn env) (there : ∃ row ∈ w.store.rules, row.id = toString rule) :
    (logFiring rule record success env w).2.store.firings = w.store.firings ++
        [.ofFiring (record.firing (env.freshId w.drawn) rule success env.now)] ∧
      (logFiring rule record success env w).2.exchanges = w.exchanges := by
  obtain ⟨entry, hentry, hrun⟩ := exists_entry env rule record success w
  obtain ⟨s, hlogged⟩ : ∃ s, w.store.logFiring entry = .ok s :=
    Store.exists_logFiring (by rw [hentry]; exact new _ le_rfl) (by rw [hentry]; exact there)
  have hcall : Calls.logFiring entry env { w with drawn := w.drawn + 1 } =
      (.ok (), (({ w with drawn := w.drawn + 1 } : World).counting .logFiring).write s) :=
    run_tell_ok faultless hlogged
  rw [hrun, run_bind_ok hcall, ← hentry]
  exact ⟨Store.firings_logFiring hlogged, rfl⟩

/-- What `Snapshot.select` finds for an event is a rule, and its limits allow it. -/
structure Event.Picks (e : Event) (env : Environment) (sn : Snapshot) (s : Store) (r : Rule)
    (selected : Selected) : Prop where
  chosen : (sn.select env.matcher ⟨e.text, e.isFirst, env.now⟩).1 = some selected
  rule : selected.candidate = .rule r
  allowed : s.limitHit? r e.conversation (sn.settings.zone env.zones) env.now = none

/-- What matching comes to: a rule that is picked answers, and that is logged; where none is,
nothing is logged; and whatever was not answered has changed nothing. -/
structure Event.Answered (e : Event) (env : Environment) (sn : Snapshot) (w : World)
    (outcome : Outcome) (w' : World) : Prop where
  silent : (∀ r selected, ¬ e.Picks env sn w.store r selected) →
    w'.store.firings = w.store.firings
  logged : ∀ r selected, e.Picks env sn w.store r selected → ∃ id, w'.store.firings =
    w.store.firings ++ [.ofFiring (e.entry id r selected.keyword outcome.isSuccess env.now)]
  responded : ∀ rule messageId, outcome = .responded rule messageId → w.Accepts messageId w'
  unheard : env.Candid → outcome.isSilent = true →
    w'.store = w.store ∧ w'.exchanges = w.exchanges

namespace Event

variable {e : Event} {sn : Snapshot} {w : World}

/-- With `Event.fire` a rule that is picked answers, and that is logged. -/
theorem answered_fire (faultless : env.Faultless) (told : env.Told 0 w env.now)
    (new : w.Undrawn env) {r : Rule}
    (there : ∃ row ∈ w.store.rules, row.id = toString r.id) {selected : Selected}
    (chosen : (sn.select env.matcher ⟨e.text, e.isFirst, env.now⟩).1 = some selected)
    (rule : selected.candidate = .rule r) :
    e.Answered env sn w (.ofExcept (e.fire sn r selected env w).1)
      (e.fire sn r selected env w).2 := by
  -- No other rule could be picked.
  have hunique {r' : Rule} {selected' : Selected} (h : e.Picks env sn w.store r' selected') :
      selected' = selected ∧ r' = r := by
    obtain rfl : selected' = selected := Option.some.inj (h.chosen.symm.trans chosen)
    exact ⟨rfl, Candidate.rule.inj (h.rule.symm.trans rule)⟩
  cases hlimit : w.store.limitHit? r e.conversation (sn.settings.zone env.zones) env.now with
  | some hit =>
    obtain ⟨hresult, hstore, hexchanges, -⟩ :=
      leads_fire_limited faultless e sn r selected hlimit w rfl rfl
    rw [hresult]
    refine ⟨fun _ => by rw [hstore], fun r' selected' h => ?_, nofun,
      fun _ _ => ⟨hstore, hexchanges⟩⟩
    obtain ⟨-, rfl⟩ := hunique h
    have hallowed := h.allowed
    rw [hlimit] at hallowed
    cases hallowed
  | none =>
    obtain ⟨w₁, hw₁, hstore, hexchanges, hdrawn, hfire⟩ :=
      run_fire_allowed faultless e sn r selected hlimit
    have hpath := (Rule.unlogged_limitHit? r e.conversation (sn.settings.zone env.zones)
      w told trivial trivial).1
    have told₁ : env.Told 0 w₁ env.now := told.mono (hw₁ ▸ hpath.readings)
    obtain ⟨n, -, -, hn⟩ := told
    have hserved : Served env w (.ofExcept (e.respond sn r selected.faq env w₁).1)
        (e.respond sn r selected.faq env w₁).2 :=
      (serves_respond sn r selected.faq w₁ told₁).of_same hstore hexchanges
    -- What was there before is there still when the firing is logged.
    obtain ⟨hfirings, hexchanges'⟩ := run_logFiring_new faultless
      ⟨e.conversation, e.messageId, e.text, selected.keyword⟩
      (Outcome.ofExcept (e.respond sn r selected.faq env w₁).1).isSuccess
      (new.congr hserved.records.firings (hdrawn ▸ e.drawn_le_respond sn r selected.faq w₁ hn))
      (hserved.records.rules.symm ▸ there)
    rw [hfire]
    refine ⟨fun h => absurd ⟨chosen, rule, hlimit⟩ (h r selected), fun r' selected' h => ?_,
      fun rule' messageId h => (hserved.responded rule' messageId h).congr rfl hexchanges',
      fun candid hsilent => ?_⟩
    · obtain ⟨rfl, rfl⟩ := hunique h
      rw [← hserved.records.firings]
      exact ⟨_, hfirings⟩
    · rw [hserved.heard candid] at hsilent
      cases hsilent

-- Whatever is served without logging is answered where no rule is picked.
theorem Answered.of_served {outcome : Outcome} {w' : World} (h : Served env w outcome w')
    (hnone : ∀ r selected, ¬ e.Picks env sn w.store r selected) :
    e.Answered env sn w outcome w' where
  silent _ := h.records.firings
  logged r selected hpicks := absurd hpicks (hnone r selected)
  responded := h.responded
  unheard candid hsilent := by
    rw [h.heard candid] at hsilent
    cases hsilent

-- Whether something is looked up beforehand makes no difference.
theorem Answered.of_same {w₁ w' : World} {outcome : Outcome} (h : e.Answered env sn w₁ outcome w')
    (hstore : w₁.store = w.store) (hexchanges : w₁.exchanges = w.exchanges) :
    e.Answered env sn w outcome w' := by
  obtain ⟨silent, logged, responded, unheard⟩ := h
  rw [hstore] at silent logged unheard
  rw [hexchanges] at unheard
  exact ⟨silent, logged,
    fun rule messageId heq => (responded rule messageId heq).congr hexchanges.symm rfl, unheard⟩

theorem answered_answer (faultless : env.Faultless) (told : env.Told 0 w env.now)
    (new : w.Undrawn env)
    (there : ∀ r ∈ sn.rules, ∃ row ∈ w.store.rules, row.id = toString r.id) :
    e.Answered env sn w (.ofExcept (e.answer sn env w).1) (e.answer sn env w).2 := by
  obtain ⟨found, hchosen⟩ : ∃ found, found =
    (sn.select env.matcher ⟨e.text, e.isFirst, env.now⟩).1 := ⟨_, rfl⟩
  obtain ⟨w₁, hstore, hexchanges, hdrawn, hreadings, hselected⟩ : ∃ w₁ : World,
      w₁.store = w.store ∧ w₁.exchanges = w.exchanges ∧ w₁.drawn = w.drawn ∧
        w₁.readings = w.readings ∧ e.selected? sn env w = (found, w₁) :=
    ⟨(e.selected? sn env w).2, rfl, rfl, rfl, rfl, by rw [hchosen]; rfl⟩
  have told₁ : env.Told 0 w₁ env.now := told.mono hreadings.ge
  unfold answer
  rw [run_ofAct_bind, hselected]
  refine Answered.of_same ?_ hstore hexchanges
  cases found with
  | none =>
    refine ⟨fun _ => rfl, fun r selected h => ?_, nofun, fun _ _ => ⟨rfl, rfl⟩⟩
    cases hchosen.trans h.chosen
  | some selected =>
    dsimp only
    cases hcandidate : selected.candidate with
    | flow f =>
      refine .of_served ((f.unlogged_begin e).serves w₁ told₁) fun r selected' h => ?_
      obtain rfl : selected = selected' := Option.some.inj (hchosen.trans h.chosen)
      cases hcandidate.symm.trans h.rule
    | rule r =>
      have hmem : r ∈ sn.rules :=
        mem_rules_of_candidate (hcandidate ▸ candidate_of_select hchosen.symm)
      exact answered_fire faultless told₁ (new.congr (by rw [hstore]) hdrawn.ge)
        (hstore.symm ▸ there r hmem) hchosen.symm hcandidate

end Event

/-! ## 4. Events -/

/-- Matching is reached: the person has no active conversation, or it was `Stuck` and has been
closed. -/
inductive Event.Matches (e : Event) (env : Environment) (s : Store) : Snapshot → Store → Prop where
  | idle {sn : Snapshot} (loaded : s.snapshot e.workspace e.account = .ok sn)
      (found : s.activeState? e.workspace e.phone = .ok none) : Matches e env s sn s
  | closed {sn : Snapshot} {c : Conversation} {s' : Store}
      (loaded : s.snapshot e.workspace e.account = .ok sn)
      (found : s.activeState? e.workspace e.phone = .ok (some c)) (stuck : c.Stuck sn env.now)
      (completed : s.updateState (c.after .complete env.now) c.version = .ok (some s')) :
      Matches e env s sn s'

/-- A rule fires with an event: matching is reached (`Matches`) and selects it, and its limits allow
it (`Picks`). -/
def Event.Fires (e : Event) (env : Environment) (s : Store) (r : Rule) (selected : Selected) :
    Prop :=
  ∃ sn s', e.Matches env s sn s' ∧ e.Picks env sn s' r selected

/-- What holds of the log, the outcome and what is sent when an event is handled. -/
structure Event.Audited (e : Event) (env : Environment) (w : World) (outcome : Outcome)
    (w' : World) : Prop where
  /-- Where no rule fires nothing is logged. -/
  silent : (∀ r selected, ¬ e.Fires env w.store r selected) → w'.store.firings = w.store.firings
  /-- A rule that fires is logged once, with what it has fired with. -/
  logged : ∀ r selected, e.Fires env w.store r selected → ∃ id, w'.store.firings =
    w.store.firings ++ [.ofFiring (e.entry id r selected.keyword outcome.isSuccess env.now)]
  /-- What is logged as a success has responded or begun a flow. -/
  success : outcome.isSuccess = true ↔ (∃ rule messageId, outcome = .responded rule messageId) ∨
    ∃ flow state pass, outcome = .flowStarted flow state pass
  /-- A response is exactly one message that was accepted. -/
  responded : ∀ rule messageId, outcome = .responded rule messageId → w.Accepts messageId w'
  /-- Where nothing has answered, nothing was sent, and at most a conversation that could not go on
  was closed. -/
  unheard : env.Candid → (outcome = .noMatch ∨ ∃ rule reason, outcome = .rateLimited rule reason) →
    w'.exchanges = w.exchanges ∧ ∃ sn, e.Matches env w.store sn w'.store

section

variable {e : Event} {w w₁ w' : World} {sn sn' : Snapshot} {s s' s'' : Store} {outcome : Outcome}

theorem Event.Matches.loaded (h : e.Matches env s sn s') :
    s.snapshot e.workspace e.account = .ok sn := by
  cases h with
  | idle loaded _ => exact loaded
  | closed loaded _ _ _ => exact loaded

theorem Event.Matches.sameRecords (h : e.Matches env s sn s') : s'.SameRecords s := by
  cases h with
  | idle _ _ => exact .refl s
  | closed _ _ _ completed => exact .of_updateState completed

-- Matching is reached past a conversation only if that was closed.
theorem Event.Matches.of_found {c : Conversation} (h : e.Matches env s sn s')
    (found : s.activeState? e.workspace e.phone = .ok (some c)) :
    c.Stuck sn env.now ∧
      s.updateState (c.after .complete env.now) c.version = .ok (some s') := by
  cases h with
  | idle _ found' => cases found.symm.trans found'
  | closed _ found' stuck completed =>
    cases found.symm.trans found'
    exact ⟨stuck, completed⟩

-- Matching is reached in one way.
theorem Event.Matches.unique (h : e.Matches env s sn s') (h' : e.Matches env s sn' s'') :
    sn' = sn ∧ s'' = s' := by
  refine ⟨Except.ok.inj (h'.loaded.symm.trans h.loaded), ?_⟩
  cases h with
  | idle _ found =>
    cases h' with
    | idle => rfl
    | closed _ found' _ _ => cases found.symm.trans found'
  | closed _ found _ completed =>
    cases completed.symm.trans (h'.of_found found).2
    rfl

theorem Outcome.isSuccess_iff (o : Outcome) : o.isSuccess = true ↔
    (∃ rule messageId, o = .responded rule messageId) ∨
      ∃ flow state pass, o = .flowStarted flow state pass := by
  cases o <;> simp [isSuccess]

theorem Outcome.isSilent_iff (o : Outcome) : o.isSilent = true ↔
    o = .noMatch ∨ ∃ rule reason, o = .rateLimited rule reason := by
  cases o <;> simp [isSilent]

/-- Where matching is reached (`hmatches`), what comes of it is `Audited`. -/
theorem Event.Answered.audited (h : e.Answered env sn w₁ outcome w')
    (hmatches : e.Matches env w.store sn w₁.store) (hexchanges : w₁.exchanges = w.exchanges) :
    e.Audited env w outcome w' := by
  have hfirings := hmatches.sameRecords.firings
  refine ⟨fun hnone => ?_, fun r selected ⟨sn', s', hmatches', hpicks⟩ => ?_,
    outcome.isSuccess_iff,
    fun rule messageId heq => (h.responded rule messageId heq).congr hexchanges.symm rfl,
    fun candid heq => ?_⟩
  · rw [← hfirings]
    exact h.silent fun r selected hpicks => hnone r selected ⟨sn, _, hmatches, hpicks⟩
  · obtain ⟨rfl, rfl⟩ := hmatches.unique hmatches'
    rw [← hfirings]
    exact h.logged r selected hpicks
  · obtain ⟨hstore, hexchanges'⟩ := h.unheard candid (outcome.isSilent_iff.mpr heq)
    exact ⟨hexchanges'.trans hexchanges, sn, hstore ▸ hmatches⟩

/-- Where matching is not reached (`hnone`), nothing is logged. -/
theorem Served.audited (h : Served env w outcome w')
    (hnone : ∀ sn s, ¬ e.Matches env w.store sn s) : e.Audited env w outcome w' := by
  refine ⟨fun _ => h.records.firings, fun _ _ ⟨sn, s, hmatches, _⟩ => absurd hmatches (hnone sn s),
    outcome.isSuccess_iff, h.responded, fun candid heq => ?_⟩
  have hsilent := outcome.isSilent_iff.mpr heq
  rw [h.heard candid] at hsilent
  cases hsilent

-- Where something cannot be read nothing is done.
theorem Event.audited_unread {err : StoreError} (hfails : e.process.Leads env w.store w.exchanges
      (.error (.store err)) w.store w.exchanges) (hnone : ∀ sn s, ¬ e.Matches env w.store sn s) :
    e.Audited env w (.ofExcept (e.process env w).1) (e.process env w).2 := by
  obtain ⟨hresult, hstore, -⟩ := hfails w rfl rfl
  have hserved : Served env w (.ofExcept (.error (.store err))) (e.process env w).2 :=
    .of_error (hstore.symm ▸ .refl w.store) fun _ => rfl
  rw [hresult]
  exact hserved.audited hnone

-- From where matching is reached, what follows is audited.
theorem Event.Matches.audited (h : e.Matches env w.store sn w₁.store) (faultless : env.Faultless)
    (keys : Keys RuleRow.id w.store.rules)
    (new : w.Undrawn env) (hexchanges : w₁.exchanges = w.exchanges)
    (hdrawn : w₁.drawn = w.drawn) (told : env.Told 0 w₁ env.now) :
    e.Audited env w (.ofExcept (e.answer sn env w₁).1) (e.answer sn env w₁).2 := by
  have hsame := h.sameRecords
  have hthere : ∀ r ∈ sn.rules, ∃ row ∈ w₁.store.rules, row.id = toString r.id :=
    fun r hr => hsame.rules ▸ keys.exists_rule h.loaded hr
  have hnew : w₁.Undrawn env := new.congr hsame.firings hdrawn.ge
  exact (answered_answer faultless told hnew hthere).audited h hexchanges

-- A conversation that is found is closed, or cannot be closed, or takes the event.
theorem Event.audited_takeEvent {c : Conversation} (faultless : env.Faultless)
    (keys : Keys RuleRow.id w.store.rules)
    (new : w.Undrawn env)
    (loaded : w.store.snapshot e.workspace e.account = .ok sn)
    (found : w.store.activeState? e.workspace e.phone = .ok (some c))
    (hstore : w₁.store = w.store) (hexchanges : w₁.exchanges = w.exchanges)
    (hdrawn : w₁.drawn = w.drawn) (told : env.Told 0 w₁ env.now)
    {k : Option Outcome → Step AutomationError Outcome} (hnone : k none = e.answer sn)
    (hsome : ∀ outcome, k (some outcome) = pure outcome) :
    e.Audited env w (.ofExcept ((c.takeEvent sn e >>= k) env w₁).1)
      ((c.takeEvent sn e >>= k) env w₁).2 := by
  have active := isActive_of_activeState? found
  by_cases stuck : c.Stuck sn env.now
  · by_cases completed : ∃ s, w.store.updateState (c.after .complete env.now) c.version =
        .ok (some s)
    · obtain ⟨s, completed⟩ := completed
      rw [run_bind_ok (run_takeEvent faultless active (hstore.symm ▸ completed) stuck e), hnone]
      have hmatches : e.Matches env w.store sn s := .closed loaded found stuck completed
      exact hmatches.audited faultless keys new hexchanges hdrawn told
    · obtain ⟨err, htake⟩ := run_takeEvent_error (w := w₁) faultless active
        (fun s h => completed ⟨s, hstore ▸ h⟩) stuck e
      have hserved : Served env w (.ofExcept (.error (.store err))) (w₁.counting .updateState) :=
        .of_error (hstore ▸ .refl w₁.store) fun _ => rfl
      rw [run_bind_error htake]
      exact hserved.audited fun sn' s h => completed ⟨s, (h.of_found found).2⟩
  · have hserves : (c.takeEvent sn e >>= k).Serves env :=
      (Unlogged.bind (c.unlogged_takeEvent stuck e) fun _ ⟨outcome, ho, hflow⟩ => by
        rw [ho, hsome]
        exact .pure hflow).serves
    refine ((hserves w₁ told).of_same hstore hexchanges).audited fun sn' s h => stuck ?_
    cases h.loaded.symm.trans loaded
    exact (h.of_found found).1

end

-- That the clock is read changes nothing that is audited.
theorem Event.Audited.of_reading {e : Event} {w w' : World} {outcome : Outcome}
    (h : e.Audited env w.reading outcome w') : e.Audited env w outcome w' :=
  ⟨h.silent, h.logged, h.success, h.responded, h.unheard⟩

/-- **The log tells what was done.** While no call to the store fails (`Faultless`), handling an
event logs a firing exactly if matching is reached and selects a rule whose limits allow it
(`Event.Fires`), and then one: of this rule, with the event and the keyword that matched, at the
time that the clock shows when that begins (`Environment.asOf`), and as a success exactly if the
outcome is `responded` or `flowStarted`. A response is exactly one message that the sender has
accepted. After `noMatch` and `rateLimited` nothing was handed to the sender, and the store is as it
was but for a conversation that could not go on; there a responder that fails is taken to say so
itself (`Environment.Candid`). By `keys` the identifiers of rules are those of every store that this
library writes (`World.identified_after`), and by `new` those that are drawn are new. -/
theorem handle_audited (faultless : env.Faultless) {e : Event} {w : World}
    (keys : Keys RuleRow.id w.store.rules) (new : w.Undrawn env) :
    e.Audited (env.asOf w) w (e.handle env w).1 (e.handle env w).2 := by
  have hhandle : e.handle env w = (.ofExcept (e.process (env.asOf w) w.reading).1,
    (e.process (env.asOf w) w.reading).2) := rfl
  have faultless' : (env.asOf w).Faultless := faultless
  have told : (env.asOf w).Told 0 w.reading (env.asOf w).now :=
    ⟨w.readings, Nat.zero_le _, Nat.lt_succ_self _, rfl⟩
  rw [hhandle]
  dsimp only
  refine Event.Audited.of_reading ?_
  cases hsnapshot : w.store.snapshot e.workspace e.account with
  | error err =>
    refine Event.audited_unread
      (.bind_error (.stored_error (Calls.leads_snapshot faultless' _ _) hsnapshot)) fun sn s h => ?_
    cases hsnapshot.symm.trans h.loaded
  | ok sn =>
    obtain ⟨w₁, hloaded, hagrees⟩ := run_snapshot (w := w.reading) faultless' hsnapshot
    cases hfound : w.store.activeState? e.workspace e.phone with
    | error err =>
      refine Event.audited_unread (.bind (.stored (Calls.leads_snapshot faultless' _ _) hsnapshot)
        (.bind_error (.stored_error (Calls.leads_activeState? faultless' _ _) hfound)))
        fun sn s h => ?_
      cases h with
      | idle _ found => cases hfound.symm.trans found
      | closed _ found _ _ => cases hfound.symm.trans found
    | ok found =>
      have hread := run_activeState? faultless' (hagrees.store ▸ hfound)
      have told₁ : (env.asOf w).Told 0 (w₁.counting .getActiveState) (env.asOf w).now :=
        told.mono hagrees.readings.ge
      unfold Event.process
      rw [run_bind_ok hloaded, run_bind_ok hread]
      cases found with
      | none =>
        dsimp only
        have hmatches : e.Matches (env.asOf w) w.reading.store sn
            (w₁.counting .getActiveState).store := by
          rw [World.counting, hagrees.store]
          exact .idle hsnapshot hfound
        exact hmatches.audited faultless' keys new hagrees.exchanges hagrees.drawn told₁
      | some c =>
        dsimp only
        have hstore : (w₁.counting .getActiveState).store = w.reading.store := hagrees.store
        exact Event.audited_takeEvent (w := w.reading) faultless' keys new hsnapshot hfound hstore
          hagrees.exchanges hagrees.drawn told₁ rfl fun _ => rfl

/-- Answers what it understands, and otherwise says that it fails. -/
def Responder.greeter : Responder := fun request =>
  if request.message = "Hi" then .ok (some "Hello") else .error (.collaborator "ai" "overloaded")

/-- Has `Responder.greeter` answer whoever writes, at most once in a minute. -/
def Rule.assisted : Rule :=
  { Rule.greeting with response := .ai none }

/-- An environment `n` half minutes later, with a responder. -/
def Environment.assisted (n : Nat) : Environment :=
  { Environment.calm (.ofSeconds (30 * n)) with
    responder := some .greeter
    freshId := fun _ => .ofNat (10 + n) }

/-- Nobody has written yet to `Rule.assisted`. -/
def Run.assisting : Run := [(.assisted 0, .putRule .assisted)]

/-- Somebody asks what `Responder.greeter` does not understand. -/
def Event.question : Event := { Event.hello with text := "Where are you?" }

theorem Environment.candid_assisted (n : Nat) : (assisted n).Candid := by
  intro respond hrespond request err hfails
  obtain rfl : Responder.greeter = respond := Option.some.inj hrespond
  unfold Responder.greeter at hfails
  split at hfails
  · cases hfails
  · exact ⟨_, _, (Except.error.inj hfails).symm⟩

/-- `Responder.greeter` answers somebody, is not asked again half a minute later because of the
cooldown of `Rule.assisted`, and fails to answer after a minute. -/
theorem handle_audited_greeting :
    ∃ w w₁ w₂ w₃ answer silence failure, w = (World.start {}).after Run.assisting ∧
      Event.hello.handle (.assisted 0) w = (answer, w₁) ∧
      Event.hello.handle (.assisted 1) w₁ = (silence, w₂) ∧
      Event.question.handle (.assisted 2) w₂ = (failure, w₃) ∧
      answer = .responded (.ofNat 2) none ∧ silence.isSilent = true ∧
      failure = .ofError (.collaborator "ai" "overloaded") ∧
      w₃.store.firings.map (·.text) = ["Hi", "Where are you?"] ∧
      (∀ n, (Environment.assisted n).Candid) ∧
      Event.hello.Audited ((Environment.assisted 0).asOf w) w answer w₁ ∧
      Event.hello.Audited ((Environment.assisted 1).asOf w₁) w₁ silence w₂ ∧
      Event.question.Audited ((Environment.assisted 2).asOf w₂) w₂ failure w₃ := by
  have faultless (n : Nat) : (Environment.assisted n).Faultless := fun _ _ => rfl
  have keys (run : Run) : Keys RuleRow.id ((World.start {}).after run).store.rules :=
    (World.identified_after rfl ⟨keyed_of_nil rfl, keys_nil, keys_nil⟩ run).rules
  -- The one firing that is logged by then has an identifier of its own.
  have hnew {w : World} {n : Nat} (hids : w.store.firings.map (·.id) = [toString (Uuid.ofNat 10)])
      (hn : toString (Uuid.ofNat 10) ≠ toString (Uuid.ofNat (10 + n))) :
      w.Undrawn (.assisted n) := by
    intro _ _ row hrow
    have hid := List.mem_map_of_mem (f := (·.id)) hrow
    rw [hids, List.mem_singleton] at hid
    rw [hid]
    exact hn
  have new : ((World.start {}).after Run.assisting).Undrawn (.assisted 0) := nofun
  obtain ⟨run₁, hrun₁⟩ : ∃ run, run = Run.assisting ++ [(.assisted 0, .handle .hello)] := ⟨_, rfl⟩
  have new₁ : ((World.start {}).after run₁).Undrawn (.assisted 1) :=
    hnew (by rw [hrun₁]; decide +kernel) (by decide +kernel)
  obtain ⟨run₂, hrun₂⟩ : ∃ run, run = run₁ ++ [(.assisted 1, .handle .hello)] := ⟨_, rfl⟩
  have new₂ : ((World.start {}).after run₂).Undrawn (.assisted 2) :=
    hnew (by rw [hrun₂, hrun₁]; decide +kernel) (by decide +kernel)
  have hw₁ : (Event.hello.handle (.assisted 0) ((World.start {}).after Run.assisting)).2 =
      (World.start {}).after run₁ := by
    rw [hrun₁, World.after_concat]
    rfl
  have hw₂ : (Event.hello.handle (.assisted 1) ((World.start {}).after run₁)).2 =
      (World.start {}).after run₂ := by
    rw [hrun₂, World.after_concat]
    rfl
  have haudited := handle_audited (e := .hello) (faultless 0) (keys _) new
  have haudited₁ := handle_audited (e := .hello) (faultless 1) (keys _) new₁
  rw [hw₁] at haudited
  rw [hw₂] at haudited₁
  refine ⟨_, (World.start {}).after run₁, (World.start {}).after run₂, _, _, _, _, rfl,
    Prod.ext rfl hw₁, Prod.ext rfl hw₂, rfl, ?_, ?_, ?_, ?_, Environment.candid_assisted,
    haudited, haudited₁, handle_audited (faultless 2) (keys _) new₂⟩
  · decide +kernel
  · rw [hrun₁]
    decide +kernel
  · rw [hrun₂, hrun₁]
    decide +kernel
  · rw [hrun₂, hrun₁]
    decide +kernel

end Autoresponder
