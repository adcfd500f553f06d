import Autoresponder.Proofs.Engine.Deed
import Autoresponder.Proofs.Engine.Entry

/-!
# What the engine does

Every function of the engine does nothing but deeds. Logging a firing is the last thing that an
event does, and keeping a conversation whose delivery failed is the last thing that a callback does.
-/

namespace Autoresponder

open Step

variable {events : List Event} {o : Occasion} {before : Store} {env : Environment} {first : Nat}

/-! ## 1. Conversations in progress -/

namespace Conversation

variable {now : Instant}

-- A change of a copy that is up to date is written, or nothing is.
theorem run_change (env : Environment) {c : Conversation} {w : World} (live : Live events c w.store)
    (hs : w.store.Consistent) (active : c.isActive = true) (ch : Change) :
    c.change ch env w = (.ok (c.after ch env.now),
        (w.counting .updateState).write (w.store.set (c.after ch env.now))) ∨
      ∃ e, c.change ch env w = (.error e, w.counting .updateState) := by
  have hrun : c.change ch env w =
      (Calls.updateState (c.after ch env.now) c.version >>= fun updated =>
        if updated then pure (c.after ch env.now) else throw c.outdated) env w := rfl
  rw [hrun, run_bind]
  simp only [Calls.updateState, Step.call,
    live.held.updateState hs active (c.same_after ch env.now), Except.map]
  rcases env.fault .updateState (w.callsOf .updateState) with _ | _ | _
  · exact .inl rfl
  · exact .inr ⟨_, rfl⟩
  · exact .inr ⟨_, rfl⟩

/-- A change with a `cause` is made at the time `now`, or the copy stays up to date. -/
theorem follows_change {c : Conversation} {ch : Change} (active : c.isActive = true)
    (recorded : ∀ t, ch = .recordInbound t → CameIn events c.workspace c.phone t)
    (cause : Cause before o env.now now c ch) :
    (c.change ch).Follows (o.conduct events before env first) (env.atTime now) (Live events c)
      (fun c' s => c' = c.after ch now ∧ Live events c' s) (fun _ => Live events c) := by
  intro w told hs live
  have heard : (c.after ch now).Heard events := live.heard.after recorded
  have hquiet : (o.conduct events before env first).Path w (w.counting .updateState) :=
    .single (.quiet (w.idles_counting _))
  rcases run_change (env.atTime now) live hs.1.consistent active ch with hrun | ⟨e, hrun⟩ <;>
    rw [hrun]
  · exact ⟨hquiet.tail (.change c ch now told live active heard cause), rfl,
      live.held.set (c.same_after ch now), heard⟩
  · exact ⟨hquiet, live⟩

theorem follows_stored_change {c : Conversation} {ch : Change} (active : c.isActive = true)
    (recorded : ∀ t, ch = .recordInbound t → CameIn events c.workspace c.phone t)
    (cause : Cause before o env.now now c ch) :
    (stored (c.change ch)).Follows (o.conduct events before env first) (env.atTime now)
      (Live events c) (fun c' s => c' = c.after ch now ∧ Live events c' s)
      (fun _ => Live events c) :=
  .mapError _ (follows_change active recorded cause)

-- A change that takes note of something needs no further cause.
theorem follows_note {c : Conversation} (ch : Change) (notes : ch.Notes)
    (active : c.isActive = true)
    (recorded : ∀ t, ch = .recordInbound t → CameIn events c.workspace c.phone t) :
    (stored (c.change ch)).Follows (o.conduct events before env first) (env.atTime now)
      (Live events c) (fun c' s => c' = c.after ch now ∧ Live events c' s)
      (fun _ => Live events c) :=
  follows_stored_change active recorded (.notes notes)

theorem follows_finish {c : Conversation} :
    (stored c.finish).Follows (o.conduct events before env first) (env.atTime now) (Live events c)
      (fun c' s => (c'.Same c ∧ (c.isActive = true → c'.resumeAt = none)) ∧ Live events c' s)
      (fun _ => Live events c) := by
  refine .mapError _ ?_
  unfold finish
  split
  · rename_i active
    refine (follows_change active (by simp) .complete).post fun c' s h => ⟨?_, h.2⟩
    rw [h.1]
    exact ⟨c.same_after _ _, fun _ => rfl⟩
  · rename_i idle
    exact .pure fun s h => ⟨⟨.refl c, fun active => absurd active idle⟩, h⟩

end Conversation

/-! ## 2. Passes -/

theorem Occasion.account_congr {c d : Conversation} (h : d.Same c) : o.account d = o.account c := by
  cases o <;> simp only [Occasion.account, h.account]

/-- By `sendGuarded` a message that `requiresWindow` is handed over while the window is open, as the
clock shows when it is read for that. -/
theorem follows_sendGuarded {P : Store → Prop} {workspace account phone : String}
    {lastInbound : Option Instant} {m : Message} {now : Instant}
    (hdeed : ∀ w : World, env.Told first w now → P w.store → (m.requiresWindow = true →
      Window.isOpen lastInbound (env.clock w.readings) = true) → Deed events o before env first w
        (w.handing (env.atTime now) ⟨workspace, account, phone, m⟩)) :
    (sendGuarded workspace account phone lastInbound m).Follows
      (o.conduct events before env first) (env.atTime now) P (fun _ => P) (fun _ => P) := by
  intro w told _ hP
  cases hwindow : m.requiresWindow with
  | false =>
    have hsent : (sendGuarded workspace account phone lastInbound m (env.atTime now) w).2 =
        w.handing (env.atTime now) ⟨workspace, account, phone, m⟩ := by
      simp [sendGuarded, hwindow, send, World.handing, Environment.moment]
    rw [hsent]
    refine ⟨.single (hdeed w told hP (by simp [hwindow])), ?_⟩
    split <;> exact hP
  | true =>
    have hrun : sendGuarded workspace account phone lastInbound m (env.atTime now) w =
        (if Window.isOpen lastInbound (env.clock w.readings) then
            send ⟨workspace, account, phone, m⟩
          else throw (.windowClosed phone lastInbound))
          (env.atTime (env.clock w.readings)) w.reading := by
      simp only [sendGuarded, hwindow, if_true]
      rfl
    rw [hrun]
    split
    · rename_i hopen
      have hsent : (send ⟨workspace, account, phone, m⟩ (env.atTime (env.clock w.readings))
          w.reading).2 = w.handing (env.atTime now) ⟨workspace, account, phone, m⟩ := by
        simp [hwindow, send, World.handing, Environment.moment, World.reading, Environment.atTime]
      rw [hsent]
      refine ⟨.single (hdeed w told hP fun _ => hopen), ?_⟩
      split <;> exact hP
    · exact ⟨.single (.quiet w.idles_reading), hP⟩

theorem Conversation.follows_deliver {c : Conversation} {m : Message} {now : Instant}
    (meets : o.Meets c) (purpose : Purpose before o env c m) :
    (c.deliver m).Follows (o.conduct events before env first) (env.atTime now) (Live events c)
      (fun _ => Live events c) (fun _ => Live events c) :=
  follows_sendGuarded fun _ told live hopen => .send c m now told live hopen meets purpose

namespace Flow

/-- A copy that `passWithin` may execute nodes for: if it stands on a delay, that has not
begun yet. -/
structure Carries (before : Store) (o : Occasion) (f : Flow) (c : Conversation) : Prop where
  meets : o.Meets c
  charted : before.Charts c.workspace (o.account c) f
  flow : f.id = c.flow
  fresh : ∀ n, f.node? c.node = some n → n.kind.isDelay = true → c.resumeAt = none

/-- What came of `passWithin` for a copy: if a delivery failed, the copy stands on a node that is no
delay. -/
structure Arrives (before : Store) (o : Occasion) (f : Flow) (c last : Conversation)
    (outcome : Except AutomationError Pass) : Prop where
  same : last.Same c
  refused : ∀ e, outcome = .error (.delivery e) →
    ∃ n, last.Stands before o f n ∧ n.kind.isDelay = false

variable {f : Flow} {c d : Conversation} {now : Instant}

theorem Carries.stands (h : f.Carries before o c) {n : Node} (hn : f.node? c.node = some n) :
    c.Stands before o f n :=
  ⟨h.charted, h.flow, hn⟩

-- A copy without a time at which it is resumed may go on.
theorem Carries.of_resumeAt (h : f.Carries before o c) (hsame : d.Same c)
    (hresume : d.resumeAt = none) : f.Carries before o d where
  meets := h.meets.of_same hsame
  charted := by
    rw [hsame.workspace, Occasion.account_congr hsame]
    exact h.charted
  flow := h.flow.trans hsame.flow.symm
  fresh _ _ _ := hresume

theorem Carries.advance (h : f.Carries before o c) (node : String) (now : Instant) :
    f.Carries before o (c.after (.advance node) now) :=
  h.of_resumeAt (c.same_after _ now) rfl

/-- What came of `Flow.execute` for a copy: as long as there is no reason to stop, a pass goes on
with it. -/
structure Executes (before : Store) (o : Occasion) (f : Flow) (c : Conversation)
    (r : Conversation × NodeResult) : Prop where
  same : r.1.Same c
  goesOn : r.2.terminal = false → r.2.waits = false → r.2.resumeAt = none → f.Carries before o r.1

theorem follows_followEdge {n : Node} {receipt : Option Receipt} (active : c.isActive = true)
    (carries : f.Carries before o c) (hn : f.node? c.node = some n) (plain : n.kind.isPlain = true) :
    (f.followEdge c c.node receipt).Follows (o.conduct events before env first) (env.atTime now)
      (Live events c) (fun r s => f.Executes before o c r ∧ Live events r.1 s)
      (fun _ => Live events c) := by
  unfold followEdge
  split
  · rename_i next hnext
    refine .bind (Conversation.follows_stored_change active (by simp)
      (.pass (carries.stands hn) plain hnext)) fun c' => .of_pre ?_
    rintro rfl
    refine .pure fun s live => ⟨⟨c.same_after _ _, ?_⟩, live⟩
    exact fun _ _ _ => carries.advance next now
  · refine .bind Conversation.follows_finish fun c' => .of_pre fun ⟨hsame, hresume⟩ => ?_
    refine .pure fun s live => ⟨⟨hsame, ?_⟩, live⟩
    exact fun _ _ _ => carries.of_resumeAt hsame (hresume active)

theorem follows_prompt {n : Node} {m : Message} (active : c.isActive = true)
    (carries : f.Carries before o c) (hn : f.node? c.node = some n) (told : n.kind.tells c = some m) :
    (prompt c m).Follows (o.conduct events before env first) (env.atTime now) (Live events c)
      (fun r s => f.Executes before o c r ∧ Live events r.1 s)
      (fun _ => Live events c) := by
  unfold prompt
  refine .bind (Conversation.follows_deliver carries.meets (.node (carries.stands hn) told))
    fun receipt => ?_
  refine .bind (Conversation.follows_note .markWaiting trivial active (by simp))
    fun c' => .of_pre ?_
  rintro rfl
  exact .pure fun s live => ⟨⟨c.same_after _ _, nofun⟩, live⟩

-- The end of a delay is the time that it takes after now.
theorem follows_deadline {P : Store → Prop} {node : String} {seconds : UInt64} :
    (f.deadline node seconds).Follows (o.conduct events before env first) (env.atTime now) P
      (fun t s => now.add? (Span.ofSeconds seconds.toNat) = some t ∧ P s)
      (fun e s => (∀ de, e ≠ .delivery de) ∧ P s) := by
  unfold deadline
  refine .bind_now ?_
  split
  · rename_i t ht
    exact .pure fun _ h => ⟨ht, h⟩
  · exact .throw fun _ h => ⟨by simp, h⟩

-- A delay that has not begun begins now.
theorem follows_delay {n : Node} {seconds : UInt64} (active : c.isActive = true)
    (carries : f.Carries before o c) (hn : f.node? c.node = some n)
    (hkind : n.kind = .delay seconds) (next : Option String) :
    (do let t ← f.deadline c.node seconds
        let c ← stored (c.change (.scheduleResume t))
        return (c, ({ next, resumeAt := some t } : NodeResult))).Follows
      (o.conduct events before env first) (env.atTime now) (Live events c)
      (fun r s => f.Executes before o c r ∧ Live events r.1 s)
      (fun e s => (∀ de, e ≠ AutomationError.delivery de) ∧ Live events c s) := by
  have hfresh : c.resumeAt = none := carries.fresh n hn (by rw [hkind]; rfl)
  refine .bind follows_deadline fun t => .of_pre fun ht => ?_
  have hbegins : (c.change (.scheduleResume t)).Follows (o.conduct events before env first)
      (env.atTime now) (Live events c) _ _ :=
    Conversation.follows_change active (by simp) (.delay (carries.stands hn) hkind hfresh ht)
  refine .bind (.mapError _ (hbegins.imp (fun _ h => h) (fun _ _ h => h)
    fun e s live => ⟨by simp, live⟩)) fun c' => .of_pre ?_
  rintro rfl
  exact .pure fun s live => ⟨⟨c.same_after _ _, nofun⟩, live⟩

theorem follows_executeNode {n : Node} (active : c.isActive = true)
    (carries : f.Carries before o c) (hn : f.node? c.node = some n) :
    (f.executeNode c n).Follows (o.conduct events before env first) (env.atTime now) (Live events c)
      (fun r s => f.Executes before o c r ∧ Live events r.1 s)
      (fun e s => (∀ de, e = .delivery de → n.kind.isDelay = false) ∧ Live events c s) := by
  have hid : n.id = c.node := node?_id hn
  -- Only of a delay it has to be told that it delivers nothing.
  have hother {x : Step AutomationError (Conversation × NodeResult)} (hkind : n.kind.isDelay = false)
      (hx : x.Follows (o.conduct events before env first) (env.atTime now) (Live events c)
        (fun r s => f.Executes before o c r ∧ Live events r.1 s) (fun _ => Live events c)) :
      x.Follows (o.conduct events before env first) (env.atTime now) (Live events c)
        (fun r s => f.Executes before o c r ∧ Live events r.1 s)
        (fun e s => (∀ de, e = .delivery de → n.kind.isDelay = false) ∧ Live events c s) :=
    hx.imp (fun _ h => h) (fun _ _ h => h) fun _ _ live => ⟨fun _ _ => hkind, live⟩
  obtain ⟨id, kind⟩ := n
  obtain rfl : id = c.node := hid
  have hdeliver {m : Message} (told : kind.tells c = some m) :
      (c.deliver m).Follows (o.conduct events before env first) (env.atTime now) (Live events c)
        (fun _ => Live events c) (fun _ => Live events c) :=
    Conversation.follows_deliver carries.meets (.node (carries.stands hn) told)
  cases kind with
  | trigger => exact hother rfl (follows_followEdge active carries hn rfl)
  | message text =>
    exact hother rfl (.bind (hdeliver rfl) fun receipt =>
      follows_followEdge active carries hn rfl)
  | buttons text bs variableName => exact hother rfl (follows_prompt active carries hn rfl)
  | delay seconds =>
    have hfresh : c.resumeAt = none := carries.fresh _ hn rfl
    simp only [executeNode, hfresh]
    exact (follows_delay active carries hn rfl _).imp (fun _ h => h) (fun _ _ h => h)
      fun e s h => ⟨fun de hde => absurd hde (h.1 de), h.2⟩
  | form id body callToAction => exact hother rfl (follows_prompt active carries hn rfl)
  | finish message =>
    have hend (receipt : Option Receipt) :
        (do let c' ← stored c.finish
            return (c', NodeResult.ended receipt)).Follows (o.conduct events before env first)
          (env.atTime now) (Live events c) (fun r s => f.Executes before o c r ∧ Live events r.1 s)
          (fun _ => Live events c) := by
      refine .bind Conversation.follows_finish fun c' => .of_pre fun ⟨hsame, hresume⟩ => ?_
      exact .pure fun s live => ⟨⟨hsame, nofun⟩, live⟩
    refine hother rfl ?_
    unfold executeNode
    cases message with
    | none => exact .bind (.pure fun _ h => h) hend
    | some text =>
      dsimp only
      split
      · exact .bind (.pure fun _ h => h) hend
      · rename_i hblank
        have htold : (NodeKind.finish (some text)).tells c = some (.text (c.render text)) := by
          simp [NodeKind.tells, Option.filter, hblank]
        exact .bind (.map (hdeliver htold)) hend

theorem follows_execute (carries : f.Carries before o c) :
    (f.execute c c.node c.version).Follows (o.conduct events before env first) env (Live events c)
      (fun r s => f.Executes before o c r ∧ Live events r.1 s)
      (fun e s => (∀ de, e = .delivery de → ∃ n, c.Stands before o f n ∧ n.kind.isDelay = false) ∧
        Live events c s) := by
  unfold execute
  split
  · rename_i hadmits
    have active : c.isActive = true := by
      simp only [admits, Bool.and_eq_true] at hadmits
      exact hadmits.1.1.1
    cases hn : f.node? c.node with
    | none =>
      simp only [Flow.node, hn]
      exact .throw fun _ live => ⟨by simp, live⟩
    | some n =>
      simp only [Flow.node, hn]
      exact .timed fun now => (follows_executeNode active carries hn).imp (fun _ h => h)
        (fun _ _ h => h) fun e s h => ⟨fun de hde => ⟨n, carries.stands hn, h.1 de hde⟩, h.2⟩
  · exact .pure fun _ live => ⟨⟨.refl c, fun _ _ _ => carries⟩, live⟩

theorem goesOn_of_stopAfter {node : String} {r : NodeResult} (h : stopAfter node r = none) :
    r.terminal = false ∧ r.waits = false ∧ r.resumeAt = none := by
  unfold stopAfter at h
  split at h
  · cases h
  · rename_i hterminal
    split at h
    · cases h
    · rename_i hwaits
      exact ⟨by simpa using hterminal, by simpa using hwaits, Option.map_eq_none_iff.mp h⟩

theorem arrives_ok {last : Conversation} (same : last.Same c) (pass : Pass) :
    f.Arrives before o c last (.ok pass) := by
  refine ⟨same, fun e h => ?_⟩
  cases h

/-- The copy that `passWithin` hands back is up to date (`Live`), also when the pass failed. -/
theorem follows_passWithin (budget : Nat) (sofar : Pass) (carries : f.Carries before o c) :
    Act.Follows (o.conduct events before env first) env (Live events c)
      (f.passWithin budget sofar c)
      (fun r s => f.Arrives before o c r.1 r.2 ∧ Live events r.1 s) := by
  induction budget generalizing sofar c with
  | zero =>
    unfold passWithin
    split
    · exact .pure fun _ live => ⟨arrives_ok (.refl c) _, live⟩
    · exact .pure fun _ live => ⟨arrives_ok (.refl c) _, live⟩
  | succ budget ih =>
    unfold passWithin
    split
    · exact .pure fun _ live => ⟨arrives_ok (.refl c) _, live⟩
    · refine .bind (follows_execute carries).attempt fun outcome => ?_
      cases outcome with
      | error e =>
        exact .pure fun s h => ⟨⟨.refl c, fun de hde => h.1 de (Except.error.inj hde)⟩, h.2⟩
      | ok r =>
        dsimp only
        refine .of_pre fun executes => ?_
        cases hstop : stopAfter c.node r.2 with
        | some stop => exact .pure fun _ live => ⟨arrives_ok executes.same _, live⟩
        | none =>
          obtain ⟨hterminal, hwaits, hresume⟩ := goesOn_of_stopAfter hstop
          refine (ih _ (executes.goesOn hterminal hwaits hresume)).post fun r' s h => ⟨?_, h.2⟩
          exact ⟨h.1.same.trans executes.same, h.1.refused⟩

theorem follows_runPass (carries : f.Carries before o c) :
    Act.Follows (o.conduct events before env first) env (Live events c) (f.runPass c)
      (fun r s => f.Arrives before o c r.1 r.2 ∧ Live events r.1 s) :=
  follows_passWithin _ _ carries

theorem behaves_runPass_result (carries : f.Carries before o c) (out : Pass → Outcome) :
    (do let (_, outcome) ← ofAct (f.runPass c); return out (← ofResult outcome)).Behaves
      (o.conduct events before env first) env (Live events c) := by
  refine Follows.bind (.ofAct (follows_runPass carries)) fun r => ?_
  exact Behaves.bind (.ofResult (fun _ _ _ _ => trivial) fun _ _ _ _ => trivial)
    fun pass => Behaves.pure

theorem behaves_proceed (carries : f.Carries before o c) :
    (f.proceed c).Behaves (o.conduct events before env first) env (Live events c) :=
  behaves_runPass_result carries _

theorem behaves_begin {e : Event} (he : e ∈ events)
    (charted : before.Charts e.workspace e.account f) :
    (f.begin e).Behaves ((Occasion.event e).conduct events before env first) env fun _ => True := by
  unfold begin
  cases hstart : f.start? with
  | none => exact .throw
  | some start =>
    refine Follows.bind (Q := fun c s => f.Carries before (.event e) c ∧ Live events c s)
      (.mapError _ ?_) fun c => .of_pre fun carries => ?_
    · unfold Conversation.create
      refine .bind (.freshId (Q := fun _ _ => True) fun _ _ h => h) fun id => .bind_now ?_
      refine .bind (.tell (fun w told hs _ s hrun => ⟨?_, ?_⟩) fun _ _ h => h) fun _ =>
        .pure fun _ h => h
      · exact .begin e id env.now s told rfl he charted hstart hrun
      · exact ⟨⟨⟨rfl, rfl⟩, charted, rfl, fun _ _ _ => rfl⟩, (hs.1.consistent.createState hrun).2,
          heard_begun he⟩
    · refine .bind_now ?_
      refine Follows.bind (.mapError _ (.tell (fun w _ _ live s hrun => ?_)
        fun _ _ _ => trivial)) fun _ => behaves_runPass_result carries _
      rw [← Except.ok.inj hrun]
      exact ⟨.countStart f.id env.now, live.held.congr rfl, live.heard⟩

end Flow

/-! ## 3. Answers to events -/

namespace Event

variable {e : Event} {sn : Snapshot} {r : Rule}

-- A reply is what the responder says to the message.
theorem follows_askResponder {instructions : Option String} :
    (e.askResponder instructions).Follows (o.conduct events before env first) env (fun _ => True)
      (fun reply _ => ∀ body, reply = some body → ∃ respond, env.responder = some respond ∧
        respond ⟨e.workspace, e.account, e.phone, e.text, instructions⟩ = .ok (some body))
      (fun _ _ => True) := by
  intro w _ _ _
  unfold askResponder
  cases env.responder with
  | none => exact ⟨.refl, trivial⟩
  | some respond =>
    refine ⟨.single (.quiet ⟨rfl, rfl, rfl, le_refl _⟩), ?_⟩
    dsimp only
    cases hreply : respond ⟨e.workspace, e.account, e.phone, e.text, instructions⟩ with
    | error err => exact trivial
    | ok reply =>
      intro body hbody
      obtain ⟨rfl, -⟩ := Option.filter_eq_some_iff.mp hbody
      exact ⟨respond, rfl, hreply⟩

theorem behaves_reply {rule : Uuid} {m : Message} {selected : Selected} (he : e ∈ events)
    (selects : e.Selects before env r selected) (answers : r.Answers env e selected.faq m) :
    (e.reply rule m).Behaves ((Occasion.event e).conduct events before env first) env
      fun _ => True := by
  unfold reply
  refine .bind (follows_sendGuarded fun _ (told : env.Told first _ env.now) _ hopen => ?_).behaves
    fun _ => Behaves.pure
  exact .reply e m env.now told he hopen rfl selects answers

theorem behaves_respond {selected : Selected} (he : e ∈ events)
    (loaded : before.snapshot e.workspace e.account = .ok sn)
    (selects : e.Selects before env r selected) :
    (e.respond sn r selected.faq).Behaves ((Occasion.event e).conduct events before env first) env
      fun _ => True := by
  simp only [respond]
  cases hfaq : selected.faq with
  | some answer => exact behaves_reply he selects (hfaq ▸ .faq answer)
  | none =>
    cases hresponse : r.response with
    | text text => exact behaves_reply he selects (hfaq ▸ .text hresponse)
    | buttons text bs => exact behaves_reply he selects (hfaq ▸ .buttons hresponse)
    | template name language parameters =>
      exact behaves_reply he selects (hfaq ▸ .template hresponse)
    | startFlow id =>
      dsimp only
      split
      · rename_i hflow
        exact Flow.behaves_begin he ⟨sn, loaded, List.mem_of_find?_eq_some hflow⟩
      · exact Behaves.throw
    | ai instructions =>
      refine Follows.bind follows_askResponder fun reply => ?_
      cases reply with
      | none => exact Behaves.pure.pre fun _ _ => trivial
      | some body =>
        refine Follows.pre (P := fun _ => (∃ respond, env.responder = some respond ∧
          respond ⟨e.workspace, e.account, e.phone, e.text, instructions⟩ = .ok (some body)) ∧ True)
          (.of_pre fun ⟨respond, asked, replied⟩ => ?_) fun s h => ⟨h body rfl, trivial⟩
        exact behaves_reply he selects (hfaq ▸ .ai hresponse asked replied)

end Event

-- What is known of the firings of a rule depends on the firings alone.
theorem Store.SameRecords.firings_eq {s s' : Store} (h : s.SameRecords s') :
    s.lastFiring = s'.lastFiring ∧ s.countFirings = s'.countFirings := by
  constructor
  · funext rule conversation
    simp only [Store.lastFiring, Store.successes, h.firings]
  · funext rule conversation since
    simp only [Store.countFirings, Store.successes, h.firings]

/-- By `Rule.limitHit?` a limit that is checked without failure is that of the store. -/
theorem Rule.follows_limitHit? {P : Store → Prop} {r : Rule} {conversation : String} {z : Zone} :
    (r.limitHit? conversation z).Follows (o.conduct events before env first) env P
      (fun hit s => hit = before.limitHit? r conversation z env.now ∧ P s)
      (fun _ _ => True) := by
  have hcooldown : (r.checkCooldown conversation).Follows (o.conduct events before env first) env P
      (fun hit s => hit = (if r.cooldown = 0 then none
        else (before.lastFiring r.id conversation).bind fun last => r.cooldownHit? last env.now) ∧
          P s) (fun _ _ => True) := by
    unfold checkCooldown
    split
    · exact .pure fun _ h => ⟨rfl, h⟩
    · refine .bind (Q := fun last s => last = before.lastFiring r.id conversation ∧ P s)
        (.ask (fun last s hs hlast hP => ⟨?_, hP⟩) fun _ _ _ => trivial)
        fun last => .of_pre ?_
      · rw [← Except.ok.inj hlast, hs.2.firings_eq.1]
      · rintro rfl
        cases before.lastFiring r.id conversation with
        | none => exact .pure fun _ h => ⟨rfl, h⟩
        | some last =>
          rw [Option.bind_some]
          exact .bind_now (.pure fun _ h => ⟨rfl, h⟩)
  have hcap : (r.checkCap conversation z).Follows (o.conduct events before env first) env P
      (fun hit s => hit = (if r.dailyCap = 0 then none
        else r.capHit? (before.countFirings r.id conversation (z.localMidnight env.now))) ∧ P s)
      (fun _ _ => True) := by
    unfold checkCap
    split
    · exact .pure fun _ h => ⟨rfl, h⟩
    · refine .bind_now (.bind (Q := fun count s =>
        count = before.countFirings r.id conversation (z.localMidnight env.now) ∧ P s)
        (.ask (fun count s hs hcount hP => ⟨?_, hP⟩) fun _ _ _ => trivial) fun count => .of_pre ?_)
      · rw [← Except.ok.inj hcount, hs.2.firings_eq.2]
      · rintro rfl
        exact .pure fun _ h => ⟨rfl, h⟩
  unfold limitHit? Store.limitHit?
  refine .bind hcooldown fun hit => .of_pre ?_
  rintro rfl
  split
  · rename_i hit hhit
    exact .pure fun _ h => ⟨by rw [hhit, Option.some_or], h⟩
  · rename_i hhit
    rw [hhit, Option.none_or]
    exact hcap

/-- The last thing that an event does, if anything: a rule whose limits allow it has answered, and
that is logged. Both go by `env.now`, the time at which the event is handled. -/
inductive Logs (e : Event) (before : Store) (env : Environment) (w : World)
    (outcome : Except AutomationError Outcome) : World → Prop where
  | log {sn : Snapshot} {r : Rule} (entry : Firing) (s : Store)
      (loaded : before.snapshot e.workspace e.account = .ok sn) (mem : r ∈ sn.rules)
      (allowed : before.limitHit? r e.conversation (sn.settings.zone env.zones) env.now = none)
      (rule : entry.rule = r.id) (conversation : entry.conversation = e.conversation)
      (time : entry.time = env.now) (success : entry.success = (Outcome.ofExcept outcome).isSuccess)
      (logged : w.store.logFiring entry = .ok s) :
      Logs e before env w outcome (w.write s)

-- A firing is logged, or nothing is.
theorem run_logFiring (env : Environment) (rule : Uuid) (record : FiringRecord) (success : Bool)
    (w : World) :
    ∃ (entry : Firing) (w₁ : World), w.Idles w₁ ∧
      entry.rule = rule ∧ entry.conversation = record.conversation ∧ entry.time = env.now ∧
      entry.success = success ∧
      ((∃ s, w.store.logFiring entry = .ok s ∧
          (logFiring rule record success env w).2 = w₁.write s) ∨
        (logFiring rule record success env w).2 = w₁) := by
  obtain ⟨entry, hentry, hrun⟩ := exists_entry env rule record success w
  refine ⟨entry, ({ w with drawn := w.drawn + 1 } : World).counting .logFiring,
    ⟨rfl, rfl, rfl, le_refl _⟩, by rw [hentry]; rfl, by rw [hentry]; rfl, by rw [hentry]; rfl,
    by rw [hentry]; rfl, ?_⟩
  rw [hrun, run_bind]
  simp only [Calls.logFiring, Step.tell, Step.call]
  cases env.fault .logFiring (({ w with drawn := w.drawn + 1 } : World).callsOf .logFiring) with
  | some fault => exact .inr (by cases fault <;> rfl)
  | none =>
    cases hlog : w.store.logFiring entry with
    | error err => exact .inr (by simp only [Except.map])
    | ok s => exact .inl ⟨s, rfl, by simp only [Except.map]; rfl⟩

theorem mem_rules_of_candidate {sn : Snapshot} {r : Rule} (h : Candidate.rule r ∈ sn.candidates) :
    r ∈ sn.rules := by
  unfold Snapshot.candidates at h
  rw [List.mem_mergeSort] at h
  rcases List.mem_append.mp h with h | h
  · obtain ⟨f, -, heq⟩ := List.mem_map.mp h
    cases heq
  · obtain ⟨r', hr', heq⟩ := List.mem_map.mp h
    cases heq
    exact hr'

namespace Event

variable {e : Event} {sn : Snapshot}

-- A rule has answered, and that is logged if it can be.
theorem closes_logging {r : Rule} {record : FiringRecord} {success : Bool}
    {outcome : Except AutomationError Outcome}
    (loaded : before.snapshot e.workspace e.account = .ok sn) (mem : r ∈ sn.rules)
    (allowed : before.limitHit? r e.conversation (sn.settings.zone env.zones) env.now = none)
    (conversation : record.conversation = e.conversation)
    (hsuccess : success = (Outcome.ofExcept outcome).isSuccess) :
    (ofAct (logFiring r.id record success).attempt >>= fun _ => ofResult outcome).Closes
      ((Occasion.event e).conduct events before env first)
      (fun w w' outcome => Logs e before env w outcome w') env fun _ => True := by
  intro w _ _ _
  rw [run_ofAct_bind]
  obtain ⟨entry, w₁, hidles, hrule, hconversation, htime, hentry, hlog⟩ :=
    run_logFiring env r.id record success w
  refine ⟨w₁, .single (.quiet hidles), ?_⟩
  change (logFiring r.id record success env w).2 = w₁ ∨
    Logs e before env w₁ outcome (logFiring r.id record success env w).2
  rcases hlog with ⟨s, hlogged, hw⟩ | hw
  · rw [hw]
    exact .inr (.log entry s loaded mem allowed hrule (hconversation.trans conversation) htime
      (hentry.trans hsuccess) (hidles.store ▸ hlogged))
  · exact .inl hw

theorem closes_fire {r : Rule} {selected : Selected} (he : e ∈ events)
    (loaded : before.snapshot e.workspace e.account = .ok sn) (mem : r ∈ sn.rules)
    (selects : e.Selects before env r selected) :
    (e.fire sn r selected).Closes ((Occasion.event e).conduct events before env first)
      (fun w w' outcome => Logs e before env w outcome w') env fun _ => True := by
  unfold fire
  have hlimit : (stored (r.limitHit? e.conversation (sn.settings.zone env.zones))).Follows
      ((Occasion.event e).conduct events before env first) env (fun _ => True) _ (fun _ _ => True) :=
    .mapError _ Rule.follows_limitHit?
  refine .bind_zones (.bind hlimit fun hit => .of_pre fun hhit => ?_)
  split
  · exact .of_follows Behaves.throw
  · refine .bind (behaves_respond he loaded selects).attempt fun outcome => ?_
    refine closes_logging loaded mem hhit.symm rfl ?_
    rcases outcome with err | _
    · cases err <;> rfl
    · rfl

-- What is selected is a flow or a rule that was loaded.
theorem closes_answer (he : e ∈ events) (loaded : before.snapshot e.workspace e.account = .ok sn) :
    (e.answer sn).Closes ((Occasion.event e).conduct events before env first)
      (fun w w' outcome => Logs e before env w outcome w') env fun _ => True := by
  unfold answer
  refine .bind (Q := fun found _ => found =
      (sn.select env.matcher ⟨e.text, e.isFirst, env.now⟩).1 ∧ True) (E := fun _ _ => True)
    (.ofAct fun w _ _ _ => ⟨.single (.quiet ⟨rfl, rfl, rfl, le_refl _⟩), rfl, trivial⟩)
    fun found => .of_pre fun hfound => ?_
  split
  · exact .of_follows Behaves.pure
  · rename_i selected
    have hmem := candidate_of_select hfound.symm
    split
    · rename_i f hf
      exact .of_follows (Flow.behaves_begin he ⟨sn, loaded, mem_flows_of_candidate (hf ▸ hmem)⟩)
    · rename_i r hr
      exact closes_fire he loaded (mem_rules_of_candidate (hr ▸ hmem))
        ⟨⟨sn, loaded, hfound.symm⟩, hr⟩

end Event

-- As long as nothing was changed an account is loaded as it was before.
theorem Calls.follows_snapshot {K : Conduct} {workspace account : String} :
    (stored (Calls.snapshot workspace account)).Follows K env (fun s => s = before)
      (fun sn s => before.snapshot workspace account = .ok sn ∧ s = before) (fun _ _ => True) := by
  refine .mapError _ ?_
  unfold snapshot
  refine .bind (Q := fun flows s => flows = before.activeFlows workspace account ∧ s = before)
    (.ask (fun flows s _ hflows hs => ?_) fun _ _ _ => trivial) fun flows => .of_pre ?_
  · rw [hs] at hflows
    exact ⟨(Except.ok.inj hflows).symm, hs⟩
  rintro rfl
  refine .bind (Q := fun rules s => rules = before.activeRules workspace account ∧ s = before)
    (.ask (fun rules s _ hrules hs => ?_) fun _ _ _ => trivial) fun rules => .of_pre ?_
  · rw [hs] at hrules
    exact ⟨(Except.ok.inj hrules).symm, hs⟩
  rintro rfl
  refine .bind (Q := fun settings s => before.settings? workspace account = .ok settings ∧
    s = before) (.ask (fun settings s _ hsettings hs => ?_) fun _ _ _ => trivial)
    fun settings => .of_pre fun hsettings => ?_
  · rw [hs] at hsettings
    exact ⟨hsettings, hs⟩
  exact .pure fun s hs => ⟨by rw [Store.snapshot, hsettings]; rfl, hs⟩

namespace Conversation

variable {c : Conversation} {sn : Snapshot} {f : Flow} {e : Event}

-- A conversation that turns out to be fresh is left alone.
theorem follows_expireIfStale {P : Store → Prop} (hP : ∀ s, P s → Live events c s) :
    c.expireIfStale.Follows (o.conduct events before env first) env P
      (fun expired s => expired = false → P s) (fun _ _ => True) := by
  unfold expireIfStale
  refine .bind_now ?_
  split
  · refine .bind (follows_finish.lax.pre hP) fun _ => ?_
    exact .pure fun _ _ h => absurd h (by simp)
  · exact .pure fun _ h _ => h

theorem behaves_recover (meets : o.Meets c)
    (loaded : before.snapshot c.workspace (o.account c) = .ok sn) (charted : f ∈ sn.flows)
    (flow : f.id = c.flow) :
    (c.recover sn.settings).Behaves (o.conduct events before env first) env (Live events c) := by
  simp only [recover]
  refine Follows.bind follows_finish.lax fun ended => .of_pre fun ⟨hsame, _⟩ => ?_
  refine Follows.bind (.policy (Q := fun policy s => policy = env.policy ∧ Live events ended s)
    fun _ h => ⟨rfl, h⟩) fun policy => .of_pre ?_
  rintro rfl
  have hloaded : before.snapshot ended.workspace (o.account ended) = .ok sn := by
    rw [hsame.workspace, Occasion.account_congr hsame, loaded]
  have purpose : Purpose before o env ended (.text (sn.settings.recoveryText env.policy)) :=
    .recovery hloaded charted (flow.trans hsame.flow.symm)
  exact Behaves.bind (follows_deliver (meets.of_same hsame) purpose).behaves.attempt
    fun _ => Behaves.pure

/-- Where `stands` says what the conversation waits for, `takeReply` records the reply before the
conversation moves on to where it leads. -/
theorem behaves_takeReply (active : c.isActive = true) {n : Node}
    (meets : (Occasion.event e).Meets c) (loaded : before.snapshot c.workspace e.account = .ok sn)
    (charted : f ∈ sn.flows) (stands : c.Stands before (.event e) f n) :
    (c.takeReply sn f e).Behaves ((Occasion.event e).conduct events before env first) env
      (Live events c) := by
  simp only [takeReply]
  cases hchoice : f.continuation? c.node e.button e.text with
  | none => exact behaves_recover meets loaded charted stands.flow
  | some choice =>
    have hcause : Cause before (.event e) env.now env.now c (.recordButton choice.button.id) :=
      .record rfl stands hchoice
    refine Follows.bind (follows_stored_change active (by simp) hcause).lax fun c₁ => .of_pre ?_
    rintro rfl
    -- What is done to a copy that has recorded the button and has not moved yet.
    have hadvance (c₂ : Conversation) (hactive : c₂.isActive = true) (hsame : c₂.Same c)
        (hnode : c₂.node = c.node) (hbutton : c₂.lastButton = some choice.button.id) :
        (do let c₃ ← stored (c₂.change (.advance choice.target)); f.proceed c₃).Behaves
          ((Occasion.event e).conduct events before env first) env (Live events c₂) := by
      have hstands : c₂.Stands before (.event e) f n := by
        refine ⟨?_, stands.flow.trans hsame.flow.symm, hnode ▸ stands.node⟩
        rw [hsame.workspace]
        exact stands.charted
      refine Follows.bind (follows_stored_change hactive (by simp)
        (.answer rfl hstands (hnode ▸ hchoice) hbutton)).lax fun c₃ => .of_pre ?_
      rintro rfl
      exact Flow.behaves_proceed
        ⟨meets.of_same ((same_after c₂ _ env.now).trans hsame), hstands.charted, hstands.flow,
          fun _ _ _ => rfl⟩
    split
    · rename_i name _
      refine Follows.bind
        (follows_note (c := c.after (.recordButton choice.button.id) env.now)
          (.mergeVariables [(name, choice.button.title)]) trivial active (by simp)).lax
        fun c₂ => .of_pre ?_
      rintro rfl
      exact hadvance _ active ((same_after _ _ _).trans (same_after _ _ _)) rfl rfl
    · exact Follows.bind (.pure (Q := fun c₂ s => c₂ = c.after (.recordButton choice.button.id)
        env.now ∧ Live events c₂ s) fun _ h => ⟨rfl, h⟩) fun c₂ => .of_pre fun h => by
          subst h
          exact hadvance _ active (same_after _ _ _) rfl rfl

theorem behaves_takeEvent (he : e ∈ events) (live : Live events c before)
    (active : c.isActive = true) (workspace : c.workspace = e.workspace) (phone : c.phone = e.phone)
    (loaded : before.snapshot e.workspace e.account = .ok sn) :
    (c.takeEvent sn e).Behaves ((Occasion.event e).conduct events before env first) env
      fun s => s = before := by
  unfold takeEvent
  refine Follows.bind (follows_expireIfStale fun s hs => hs ▸ live) fun expired => ?_
  cases expired with
  | true => exact Behaves.pure
  | false =>
    refine Follows.pre (P := Live events c) ?_ fun s h => h rfl ▸ live
    simp only [Bool.false_eq_true, if_false]
    split
    · exact Follows.bind follows_finish.behaves fun _ => Behaves.pure
    · rename_i f n hfound
      obtain ⟨f', hflow, hnode⟩ := Option.bind_eq_some_iff.mp hfound
      obtain ⟨n', hn, heq⟩ := Option.map_eq_some_iff.mp hnode
      cases heq
      refine Follows.bind (follows_note (.recordInbound e.received) trivial active fun t ht => ?_).lax
        fun c₁ => .of_pre ?_
      · cases ht
        exact ⟨e, he, workspace.symm, phone.symm, .inl rfl⟩
      rintro rfl
      -- The conversation is where it was.
      have hsame : (c.after (.recordInbound e.received) env.now).Same c := c.same_after _ _
      have hnotes : (Change.recordInbound e.received).Notes := trivial
      have hplace := (hnotes.after c env.now).1
      have hactive : (c.after (.recordInbound e.received) env.now).isActive = true :=
        (isActive_after (by simp)).trans active
      have hid : f.id = c.flow := by simpa using List.find?_some hflow
      have stands : (c.after (.recordInbound e.received) env.now).Stands before (.event e) f n := by
        refine ⟨?_, hid.trans hsame.flow.symm, hplace ▸ hn⟩
        rw [hsame.workspace, workspace]
        exact ⟨sn, loaded, List.mem_of_find?_eq_some hflow⟩
      have meets : (Occasion.event e).Meets (c.after (.recordInbound e.received) env.now) :=
        Occasion.Meets.of_same ⟨workspace, phone⟩ hsame
      have carries (hkind : n.kind.isDelay = false) :
          f.Carries before (.event e) (c.after (.recordInbound e.received) env.now) := by
        refine ⟨meets, stands.charted, stands.flow, fun n' hn' hdelay => ?_⟩
        cases stands.node.symm.trans hn'
        rw [hkind] at hdelay
        cases hdelay
      split
      · refine .map (behaves_takeReply hactive meets ?_ (List.mem_of_find?_eq_some hflow) stands)
        rw [hsame.workspace, workspace]
        exact loaded
      · exact Behaves.pure
      · exact Behaves.pure
      all_goals
        rename_i hkind
        exact .map (Flow.behaves_proceed (carries (by rw [hkind]; rfl)))

end Conversation

namespace Event

variable {e : Event}

theorem closes_process (he : e ∈ events) :
    e.process.Closes ((Occasion.event e).conduct events before env first)
      (fun w w' outcome => Logs e before env w outcome w') env fun s => s = before := by
  unfold process
  refine .bind Calls.follows_snapshot fun sn => .of_pre fun loaded => ?_
  refine .bind (Q := fun found s => (∀ c, found = some c → c.workspace = e.workspace ∧
    c.phone = e.phone ∧ c.isActive = true ∧ Live events c before) ∧ s = before)
    (E := fun _ _ => True)
    (.mapError _ (.ask (fun found s hs hfound hbefore => ⟨fun c hc => ?_, hbefore⟩)
      fun _ _ _ => trivial)) fun found => .of_pre fun hfound => ?_
  · obtain ⟨hworkspace, hphone, active, -, -⟩ :=
      hs.1.consistent.holds_of_activeState? (hc ▸ hfound)
    rw [hbefore] at hs hfound
    exact ⟨hworkspace, hphone, active, hs.1.live_of_readFirst (hc ▸ hfound) active⟩
  · cases found with
    | none => exact (closes_answer he loaded).pre fun _ _ => trivial
    | some c =>
      obtain ⟨hworkspace, hphone, active, live⟩ := hfound c rfl
      refine .bind (Conversation.behaves_takeEvent he live active hworkspace hphone loaded)
        fun outcome => ?_
      split
      · exact .of_follows Behaves.pure
      · exact closes_answer he loaded

end Event

/-! ## 4. Callbacks -/

/-- The last thing that a callback does, if anything: a delivery has failed, and the conversation is
kept for another attempt. -/
def Keeps (events : List Event) (o : Occasion) (before : Store) (env : Environment) (first : Nat)
    (w w' : World) (outcome : Except AutomationError Outcome) : Prop :=
  (∃ e, outcome = .error (.delivery e)) ∧ Keep events o before env first w w'

namespace Flow

variable {f : Flow} {c last : Conversation}

-- A change that keeps a conversation is written, or nothing is, and the failure is reported.
theorem closes_kept (ch : Conversation.Change) (active : last.isActive = true) (e : DeliveryError)
    (keeps : ∀ w : World, env.Told first w env.now → Live events last w.store →
      Keep events o before env first w (w.write (w.store.set (last.after ch env.now)))) :
    (stored (last.change ch) >>= fun _ =>
      (throw (.delivery e) : Step AutomationError Outcome)).Closes
      (o.conduct events before env first) (Keeps events o before env first) env
        (Live events last) := by
  intro w told hs live
  refine ⟨w.counting .updateState, .single (.quiet (w.idles_counting _)), ?_⟩
  have hstored : stored (last.change ch) env w =
      ((last.change ch env w).1.mapError .store, (last.change ch env w).2) := rfl
  rw [run_bind, hstored]
  rcases Conversation.run_change env live hs.1.consistent active ch with hrun | ⟨err, hrun⟩ <;>
    rw [hrun]
  · exact .inr ⟨⟨e, rfl⟩, keeps (w.counting .updateState) told live⟩
  · exact .inl rfl

theorem closes_keep {entry : String} {back : Option Return} (e : DeliveryError)
    (occasion : o.conversation? = some last.id)
    (refused : ∃ f n, last.Stands before o f n ∧ n.kind.isDelay = false)
    (found : ∀ r, back = some r → ∃ found, before.state? last.id = .ok (some found) ∧
      r = ⟨found.node, found.resumeAt⟩) :
    (keep last entry back >>= fun _ =>
      (throw (.delivery e) : Step AutomationError Outcome)).Closes
      (o.conduct events before env first) (Keeps events o before env first) env
        (Live events last) := by
  obtain ⟨f, n, stands, hkind⟩ := refused
  unfold keep
  split
  · rename_i active
    have hpostpone : (stored (last.change (.scheduleResume env.now)) >>= fun _ =>
        (throw (.delivery e) : Step AutomationError Outcome)).Closes
        (o.conduct events before env first) (Keeps events o before env first) env
          (Live events last) :=
      closes_kept _ active e fun w told live =>
        .postpone last told occasion live active stands hkind
    simp only [bind_assoc, pure_bind]
    refine .bind_now ?_
    cases back with
    | none => exact hpostpone
    | some r =>
      obtain ⟨c₀, hfound, rfl⟩ := found r rfl
      dsimp only
      split
      · exact closes_kept _ active e fun w told live =>
          .rewind last c₀ told occasion live active hfound
      · exact hpostpone
  · exact .of_follows (Q := fun _ _ => True) (E := fun _ _ => True)
      (.bind (.pure (Q := fun _ _ => True) fun _ _ => trivial) fun _ => .throw fun _ _ => trivial)

theorem closes_callbackPass {back : Option Return} (carries : f.Carries before o c)
    (occasion : o.conversation? = some c.id)
    (found : ∀ r, back = some r → ∃ found, before.state? c.id = .ok (some found) ∧
      r = ⟨found.node, found.resumeAt⟩) :
    (f.callbackPass c back).Closes (o.conduct events before env first)
      (Keeps events o before env first) env (Live events c) := by
  unfold callbackPass
  refine .bind (E := fun _ _ => True) (.ofAct (follows_runPass carries)) fun r =>
    .of_pre fun arrives => ?_
  split
  · exact .of_follows Behaves.pure
  · rename_i last e
    refine closes_keep e (arrives.same.id ▸ occasion) ?_ (arrives.same.id ▸ found)
    obtain ⟨n, hn⟩ := arrives.refused e rfl
    exact ⟨f, n, hn⟩
  · exact .of_follows Behaves.throw

theorem closes_stepPast {c₀ : Conversation} (active : c.isActive = true) (meets : o.Meets c)
    (charted : before.Charts c.workspace (o.account c) f) (flow : f.id = c.flow)
    (occasion : o.conversation? = some c.id) (found : before.state? c.id = .ok (some c₀))
    (hnode : c₀.node = c.node) (hresume : c₀.resumeAt = c.resumeAt)
    (cause : ∀ next, f.next? c.node = some next → Cause before o env.now env.now c (.advance next)) :
    (f.stepPast c c.node).Closes (o.conduct events before env first)
      (Keeps events o before env first) env (Live events c) := by
  unfold stepPast
  split
  · rename_i next hnext
    refine .bind (Conversation.follows_stored_change active (by simp) (cause next hnext)).lax
      fun moved => .of_pre ?_
    rintro rfl
    refine closes_callbackPass (o := o) ?_ occasion fun r hr => ?_
    · exact ⟨meets.of_same (c.same_after _ _), charted, flow, fun _ _ _ => rfl⟩
    · refine ⟨c₀, found, ?_⟩
      rw [← Option.some.inj hr, hnode, hresume]
  · exact .bind Conversation.follows_finish.lax fun _ => .of_follows Behaves.pure

end Flow

-- As long as nothing was changed a callback finds the flow that was there before.
theorem Conversation.follows_waitingNode {c : Conversation} {wanted : NodeKind → Bool}
    (live : Live events c before) :
    (c.waitingNode wanted).Follows (o.conduct events before env first) env (fun s => s = before)
      (fun found s => ∀ f n, found = some (f, n) → (before.Charts c.workspace c.account f ∧
        f.id = c.flow ∧ f.node? c.node = some n ∧ wanted n.kind = true) ∧ s = before)
      (fun _ _ => True) := by
  unfold waitingNode
  refine .bind Calls.follows_snapshot fun sn => .of_pre fun loaded => ?_
  split
  · refine .bind (follows_finish.lax.pre fun s hs => hs ▸ live) fun _ => ?_
    exact .pure fun _ _ _ _ h => absurd h (by simp)
  · rename_i f hflow
    refine .pure fun s hs f' n h => ?_
    obtain ⟨n', hn', heq⟩ := Option.map_eq_some_iff.mp h
    cases heq
    obtain ⟨hn, hwanted⟩ := Option.filter_eq_some_iff.mp hn'
    exact ⟨⟨⟨sn, loaded, List.mem_of_find?_eq_some hflow⟩, by simpa using List.find?_some hflow,
      hn, hwanted⟩, hs⟩

-- What is looked up first is as it was before.
theorem follows_state? {id : Uuid} :
    (stored (Calls.state? id)).Follows (o.conduct events before env first) env (fun s => s = before)
      (fun found s => (∀ c, found = some c → before.state? id = .ok (some c) ∧ c.id = id ∧
        c.kept = c ∧ (c.isActive = true → Live events c before)) ∧ s = before)
      (fun _ _ => True) := by
  refine .mapError _ (.call (fun w _ hs hbefore found written hrun => ?_)
    (fun found s h hbefore => ?_) fun _ _ _ => trivial)
  · cases hfound : w.store.state? id with
    | error e => simp [hfound, Except.map] at hrun
    | ok found' =>
      simp only [hfound, Except.map, Except.ok.injEq, Prod.mk.injEq] at hrun
      obtain ⟨rfl, rfl⟩ := hrun
      refine ⟨.quiet ⟨rfl, rfl, rfl, le_refl _⟩, fun c hc => ?_, hbefore⟩
      rw [hbefore, hc] at hfound
      rw [hbefore] at hs
      obtain ⟨hid, hkept, -⟩ := hs.1.consistent.holds_of_state? hfound
      exact ⟨hfound, hid, hkept, fun active => hs.1.live_of_readFirst hfound active⟩
  · refine ⟨fun c hc => ?_, hbefore⟩
    rw [← Option.some.inj h] at hc
    cases hc

theorem closes_resumeStep {id : Uuid} :
    (resumeStep id).Closes ((Occasion.resume id).conduct events before env first)
      (Keeps events (.resume id) before env first) env fun s => s = before := by
  unfold resumeStep
  refine .bind follows_state? fun found => .of_pre fun hfound => ?_
  split
  · exact .of_follows Behaves.pure
  · rename_i c
    obtain ⟨hstate, hid, hkept, hlive⟩ := hfound c rfl
    split
    · exact .of_follows Behaves.pure
    · rename_i hactive
      have active : c.isActive = true := by simpa using hactive
      have live := hlive active
      refine .bind_now ?_
      split
      · exact .of_follows Behaves.pure
      · rename_i hdue
        refine .bind (Conversation.follows_expireIfStale fun s hs => hs ▸ live) fun expired => ?_
        split
        · exact .of_follows Behaves.pure
        · rename_i hexpired
          refine .pre (P := fun s => s = before) ?_ fun _ h => h (by simpa using hexpired)
          refine .bind (Conversation.follows_waitingNode live) fun found => ?_
          split
          · exact .of_follows Behaves.pure
          · rename_i f n
            refine .pre (.of_pre fun ⟨charted, hflow, hn, _⟩ => ?_) fun s h => h f n rfl
            have stands : c.Stands before (.resume id) f n := ⟨charted, hflow, hn⟩
            have hnode : n.id = c.node := Flow.node?_id hn
            have hoccasion : Occasion.resume id = .resume c.id := congrArg _ hid.symm
            have hcalled : (Occasion.resume id).conversation? = some c.id := congrArg some hid.symm
            split
            · rename_i hdelay
              rw [hnode]
              refine (Flow.closes_stepPast active (o := .resume id) hid charted hflow hcalled
                (hid ▸ hstate) rfl rfl
                fun next hnext => ?_).pre fun s hs => hs ▸ live
              exact .wake hoccasion stands hdelay hkept (by simpa using hdue) hnext
            · rename_i hdelay
              refine .bind ((Conversation.follows_stored_change active (by simp)
                (.retry hoccasion stands (by simpa using hdelay))).lax.pre fun s hs => hs ▸ live)
                fun c' => .of_pre ?_
              rintro rfl
              exact Flow.closes_callbackPass ⟨hid, charted, hflow, fun _ _ _ => rfl⟩ hcalled nofun

theorem closes_completeFormStep {id : Uuid} {fields : List (String × Json)} :
    (completeFormStep id fields).Closes ((Occasion.form id fields).conduct events before env first)
      (Keeps events (.form id fields) before env first) env fun s => s = before := by
  unfold completeFormStep
  refine .bind follows_state? fun found => .of_pre fun hfound => ?_
  split
  · exact .of_follows Behaves.pure
  · rename_i c
    obtain ⟨hstate, hid, -, hlive⟩ := hfound c rfl
    split
    · exact .of_follows Behaves.pure
    · rename_i hactive
      have active : c.isActive = true := by simpa using hactive
      have live := hlive active
      refine .bind (Conversation.follows_expireIfStale fun s hs => hs ▸ live) fun expired => ?_
      split
      · exact .of_follows Behaves.pure
      · rename_i hexpired
        refine .pre (P := fun s => s = before) ?_ fun _ h => h (by simpa using hexpired)
        refine .bind (Conversation.follows_waitingNode live) fun found => ?_
        split
        · exact .of_follows Behaves.pure
        · rename_i f n
          refine .pre (.of_pre fun ⟨charted, hflow, hn, hform⟩ => ?_) fun s h => h f n rfl
          have hnode : n.id = c.node := Flow.node?_id hn
          have hoccasion : Occasion.form id fields = .form c.id fields :=
            congrArg (Occasion.form · fields) hid.symm
          have hcalled : (Occasion.form id fields).conversation? = some c.id :=
            congrArg some hid.symm
          have hstored : before.state? c.id = .ok (some c) := hid ▸ hstate
          refine .bind ((Conversation.follows_note (.mergeVariables _) trivial active
            (by simp)).lax.pre fun s hs => hs ▸ live) fun c' => .of_pre ?_
          rintro rfl
          rw [hnode]
          exact Flow.closes_stepPast (o := .form id fields) active hid charted hflow hcalled
            hstored rfl rfl fun next hnext => .fill hoccasion ⟨charted, hflow, hn⟩ hform hnext

/-! ## 5. Calls -/

/-- Does what an occasion calls for: `Event.handle`, `resume` or `completeForm`. -/
def Occasion.act : Occasion → Act Outcome
  | event e => e.handle
  | resume id => Autoresponder.resume id
  | form id fields => completeForm id fields

/-- What happens on an occasion that arises in the world `w`: deeds, and at last perhaps that a
firing is logged, or that a conversation is kept and the failure reported. The clock is read first,
and what is done then goes by that time or by a later reading. -/
inductive Occasion.Happens (events : List Event) (o : Occasion) (env : Environment) (w : World) :
    Outcome → World → Prop where
  | deeds {outcome : Outcome} {w' : World}
      (path : (o.conduct events w.store (env.asOf w) w.readings).Path w w') :
      o.Happens events env w outcome w'
  | logs {e : Event} {outcome : Except AutomationError Outcome} {w₁ w' : World}
      (occasion : o = .event e)
      (path : (o.conduct events w.store (env.asOf w) w.readings).Path w w₁)
      (logs : Logs e w.store (env.asOf w) w₁ outcome w') :
      o.Happens events env w (.ofExcept outcome) w'
  | keeps {outcome : Outcome} {w₁ w' : World}
      (path : (o.conduct events w.store (env.asOf w) w.readings).Path w w₁)
      (fails : outcome.IsDeliveryFailure)
      (keep : Keep events o w.store (env.asOf w) w.readings w₁ w') :
      o.Happens events env w outcome w'

variable {w : World}

-- When the clock has been read it has told the time by which is gone.
theorem Environment.told_asOf (env : Environment) (w : World) :
    (env.asOf w).Told w.readings w.reading (env.asOf w).now :=
  ⟨w.readings, le_refl _, Nat.lt_succ_self _, rfl⟩

/-- What `Event.handle` does may happen on the `Occasion` of the event. -/
theorem Event.happens_handle {e : Event} (he : e ∈ events) (hs : Traced events w.store) :
    (Occasion.event e).Happens events env w (e.handle env w).1 (e.handle env w).2 := by
  obtain ⟨w₁, hpath, hend⟩ :=
    closes_process he w.reading (env.told_asOf w) ⟨hs, rfl, rfl, rfl⟩ rfl
  have hhandle : e.handle env w = (.ofExcept (e.process (env.asOf w) w.reading).1,
      (e.process (env.asOf w) w.reading).2) := rfl
  have hquiet : ((Occasion.event e).conduct events w.store (env.asOf w) w.readings).Path w w₁ :=
    .head (.quiet w.idles_reading) hpath
  rw [hhandle]
  rcases hend with hend | hlogs
  · exact .deeds (hend ▸ hquiet)
  · exact .logs rfl hquiet hlogs

-- Whatever comes of it, a conversation is looked up without a change.
theorem Calls.snd_state? (id : Uuid) (env : Environment) (w : World) :
    (stored (Calls.state? id) env w).2 = w.counting .getState := by
  rw [stored, run_mapError]
  simp only [Calls.state?, Step.call]
  rcases env.fault .getState (w.callsOf .getState) with _ | _ | _
  · cases w.store.state? id <;> rfl
  · rfl
  · rfl

-- A callback that looks its conversation up does what it does for that.
theorem happens_forState {id : Uuid} {step : Step AutomationError Outcome}
    (hstep : step.Closes (o.conduct events w.store (env.asOf w) w.readings)
      (Keeps events o w.store (env.asOf w) w.readings) (env.asOf w) fun s => s = w.store)
    (hs : Traced events w.store) :
    o.Happens events env w (forState id (timed step) env w).1
      (forState id (timed step) env w).2 := by
  have hfound : (o.conduct events w.store (env.asOf w) w.readings).Path w (w.counting .getState) :=
    .single (.quiet (w.idles_counting _))
  have hread : (o.conduct events w.store (env.asOf w) w.readings).Path w
      (w.counting .getState).reading := hfound.tail (.quiet (World.idles_reading _))
  have hsnd := Calls.snd_state? id env w
  unfold forState
  rw [Act.run_bind]
  unfold attempt
  rcases hrun : stored (Calls.state? id) env w with ⟨e | _ | c, w₁⟩ <;> rw [hrun] at hsnd <;>
    obtain rfl := hsnd
  · exact .deeds hfound
  · exact .deeds hfound
  · obtain ⟨w₂, hpath, hend⟩ := hstep (w.counting .getState).reading (env.told_asOf w)
      ⟨hs, rfl, rfl, rfl⟩ rfl
    dsimp only
    rw [Act.run_bind]
    rcases hend with hend | ⟨⟨e, he⟩, hkeep⟩
    · exact .deeds (hend ▸ hread.trans hpath)
    · exact .keeps (hread.trans hpath) ⟨_, congrArg Outcome.ofExcept he⟩ hkeep

theorem happens_resume {id : Uuid} (hs : Traced events w.store) :
    (Occasion.resume id).Happens events env w (resume id env w).1 (resume id env w).2 :=
  happens_forState closes_resumeStep hs

theorem happens_completeForm {id : Uuid} {fields : List (String × Json)}
    (hs : Traced events w.store) :
    (Occasion.form id fields).Happens events env w (completeForm id fields env w).1
      (completeForm id fields env w).2 :=
  happens_forState closes_completeFormStep hs

/-- What is done on an `Occasion` is what may happen on it. -/
theorem Occasion.happens_act {o : Occasion} (handled : ∀ e, o = .event e → e ∈ events)
    (hs : Traced events w.store) : o.Happens events env w (o.act env w).1 (o.act env w).2 := by
  cases o with
  | event e => exact e.happens_handle (handled e rfl) hs
  | resume id => exact happens_resume hs
  | form id fields => exact happens_completeForm hs

end Autoresponder
