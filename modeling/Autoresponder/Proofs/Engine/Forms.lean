import Autoresponder.Proofs.Engine.Replay
import Autoresponder.Proofs.Engine.Retry

/-!
# Forms that are handed in again

A form that was filled in moves a conversation on. When a delivery then fails, the conversation is
called for again, by handing in the form once more or because it is due, in any order, until it goes
on. Whichever of the two it does not wait for is ignored, and each message goes out once. Only where
the message that was refused is a form itself, the form that is handed in again is taken for that
one, which nobody has received.
-/

namespace Autoresponder

open Step

/-! ## 1. Conversations that wait for a form -/

/-- What was filled into a form, as the variables that `completeForm` merges. -/
def formValues (fields : List (String × Json)) : List (String × String) :=
  fields.map fun m => (m.1, formText m.2)

/-- Past the node where it stands a conversation ends, or has a `Walk` to make. -/
inductive Flow.Past (f : Flow) (now : Instant) (c : Conversation) :
    Nat → List Message → Conversation → Stop → Prop where
  | ends (last : f.next? c.node = none) : Past f now c 0 [] (c.after .complete now) .completed
  | goes {k : Nat} {ms : List Message} {last : Conversation} {stop : Stop} {next : String}
      (follows : f.next? c.node = some next)
      (walk : f.Walk now k (c.after (.advance next) now) ms last stop) : Past f now c k ms last stop

/-- A conversation that is kept on a form, which can be handed in to go on from there. -/
structure Awaiting (now : Instant) (s : Store) (fields : List (String × Json)) (f : Flow)
    (c : Conversation) (k : Nat) (ms : List Message) (last : Conversation) (stop : Stop) :
    Prop where
  consistent : s.Consistent
  held : s.Holds c
  kept : c.kept = c
  idle : c.resumeAt = none
  present : ∃ n, Present now s c f n ∧ n.kind.isForm = true
  past : f.Past now (c.after (.mergeVariables (formValues fields)) now) k ms last stop

section

variable {env : Environment} {s : Store} {es : List Exchange} {id : Uuid} {c : Conversation}
  {f : Flow} {n : Node} {fields : List (String × Json)} {k : Nat} {ms : List Message}
  {last : Conversation} {stop : Stop}

theorem Awaiting.state? {now : Instant} (h : Awaiting now s fields f c k ms last stop) :
    s.state? c.id = .ok (some c) := by
  have hstate := h.held.state? h.consistent
  rwa [h.kept] at hstate

-- Handing in the same values once more makes no difference.
theorem Conversation.bare_mergeVariables (c : Conversation) (entries : List (String × String))
    (now : Instant) :
    ((c.after (.mergeVariables entries) now).after (.mergeVariables entries) now).bare =
      (c.after (.mergeVariables entries) now).bare := by
  simp only [after, Change.apply, bare, Variables.putAll_putAll]

theorem Conversation.lasting_mergeVariables (kept : c.kept = c) (entries : List (String × String))
    (now : Instant) : (c.after (.mergeVariables entries) now).Lasting :=
  Conversation.Lasting.after (congrArg Conversation.bare kept) (.inr (.inr (.inr ⟨_, rfl⟩)))

-- What is filled in does not change where a conversation stands.
theorem Present.mergeVariables {now : Instant} (h : Present now s c f n)
    (entries : List (String × String)) :
    Present now s (c.after (.mergeVariables entries) now) f n :=
  ⟨h.active, h.fresh, h.found, h.node⟩

-- What is not due is not resumed.
theorem leads_resume_idle (es : List Exchange) (smooth : env.Smooth)
    (hstate : s.state? id = .ok (some c)) (active : c.isActive = true) (idle : c.resumeAt = none) :
    (resume id).Leads env s es (.ignored "delay not due") s es := by
  have hstep : (resumeStep id).Leads env s es (.ok (.ignored "delay not due")) s es := by
    unfold resumeStep
    refine .bind (.stored (Calls.leads_state? smooth.faultless id) hstate) ?_
    simp only [active, Bool.not_true, Bool.false_eq_true, if_false]
    refine .bind .now ?_
    simp only [idle, Window.delayDue, Bool.not_false, if_true]
    exact .pure _
  exact leads_forState smooth hstate hstep

-- What was filled into a form is looked at where a conversation stands.
theorem comesTo_waitingNode (es : List Exchange) (smooth : env.Smooth)
    (hstate : s.state? id = .ok (some c)) (present : Present env.now s c f n) :
    (completeFormStep id fields).ComesTo env s es s es
      (if n.kind.isForm = true then do
        let c ← stored (c.change (.mergeVariables (formValues fields)))
        f.stepPast c n.id
      else return .ignored "state is not waiting on a form") := by
  unfold completeFormStep
  refine .bind (.stored (Calls.leads_state? smooth.faultless id) hstate) ?_
  simp only [present.active, Bool.not_true, Bool.false_eq_true, if_false]
  refine .bind (Conversation.leads_expireIfStale_fresh present.fresh) ?_
  simp only [Bool.false_eq_true, if_false]
  refine .bind (present.leads_waitingNode es smooth _) ?_
  by_cases form : n.kind.isForm = true
  · simp only [form, if_true]
    exact .refl _
  · simp only [form, if_false, Bool.false_eq_true]
    exact .refl _

-- Where a conversation waits for no form, handing one in is ignored.
theorem leads_completeForm_idle (es : List Exchange) (smooth : env.Smooth)
    (hstate : s.state? id = .ok (some c)) (present : Present env.now s c f n)
    (other : n.kind.isForm = false) :
    (completeForm id fields).Leads env s es (.ignored "state is not waiting on a form") s es := by
  have hstep : (completeFormStep id fields).Leads env s es
      (.ok (.ignored "state is not waiting on a form")) s es := by
    refine (comesTo_waitingNode es smooth hstate present).leads ?_
    rw [if_neg (by simp [other])]
    exact .pure _
  exact leads_forState smooth hstate hstep

-- Where it waits for one, what was filled in is taken over and the conversation goes past the form.
theorem comesTo_filled (es : List Exchange) (smooth : env.Smooth) (hs : s.Consistent)
    (held : s.Holds c) (hstate : s.state? id = .ok (some c)) (present : Present env.now s c f n)
    (form : n.kind.isForm = true) :
    (completeFormStep id fields).ComesTo env s es
      (s.set (c.after (.mergeVariables (formValues fields)) env.now)) es
      (f.stepPast (c.after (.mergeVariables (formValues fields)) env.now) c.node) := by
  refine (comesTo_waitingNode es smooth hstate present).trans ?_
  rw [if_pos form, Flow.node?_id present.node]
  exact .bind (Conversation.leads_change smooth.faultless hs held present.active _) (.refl _)

/-! ## 2. One form -/

/-- A conversation that is to be called for: it is `Awaiting` a form, or it is due (`Pending`)
because the first of the messages that are left was refused. -/
inductive Outstanding (now : Instant) (s : Store) (es : List Exchange)
    (fields : List (String × Json)) (f : Flow) (c : Conversation) (k : Nat) (ms : List Message)
    (last : Conversation) (stop : Stop) : Prop where
  | awaiting (awaiting : Awaiting now s fields f c k ms last stop)
  | pending (pending : Pending now s f c k ms last stop)
      (refused : ∃ m after x earlier, ms = m :: after ∧ es = x :: earlier ∧
        x.intent = c.intent m ∧ x.accepted = false)

/-- How a call goes that a conversation waits for: the walk arrives, or a message is refused and the
rest of the walk is left to the next call. -/
inductive Called (env : Environment) (s : Store) (es : List Exchange) (x : Act Outcome)
    (fields : List (String × Json)) (f : Flow) (c : Conversation) (k : Nat) (ms : List Message)
    (last : Conversation) (stop : Stop) : Prop where
  | arrived (pass : Pass) (done : List Exchange) (stops : pass.stop = stop)
      (leads : x.Leads env s es (.flowAdvanced f.id c.id pass) (s.set last) (done ++ es))
      (delivered : Delivered c ms done)
  | refused (reason : String) (e : DeliveryError) (m : Message) (before after : List Message)
      (done : List Exchange) (k' : Nat) (c' stored last' : Conversation)
      (leads : x.Leads env s es (.degraded "delivery_failure" reason) (s.set stored)
        (c.exchange env (done ++ es) m :: (done ++ es)))
      (refusal : env.sender (done ++ es) (c.intent m) = .error e)
      (messages : ms = before ++ m :: after) (delivered : Delivered c before done)
      (outstanding : Outstanding env.now (s.set stored)
        (c.exchange env (done ++ es) m :: (done ++ es)) fields f c' k' (m :: after) last' stop)
      (shorter : k' ≤ k) (same : c'.Same c) (id : stored.id = c.id) (bare : last'.bare = last.bare)

-- What waits for a message that was refused is called for because it is due.
theorem Outstanding.of_refused {now : Instant} {x : Exchange} {m : Message} {after : List Message}
    (h : Pending now s f c k (m :: after) last stop) (intent : x.intent = c.intent m)
    (refused : x.accepted = false) :
    Outstanding now s (x :: es) fields f c k (m :: after) last stop :=
  .pending h ⟨m, after, x, es, rfl, rfl, intent, refused⟩

/-- A conversation for which something is `Pending` makes the walk with `resume`, or leaves the rest
of it to the next call. -/
theorem called_of_pending (fields : List (String × Json)) (es : List Exchange)
    (smooth : env.Smooth) (year : env.now.FourDigitYear)
    (h : Pending env.now s f c k ms last stop) (hk : k ≤ max 1 env.policy.maxNodes) :
    Called env s es (resume c.id) fields f c k ms last stop := by
  rcases resumed_of_pending es smooth year h hk with
    ⟨pass, done, hstops, hleads, hdelivered⟩ |
    ⟨reason, e, m, before, after, done, k', c', p, last', hleads, hrefusal, hmessages, hdelivered,
      hpending, hk', hsame, hp, hlast⟩
  · exact .arrived pass done hstops hleads hdelivered
  · exact .refused reason e m before after done k' c' p last' hleads hrefusal hmessages hdelivered
      (.of_refused hpending (congrFun hsame.intent_eq.symm m)
        (Conversation.accepted_exchange hrefusal)) hk' hsame hp hlast

section

variable {now : Instant} {next : String} {left : Conversation} {s' : Store}

-- Back on the form, a conversation comes to the same node again when the form is handed in.
theorem awaiting_rewind (kept : c.kept = c) (idle : c.resumeAt = none)
    (present : Present now s c f n) (form : n.kind.isForm = true)
    (follows : f.next? c.node = some next)
    (moved : left.Moved (c.after (.mergeVariables (formValues fields)) now))
    (hnode : left.node = next) (rest : f.Walk now k left ms last stop) (hs' : s'.Consistent)
    (held : s'.Holds (left.after (.rewind c.node none) now))
    (hsnapshot : ∀ workspace account,
      s'.snapshot workspace account = s.snapshot workspace account) :
    ∃ last', Awaiting now s' fields f (left.after (.rewind c.node none) now).kept k ms last' stop ∧
      last'.bare = last.bare := by
  obtain ⟨merged, hmerged⟩ :
      ∃ merged, c.after (.mergeVariables (formValues fields)) now = merged := ⟨_, rfl⟩
  rw [hmerged] at moved
  have lasting : merged.Lasting := hmerged ▸ c.lasting_mergeVariables kept _ now
  have hpresent : Present now s merged f n := hmerged ▸ present.mergeVariables _
  have hidle : merged.resumeAt = none := hmerged ▸ idle
  have hmnode : merged.node = c.node := hmerged ▸ rfl
  -- What is kept is what there was when the values had been taken over.
  have hrewound : (left.after (.rewind c.node none) now).bare = merged.bare := by
    have hleft : (left.after (.rewind c.node none) now).bare =
        { left.bare with node := c.node, resumeAt := none } := rfl
    rw [hleft, moved, ← hmnode, ← hidle]
    rfl
  have hbare : (left.after (.rewind c.node none) now).kept.bare = merged.bare :=
    (Conversation.kept_congr hrewound).trans lasting
  have hagain : ((left.after (.rewind c.node none) now).kept.after
      (.mergeVariables (formValues fields)) now).bare = merged.bare := by
    rw [Conversation.after_congr hbare, ← hmerged]
    exact c.bare_mergeVariables _ now
  have hstart : (((left.after (.rewind c.node none) now).kept.after
      (.mergeVariables (formValues fields)) now).after (.advance next) now).bare = left.bare := by
    rw [Conversation.after_congr hagain, moved, hnode]
    rfl
  obtain ⟨last', hwalk, hlast⟩ := rest.congr hstart
  exact ⟨last', {
    consistent := hs'
    held := held.kept
    kept := Conversation.kept_kept _
    idle := rfl
    present := ⟨n, hpresent.congr hbare hsnapshot, form⟩
    past := .goes follows hwalk }, hlast⟩

-- After a refusal the conversation is called for again, on the form or where it has come to.
theorem outstanding_retry (year : now.FourDigitYear) (kept : c.kept = c) (idle : c.resumeAt = none)
    (present : Present now s c f n) (form : n.kind.isForm = true)
    (follows : f.next? c.node = some next)
    (moved : left.Moved (c.after (.mergeVariables (formValues fields)) now)) {l : Leg}
    (hl : f.leg? now left = some l) {m : Message} (hm : l.message = some m)
    (rest : f.Walk now k left (m :: ms) last stop) (hs' : s'.Consistent)
    (held : s'.Holds (left.after (Flow.retry left next (some ⟨c.node, none⟩) now) now))
    (hsnapshot : ∀ workspace account,
      s'.snapshot workspace account = s.snapshot workspace account) {x : Exchange}
    (intent : x.intent = left.intent m) (refused : x.accepted = false) :
    ∃ last', Outstanding now s' (x :: es) fields f
      (left.after (Flow.retry left next (some ⟨c.node, none⟩) now) now).kept k (m :: ms) last'
      stop ∧ last'.bare = last.bare := by
  by_cases hnode : left.node = next
  · have hrewind : Flow.retry left next (some ⟨c.node, none⟩) now = .rewind c.node none := by
      simp [Flow.retry, hnode]
    rw [hrewind] at held ⊢
    obtain ⟨last', awaiting, hbare⟩ := awaiting_rewind kept idle present form follows moved hnode
      rest hs' held hsnapshot
    exact ⟨last', .awaiting awaiting, hbare⟩
  · have hschedule : Flow.retry left next (some ⟨c.node, none⟩) now = .scheduleResume now := by
      simp [Flow.retry, hnode]
    rw [hschedule] at held ⊢
    obtain ⟨last', pending, hbare⟩ := pending_schedule year (present.mergeVariables _)
      (c.lasting_mergeVariables kept _ now) moved hl hm rest hs' held hsnapshot
    have hsame : (left.after (.scheduleResume now) now).kept.Same left :=
      (Conversation.Same.kept _).trans (left.same_after _ now)
    exact ⟨last', .of_refused pending (intent.trans (congrFun hsame.intent_eq.symm m)) refused,
      hbare⟩

/-- A conversation that is `Awaiting` a form makes the walk past it with `completeForm`, or leaves
the rest of it to the next call. -/
theorem called_of_awaiting (es : List Exchange) (smooth : env.Smooth)
    (year : env.now.FourDigitYear) (h : Awaiting env.now s fields f c k ms last stop)
    (hk : k ≤ max 1 env.policy.maxNodes) :
    Called env s es (completeForm c.id fields) fields f c k ms last stop := by
  obtain ⟨n, present, form⟩ := h.present
  obtain ⟨merged, hmerged⟩ :
      ∃ merged, c.after (.mergeVariables (formValues fields)) env.now = merged := ⟨_, rfl⟩
  have hentry : (completeFormStep c.id fields).ComesTo env s es (s.set merged) es
      (f.stepPast merged c.node) :=
    hmerged ▸ comesTo_filled es smooth h.consistent h.held h.state? present form
  have past := h.past
  rw [hmerged] at past
  have hsame : merged.Same c := hmerged ▸ c.same_after _ env.now
  have hnode : merged.node = c.node := hmerged ▸ rfl
  have hpresent : Present env.now s merged f n := hmerged ▸ present.mergeVariables _
  have hs : (s.set merged).Consistent := h.consistent.set h.held present.active hsame
  have held : (s.set merged).Holds merged := h.held.set hsame
  cases past with
  | ends none =>
    rw [hnode] at none
    have hend := Flow.leads_stepPast_end es smooth hs held hpresent.active none
    have hcall := leads_forState smooth h.state? (hentry.leads hend)
    rw [s.set_set (merged.same_after .complete env.now).id.symm, hsame.id] at hcall
    exact .arrived _ [] rfl hcall (delivered_nil c)
  | goes follows walk =>
    rename_i next
    rw [hnode] at follows
    have hidle : merged.resumeAt = none := hmerged ▸ h.idle
    have hadvance := Flow.comesTo_stepPast es smooth hs held hpresent.active follows
    obtain ⟨entry, hadvanced⟩ : ∃ entry, merged.after (.advance next) env.now = entry := ⟨_, rfl⟩
    have hentered : entry.Moved merged := hadvanced ▸ rfl
    have hnext : entry.node = next := hadvanced ▸ rfl
    have hesame : entry.Same merged := hadvanced ▸ merged.same_after _ env.now
    have hactive : entry.isActive = true :=
      (congrArg Conversation.isActive hentered :).trans hpresent.active
    rw [hadvanced, hidle, s.set_set hesame.id.symm] at hadvance
    rw [hadvanced] at walk
    rcases attempted_of_walk es smooth h.consistent h.held present.active present.flow h.state?
      (hentry.trans hadvance) hentered (hesame.trans hsame) hactive walk hk with
      ⟨pass, done, hstops, hleads, hdelivered⟩ |
      ⟨left, p, reason, e, l, m, k', before, after, done, hp, hleads, hrefusal, hl, hm, hmessages,
        hdelivered, hrest, hk', hleft, hpsame, hconsistent, hheld⟩
    · exact .arrived pass done hstops hleads hdelivered
    · have hmoved : left.Moved (c.after (.mergeVariables (formValues fields)) env.now) :=
        hmerged ▸ hleft.trans hentered
      have hlsame : left.Same c := hrest.same.symm.trans (walk.same.trans (hesame.trans hsame))
      rw [hnext] at hp
      obtain ⟨last', outstanding, hbare⟩ := outstanding_retry year h.kept h.idle present form
        follows hmoved hl hm hrest hconsistent (hp.symm ▸ hheld) (fun _ _ => rfl)
        (congrFun hlsame.intent_eq.symm m) (Conversation.accepted_exchange hrefusal)
      rw [hp] at outstanding
      exact .refused reason e m before after done k' p.kept p last' hleads hrefusal hmessages
        hdelivered outstanding hk' ((Conversation.Same.kept p).trans hpsame) hpsame.id hbare

end

end

/-! ## 3. Calls again and again -/

/-- What a conversation is called for: it may be due, or a form was filled in. -/
inductive Callback where
  | due
  | filled
  deriving DecidableEq

namespace Callback

def act (id : Uuid) (fields : List (String × Json)) : Callback → Act Outcome
  | due => resume id
  | filled => completeForm id fields

/-- Neither kind of `Callback` is given up. -/
def Persistent (calls : Nat → Callback) : Prop := ∀ call n, ∃ m, n ≤ m ∧ calls m = call

theorem Persistent.later {calls : Nat → Callback} (h : Persistent calls) :
    Persistent fun i => calls (i + 1) := by
  intro call n
  obtain ⟨m, hm, hcall⟩ := h call (n + 1)
  obtain ⟨m, rfl⟩ : ∃ m', m = m' + 1 := ⟨m - 1, by omega⟩
  exact ⟨m, by omega, hcall⟩

end Callback

/-- Calls for one conversation with `resume` or `completeForm`, one after the other. -/
def callbacks (id : Uuid) (fields : List (String × Json)) (calls : Nat → Callback) (i : Nat) :
    Act Outcome :=
  (calls i).act id fields

def Outcome.IsIgnored (o : Outcome) : Prop := ∃ reason, o = .ignored reason

/-- The form that the `intents` end with was refused, and a form is handed in while the conversation
is due to send it. What was filled in is taken for the form that nobody has received. -/
structure Mistaken (id : Uuid) (call : Callback) (w : World) (now : Instant) (stop : Stop)
    (intents : List SendIntent) : Prop where
  filled : call = .filled
  due : ∃ c form body callToAction x earlier, w.store.state? id = .ok (some c) ∧
    c.isActive = true ∧ Window.delayDue c.resumeAt now = true ∧ stop = .waiting c.node ∧
    w.exchanges = x :: earlier ∧ x.accepted = false ∧
    x.intent = c.intent (.form form body callToAction id) ∧
    intents = acceptedIntents w.exchanges ++ [x.intent]

/-- A conversation goes on, and each message was received once. What is `stored` is told but for
versions. -/
structure WentOn (flow id : Uuid) (stop : Stop) (intents : List SendIntent) (stored : Store)
    (r : Outcome × World) : Prop where
  advanced : ∃ pass, r.1 = .flowAdvanced flow id pass ∧ pass.stop = stop
  accepted : acceptedIntents r.2.exchanges = intents
  stored : r.2.store.versionless = stored

/-- After calls that failed or were ignored, a conversation goes on with the `n`-th one, or this one
is mistaken. -/
structure Settled (env : Environment) (id : Uuid) (fields : List (String × Json))
    (calls : Nat → Callback) (w : World) (flow : Uuid) (stop : Stop) (intents : List SendIntent)
    (stored : Store) (n : Nat) : Prop where
  earlier : ∀ i < n, (Act.series (callbacks id fields calls) env w i).1.IsDeliveryFailure ∨
    (Act.series (callbacks id fields calls) env w i).1.IsIgnored
  settled : WentOn flow id stop intents stored (Act.series (callbacks id fields calls) env w n) ∨
    Mistaken id (calls n) (Act.before (callbacks id fields calls) env w n) env.now stop intents

section

variable {env : Environment} {s target : Store} {es : List Exchange} {id flow : Uuid}
  {c last : Conversation} {f : Flow} {fields : List (String × Json)} {k : Nat} {ms : List Message}
  {stop : Stop} {calls : Nat → Callback} {w : World} {intents : List SendIntent}

-- One more call that fails or is ignored makes no difference.
theorem Settled.succ {n : Nat}
    (h : Settled env id fields (fun i => calls (i + 1)) (callbacks id fields calls 0 env w).2 flow
      stop intents target n)
    (first : (callbacks id fields calls 0 env w).1.IsDeliveryFailure ∨
      (callbacks id fields calls 0 env w).1.IsIgnored) :
    Settled env id fields calls w flow stop intents target (n + 1) where
  earlier i hi := by
    cases i with
    | zero => exact first
    | succ i =>
      rw [Act.series_succ]
      exact h.earlier i (by omega)
  settled := by
    rw [Act.series_succ, Act.before_succ]
    exact h.settled

-- The calls come to the one that is waited for. What comes before it is ignored or mistaken.
theorem settled_of_wanted (wanted : Callback)
    (called : ∀ calls w, w.store = s → w.exchanges = es → Callback.Persistent calls →
      calls 0 = wanted → ∃ n, Settled env id fields calls w flow stop intents target n)
    (other : ∀ call, call ≠ wanted →
      (∀ w : World, w.store = s → w.exchanges = es → Mistaken id call w env.now stop intents) ∨
      ∃ reason, (call.act id fields).Leads env s es (.ignored reason) s es)
    (hstore : w.store = s) (hexchanges : w.exchanges = es)
    (persistent : Callback.Persistent calls) :
    ∃ n, Settled env id fields calls w flow stop intents target n := by
  obtain ⟨j, -, hj⟩ := persistent wanted 0
  -- The induction is on how many calls come before.
  induction j generalizing calls w with
  | zero => exact called calls w hstore hexchanges persistent hj
  | succ j ih =>
    by_cases hfirst : calls 0 = wanted
    · exact called calls w hstore hexchanges persistent hfirst
    rcases other (calls 0) hfirst with hmistaken | ⟨reason, hleads⟩
    · exact ⟨0, by simp, .inr (hmistaken w hstore hexchanges)⟩
    · obtain ⟨houtcome, hstore', hexchanges', -⟩ := hleads w hstore hexchanges
      obtain ⟨n, hsettled⟩ := ih hstore' hexchanges' persistent.later hj
      exact ⟨n + 1, hsettled.succ (.inr ⟨reason, houtcome⟩)⟩

theorem Outstanding.walk_updated {now : Instant}
    (h : Outstanding now s es fields f c k ms last stop) :
    last.updated = now ∧ last.id = c.id := by
  cases h with
  | awaiting awaiting =>
    cases awaiting.past with
    | ends _ => exact ⟨rfl, rfl⟩
    | goes _ walk => exact ⟨walk.updated rfl, walk.same.id⟩
  | pending pending _ => exact pending.walk_updated

-- A call that a conversation waits for settles it, or leaves the rest to the later ones.
theorem settled_of_called {limit : Nat} (relents : env.sender.Relents limit)
    (updated : last.updated = env.now ∧ last.id = c.id) (hid : c.id = id)
    (called : Called env w.store w.exchanges (callbacks id fields calls 0) fields f c k ms last
      stop)
    (later : ∀ {w' c' k' ms' last'}, limit - w'.exchanges.length < limit - w.exchanges.length →
      Outstanding env.now w'.store w'.exchanges fields f c' k' ms' last' stop → k' ≤ k →
      c'.id = id → ∃ n, Settled env id fields (fun i => calls (i + 1)) w' f.id stop
        (acceptedIntents w'.exchanges ++ ms'.map c'.intent) (w'.store.set last').versionless n) :
    ∃ n, Settled env id fields calls w f.id stop (acceptedIntents w.exchanges ++ ms.map c.intent)
      (w.store.set last).versionless n := by
  subst hid
  rcases called with
    ⟨pass, done, hstops, hleads, hdelivered⟩ |
    ⟨reason, e, m, before, after, done, k', c', p, last', hleads, hrefusal, hmessages, hdelivered,
      houtstanding, hk', hsame, hp, hlast⟩
  · obtain ⟨houtcome, hstore, hexchanges, -⟩ := hleads w rfl rfl
    refine ⟨0, by simp, .inl ⟨⟨pass, houtcome, hstops⟩, ?_, congrArg Store.versionless hstore⟩⟩
    exact (congrArg acceptedIntents hexchanges).trans (hdelivered.acceptedIntents _)
  · obtain ⟨houtcome, hstore, hexchanges, -⟩ := hleads w rfl rfl
    obtain ⟨hupdated', hid'⟩ := houtstanding.walk_updated
    rw [← hstore, ← hexchanges] at houtstanding
    obtain ⟨n, hsettled⟩ :=
      later (hexchanges ▸ relents.refusals_lt hrefusal _) houtstanding hk' hsame.id
    -- What the later calls come to is what this one would have come to.
    have hintents : acceptedIntents (callbacks c.id fields calls 0 env w).2.exchanges ++
        (m :: after).map c'.intent = acceptedIntents w.exchanges ++ ms.map c.intent := by
      rw [hexchanges, acceptedIntents_refused hrefusal, hdelivered.acceptedIntents, hmessages,
        hsame.intent_eq, List.map_append, List.append_assoc]
    have htarget : ((callbacks c.id fields calls 0 env w).2.store.set last').versionless =
        (w.store.set last).versionless := by
      rw [hstore, Store.set_set _ (hp.trans (hid'.trans hsame.id).symm)]
      exact Store.versionless_set hlast (hupdated'.trans updated.1.symm)
    rw [hintents, htarget] at hsettled
    exact ⟨n + 1, hsettled.succ (.inl ⟨reason, houtcome⟩)⟩

-- Where a conversation is due on a form, the form is what it has to send, and there it waits.
theorem form_of_pending {now : Instant} {n : Node} (present : Present now s c f n)
    (form : n.kind.isForm = true) {ch : Conversation.Change} {back : Option Return}
    (hback : f.resumption? c n = some (ch, back))
    (hwalk : f.Walk now k (c.after ch now) ms last stop) :
    stop = .waiting c.node ∧
      ∃ form body callToAction, ms = [.form form body callToAction c.id] := by
  have hnode := present.node
  obtain ⟨node, kind⟩ := n
  cases kind with
  | form form body callToAction =>
    have hch : ch = .clearResume := by
      simp only [Flow.resumption?, NodeKind.isDelay, Bool.false_eq_true, if_false] at hback
      cases hback
      rfl
    subst hch
    obtain ⟨l, hl⟩ := hwalk.leg
    have hkind := Flow.nodeLeg_of_leg? hl hnode
    cases hkind
    obtain ⟨hms, hstop⟩ := hwalk.eq_of_stop hl rfl
    exact ⟨hstop, _, _, _, hms⟩
  | _ => cases form

-- Where the form was refused, a form that is handed in is mistaken. Elsewhere it is ignored.
theorem mistaken_or_ignored (smooth : env.Smooth) (h : Pending env.now s f c k ms last stop)
    (hid : c.id = id) (refused : ∃ m after x earlier, ms = m :: after ∧ es = x :: earlier ∧
      x.intent = c.intent m ∧ x.accepted = false) :
    (∀ w : World, w.store = s → w.exchanges = es →
      Mistaken id .filled w env.now stop (acceptedIntents es ++ ms.map c.intent)) ∨
      ∃ reason, (completeForm id fields).Leads env s es (.ignored reason) s es := by
  subst hid
  obtain ⟨n, ch, back, hresumable, hback, hwalk⟩ := h.walk
  cases form : n.kind.isForm with
  | false => exact .inr ⟨_, leads_completeForm_idle es smooth h.state? hresumable.toPresent form⟩
  | true =>
    obtain ⟨hstop, formId, body, callToAction, rfl⟩ :=
      form_of_pending hresumable.toPresent form hback hwalk
    obtain ⟨m, after, x, earlier, hms, rfl, hintent, hrefused⟩ := refused
    cases hms
    refine .inl fun w hstore hexchanges => ⟨rfl, ?_⟩
    refine ⟨c, formId, body, callToAction, x, earlier, ?_, hresumable.active, hresumable.due, hstop,
      hexchanges, hrefused, hintent, ?_⟩
    · rw [hstore]
      exact h.state?
    · rw [hexchanges, hintent]
      rfl

/-- Where a walk is `Outstanding` for a conversation that is called for, it goes on in the end, or a
call is mistaken. -/
theorem settled_of_outstanding (smooth : env.Smooth) (year : env.now.FourDigitYear)
    {limit : Nat} (relents : env.sender.Relents limit)
    (h : Outstanding env.now w.store w.exchanges fields f c k ms last stop)
    (hk : k ≤ max 1 env.policy.maxNodes) (hid : c.id = id)
    (persistent : Callback.Persistent calls) :
    ∃ n, Settled env id fields calls w f.id stop (acceptedIntents w.exchanges ++ ms.map c.intent)
      (w.store.set last).versionless n := by
  -- Each refusal uses up one of the exchanges after which the sender relents.
  induction hd : limit - w.exchanges.length using Nat.strong_induction_on
    generalizing w c last k ms calls with
  | _ d ih =>
  have called {wanted : Callback} (hcalled : Called env w.store w.exchanges
      (wanted.act c.id fields) fields f c k ms last stop) (calls : Nat → Callback) (w' : World)
      (hstore : w'.store = w.store) (hexchanges : w'.exchanges = w.exchanges)
      (persistent : Callback.Persistent calls) (first : calls 0 = wanted) :
      ∃ n, Settled env id fields calls w' f.id stop
        (acceptedIntents w.exchanges ++ ms.map c.intent) (w.store.set last).versionless n := by
    have hcallback : callbacks id fields calls 0 = wanted.act c.id fields := by
      rw [callbacks, first, hid]
    rw [← hcallback] at hcalled
    rw [← hstore, ← hexchanges] at hcalled ⊢
    refine settled_of_called relents h.walk_updated hid hcalled fun hlt h' hk' hid' => ?_
    exact ih _ (by rwa [← hd, ← hexchanges]) h' (hk'.trans hk) hid' persistent.later rfl
  cases h with
  | awaiting h =>
    have hcalled := called_of_awaiting w.exchanges smooth year h hk
    refine settled_of_wanted .filled (called hcalled) (fun call hcall => ?_) rfl rfl persistent
    cases call with
    | filled => exact absurd rfl hcall
    | due =>
      obtain ⟨n, present, -⟩ := h.present
      exact .inr ⟨_, hid ▸ leads_resume_idle w.exchanges smooth h.state? present.active h.idle⟩
  | pending h hrefused =>
    have hcalled := called_of_pending fields w.exchanges smooth year h hk
    refine settled_of_wanted .due (called hcalled) (fun call hcall => ?_) rfl rfl persistent
    cases call with
    | due => exact absurd rfl hcall
    | filled => exact mistaken_or_ignored smooth h hid hrefused

/-! ## 4. Forms that were waited for -/

-- Somebody goes on with a form that is handed in only where a conversation waits for one.
theorem present_of_completeFormStep (smooth : env.Smooth) (hs : w.store.Consistent)
    (hstate : w.store.state? id = .ok (some c)) {state : Uuid} {pass : Pass}
    (hrun : (completeFormStep id fields env w).1 = .ok (.flowAdvanced flow state pass)) :
    w.store.Holds c ∧ ∃ f n, Present env.now w.store c f n ∧ n.kind.isForm = true := by
  have idles (h : (completeFormStep id fields).Idles env w.store w.exchanges) : False := by
    obtain ⟨r, s', hleads, hr⟩ := h
    exact hr flow state pass ((hleads w rfl rfl).1.symm.trans hrun)
  have hfound : (stored (Calls.state? id)).Leads env w.store w.exchanges (.ok (some c)) w.store
      w.exchanges := .stored (Calls.leads_state? smooth.faultless id) hstate
  cases active : c.isActive with
  | false =>
    refine (idles (.bind ?_ hfound)).elim
    simp only [active, Bool.not_false, if_true]
    exact idles_ignored _
  | true =>
    have held : w.store.Holds c := (hs.holds_of_state? hstate).2.2 active
    rcases present_or_idles w.exchanges smooth hs held active NodeKind.isForm "state expired"
      "state is not waiting on a form" fun f n => do
        let c ← stored (c.change (.mergeVariables (formValues fields)))
        f.stepPast c n.id with present | hidles
    · exact ⟨held, present⟩
    · refine (idles (.bind ?_ hfound)).elim
      simp only [active, Bool.not_true, Bool.false_eq_true, if_false]
      exact hidles

-- There is a walk to make from there, or the conversation ends.
theorem awaiting_of_completeForm (smooth : env.Smooth) (hs : w.store.Consistent)
    (idle : ∀ c, w.store.state? id = .ok (some c) → c.resumeAt = none) {state : Uuid} {pass : Pass}
    (hlimit : ∀ node, pass.stop ≠ .limitReached node)
    (h : (completeForm id fields env w).1 = .flowAdvanced flow state pass) :
    ∃ c f k ms last, c.id = id ∧ k ≤ max 1 env.policy.maxNodes ∧
      Awaiting env.now w.store fields f c k ms last pass.stop := by
  obtain ⟨c, w', hstate, hstore, hexchanges, hstep⟩ := step_of_forState smooth h
  have hidle := idle c hstate
  rw [← hstore] at hs hstate ⊢
  obtain ⟨held, f, n, present, form⟩ := present_of_completeFormStep smooth hs hstate hstep
  obtain ⟨hid, hkept, -⟩ := hs.holds_of_state? hstate
  have awaiting {k : Nat} {ms : List Message} {last : Conversation} {stop : Stop}
      (past : f.Past env.now (c.after (.mergeVariables (formValues fields)) env.now) k ms last
        stop) :
      Awaiting env.now w'.store fields f c k ms last stop :=
    ⟨hs, held, hkept, hidle, ⟨n, present, form⟩, past⟩
  obtain ⟨merged, hmerged⟩ :
      ∃ merged, c.after (.mergeVariables (formValues fields)) env.now = merged := ⟨_, rfl⟩
  have hfilled : (completeFormStep id fields).ComesTo env w'.store w'.exchanges
      (w'.store.set merged) w'.exchanges (f.stepPast merged c.node) :=
    hmerged ▸ comesTo_filled w'.exchanges smooth hs held hstate present form
  rw [hmerged] at awaiting
  obtain ⟨w₁, hstore₁, -, -, hrun₁⟩ := hfilled w' rfl rfl
  rw [hrun₁] at hstep
  have hsame : merged.Same c := hmerged ▸ c.same_after _ _
  have hnode : merged.node = c.node := hmerged ▸ rfl
  have present₁ : Present env.now w'.store merged f n := hmerged ▸ present.mergeVariables _
  have hs₁ : w₁.store.Consistent := hstore₁ ▸ hs.set held present.active hsame
  have held₁ : w₁.store.Holds merged := hstore₁ ▸ held.set hsame
  cases follows : f.next? merged.node with
  | none =>
    rw [hnode] at follows
    obtain ⟨hend, -⟩ := Flow.leads_stepPast_end w₁.exchanges smooth hs₁ held₁ present₁.active
      follows w₁ rfl rfl
    cases hend.symm.trans hstep
    exact ⟨c, f, 0, [], _, hid, Nat.zero_le _, awaiting (.ends (hnode ▸ follows))⟩
  | some next =>
    rw [hnode] at follows
    obtain ⟨w₂, hstore₂, -, -, hrun₂⟩ := Flow.comesTo_stepPast w₁.exchanges smooth hs₁ held₁
      present₁.active follows w₁ rfl rfl
    rw [hrun₂] at hstep
    have hmsame : (merged.after (.advance next) env.now).Same merged := merged.same_after _ _
    have hs₂ : w₂.store.Consistent := hstore₂ ▸ hs₁.set held₁ present₁.active hmsame
    have held₂ : w₂.store.Holds (merged.after (.advance next) env.now) :=
      hstore₂ ▸ held₁.set hmsame
    obtain ⟨k, ms, last, hk, hwalk⟩ := walk_of_callbackPass smooth hlimit hs₂ held₂
      present₁.active (hmsame.flow.trans present₁.flow) hstep
    exact ⟨c, f, k, ms, last, hid, hk, awaiting (.goes (hnode ▸ follows) hwalk)⟩

end

/-- **A form that is handed in again has one effect, unless another one was refused.** Let a form be
handed in to a conversation that is not called for otherwise (`idle`), and let `completeForm` go on
with it, where nothing is refused, and not spend the budget (`stops`). Then, whatever is refused as
long as the sender `Relents`, and however the `calls` for what is due and those that hand in the
same form follow each other, a call goes on at last. Every time before, a delivery failed or the
call was ignored. What the sender has accepted by then, and what the store holds but for versions,
are what they are where nothing is refused. It is not so only where those messages end with another
form and that one was refused: if a form is handed in before it is sent again, it is taken for the
one that nobody has received (`Settled`). -/
theorem completeForm_again {env : Environment} {calm : Sender} {w : World} {id flow state : Uuid}
    {fields : List (String × Json)} {calls : Nat → Callback} {pass : Pass} {limit : Nat}
    (smooth : env.Smooth) (year : env.now.FourDigitYear) (hs : w.store.Consistent)
    (accepts : calm.Accepts) (relents : env.sender.Relents limit)
    (persistent : Callback.Persistent calls)
    (idle : ∀ c, w.store.state? id = .ok (some c) → c.resumeAt = none)
    (goes : (completeForm id fields { env with sender := calm } w).1 =
      .flowAdvanced flow state pass)
    (stops : ∀ node, pass.stop ≠ .limitReached node) :
    ∃ n, Settled env id fields calls w flow pass.stop
      (acceptedIntents (completeForm id fields { env with sender := calm } w).2.exchanges)
      (completeForm id fields { env with sender := calm } w).2.store.versionless n := by
  have smooth' : ({ env with sender := calm } : Environment).Smooth := smooth
  obtain ⟨c, f, k, ms, last, hid, hk, hawaiting⟩ :=
    awaiting_of_completeForm smooth' hs idle stops goes
  have hsettled := settled_of_outstanding smooth year relents (.awaiting hawaiting) hk hid
    persistent
  subst hid
  -- Where nothing is refused, the walk is made at once.
  rcases called_of_awaiting w.exchanges smooth' year hawaiting hk with
    ⟨pass₀, done, -, hleads, hdelivered⟩ | ⟨_, e, m, _, _, done, _, _, _, _, -, hrefusal, -⟩
  · obtain ⟨houtcome, hstore, hexchanges, -⟩ := hleads w rfl rfl
    rw [houtcome] at goes
    cases goes
    rw [hexchanges, hdelivered.acceptedIntents, hstore]
    exact hsettled
  · obtain ⟨r, hr⟩ := accepts (done ++ w.exchanges) (c.intent m)
    cases hr.symm.trans hrefusal

/-- Asks for a form, thanks for it, and asks for another one (`completeForm_again_forms`). -/
def Flow.asksTwice : Flow :=
  { Flow.new (.ofNat 1) "shop" "main" "forms" .anyMessage (.ofSeconds 0) with
    nodes := [⟨"start", .trigger⟩, ⟨"first", .form "name" "Who are you?" "Open"⟩,
      ⟨"thanks", .message "Thank you"⟩, ⟨"second", .form "address" "Where do you live?" "Open"⟩,
      ⟨"after", .message "We are coming"⟩]
    edges := [⟨"start", "first", none⟩, ⟨"first", "thanks", none⟩, ⟨"thanks", "second", none⟩,
      ⟨"second", "after", none⟩] }

/-- The second form of `Flow.asksTwice` is refused. The first one is handed in again, and the
conversation goes past the second one. -/
theorem completeForm_again_forms :
    ∃ w env calls, w = (World.start {}).after
        [(.calm (.ofSeconds 0), .putFlow .asksTwice), (.calm (.ofSeconds 0), .handle .hello)] ∧
      env = { Environment.calm (.ofSeconds 60) with sender := .refusing 2 } ∧
      calls = (fun i => if i % 3 = 2 then .due else .filled : Nat → Callback) ∧
      (completeForm (.ofNat 0) [] (.calm (.ofSeconds 60)) w).1 =
        .flowAdvanced (.ofNat 1) (.ofNat 0) ⟨2, 2, .waiting "second"⟩ ∧
      (Act.series (callbacks (.ofNat 0) [] calls) env w 0).1 =
        .degraded "delivery_failure" "Delivery failed: Transport failure: refused" ∧
      (Act.series (callbacks (.ofNat 0) [] calls) env w 1).1 =
        .flowAdvanced (.ofNat 1) (.ofNat 0) ⟨1, 1, .completed⟩ ∧
      ∃ n, Settled env (.ofNat 0) [] calls w (.ofNat 1) (.waiting "second")
        (acceptedIntents (completeForm (.ofNat 0) [] (.calm (.ofSeconds 60)) w).2.exchanges)
        (completeForm (.ofNat 0) [] (.calm (.ofSeconds 60)) w).2.store.versionless n := by
  refine ⟨_, _, _, rfl, rfl, rfl, by decide +kernel, by decide +kernel, by decide +kernel,
    @completeForm_again { Environment.calm (.ofSeconds 60) with sender := .refusing 2 }
      (Environment.calm (.ofSeconds 60)).sender _ (.ofNat 0) (.ofNat 1) (.ofNat 0) [] _
      ⟨2, 2, .waiting "second"⟩ 3 ⟨fun _ _ => rfl, fun _ => rfl⟩ (by decide)
      (World.traced_after rfl _).consistent (fun _ _ => ⟨_, rfl⟩) (Sender.relents_refusing 2) ?_ ?_
      (by decide +kernel) (fun _ => by simp)⟩
  · intro call n
    cases call with
    | due => exact ⟨3 * n + 2, by omega, if_pos (by omega)⟩
    | filled => exact ⟨3 * n, by omega, if_neg (by omega)⟩
  · intro c hc
    have hresume : (((World.start {}).after
        [(.calm (.ofSeconds 0), .putFlow .asksTwice),
          (.calm (.ofSeconds 0), .handle .hello)]).store.state?
        (.ofNat 0)).toOption.join.bind (·.resumeAt) = none := by decide +kernel
    rw [hc] at hresume
    exact hresume

end Autoresponder
