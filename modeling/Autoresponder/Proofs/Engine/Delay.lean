import Autoresponder.Proofs.Engine.Pointer
import Autoresponder.Proofs.Time.Order

/-!
# Delays

A conversation that waits on a delay goes on when the delay is over, and not before, as long as the
year of its end has four digits. Where it has not, the end is stored in a form that is not read, and
the delay is over at once.
-/

namespace Autoresponder

open Store

/-! ## 1. Rows that rest -/

namespace Store.StateRow.Rests

theorem refl (r : StateRow) : r.Rests r := ⟨rfl, rfl⟩

theorem trans {a b c : StateRow} (h : a.Rests b) (h' : b.Rests c) : a.Rests c :=
  ⟨h'.node.trans h.node, h'.resumeAt.trans h.resumeAt⟩

end Store.StateRow.Rests

/-- A row rests (`Rests`), or its conversation was closed where it was. -/
def Store.StateRow.Stays (r r' : StateRow) : Prop :=
  r.Rests r' ∨ (r'.node = r.node ∧ r'.isActive = .int 0)

theorem Store.StateRow.Stays.node {r r' : StateRow} (h : r.Stays r') : r'.node = r.node :=
  h.elim Rests.node And.left

/-! ## 2. How delays begin -/

/-- If a row waits on a delay, that has begun at one of the times that were `told`. -/
def Begins (f : Flow) (told : Instant → Prop) (r : StateRow) : Prop :=
  ∀ n seconds text, f.node? r.node = some n → n.kind = .delay seconds → r.resumeAt = some text →
    ∃ now t, told now ∧ now.add? (Span.ofSeconds seconds.toNat) = some t ∧
      TimeText.readStored text = t.kept

/-- The conversations of a flow rest where they were `before`, or begin to wait. -/
def Store.Waiting (before : Store) (f : Flow) (told : Instant → Prop) (s : Store) : Prop :=
  ∀ r ∈ s.states, r.flow = toString f.id →
    (∃ found ∈ before.states, found.id = r.id ∧ found.Rests r) ∨ Begins f told r

section

variable {f : Flow} {o : Occasion} {t : Instant} {told : Instant → Prop} {r r' : StateRow}
  {env : Environment} {w : World} {before s s' : Store}

theorem Begins.of_rests (h : Begins f told r) (hrests : r.Rests r') : Begins f told r' := by
  intro n seconds text hn hkind htext
  have hresume := hrests.resumeAt
  rw [htext] at hresume
  obtain ⟨text', htext', hread⟩ := Option.map_eq_some_iff.mp hresume.symm
  obtain ⟨now, t, hnow, ht, heq⟩ := h n seconds text' (hrests.node ▸ hn) hkind htext'
  exact ⟨now, t, hnow, ht, hread.symm.trans heq⟩

-- A row that is not resumed waits on no delay.
theorem Begins.of_none (h : r.resumeAt = none) : Begins f told r := by
  intro n seconds text _ _ htext
  rw [h] at htext
  cases htext

theorem Move.begins (h : Move f o env w r r')
    (shown : ∀ now, env.Told w.readings (o.act env w).2 now → told now) :
    r.Rests r' ∨ Begins f told r' := by
  cases h with
  | rest rests => exact .inl rests
  | close _ _ resumeAt => exact .inr (.of_none resumeAt)
  | @delay n seconds now t node stands kind _ hnow ends resumeAt =>
    refine .inr fun n' seconds' text hn hkind htext => ⟨now, t, shown now hnow, ?_, ?_⟩
    · cases stands.symm.trans (node ▸ hn)
      cases kind.symm.trans hkind
      exact ends
    · rw [← Option.some.inj (resumeAt.symm.trans htext)]
      exact t.kept_def.symm
  | retry node stands kind =>
    refine .inr fun n' seconds text hn hkind _ => ?_
    cases stands.symm.trans (node ▸ hn)
    rw [hkind] at kind
    cases kind
  | leave _ resumeAt => exact .inr (.of_none resumeAt)

/-- After a `Stride`, too, conversations rest where they were, or begin to wait. -/
theorem Stride.waiting (h : Stride f o env w s s')
    (shown : ∀ now, env.Told w.readings (o.act env w).2 now → told now)
    (hw : before.Waiting f told w.store) (hs : before.Waiting f told s) :
    before.Waiting f told s' := by
  have hrests {r r' : StateRow} (hr : (∃ found ∈ before.states, found.id = r.id ∧ found.Rests r) ∨
      Begins f told r) (hid : r'.id = r.id) (rests : r.Rests r') :
      (∃ found ∈ before.states, found.id = r'.id ∧ found.Rests r') ∨ Begins f told r' := by
    rcases hr with ⟨found, hfound, hid', hrests⟩ | hbegins
    · exact .inl ⟨found, hfound, hid'.trans hid.symm, hrests.trans rests⟩
    · exact .inr (hbegins.of_rests rests)
  intro r' hr' hflow'
  rcases h.begins r' hr' hflow' with ⟨r, hr, hid, hflow⟩ | ⟨-, -, -, henters⟩
  · have hflow := hflow.trans hflow'
    obtain ⟨-, rfl | hgoes⟩ := h.goes r hr r' hr' hid.symm hflow
    · exact hs _ hr hflow
    · cases hgoes with
      | moves _ move _ =>
        exact (move.begins shown).elim (hrests (hs r hr hflow) hid.symm) .inr
      | clicks _ rests _ _ => exact hrests (hs r hr hflow) hid.symm rests
      | undoes _ _ _ _ there same _ undone _ =>
        exact hrests (hw _ there (same.2.trans hflow)) (hid.symm.trans same.1.symm) undone.rests
  · exact .inr (.of_none henters.resumeAt)

/-! ## 3. How delays are kept -/

/-- A row waits on a delay of `f` until the instant `t`. -/
structure Store.StateRow.Waits (f : Flow) (t : Instant) (r : StateRow) : Prop where
  stands : ∃ n seconds, f.node? r.node = some n ∧ n.kind = .delay seconds
  resumeAt : r.resumeAt.map TimeText.readStored = some t

theorem Store.StateRow.Waits.of_rests (h : r.Waits f t) (hrests : r.Rests r') : r'.Waits f t :=
  ⟨hrests.node ▸ h.stands, hrests.resumeAt.trans h.resumeAt⟩

-- A delay is left when it is over, and for no other reason.
theorem Exit.due {next : String} (h : Exit f o env w r next) (waits : r.Waits f t) :
    w.readings < (o.act env w).2.readings ∧ t ≤ env.clock w.readings := by
  obtain ⟨⟨n, seconds, hn, hdelay⟩, hresume⟩ := waits
  cases h with
  | pass node plain _ =>
    cases node.symm.trans hn
    rw [hdelay] at plain
    cases plain
  | answer clicks _ _ _ _ _ =>
    obtain ⟨n', text, bs, variableName, hn', hkind, -⟩ := clicks.offered
    cases hn'.symm.trans hn
    cases hkind.symm.trans hdelay
  | wake _ _ _ _ resumeAt read due _ =>
    rw [resumeAt] at hresume
    cases hresume
    exact ⟨read, due⟩
  | fill _ _ node kind _ =>
    cases node.symm.trans hn
    rw [hdelay] at kind
    cases kind

/-- As long as the delay is not over at any instant that the clock has shown (`early`), a row stays
on it. -/
theorem Move.stays (h : Move f o env w r r') (waits : r.Waits f t)
    (early : ∀ now, env.Told w.readings (o.act env w).2 now → now < t) : r.Stays r' := by
  cases h with
  | rest rests => exact .inl rests
  | close node inactive _ => exact .inr ⟨node, inactive⟩
  | delay _ _ _ fresh _ _ _ =>
    have hresume := waits.resumeAt
    rw [fresh] at hresume
    cases hresume
  | retry _ stands kind =>
    obtain ⟨n, seconds, hn, hdelay⟩ := waits.stands
    cases stands.symm.trans hn
    rw [hdelay] at kind
    cases kind
  | leave exit _ =>
    obtain ⟨read, due⟩ := exit.due waits
    exact absurd (early _ ⟨w.readings, le_refl _, read, rfl⟩) (Instant.le_iff.mp due)

/-- As long as the delay is not over on which the row `r` waits, a `Stride` leaves the row there. -/
theorem Stride.stays (h : Stride f o env w s s') (hflow : r.flow = toString f.id)
    (waits : r.Waits f t) (early : ∀ now, env.Told w.readings (o.act env w).2 now → now < t)
    (consistent : w.store.Consistent)
    (hw : ∃ r' ∈ w.store.states, r'.id = r.id ∧ r'.flow = r.flow ∧ r.Stays r')
    (hs : ∃ r' ∈ s.states, r'.id = r.id ∧ r'.flow = r.flow ∧ r.Stays r') :
    ∃ r' ∈ s'.states, r'.id = r.id ∧ r'.flow = r.flow ∧ r.Stays r' := by
  obtain ⟨r₁, hr₁, hid₁, hflow₁, hstays₁⟩ := hs
  obtain ⟨r₂, hr₂, hid₂⟩ := h.keeps r₁ hr₁
  obtain ⟨hflow₂, hgoes⟩ := h.goes r₁ hr₁ r₂ hr₂ hid₂ (hflow₁.trans hflow)
  refine ⟨r₂, hr₂, hid₂.trans hid₁, hflow₂.trans hflow₁, ?_⟩
  rcases hgoes with rfl | hgoes
  · exact hstays₁
  -- A row that is not active is not written over.
  have hrests : r.Rests r₁ := by
    rcases hstays₁ with hrests | ⟨-, inactive⟩
    · exact hrests
    · cases hgoes.rewritten.active.symm.trans inactive
  cases hgoes with
  | moves _ move _ =>
    rcases move.stays (waits.of_rests hrests) early with hrests' | ⟨node, inactive⟩
    · exact .inl (hrests.trans hrests')
    · exact .inr ⟨node.trans hrests.node, inactive⟩
  | clicks _ rests _ _ => exact .inl (hrests.trans rests)
  | undoes _ _ _ _ there same active undone _ =>
    obtain ⟨found, hfound, hid, -, hstays⟩ := hw
    obtain rfl := consistent.eq_of_id hfound there (hid.trans (same.1.trans hid₁).symm)
    rcases hstays with hrests | ⟨-, inactive⟩
    · exact .inl (hrests.trans undone.rests)
    · cases active.symm.trans inactive

-- An instant that is read from a row is how the text of the row is written.
theorem Store.StateRow.Written.eq_stored (h : r.Written) (ht : t.FourDigitYear)
    (hresume : r.resumeAt.map TimeText.readStored = some t) : r.resumeAt = some t.stored := by
  obtain ⟨text, htext, rfl⟩ := Option.map_eq_some_iff.mp hresume
  rw [h.stored_readStored htext ht, htext]

/-- As long as the instant `t` has not come at which a row is resumed, the row is not listed in
`dueStates`. -/
theorem Store.Consistent.not_due {now : Instant} (hs : s.Consistent) (hr : r ∈ s.states)
    (ht : t.FourDigitYear) (early : now < t)
    (hresume : r.isActive = .int 1 → r.resumeAt.map TimeText.readStored = some t) :
    ∀ c ∈ s.dueStates now, toString c.id ≠ r.id := by
  intro c hc hid
  obtain ⟨r₁, hr₁, ⟨hactive, text, htext, hle⟩, hread⟩ := mem_dueStates.mp hc
  obtain ⟨hid₁, -⟩ := (hs.written r₁ hr₁).holds hr₁ hread
  obtain rfl : r₁ = r := hs.eq_of_id hr₁ hr (hid₁.trans hid)
  rw [(hs.written r₁ hr).eq_stored ht (hresume hactive), Option.some.injEq] at htext
  subst htext
  -- The clock shows a year with four digits, or is before all of them in the order of texts.
  by_cases hnow : now.FourDigitYear
  · exact absurd early (Instant.le_iff.mp ((Instant.stored_le_stored_iff ht hnow).mp hle))
  · exact absurd hle (not_le_of_gt (Instant.stored_lt_stored_of_not hnow ht))

/-- A conversation that is to be resumed at an instant without a `FourDigitYear` is listed in
`dueStates` at any instant of such a year, and it is due then. -/
theorem Store.Consistent.due_at_once {now : Instant} (hs : s.Consistent) (hr : r ∈ s.states)
    (active : r.isActive = .int 1) {text : String} (resumeAt : r.resumeAt = some text)
    (outside : ¬ (TimeText.readStored text).FourDigitYear) (hnow : now.FourDigitYear) :
    ∃ c ∈ s.dueStates now, toString c.id = r.id ∧ Window.delayDue c.resumeAt now = true := by
  obtain ⟨d, version, rfl, -⟩ := hs.written r hr
  obtain ⟨t, ht, rfl⟩ := Option.map_eq_some_iff.mp resumeAt
  rw [← t.kept_def] at outside
  have hyear : ¬ t.FourDigitYear := fun h => outside ((Instant.kept_of_fourDigitYear h).symm ▸ h)
  have hle : t.stored ≤ now.stored := le_of_lt (Instant.stored_lt_stored_of_not hyear hnow)
  refine ⟨_, mem_dueStates.mpr ⟨_, hr, ⟨active, t.stored, resumeAt, hle⟩,
    StateRow.read_ofConversation d version⟩, rfl, ?_⟩
  have hresume : d.kept.resumeAt = some .first := by
    rw [Conversation.kept, ht, Option.map_some, Instant.kept_of_not_fourDigitYear hyear]
  have hfirst : Instant.first.seconds = -8334601228800 := rfl
  rw [Instant.fourDigitYear_iff] at hnow
  rw [hresume, Window.delayDue, decide_eq_true_eq, Instant.le_iff, Instant.lt_iff]
  omega

end

/-! ## 4. Runs -/

/-- Whatever the clock shows in a run that begins in the world `w` is earlier than `t`. -/
def World.Early (w : World) (t : Instant) : Run → Prop
  | [] => True
  | (env, op) :: rest =>
    (∀ now, env.Told w.readings (w.perform env op) now → now < t) ∧ (w.perform env op).Early t rest

theorem World.early_concat {w : World} {t : Instant} {run : Run} {env : Environment}
    {op : Operation} (h : w.Early t (run ++ [(env, op)])) :
    w.Early t run ∧ ∀ now, env.Told (w.after run).readings ((w.after run).perform env op) now →
      now < t := by
  induction run generalizing w with
  | nil => exact ⟨trivial, h.1⟩
  | cons step rest ih =>
    obtain ⟨hfirst, hrest⟩ := h
    obtain ⟨hrest, hlast⟩ := ih hrest
    exact ⟨⟨hfirst, hrest⟩, hlast⟩

/-- As long as a delay is not over (`Early`), a conversation that waits on it stays there in any
run. -/
theorem World.stays_after {w : World} (h : w.store.states = []) {f : Flow} {run later : Run}
    (keeps : ∀ earlier, earlier <+: run ++ later → (w.after earlier).store.Draws f) {t : Instant}
    {r : StateRow} (hr : r ∈ (w.after run).store.states) (hflow : r.flow = toString f.id)
    (waits : r.Waits f t) (early : (w.after run).Early t later) :
    ∃ r' ∈ (w.after (run ++ later)).store.states, r'.id = r.id ∧ r'.flow = r.flow ∧
      r.Stays r' := by
  induction later using List.reverseRecOn with
  | nil => exact ⟨r, by rwa [List.append_nil], rfl, rfl, .inl (.refl r)⟩
  | append_singleton later step ih =>
    have happend : run ++ (later ++ [step]) = (run ++ later) ++ [step] :=
      (List.append_assoc ..).symm
    have hearlier : run ++ later <+: run ++ (later ++ [step]) := happend ▸ List.prefix_append _ _
    obtain ⟨hearly, hstep⟩ := early_concat early
    rw [← after_append] at hstep
    have hstays := ih (fun earlier h => keeps earlier (h.trans hearlier)) hearly
    rw [happend, after_concat]
    refine (Operation.always_perform
      (P := fun s => ∃ r' ∈ s.states, r'.id = r.id ∧ r'.flow = r.flow ∧ r.Stays r')
      ((run ++ later).handled_concat step.1 step.2)
      ((traced_after h (run ++ later)).concat step.1 step.2) (keeps _ hearlier) hstays
      (fun s s' hstates hs => hstates ▸ hs) ?_).store
    exact fun o w₁ hs₁ hw₁ told s s' hs hstride =>
      hstride.stays hflow waits (fun now hnow => hstep now (told now hnow)) hs₁.consistent hw₁ hs

/-- A conversation that waits on a delay after `op` has waited there for the same instant before, or
the delay has begun in the operation and ends the seconds of its node later. -/
theorem World.waiting_perform {w : World} (h : w.store.states = []) {f : Flow} {run : Run}
    (draws : (w.after run).store.Draws f) (env : Environment) (op : Operation) :
    (w.after run).store.Waiting f
      (env.Told (w.after run).readings ((w.after run).perform env op))
      ((w.after run).perform env op).store := by
  refine (op.always_perform (run.handled_concat env op) ((traced_after h run).concat env op) draws
    (fun r hr _ => .inl ⟨r, hr, rfl, .refl r⟩)
    (fun s s' hstates hs r hr => hs r (hstates ▸ hr)) ?_).store
  exact fun o w₁ _ hw₁ told s s' hs hstride => hstride.waiting told hw₁ hs

/-- Let the operation `op` that comes after a `run` leave the row `r` on a delay of the flow `f`
where, by `arrives`, it did not wait before. Then it is to be resumed at the instant `t`, the
`seconds` of the delay after a time that the clock has shown in `op`. If the year of `t` has four
digits, then in any run that is `later`, as long as the clock shows times before `t`, the
conversation stays on the delay, and `Store.dueStates` does not list it. If it has not, the
conversation is listed at once. -/
theorem delay_kept {w : World} (h : w.store.states = []) {f : Flow} {run later : Run}
    {env : Environment} {op : Operation}
    (keeps : ∀ earlier, earlier <+: run ++ [(env, op)] ++ later →
      (w.after earlier).store.Draws f) {r : StateRow}
    (hr : r ∈ (w.after (run ++ [(env, op)])).store.states) (hflow : r.flow = toString f.id)
    {n : Node} {seconds : UInt64} (stands : f.node? r.node = some n)
    (kind : n.kind = .delay seconds) {text : String} (resumeAt : r.resumeAt = some text)
    (arrives : ∀ found ∈ (w.after run).store.states, found.id = r.id → ¬ found.Rests r) :
    ∃ now t, env.Told (w.after run).readings (w.after (run ++ [(env, op)])) now ∧
      now.add? (Span.ofSeconds seconds.toNat) = some t ∧
      (t.FourDigitYear → text = t.stored ∧ ((w.after (run ++ [(env, op)])).Early t later →
        ∃ r' ∈ (w.after (run ++ [(env, op)] ++ later)).store.states, r'.id = r.id ∧
          r'.node = r.node ∧ (r'.isActive = .int 1 → r'.resumeAt = some text) ∧
          ∀ now, now < t →
            ∀ c ∈ (w.after (run ++ [(env, op)] ++ later)).store.dueStates now,
              toString c.id ≠ r.id)) ∧
      (¬ t.FourDigitYear → r.isActive = .int 1 → ∀ now, now.FourDigitYear →
        ∃ c ∈ (w.after (run ++ [(env, op)])).store.dueStates now,
          toString c.id = r.id ∧ Window.delayDue c.resumeAt now = true) := by
  have hdraws : (w.after run).store.Draws f :=
    keeps run ((List.prefix_append _ _).trans (List.prefix_append _ _))
  obtain ⟨now, t, hnow, hends, hread⟩ : ∃ now t,
      env.Told (w.after run).readings (w.after (run ++ [(env, op)])) now ∧
      now.add? (Span.ofSeconds seconds.toNat) = some t ∧ TimeText.readStored text = t.kept := by
    rw [World.after_concat] at hr ⊢
    rcases World.waiting_perform h hdraws env op r hr hflow with
      ⟨found, hfound, hid, hrests⟩ | hbegins
    · exact absurd hrests (arrives found hfound hid)
    · exact hbegins n seconds text stands kind resumeAt
  have hs := (World.traced_after h (run ++ [(env, op)])).consistent
  refine ⟨now, t, hnow, hends, fun ht => ?_, fun ht active now hnow => ?_⟩
  case refine_2 =>
    refine hs.due_at_once hr active resumeAt ?_ hnow
    rw [hread, Instant.kept_of_not_fourDigitYear ht]
    exact Instant.not_fourDigitYear_first
  rw [Instant.kept_of_fourDigitYear ht] at hread
  have hresume : r.resumeAt.map TimeText.readStored = some t := by
    rw [resumeAt, Option.map_some, hread]
  have htext : r.resumeAt = some t.stored := (hs.written r hr).eq_stored ht hresume
  refine ⟨Option.some.inj (resumeAt.symm.trans htext), fun early => ?_⟩
  obtain ⟨r', hr', hid, -, hstays⟩ :=
    World.stays_after h keeps hr hflow ⟨⟨n, seconds, stands, kind⟩, hresume⟩ early
  have hs' := (World.traced_after h (run ++ [(env, op)] ++ later)).consistent
  have hresume' : r'.isActive = .int 1 → r'.resumeAt.map TimeText.readStored = some t := by
    intro active
    rcases hstays with hrests | ⟨-, inactive⟩
    · exact hrests.resumeAt.trans hresume
    · cases active.symm.trans inactive
  refine ⟨r', hr', hid, hstays.node, fun active => ?_, fun now hnow => ?_⟩
  · rw [← resumeAt, htext]
    exact (hs'.written r' hr').eq_stored ht (hresume' active)
  · exact hid ▸ hs'.not_due hr' ht hnow hresume'

/-- Somebody who is greeted at the instant 0 by `Flow.greeting` waits for the whole minute of its
delay: a tick half a minute later leaves the conversation there. -/
theorem delay_kept_greeting :
    ((World.start {}).after .greeting).store.states.map (·.node) = ["pause"] ∧
      ∀ r ∈ ((World.start {}).after .greeting).store.states,
        ∃ r' ∈ ((World.start {}).after
            (Run.greeting ++ [(.calm (.ofSeconds 30), .tick)])).store.states,
          r'.id = r.id ∧ r'.node = r.node ∧ ∀ now, now < .ofSeconds 60 →
            ∀ c ∈ ((World.start {}).after
                (Run.greeting ++ [(.calm (.ofSeconds 30), .tick)])).store.dueStates now,
              toString c.id ≠ r.id := by
  have hinits : ∀ earlier : Run,
      earlier ∈ (Run.greeting ++ [(.calm (.ofSeconds 30), .tick)] : Run).inits →
        ((World.start {}).after earlier).store.Draws .greeting := by decide +kernel
  have hnone : ((World.start {}).after [(.calm (.ofSeconds 0), .putFlow .greeting)]).store.states =
      [] := by decide +kernel
  have hrows : ∀ r ∈ ((World.start {}).after .greeting).store.states,
      r.flow = toString Flow.greeting.id ∧
        Flow.greeting.node? r.node = some ⟨"pause", .delay 60⟩ ∧
        r.resumeAt = some (Instant.ofSeconds 60).stored := by decide +kernel
  refine ⟨by decide +kernel, fun r hr => ?_⟩
  obtain ⟨hflow, hnode, hresume⟩ := hrows r hr
  have arrives : ∀ found ∈ ((World.start {}).after
      [(.calm (.ofSeconds 0), .putFlow .greeting)]).store.states,
      found.id = r.id → ¬ found.Rests r := by
    rw [hnone]
    exact fun found hfound => absurd hfound List.not_mem_nil
  obtain ⟨now, t, ⟨_, -, -, hnow⟩, hends, hkept⟩ := @delay_kept (World.start {}) rfl .greeting
    [(.calm (.ofSeconds 0), .putFlow .greeting)] [(.calm (.ofSeconds 30), .tick)]
    (.calm (.ofSeconds 0)) (.handle .hello)
    (fun earlier h => hinits earlier ((List.mem_inits _ _).mpr h)) r hr hflow _ 60 hnode rfl _ hresume
    arrives
  have ht : (Instant.ofSeconds 0).add? (Span.ofSeconds (60 : UInt64).toNat) =
      some (.ofSeconds 60) := by decide +kernel
  obtain rfl := Option.some.inj (ht.symm.trans (hnow ▸ hends))
  have early : ((World.start {}).after .greeting).Early (.ofSeconds 60)
      [(.calm (.ofSeconds 30), .tick)] := by
    refine ⟨?_, trivial⟩
    rintro _ ⟨_, -, -, rfl⟩
    exact (by decide : Instant.ofSeconds 30 < .ofSeconds 60)
  obtain ⟨r', hr', hid, hnode', -, hdue⟩ := (hkept.1 (by decide +kernel)).2 early
  exact ⟨r', hr', hid, hnode', hdue⟩

end Autoresponder
