import Autoresponder.Proofs.Engine.Run

/-!
# To whom messages go

Conversations are looked up by workspace and phone number alone, flows and rules by workspace and
account. That a message goes to the account whose flow or rule it comes from rests on an invariant:
the flow of every conversation is stored for the account of the conversation.
-/

namespace Autoresponder

open Store

/-! ## 1. Owners -/

/-- The identifier of a flow, and for whom it is stored. -/
def Store.FlowRow.owner (r : FlowRow) : String × String × String := (r.id, r.workspace, r.account)

/-- The flow of every conversation is stored for the account of the conversation. -/
def Store.Owned (s : Store) : Prop :=
  ∀ r ∈ s.states, (r.flow, r.workspace, r.account) ∈ s.flows.map FlowRow.owner

/-- Two rows of one conversation. -/
structure Store.StateRow.Akin (r r' : StateRow) : Prop where
  id : r.id = r'.id
  workspace : r.workspace = r'.workspace
  account : r.account = r'.account
  phone : r.phone = r'.phone
  flow : r.flow = r'.flow

/-- An account has a flow to answer with: it is stored for the account, active and can be walked. -/
structure Store.Runs (s : Store) (workspace account : String) (f : Flow) : Prop where
  stored : ∃ r ∈ s.flows, r.workspace = workspace ∧ r.account = account ∧ r.read = .ok f
  active : f.isActive = true
  valid : f.validate = .ok ()

/-- An account has a rule to answer with: it is stored for the account and active. -/
structure Store.Applies (s : Store) (workspace account : String) (r : Rule) : Prop where
  stored : ∃ row ∈ s.rules, row.workspace = workspace ∧ row.account = account ∧ row.read = .ok r
  active : r.isActive = true

/-- A flow that an account `Charts` is one that it `Runs`. -/
theorem Store.runs_of_charts {s : Store} {workspace account : String} {f : Flow}
    (h : s.Charts workspace account f) : s.Runs workspace account f := by
  obtain ⟨sn, loaded, hf⟩ := h
  obtain ⟨⟨r, hr, ⟨hworkspace, haccount, -⟩, hread⟩, active, hproblem⟩ :=
    (mem_flows_of_snapshot loaded).mp hf
  refine ⟨⟨r, hr, hworkspace, haccount, hread⟩, active, ?_⟩
  rw [Flow.validate, hproblem]

theorem Event.Selects.applies {s : Store} {env : Environment} {e : Event} {r : Rule}
    {selected : Selected} (h : e.Selects s env r selected) :
    s.Applies e.workspace e.account r := by
  obtain ⟨sn, loaded, chosen⟩ := h.chosen
  have hr : r ∈ sn.rules := mem_rules_of_candidate (h.rule ▸ candidate_of_select chosen)
  obtain ⟨settings, -, rfl⟩ := settings?_of_snapshot loaded
  obtain ⟨hmem, active⟩ := List.mem_filter.mp hr
  obtain ⟨row, hrow, ⟨hworkspace, haccount, -⟩, hread⟩ := mem_activeRules.mp hmem
  exact ⟨⟨row, hrow, hworkspace, haccount, hread⟩, active⟩

-- What a flow is stored under is its identifier and its owner.
theorem Store.Runs.owner {s : Store} (keyed : s.Keyed) {workspace account : String} {f : Flow}
    (h : s.Runs workspace account f) :
    (toString f.id, workspace, account) ∈ s.flows.map FlowRow.owner := by
  obtain ⟨r, hr, rfl, rfl, hread⟩ := h.stored
  have hid := (keyed_iff.mp keyed).eq_toString hr (FlowRow.readUuid_of_read hread)
  exact List.mem_map.mpr ⟨r, hr, by rw [FlowRow.owner, hid]⟩

-- A flow has one owner.
theorem Store.Keyed.owner_unique {s : Store} (keyed : s.Keyed) {id : String}
    {owner owner' : String × String} (h : (id, owner) ∈ s.flows.map FlowRow.owner)
    (h' : (id, owner') ∈ s.flows.map FlowRow.owner) : owner = owner' := by
  obtain ⟨r, hr, heq⟩ := List.mem_map.mp h
  obtain ⟨r', hr', heq'⟩ := List.mem_map.mp h'
  obtain ⟨hid, howner⟩ := Prod.mk.inj heq
  obtain ⟨hid', howner'⟩ := Prod.mk.inj heq'
  rw [← howner, ← howner', (keyed_iff.mp keyed).eq_of_id hr hr' (hid.trans hid'.symm)]

-- Flows keep their owners when they are written again.
theorem Store.Configured.owners {s s' : Store} (h : s.Configured s') :
    ∀ owner ∈ s.flows.map FlowRow.owner, owner ∈ s'.flows.map FlowRow.owner := by
  have hmap {change : FlowRow → FlowRow} (hkeeps : ∀ r, (change r).owner = r.owner) :
      ∀ owner ∈ s.flows.map FlowRow.owner,
        owner ∈ (s.flows.map change).map FlowRow.owner := by
    intro owner howner
    rwa [List.map_map, Function.comp_def, funext hkeeps]
  cases h with
  | same => exact fun _ h => h
  | putFlow f =>
    unfold Store.putFlow
    dsimp only
    split
    · refine hmap fun r => ?_
      split
      · rename_i hid
        rw [FlowRow.owner, FlowRow.owner, eq_of_beq hid]
        rfl
      · rfl
    · intro owner howner
      rw [List.map_append]
      exact List.mem_append_left _ howner
  | setFlowStatus h =>
    simp only [Store.setFlowStatus] at h
    split at h
    · cases h
      refine hmap fun r => ?_
      split <;> rfl
    · cases h
  | putRule r =>
    rw [eq_putRule]
    exact fun _ h => h
  | putSettings workspace account settings =>
    rw [eq_putSettings]
    exact fun _ h => h

theorem Store.Configured.owned {s s' : Store} (h : s.Configured s') (hs : s.Owned) : s'.Owned := by
  intro r hr
  rw [h.states] at hr
  exact h.owners _ (hs r hr)

/-! ## 2. What becomes of conversations -/

/-- A row is that of a conversation that begins on an occasion, in a flow that its account
`Runs`. -/
def Occasion.Begins (before : Store) (r : StateRow) : Occasion → Prop
  | event e => r.workspace = e.workspace ∧ r.account = e.account ∧ r.phone = e.phone ∧
      ∃ f, before.Runs e.workspace e.account f ∧ r.flow = toString f.id
  | resume _ => False
  | form _ _ => False

/-- On an occasion flows keep their `owner`, and conversations stay with their person and in their
flow, or begin. -/
structure Occasion.Tracks (o : Occasion) (before s : Store) : Prop where
  flows : s.flows.map FlowRow.owner = before.flows.map FlowRow.owner
  states : ∀ r ∈ s.states, (∃ r₀ ∈ before.states, r.Akin r₀) ∨ o.Begins before r

section

variable {events : List Event} {o : Occasion} {env : Environment} {before s : Store} {w w' : World}

theorem Store.StateRow.Akin.refl (r : StateRow) : r.Akin r := ⟨rfl, rfl, rfl, rfl, rfl⟩

theorem Store.StateRow.akin_revised (old new : StateRow) : (old.revised new).Akin old :=
  ⟨rfl, rfl, rfl, rfl, rfl⟩

theorem Store.StateRow.akin_yielded (r : StateRow) (c : Conversation) : (r.yielded c).Akin r := by
  unfold yielded
  split <;> exact ⟨rfl, rfl, rfl, rfl, rfl⟩

namespace Occasion.Tracks

theorem refl (o : Occasion) (s : Store) : o.Tracks s s :=
  ⟨rfl, fun r hr => .inl ⟨r, hr, .refl r⟩⟩

theorem congr (h : o.Tracks before s) {s' : Store} (hflows : s'.flows = s.flows)
    (hstates : s'.states = s.states) : o.Tracks before s' :=
  ⟨hflows ▸ h.flows, hstates ▸ h.states⟩

-- A row that stays with its conversation is what the old one is.
theorem of_akin (h : o.Tracks before s) {r old : StateRow} (hold : old ∈ s.states)
    (hakin : r.Akin old) : (∃ r₀ ∈ before.states, r.Akin r₀) ∨ o.Begins before r := by
  rcases h.states old hold with ⟨r₀, hr₀, hakin₀⟩ | hbegins
  · exact .inl ⟨r₀, hr₀, hakin.id.trans hakin₀.id, hakin.workspace.trans hakin₀.workspace,
      hakin.account.trans hakin₀.account, hakin.phone.trans hakin₀.phone,
      hakin.flow.trans hakin₀.flow⟩
  · cases o with
    | event e =>
      obtain ⟨hworkspace, haccount, hphone, f, runs, hflow⟩ := hbegins
      exact .inr ⟨hakin.workspace.trans hworkspace, hakin.account.trans haccount,
        hakin.phone.trans hphone, f, runs, hakin.flow.trans hflow⟩
    | _ => exact hbegins.elim

theorem set (h : o.Tracks before s) (c : Conversation) : o.Tracks before (s.set c) := by
  refine ⟨h.flows, fun r hr => ?_⟩
  rcases mem_set hr with hr | ⟨old, hold, -, rfl⟩
  · exact h.states r hr
  · exact h.of_akin hold (StateRow.akin_revised old _)

theorem deed {first : Nat} (h : o.Tracks before w.store)
    (hdeed : Deed events o before env first w w') : o.Tracks before w'.store := by
  cases hdeed with
  | quiet idles => exact idles.store ▸ h
  | change c ch now _ _ _ _ _ => exact h.set _
  | @begin f start e id now s _ occasion _ charted _ created =>
    obtain ⟨rfl, -⟩ := states_createState created
    refine ⟨h.flows, fun r hr => ?_⟩
    rcases List.mem_append.mp hr with hr | hr
    · obtain ⟨old, hold, rfl⟩ := List.mem_map.mp hr
      exact h.of_akin hold (StateRow.akin_yielded old _)
    · rw [List.mem_singleton.mp hr, occasion]
      exact .inr ⟨rfl, rfl, rfl, f, runs_of_charts charted, rfl⟩
  | send c m now _ _ _ _ _ => exact h.congr rfl rfl
  | reply e m now _ _ _ _ _ _ => exact h.congr rfl rfl
  | countStart flow now =>
    refine ⟨?_, h.states⟩
    rw [← h.flows, World.write, Store.countFlowStart, List.map_map]
    refine List.map_congr_left fun r _ => ?_
    rw [Function.comp_apply]
    split <;> rfl

theorem path {first : Nat} (h : (o.conduct events w.store env first).Path w w') :
    o.Tracks w.store w'.store := by
  induction h with
  | refl => exact refl o w.store
  | tail _ hdeed ih => exact ih.deed hdeed

-- The flow of a conversation stays that of its account.
theorem owned (h : o.Tracks before s) (keyed : before.Keyed) (hs : before.Owned) : s.Owned := by
  intro r hr
  rw [h.flows]
  rcases h.states r hr with ⟨r₀, hr₀, hakin⟩ | hbegins
  · rw [hakin.flow, hakin.workspace, hakin.account]
    exact hs r₀ hr₀
  · cases o with
    | event e =>
      obtain ⟨hworkspace, haccount, -, f, runs, hflow⟩ := hbegins
      rw [hworkspace, haccount, hflow]
      exact runs.owner keyed
    | _ => exact hbegins.elim

end Occasion.Tracks

theorem Occasion.Happens.tracks {outcome : Outcome} (h : o.Happens events env w outcome w') :
    o.Tracks w.store w'.store := by
  cases h with
  | deeds path => exact .path path
  | logs _ path logs =>
    obtain ⟨entry, s, _, _, _, _, _, _, _, logged⟩ := logs
    rw [World.write, eq_of_logFiring logged]
    exact (Tracks.path path).congr rfl rfl
  | keeps path _ keep =>
    cases keep with
    | rewind c found _ _ _ _ _ => exact (Tracks.path path).set _
    | postpone c _ _ _ _ _ _ => exact (Tracks.path path).set _

/-! ## 3. Messages -/

/-- The person that an occasion is about: that of the event, or of the conversation called for. -/
def Occasion.Addresses (before : Store) (workspace account phone : String) : Occasion → Prop
  | event e => workspace = e.workspace ∧ account = e.account ∧ phone = e.phone
  | resume id => ∃ r ∈ before.states, r.id = toString id ∧
      r.workspace = workspace ∧ r.account = account ∧ r.phone = phone
  | form id _ => ∃ r ∈ before.states, r.id = toString id ∧
      r.workspace = workspace ∧ r.account = account ∧ r.phone = phone

/-- Where a message comes from: it is the recovery message of the account that it is sent for, or a
node of a flow that the account `Runs` tells it, or a rule that it `Applies` answers the event with
it. -/
inductive Occasion.Source (before : Store) (env : Environment) (o : Occasion) (i : SendIntent) :
    Prop where
  | recovery {sn : Snapshot} (loaded : before.snapshot i.workspace i.account = .ok sn)
      (message : i.message = .text (sn.settings.recoveryText env.policy))
  | node {f : Flow} {n : Node} {c : Conversation} (runs : before.Runs i.workspace i.account f)
      (node : n ∈ f.nodes) (sent : c.intent i.message = i) (flow : c.flow = f.id)
      (told : n.kind.tells c = some i.message)
  | rule {e : Event} {r : Rule} {selected : Selected} (occasion : o = .event e)
      (applies : before.Applies i.workspace i.account r) (selects : e.Selects before env r selected)
      (answers : r.Answers env e selected.faq i.message)

/-- What is handed over on an occasion is addressed to the person that it is about (`Addresses`),
and comes from the account that it is sent for (`Source`). -/
structure Occasion.Addressed (before : Store) (env : Environment) (o : Occasion) (i : SendIntent) :
    Prop where
  person : o.Addresses before i.workspace i.account i.phone
  source : o.Source before env i

-- A conversation that an occasion meets is of the account that its flow is loaded for.
theorem Occasion.Tracks.account (h : o.Tracks before s) (keyed : before.Keyed)
    (hs : before.Owned) {c : Conversation} (held : s.Holds c) {f : Flow}
    (charted : before.Charts c.workspace (o.account c) f) (flow : f.id = c.flow) :
    o.account c = c.account := by
  obtain ⟨d, hd, hkept⟩ := held
  have hsame : d.Same c := .of_kept_eq hkept
  have howned := h.owned keyed hs _ hd
  have hrow : ((StateRow.ofConversation d).flow, (StateRow.ofConversation d).workspace,
      (StateRow.ofConversation d).account) = (toString c.flow, c.workspace, c.account) := by
    simp only [StateRow.ofConversation, hsame.flow, hsame.workspace, hsame.account]
  rw [hrow, h.flows, ← flow] at howned
  exact congrArg Prod.snd (keyed.owner_unique ((runs_of_charts charted).owner keyed) howned)

theorem Occasion.Tracks.addresses (h : o.Tracks before s) {c : Conversation} (held : s.Holds c)
    (meets : o.Meets c) (haccount : o.account c = c.account) :
    o.Addresses before c.workspace c.account c.phone := by
  obtain ⟨d, hd, hkept⟩ := held
  have hsame : d.Same c := .of_kept_eq hkept
  -- No conversation begins with a callback, so the row was there before.
  have hrow (hbegins : ¬ o.Begins before (.ofConversation d)) : ∃ r ∈ before.states,
      r.id = toString c.id ∧ r.workspace = c.workspace ∧ r.account = c.account ∧
        r.phone = c.phone := by
    obtain ⟨r, hr, hakin⟩ := (h.states _ hd).resolve_right hbegins
    refine ⟨r, hr, ?_, ?_, ?_, ?_⟩
    · rw [← hakin.id, ← hsame.id]
      rfl
    · rw [← hakin.workspace, ← hsame.workspace]
      rfl
    · rw [← hakin.account, ← hsame.account]
      rfl
    · rw [← hakin.phone, ← hsame.phone]
      rfl
  cases o with
  | event e => exact ⟨meets.1, haccount.symm, meets.2⟩
  | resume id =>
    obtain rfl : c.id = id := meets
    exact hrow fun h => h
  | form id fields =>
    obtain rfl : c.id = id := meets
    exact hrow fun h => h

-- What a deed hands over is addressed as it should be.
theorem Occasion.Tracks.handed {first : Nat} (h : o.Tracks before w.store) (keyed : before.Keyed)
    (hs : before.Owned) (hdeed : Deed events o before env first w w') :
    w'.exchanges = w.exchanges ∨
      ∃ x, w'.exchanges = x :: w.exchanges ∧ o.Addressed before env x.intent := by
  cases hdeed with
  | quiet idles => exact .inl idles.exchanges
  | send c m now _ live _ meets purpose =>
    refine .inr ⟨_, rfl, ?_⟩
    cases purpose with
    | @node f n _ stands told =>
      have haccount := h.account keyed hs live.held stands.charted stands.flow
      refine ⟨h.addresses live.held meets haccount, .node (c := c) ?_ ?_ rfl stands.flow.symm told⟩
      · have charted : before.Charts c.workspace c.account f := haccount ▸ stands.charted
        exact runs_of_charts charted
      · exact List.mem_of_find?_eq_some stands.node
    | @recovery f sn loaded charted flow =>
      have haccount := h.account keyed hs live.held ⟨sn, loaded, charted⟩ flow
      have hloaded : before.snapshot c.workspace c.account = .ok sn := haccount ▸ loaded
      exact ⟨h.addresses live.held meets haccount, .recovery hloaded rfl⟩
  | @reply r selected e m now _ _ _ occasion selects answers =>
    refine .inr ⟨_, rfl, ?_, .rule occasion selects.applies selects answers⟩
    rw [occasion]
    exact ⟨rfl, rfl, rfl⟩
  | _ => exact .inl rfl

theorem Occasion.handed_path {first : Nat} (keyed : w.store.Keyed) (hs : w.store.Owned)
    (h : (o.conduct events w.store env first).Path w w') :
    ∃ new, w'.exchanges = new ++ w.exchanges ∧ ∀ x ∈ new, o.Addressed w.store env x.intent := by
  induction h with
  | refl => exact ⟨[], rfl, fun x hx => absurd hx List.not_mem_nil⟩
  | tail hpath hdeed ih =>
    obtain ⟨new, hnew, haddressed⟩ := ih
    rcases (Tracks.path hpath).handed keyed hs hdeed with hsame | ⟨x, hx, hxaddressed⟩
    · exact ⟨new, hsame.trans hnew, haddressed⟩
    · exact ⟨x :: new, by rw [hx, hnew]; rfl, List.forall_mem_cons.mpr ⟨hxaddressed, haddressed⟩⟩

/-- What is done on an occasion serves the account that it concerns: every message is addressed to
its person and comes from its flows and rules, and no conversation begins in any other flow. -/
structure Occasion.Serves (o : Occasion) (env : Environment) (w w' : World) : Prop where
  handed : ∃ new, w'.exchanges = new ++ w.exchanges ∧
    ∀ x ∈ new, o.Addressed w.store (env.asOf w) x.intent
  states : ∀ r ∈ w'.store.states, (∃ r₀ ∈ w.store.states, r.Akin r₀) ∨ o.Begins w.store r

theorem Occasion.Happens.serves {outcome : Outcome} (h : o.Happens events env w outcome w')
    (keyed : w.store.Keyed) (hs : w.store.Owned) : o.Serves env w w' := by
  refine ⟨?_, h.tracks.states⟩
  cases h with
  | deeds path => exact handed_path keyed hs path
  | logs _ path logs =>
    obtain ⟨new, hnew, haddressed⟩ := handed_path keyed hs path
    obtain ⟨entry, s, _, _, _, _, _, _, _, _⟩ := logs
    exact ⟨new, hnew, haddressed⟩
  | keeps path _ keep =>
    obtain ⟨new, hnew, haddressed⟩ := handed_path keyed hs path
    cases keep with
    | rewind c found _ _ _ _ _ => exact ⟨new, hnew, haddressed⟩
    | postpone c _ _ _ _ _ _ => exact ⟨new, hnew, haddressed⟩

/-! ## 4. Runs -/

/-- What an operation does serves the account that it concerns. A tick reads the clock, looks up
conversations and calls for one after the other, and what is written between events hands over
nothing. -/
def Operation.Serves (env : Environment) (w w' : World) : Operation → Prop
  | handle e => (Occasion.event e).Serves env w w'
  | resume id => (Occasion.resume id).Serves env w w'
  | completeForm id fields => (Occasion.form id fields).Serves env w w'
  | tick => Relation.ReflTransGen (fun w w' => w' = w.reading.counting .dueStates ∨
      ∃ id, w' = (Autoresponder.resume id env w).2 ∧ (Occasion.resume id).Serves env w w') w w'
  | _ => w'.exchanges = w.exchanges ∧ w'.store.states = w.store.states

variable {op : Operation}

theorem Resumes.keyed (h : Resumes events env w w') (keyed : w.store.Keyed) :
    w'.store.Keyed :=
  h.happens.choose_spec.reach.keyed keyed

theorem Resumes.owned (h : Resumes events env w w') (keyed : w.store.Keyed)
    (hs : w.store.Owned) : w'.store.Owned :=
  h.happens.choose_spec.tracks.owned keyed hs

theorem serves_resumes (h : Relation.ReflTransGen (Resumes events env) w w')
    (keyed : w.store.Keyed) (hs : w.store.Owned) :
    (w'.store.Keyed ∧ w'.store.Owned) ∧ Operation.tick.Serves env w w' := by
  induction h with
  | refl => exact ⟨⟨keyed, hs⟩, .refl⟩
  | tail _ hresumes ih =>
    obtain ⟨⟨keyed₁, hs₁⟩, hserves⟩ := ih
    refine ⟨⟨hresumes.keyed keyed₁, hresumes.owned keyed₁ hs₁⟩, hserves.tail ?_⟩
    cases hresumes with
    | asks => exact .inl rfl
    | resumes id happens => exact .inr ⟨id, rfl, happens.serves keyed₁ hs₁⟩

theorem Operation.Happens.serves (h : op.Happens events env w w') (keyed : w.store.Keyed)
    (hs : w.store.Owned) : op.Serves env w w' := by
  cases h with
  | handle happens => exact happens.serves keyed hs
  | resume happens => exact happens.serves keyed hs
  | completeForm happens => exact happens.serves keyed hs
  | tick resumes => exact (serves_resumes resumes keyed hs).2
  | idle configures idles =>
    have hserves := And.intro idles.exchanges (congrArg Store.states idles.store)
    cases op with
    | putFlow f => exact hserves
    | setFlowStatus id status time => exact hserves
    | putRule r => exact hserves
    | putSettings workspace account settings => exact hserves
    | _ => exact configures.elim
  | configure configures idles configured =>
    have hserves := And.intro idles.exchanges configured.states
    cases op with
    | putFlow f => exact hserves
    | setFlowStatus id status time => exact hserves
    | putRule r => exact hserves
    | putSettings workspace account settings => exact hserves
    | _ => exact configures.elim

theorem Operation.Happens.owned (h : op.Happens events env w w') (keyed : w.store.Keyed)
    (hs : w.store.Owned) : w'.store.Owned := by
  cases h with
  | handle happens => exact happens.tracks.owned keyed hs
  | resume happens => exact happens.tracks.owned keyed hs
  | completeForm happens => exact happens.tracks.owned keyed hs
  | tick resumes => exact (serves_resumes resumes keyed hs).1.2
  | idle _ idles => exact idles.store ▸ hs
  | configure _ _ configured => exact configured.owned hs

end

theorem World.owned_after (run : Run) : ((World.start {}).after run).store.Owned := by
  induction run using List.reverseRecOn with
  | nil => exact fun r hr => absurd hr List.not_mem_nil
  | append_singleton run step ih =>
    rw [after_concat]
    exact (happens_perform (traced_after rfl run)).owned (keyed_after rfl (keyed_of_nil rfl) run) ih

/-- **Messages stay with their account.** Wherever a `run` has led that begins with an empty store,
whatever `op` hands over goes to the person of the event or of the conversation that is called for,
in their workspace and account. Unless it is the recovery message it comes from a flow or rule that
was stored for that workspace and account when the call began, was active, and in the case of a flow
could be walked; and no conversation begins in any other flow (`Operation.Serves`). -/
theorem messages_stay_with_account (run : Run) (env : Environment) (op : Operation) :
    op.Serves env ((World.start {}).after run) (((World.start {}).after run).perform env op) :=
  (World.happens_perform (World.traced_after rfl run)).serves
    (World.keyed_after rfl (keyed_of_nil rfl) run) (World.owned_after run)

end Autoresponder
