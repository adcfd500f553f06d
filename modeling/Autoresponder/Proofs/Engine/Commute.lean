import Autoresponder.Proofs.Engine.Apart
import Autoresponder.Proofs.Engine.Closed

/-!
# Work for different persons

What is done for one person is no business of another one's. Two pieces of work for different
persons can be done in either order, and so can the conversations be resumed that are due.
-/

namespace Autoresponder

open Store

/-! ## 1. Worlds that come to the same -/

/-- Two worlds have the same tables, but for the order of conversations and of firings, and the same
was handed over to every person (`World.ofPerson`). -/
structure World.Matches (w w' : World) : Prop where
  flows : w.store.flows = w'.store.flows
  rules : w.store.rules = w'.store.rules
  settings : w.store.settings = w'.store.settings
  states : w.store.states.Perm w'.store.states
  firings : w.store.firings.Perm w'.store.firings
  persons : ∀ workspace phone, w.ofPerson workspace phone = w'.ofPerson workspace phone

theorem Store.FlowRow.eq_of_plain {r r' : FlowRow} (h : r.plain = r'.plain)
    (hstatistic : r.statistic = r'.statistic) : r = r' := by
  cases r
  cases r'
  simp only [plain, statistic, FlowRow.mk.injEq, Statistic.mk.injEq] at h hstatistic ⊢
  simp only [h, hstatistic, and_self]

theorem Store.RuleRow.eq_of_plain {r r' : RuleRow} (h : r.plain = r'.plain)
    (hstatistic : r.statistic = r'.statistic) : r = r' := by
  cases r
  cases r'
  simp only [plain, statistic, RuleRow.mk.injEq, Statistic.mk.injEq] at h hstatistic ⊢
  simp only [h, hstatistic, and_self]

-- The conversations are the same if those of every person are.
theorem World.states_perm {w w' : World}
    (h : ∀ workspace phone, w.ofPerson workspace phone = w'.ofPerson workspace phone) :
    w.store.states.Perm w'.store.states := by
  let kind (key : String × String) (r : StateRow) : Bool :=
    r.workspace == key.1 && r.phone == key.2
  have hcovers (r : StateRow) : ∃ key, kind key r = true :=
    ⟨(r.workspace, r.phone), by simp only [kind, beq_self_eq_true, Bool.and_self]⟩
  exact perm_of_filter_eq hcovers fun key => congrArg Prod.fst (h key.1 key.2)

/-! ## 2. Two pieces of work -/

/-- Something to be done for a party, and the identifiers that are drawn for it. Whatever was done
before, new identifiers are its own. -/
structure Work where
  occasion : Occasion
  party : Party
  ids : Nat → Uuid

namespace Work

/-- Where a piece of work draws its own identifiers. -/
def environment (k : Work) (env : Environment) : Environment := { env with freshId := k.ids }

def run (k : Work) : Act Outcome := fun env w =>
  k.occasion.act (k.environment env) { w with drawn := 0 }

/-- In a world a piece of work is for its party (`Occasion.For`). -/
def Fits (k : Work) (env : Environment) (w : World) : Prop :=
  k.occasion.For k.party (k.environment env) w

/-- Two pieces of work are apart: they are for different parties, and neither draws an identifier
that the other one draws or calls for. -/
structure Apart (k l : Work) : Prop where
  party : k.party.Apart l.party
  drawn : ∀ n m, k.ids n ≠ l.ids m
  called : ∀ n, k.occasion.conversation? ≠ some (l.ids n)
  called' : ∀ n, l.occasion.conversation? ≠ some (k.ids n)

theorem Apart.symm {k l : Work} (h : k.Apart l) : l.Apart k where
  party := h.party.symm
  drawn n m := (h.drawn m n).symm
  called := h.called'
  called' := h.called

/-- Two pieces of work commute. Neither has another outcome for the other one having been done
before, and in either order they lead to the same. -/
structure Commute (k l : Work) (env : Environment) (w : World) : Prop where
  first : (k.run env (l.run env w).2).1 = (k.run env w).1
  second : (l.run env (k.run env w).2).1 = (l.run env w).1
  worlds : (l.run env (k.run env w).2).2.Matches (k.run env (l.run env w).2).2

section

variable {env : Environment} {k l : Work} {w w' : World} {o : Output}

-- Where its party sees the same a piece of work comes to the same.
theorem alike_run (smooth : env.Smooth) (forgetful : env.sender.Forgetful)
    (h : k.Fits env w) (h' : k.Fits env w') (keys : Keys StateRow.id w.store.states)
    (keys' : Keys StateRow.id w'.store.states)
    (seen : w.store.seen k.party = w'.store.seen k.party) :
    (k.run env w).1 = (k.run env w').1 ∧ World.Alike k.party (k.environment env)
      { w with drawn := 0 } { w' with drawn := 0 } (k.run env w).2 (k.run env w').2 := by
  have hsmooth : (k.environment env).Smooth := smooth
  have hfor : k.occasion.For k.party (k.environment env) { w with drawn := 0 } := h
  have hfor' : k.occasion.For k.party (k.environment env) { w' with drawn := 0 } := h'
  exact Occasion.alike_apart hsmooth forgetful hfor hfor' keys keys' seen rfl

-- A piece of work is for its party after the other one was done.
theorem Fits.after (h : l.Fits env w) (apart : k.Apart l)
    (haside : World.Aside k.party (k.environment env) o { w with drawn := 0 } w') :
    l.Fits env w' := by
  have hcalled {id : Uuid} (hid : l.occasion.conversation? = some id) :
      ¬ k.party.Draws (k.environment env) id := by
    rintro ⟨-, n, rfl⟩
    exact apart.called' n hid
  have hdrawn (n : Nat) : ¬ k.party.Draws (k.environment env) (l.ids n) := by
    rintro ⟨-, m, hm⟩
    exact apart.drawn m n hm
  unfold Fits at h ⊢
  cases hoccasion : l.occasion with
  | event e =>
    rw [hoccasion] at h
    exact ⟨h.1, fun n => haside.store.new (h.2 n) (hdrawn n)⟩
  | resume id =>
    rw [hoccasion] at h hcalled
    exact haside.store.grants_of apart.party h (hcalled rfl)
  | form id fields =>
    rw [hoccasion] at h hcalled
    exact haside.store.grants_of apart.party h (hcalled rfl)

end

end Work

section

variable {p q : Party} {env env' : Environment} {w wk wl wkl wlk : World}

-- What is done for one party before that for another one is the same as what is done after it.

theorem World.persons_of_alike (apart : p.Apart q)
    (hp : World.Alike p env { w with drawn := 0 } { wl with drawn := 0 } wk wlk)
    (hq : World.Alike q env' { w with drawn := 0 } { wk with drawn := 0 } wl wkl)
    (workspace phone : String) : wkl.ofPerson workspace phone = wlk.ofPerson workspace phone := by
  obtain ⟨o, ofor, hk, hlk⟩ := hp.output
  obtain ⟨o', ofor', hl, hkl⟩ := hq.output
  by_cases hperson : workspace = p.workspace ∧ phone = p.phone
  · obtain ⟨rfl, rfl⟩ := hperson
    calc wkl.ofPerson p.workspace p.phone
      _ = wk.ofPerson p.workspace p.phone := hkl.ofPerson ofor' apart.person
      _ = wlk.ofPerson p.workspace p.phone := hp.ofPerson (hl.ofPerson ofor' apart.person).symm
  · have hwlk : wlk.ofPerson workspace phone = wl.ofPerson workspace phone :=
      hlk.ofPerson ofor hperson
    by_cases hother : workspace = q.workspace ∧ phone = q.phone
    · obtain ⟨rfl, rfl⟩ := hother
      exact (hq.ofPerson (hk.ofPerson ofor hperson).symm).symm.trans hwlk.symm
    · calc wkl.ofPerson workspace phone
        _ = wk.ofPerson workspace phone := hkl.ofPerson ofor' hother
        _ = w.ofPerson workspace phone := hk.ofPerson ofor hperson
        _ = wl.ofPerson workspace phone := (hl.ofPerson ofor' hother).symm
        _ = wlk.ofPerson workspace phone := hwlk.symm

theorem World.firings_of_alike (apart : p.Apart q)
    (hp : World.Alike p env { w with drawn := 0 } { wl with drawn := 0 } wk wlk)
    (hq : World.Alike q env' { w with drawn := 0 } { wk with drawn := 0 } wl wkl)
    (chat : String) : wkl.store.firings.filter (·.conversation == chat) =
      wlk.store.firings.filter (·.conversation == chat) := by
  have hsame {p : Party} {s s' : Store} (hchat : p.chat = some chat)
      (hseen : s.seen p = s'.seen p) :
      s.firings.filter (·.conversation == chat) = s'.firings.filter (·.conversation == chat) := by
    have hlogs : p.logs = fun r => r.conversation == chat := by
      funext r
      rw [Party.logs, hchat, Bool.eq_iff_iff, beq_iff_eq, beq_iff_eq, Option.some.injEq, eq_comm]
    rw [← hlogs]
    exact congrArg Store.firings hseen
  obtain ⟨o, ofor, hk, hlk⟩ := hp.output
  obtain ⟨o', ofor', hl, hkl⟩ := hq.output
  by_cases hchat : p.chat = some chat
  · exact (hkl.store.firings_in (apart.chat _ hchat)).trans (hsame hchat hp.seen)
  · have hwlk := hlk.store.firings_in hchat
    by_cases hother : q.chat = some chat
    · exact (hsame hother hq.seen).symm.trans hwlk.symm
    · exact (hkl.store.firings_in hother).trans ((hk.store.firings_in hchat).trans
        ((hl.store.firings_in hother).symm.trans hwlk.symm))

theorem World.matches_of_alike (apart : p.Apart q) (hnow : env.now = env'.now)
    (hp : World.Alike p env { w with drawn := 0 } { wl with drawn := 0 } wk wlk)
    (hq : World.Alike q env' { w with drawn := 0 } { wk with drawn := 0 } wl wkl) :
    wkl.Matches wlk := by
  have hpersons := persons_of_alike apart hp hq
  have hfirings := firings_of_alike apart hp hq
  obtain ⟨o, ofor, hk, hlk⟩ := hp.output
  obtain ⟨o', ofor', hl, hkl⟩ := hq.output
  obtain ⟨hflows, hrules, hsettings⟩ := hk.store.plain
  obtain ⟨hflows', hrules', hsettings'⟩ := hkl.store.plain
  obtain ⟨gflows, grules, gsettings⟩ := hl.store.plain
  obtain ⟨gflows', grules', gsettings'⟩ := hlk.store.plain
  refine ⟨?_, ?_, ?_, states_perm hpersons, ?_, hpersons⟩
  · refine eq_of_map_eq (fun _ _ => FlowRow.eq_of_plain) ?_ ?_
    · rw [hflows', hflows, gflows', gflows]
    · rw [hkl.store.flows, hk.store.flows, hlk.store.flows, hl.store.flows, hnow]
      exact Statistic.map_afterAll_comm _ _ _ _
  · refine eq_of_map_eq (fun _ _ => RuleRow.eq_of_plain) ?_ ?_
    · rw [hrules', hrules, grules', grules]
    · rw [hkl.store.rules, hk.store.rules, hlk.store.rules, hl.store.rules, hnow]
      exact Statistic.map_afterAll_comm _ _ _ _
  · rw [hsettings', hsettings, gsettings', gsettings]
  · have hcovers (r : FiringRow) : ∃ chat, (r.conversation == chat) = true :=
      ⟨r.conversation, beq_self_eq_true _⟩
    exact perm_of_filter_eq hcovers hfirings

end

/-- Two pieces of work that are `apart` commute. -/
theorem Work.Apart.commute {env : Environment} {w : World} (smooth : env.Smooth)
    (forgetful : env.sender.Forgetful) (keys : Keys StateRow.id w.store.states) {k l : Work}
    (apart : k.Apart l) (hk : k.Fits env w) (hl : l.Fits env w) : k.Commute l env w := by
  -- Each is done alone, and that shows what the other one finds afterwards.
  obtain ⟨-, -, -, o, -, hkalone, -⟩ := alike_run smooth forgetful hk hk keys keys rfl
  obtain ⟨-, -, -, o', -, hlalone, -⟩ := alike_run smooth forgetful hl hl keys keys rfl
  obtain ⟨hfirst, hkalike⟩ := alike_run smooth forgetful hk (hk.after apart.symm hlalone) keys
    hlalone.store.keys (hlalone.store.seen apart.party.symm).symm
  obtain ⟨hsecond, hlalike⟩ := alike_run smooth forgetful hl (hl.after apart hkalone) keys
    hkalone.store.keys (hkalone.store.seen apart.party).symm
  have hnow : (k.environment env).now = (l.environment env).now := rfl
  exact ⟨hfirst.symm, hsecond.symm, World.matches_of_alike apart.party hnow hkalike hlalike⟩

/-! ## 3. Conversations that are due -/

def Conversation.party (c : Conversation) : Party := ⟨c.workspace, c.phone, none⟩

def Outcome.advanced : Outcome → Bool
  | flowAdvanced _ _ _ => true
  | _ => false

namespace Store

variable {s : Store} {now : Instant}

-- What is due is its person's.
theorem grants_of_dueStates (keys : Keys StateRow.id s.states) {c : Conversation}
    (h : c ∈ s.dueStates now) : s.Grants c.party c.id := by
  obtain ⟨r, hr, -, hread⟩ := mem_dueStates.mp h
  obtain ⟨hid, hworkspace, hphone, -⟩ := StateRow.readUuid_of_read hread
  exact keys.grants hr (keys.eq_toString hr hid)
    (Party.owns_iff.mpr ⟨hworkspace.symm, hphone.symm⟩)

-- Conversations that are due are with different persons.
theorem pairwise_dueStates (keys : Keys StateRow.id s.states)
    (single : ∀ workspace phone, s.Single workspace phone) (now : Instant) :
    (s.dueStates now).Pairwise fun c d => c.party.Apart d.party := by
  have hnodup : s.states.Nodup := keys.distinct.of_map
  unfold dueStates readable
  rw [List.pairwise_filterMap]
  refine List.Nodup.pairwise_of_forall_ne ((List.mergeSort_perm _ _).nodup_iff.mpr
    (hnodup.filter _)) fun r hr r' hr' hne c hread d hread' => ⟨fun hsame => hne ?_, nofun⟩
  obtain ⟨hmem, hdue⟩ := List.mem_filter.mp (List.mem_mergeSort.mp hr)
  obtain ⟨hmem', hdue'⟩ := List.mem_filter.mp (List.mem_mergeSort.mp hr')
  rw [Bool.and_eq_true, beq_iff_eq] at hdue hdue'
  have hok {r : StateRow} {c : Conversation} (h : r.read.toOption = some c) : r.read = .ok c := by
    cases hr : r.read <;> simp_all [Except.toOption]
  obtain ⟨-, hworkspace, hphone, -⟩ := StateRow.readUuid_of_read (hok hread)
  obtain ⟨-, hworkspace', hphone', -⟩ := StateRow.readUuid_of_read (hok hread')
  refine single c.workspace c.phone r hmem r' hmem' ?_ ?_
  · simp only [isActiveFor, hworkspace, hphone, hdue.1, beq_self_eq_true, Bool.and_self]
  · simp only [isActiveFor, ← hworkspace', ← hphone', hdue'.1]
    rw [Bool.and_eq_true, Bool.and_eq_true, beq_iff_eq, beq_iff_eq]
    exact ⟨⟨hsame.1.symm, hsame.2.symm⟩, rfl⟩

end Store

/-- From the world `w` the conversations `cs` were resumed one after the other, and `n` of them went
on. Each went as it would go from `v` if it were the only one, and for everybody else nothing has
happened. -/
structure World.Resumed (env : Environment) (cs : List Conversation) (v w : World) (n : Nat)
    (w' : World) : Prop where
  count : n = cs.countP fun c => (resume c.id env v).1.advanced
  due : ∀ c ∈ cs, w'.ofPerson c.workspace c.phone =
    (resume c.id env v).2.ofPerson c.workspace c.phone
  others : ∀ workspace phone, (∀ c ∈ cs, ¬ (workspace = c.workspace ∧ phone = c.phone)) →
    w'.ofPerson workspace phone = w.ofPerson workspace phone
  store : w'.store = { w.store with states := w'.store.states }

-- Without a chat nothing but conversations changes.
theorem World.Aside.still {p : Party} {env : Environment} {o : Output} {b w : World}
    (h : World.Aside p env o b w) (ofor : o.For p) (hchat : p.chat = none) :
    w.store = { b.store with states := w.store.states } ∧ w.drawn = b.drawn := by
  obtain ⟨hstarts, hhits, hdrawn⟩ := ofor.still hchat
  obtain ⟨hflows, hrules, hsettings⟩ := h.store.plain
  have hafter (rows : List Statistic) : rows.map (Statistic.afterAll env.now.stored []) = rows :=
    List.map_id _
  have hfirings (s : Store) : s.firings.filter (!p.logs ·) = s.firings := by
    refine List.filter_eq_self.mpr fun r _ => ?_
    rw [Party.logs, hchat]
    rfl
  have hlogged : w.store.firings.filter (!p.logs ·) = b.store.firings.filter (!p.logs ·) :=
    congrArg Store.firings h.store.unseen
  rw [hfirings, hfirings] at hlogged
  have hflows' := h.store.flows
  have hrules' := h.store.rules
  rw [hstarts, hafter] at hflows'
  rw [hhits, hafter] at hrules'
  have hflow : w.store.flows = b.store.flows :=
    eq_of_map_eq (fun _ _ => FlowRow.eq_of_plain) hflows hflows'
  have hrule : w.store.rules = b.store.rules :=
    eq_of_map_eq (fun _ _ => RuleRow.eq_of_plain) hrules hrules'
  refine ⟨?_, by rw [h.drawn, hdrawn, Nat.add_zero]⟩
  dsimp only
  rw [← hflow, ← hrule, ← hlogged, ← hsettings]

section

variable {env : Environment} {v w : World}

-- One is resumed before the others.
theorem run_resumeAll_cons (c : Conversation) (rest : List Conversation) (env : Environment)
    (w : World) : resumeAll (c :: rest) env w =
      ((resumeAll rest env (resume c.id env w).2).1 + (if (resume c.id env w).1.advanced then 1
        else 0), (resumeAll rest env (resume c.id env w).2).2) := by
  rw [resumeAll, Act.run_bind, Act.run_bind]
  cases (resume c.id env w).1 <;> rfl

theorem alike_resume (smooth : env.Smooth) (forgetful : env.sender.Forgetful) {p : Party}
    {id : Uuid} (h : v.store.Grants p id) (h' : w.store.Grants p id)
    (keys : Keys StateRow.id v.store.states) (keys' : Keys StateRow.id w.store.states)
    (seen : v.store.seen p = w.store.seen p) (drawn : v.drawn = w.drawn) :
    (resume id env v).1 = (resume id env w).1 ∧
      World.Alike p env v w (resume id env v).2 (resume id env w).2 := by
  have ho : (Occasion.resume id).For p env v := h
  have ho' : (Occasion.resume id).For p env w := h'
  exact Occasion.alike_apart smooth forgetful ho ho' keys keys' seen drawn

/-- By `resumeAll` conversations with different persons are resumed as if each were the only one. -/
theorem resumed_resumeAll (smooth : env.Smooth) (forgetful : env.sender.Forgetful)
    (cs : List Conversation) (apart : cs.Pairwise fun c d => c.party.Apart d.party)
    (keys : Keys StateRow.id v.store.states) (keys' : Keys StateRow.id w.store.states)
    (grants : ∀ c ∈ cs, v.store.Grants c.party c.id ∧ w.store.Grants c.party c.id)
    (seen : ∀ c ∈ cs, v.store.seen c.party = w.store.seen c.party ∧
      v.ofPerson c.workspace c.phone = w.ofPerson c.workspace c.phone)
    (drawn : v.drawn = w.drawn) :
    World.Resumed env cs v w (resumeAll cs env w).1 (resumeAll cs env w).2 := by
  induction cs generalizing w with
  | nil => exact ⟨rfl, fun _ hc => absurd hc List.not_mem_nil, fun _ _ _ => rfl, rfl⟩
  | cons c rest ih =>
    obtain ⟨hapart, hpairwise⟩ := List.pairwise_cons.mp apart
    obtain ⟨hgrants, hgrants'⟩ := grants c List.mem_cons_self
    obtain ⟨hseen, hperson⟩ := seen c List.mem_cons_self
    obtain ⟨houtcome, hlike⟩ := alike_resume smooth forgetful hgrants hgrants' keys keys' hseen
      drawn
    obtain ⟨o, ofor, -, haside⟩ := hlike.output
    obtain ⟨hstore, hdrawn⟩ := haside.still ofor rfl
    have hother {workspace phone : String} (h : ¬ (workspace = c.workspace ∧ phone = c.phone)) :
        (resume c.id env w).2.ofPerson workspace phone = w.ofPerson workspace phone :=
      haside.ofPerson ofor h
    have hperson' {d : Conversation} (hd : d ∈ rest) :
        ¬ (d.workspace = c.workspace ∧ d.phone = c.phone) := fun h =>
      (hapart d hd).person ⟨h.1.symm, h.2.symm⟩
    have hgranted (d : Conversation) (hd : d ∈ rest) : v.store.Grants d.party d.id ∧
        (resume c.id env w).2.store.Grants d.party d.id := by
      obtain ⟨hgrant, hgrant'⟩ := grants d (List.mem_cons_of_mem _ hd)
      exact ⟨hgrant, haside.store.grants_of (hapart d hd) hgrant' fun h => h.1 rfl⟩
    have hsame (d : Conversation) (hd : d ∈ rest) :
        v.store.seen d.party = (resume c.id env w).2.store.seen d.party ∧
          v.ofPerson d.workspace d.phone =
            (resume c.id env w).2.ofPerson d.workspace d.phone := by
      obtain ⟨hseen, hperson⟩ := seen d (List.mem_cons_of_mem _ hd)
      exact ⟨hseen.trans (haside.store.seen (hapart d hd)).symm,
        hperson.trans (hother (hperson' hd)).symm⟩
    have hrest := ih hpairwise haside.store.keys hgranted hsame (drawn.trans hdrawn.symm)
    rw [run_resumeAll_cons]
    refine ⟨?_, ?_, ?_, ?_⟩
    · rw [List.countP_cons, houtcome, hrest.count]
    · refine List.forall_mem_cons.mpr ⟨?_, hrest.due⟩
      rw [hrest.others _ _ fun d hd h => hperson' hd ⟨h.1.symm, h.2.symm⟩]
      exact (hlike.ofPerson hperson).symm
    · intro workspace phone hnone
      obtain ⟨hfirst, hlater⟩ := List.forall_mem_cons.mp hnone
      rw [hrest.others workspace phone hlater, hother hfirst]
    · refine hrest.store.trans ?_
      dsimp only
      rw [hstore]

-- In which order conversations are resumed makes no difference.
theorem World.Resumed.matches_of_perm {cs cs' : List Conversation} {n n' : Nat} {w' w'' : World}
    (h : World.Resumed env cs v w n w') (h' : World.Resumed env cs' v w n' w'')
    (perm : cs.Perm cs') : n = n' ∧ w'.Matches w'' := by
  have hpersons (workspace phone : String) :
      w'.ofPerson workspace phone = w''.ofPerson workspace phone := by
    by_cases hdue : ∃ c ∈ cs, workspace = c.workspace ∧ phone = c.phone
    · obtain ⟨c, hc, rfl, rfl⟩ := hdue
      exact (h.due c hc).trans (h'.due c (perm.mem_iff.mp hc)).symm
    · have hnone (c : Conversation) (hc : c ∈ cs) :
          ¬ (workspace = c.workspace ∧ phone = c.phone) := fun hsame => hdue ⟨c, hc, hsame⟩
      exact (h.others _ _ hnone).trans
        (h'.others _ _ fun c hc => hnone c (perm.mem_iff.mpr hc)).symm
  refine ⟨?_, ?_⟩
  · rw [h.count, h'.count, perm.countP_eq]
  · have hfirings : w'.store.firings = w''.store.firings := by rw [h.store, h'.store]
    exact ⟨by rw [h.store, h'.store], by rw [h.store, h'.store], by rw [h.store, h'.store],
      states_perm hpersons, .of_eq hfirings, hpersons⟩

-- What is due is looked up and resumed.
theorem run_tick (smooth : env.Smooth) (w : World) : tick env w =
    resumeAll (w.store.dueStates env.now) env (w.reading.counting .dueStates) := by
  have hasked : Calls.dueStates env.now env w.reading =
      (.ok (w.store.dueStates env.now), w.reading.counting .dueStates) :=
    Step.run_ask smooth.faultless rfl
  have hdue : (Step.attempt (Step.timed do Calls.dueStates (← Step.now))) env w =
      (.ok (w.store.dueStates env.now), w.reading.counting .dueStates) := by
    unfold Step.attempt Step.timed
    rw [smooth.still.asOf]
    exact hasked
  simp only [tick]
  rw [Act.run_bind, hdue]

theorem resumed_tick (smooth : env.Smooth) (forgetful : env.sender.Forgetful)
    (keys : Keys StateRow.id w.store.states)
    (single : ∀ workspace phone, w.store.Single workspace phone) :
    World.Resumed env (w.store.dueStates env.now) w w (tick env w).1 (tick env w).2 := by
  have hgrants (c : Conversation) (hc : c ∈ w.store.dueStates env.now) :
      w.store.Grants c.party c.id := grants_of_dueStates keys hc
  have hresumed := resumed_resumeAll (v := w) (w := w.reading.counting .dueStates) smooth
    forgetful _ (pairwise_dueStates keys single env.now) keys keys
    (fun c hc => ⟨hgrants c hc, hgrants c hc⟩) (fun _ _ => ⟨rfl, rfl⟩) rfl
  rw [run_tick smooth]
  exact ⟨hresumed.count, hresumed.due, hresumed.others, hresumed.store⟩

end

/-! ## 4. The order of work -/

/-- **Work for different persons commutes.** At one instant (`Smooth`) and with a sender that judges
each message by itself (`Sender.Forgetful`), in a store in which an identifier names one
conversation (`keys`) and a person has at most one that is active (`single`):

Two pieces of work that are `Work.Apart` - events, conversations that are resumed and forms that are
filled in, for different persons and, if they are events, in different chats - have the same
outcomes in either order, hand over the same to each person, and leave the same tables
(`World.Matches`), whatever new identifiers each of them draws.

Conversations that are due may be resumed in any `order`. What comes of one is what would come of it
if it were the only one (`World.Resumed`), whether or not others fail. -/
theorem work_commutes {env : Environment} {w : World} (smooth : env.Smooth)
    (forgetful : env.sender.Forgetful) (keys : Keys StateRow.id w.store.states)
    (single : ∀ workspace phone, w.store.Single workspace phone) :
    (∀ k l : Work, k.Apart l → k.Fits env w → l.Fits env w → k.Commute l env w) ∧
      World.Resumed env (w.store.dueStates env.now) w w (tick env w).1 (tick env w).2 ∧
      ∀ order : List Conversation, order.Perm (w.store.dueStates env.now) →
        (tick env w).1 = (resumeAll order env w).1 ∧
          (tick env w).2.Matches (resumeAll order env w).2 := by
  have htick := resumed_tick smooth forgetful keys single
  refine ⟨fun k l apart hk hl => apart.commute smooth forgetful keys hk hl, htick,
    fun order perm => ?_⟩
  have hgrants (c : Conversation) (hc : c ∈ order) : w.store.Grants c.party c.id :=
    grants_of_dueStates keys (perm.mem_iff.mp hc)
  have hapart : order.Pairwise fun c d => c.party.Apart d.party :=
    perm.symm.pairwise (pairwise_dueStates keys single env.now) fun h => h.symm
  have horder := resumed_resumeAll (v := w) (w := w) smooth forgetful order hapart keys keys
    (fun c hc => ⟨hgrants c hc, hgrants c hc⟩) (fun _ _ => ⟨rfl, rfl⟩) rfl
  exact htick.matches_of_perm horder perm.symm

/-- Two persons are greeted by `Flow.greeting`. -/
def Run.bothGreeted : Run :=
  Run.greeting ++
    [(.calm (.ofSeconds 0), .handle { Event.hello with conversation := "other", phone := "556" })]

/-- A third person writes, who is none of `Run.bothGreeted`. -/
def Work.written : Work where
  occasion := .event { Event.hello with conversation := "third", phone := "557" }
  party := ⟨"shop", "557", some "third"⟩
  ids _ := .ofNat 7

/-- The delay is over for the first person of `Run.bothGreeted`. -/
def Work.resumed : Work where
  occasion := .resume (.ofNat 0)
  party := ⟨"shop", "555", none⟩
  ids _ := .ofNat 8

/-- After a minute the two persons of `Run.bothGreeted` are asked again, in either order, while a
third one writes (`Work.written`). -/
theorem work_commutes_greetings :
    ∃ w due, w = (World.start {}).after Run.bothGreeted ∧
      due = w.store.dueStates (.ofSeconds 60) ∧ due.length = 2 ∧
      Work.written.Commute .resumed (.calm (.ofSeconds 60)) w ∧
      (tick (.calm (.ofSeconds 60)) w).2.Matches
        (resumeAll due.reverse (.calm (.ofSeconds 60)) w).2 := by
  have hs : ((World.start {}).after Run.bothGreeted).store.Consistent :=
    (World.traced_after rfl _).consistent
  have smooth : (Environment.calm (.ofSeconds 60)).Smooth := ⟨fun _ _ => rfl, fun _ => rfl⟩
  have forgetful : (Environment.calm (.ofSeconds 60)).sender.Forgetful := fun _ _ _ => rfl
  obtain ⟨hpair, -, htick⟩ := work_commutes smooth forgetful hs.keys hs.single_for
  have hdrawn : Uuid.ofNat 7 ≠ .ofNat 8 := by decide
  have hcalled : (Occasion.resume (.ofNat 0)).conversation? ≠ some (.ofNat 7) := by decide
  have hapart : Work.written.Apart .resumed :=
    ⟨⟨by decide, fun _ _ => nofun⟩, fun _ _ => hdrawn, fun _ => nofun, fun _ => hcalled⟩
  have hnew : toString (Uuid.ofNat 7) ∉ ((World.start {}).after Run.bothGreeted).store.names := by
    decide +kernel
  have hgrants : ∀ r ∈ ((World.start {}).after Run.bothGreeted).store.states,
      r.id = toString (Uuid.ofNat 0) → Party.owns ⟨"shop", "555", none⟩ r = true := by
    decide +kernel
  have hcount : (((World.start {}).after Run.bothGreeted).store.dueStates (.ofSeconds 60)).length =
      2 := by
    -- Sorting does not compute, and keeps the number.
    refine ((List.mergeSort_perm _ _).filterMap _).length_eq.trans ?_
    decide +kernel
  have hwritten : Work.written.Fits (.calm (.ofSeconds 60))
      ((World.start {}).after Run.bothGreeted) := ⟨⟨rfl, rfl, rfl⟩, fun _ => hnew⟩
  exact ⟨_, _, rfl, rfl, hcount, hpair _ _ hapart hwritten hgrants,
    (htick _ (List.reverse_perm _)).2⟩

end Autoresponder
