import Autoresponder.Proofs.Engine.Effect
import Autoresponder.Proofs.Selection.Precedence

/-!
# Statistics make no difference

How often a flow or a rule was used, and when, is kept with it, and is loaded with what an account
has to answer messages with. Nothing that the engine does goes by it.
-/

namespace Autoresponder

open Step

/-! ## 1. Flows and rules but for their statistics -/

def Flow.plain (f : Flow) : Flow := { f with triggerCount := 0, lastTriggered := none }

def Rule.plain (r : Rule) : Rule := { r with triggerCount := 0, lastTriggered := none }

def Candidate.plain : Candidate → Candidate
  | flow f => flow f.plain
  | rule r => rule r.plain

def Selected.plain (selected : Selected) : Selected :=
  { selected with candidate := selected.candidate.plain }

def Snapshot.plain (sn : Snapshot) : Snapshot :=
  { sn with flows := sn.flows.map Flow.plain, rules := sn.rules.map Rule.plain }

namespace Store

def FlowRow.plain (r : FlowRow) : FlowRow :=
  { r with triggerCount := .int 0, lastTriggered := none }

def RuleRow.plain (r : RuleRow) : RuleRow :=
  { r with triggerCount := .int 0, lastTriggered := none }

/-- A store but for the statistics that `countFlowStart` and `logFiring` write to flows and
rules. -/
def plain (s : Store) : Store :=
  { s with flows := s.flows.map FlowRow.plain, rules := s.rules.map RuleRow.plain }

end Store

/-! ## 2. Selection -/

namespace Snapshot

variable {sn : Snapshot} {m : Matcher} {q : Query}

theorem flow?_plain (sn : Snapshot) (id : Uuid) :
    sn.plain.flow? id = (sn.flow? id).map Flow.plain := by
  simp only [flow?, plain, List.find?_map]
  rfl

theorem candidates_plain (sn : Snapshot) :
    sn.plain.candidates = sn.candidates.map Candidate.plain := by
  have hbehind (a b : Candidate) : a.plain.notBehind b.plain = a.notBehind b := by
    cases a <;> cases b <;> rfl
  unfold candidates
  rw [List.map_mergeSort fun a _ b _ => (hbehind a b).symm]
  simp [plain, Function.comp_def, Candidate.plain]

-- Whether a candidate answers goes by its trigger, and so does what it asks.
theorem evaluate_plain (sn : Snapshot) (c : Candidate) (asked : List Lookup) :
    sn.plain.evaluate m q c.plain asked =
      (sn.evaluate m q c asked).map (Option.map Selected.plain) id := by
  have htrigger : c.plain.trigger = c.trigger := by cases c <;> rfl
  have hconfig : c.plain.config = c.config := by cases c <;> rfl
  have hanswer (kb : KnowledgeBase) (threshold : Decimal.Single) :
      sn.plain.answer? kb threshold q = sn.answer? kb threshold q := rfl
  have hsettings : sn.plain.settings = sn.settings := rfl
  unfold evaluate
  simp only [htrigger, hconfig, hanswer, hsettings]
  cases c.trigger with
  | welcome | away =>
    dsimp only
    split <;> rfl
  | command => cases c.config.matchCommand q.text <;> rfl
  | exactMatch => cases c.config.matchExact q.text <;> rfl
  | keyword => cases c.config.matchKeyword m.patterns q.text <;> rfl
  | faq =>
    cases m.knowledge with
    | none => rfl
    | some kb =>
      simp only [bind, StateT.bind]
      rcases sn.answer? kb (c.config.threshold.getD m.threshold) q asked with ⟨_ | _, _⟩ <;> rfl
  | anyMessage | aiChat | fallback => rfl

theorem selectFrom_plain (sn : Snapshot) (cs : List Candidate) (asked : List Lookup) :
    sn.plain.selectFrom m q (cs.map Candidate.plain) asked =
      (sn.selectFrom m q cs asked).map (Option.map Selected.plain) id := by
  induction cs generalizing asked with
  | nil => rfl
  | cons c rest ih =>
    rw [List.map_cons, selectFrom_cons, selectFrom_cons, evaluate_plain]
    rcases sn.evaluate m q c asked with ⟨_ | found, asked'⟩
    · exact ih asked'
    · rfl

theorem select_plain (sn : Snapshot) :
    sn.plain.select m q = (sn.select m q).map (Option.map Selected.plain) id := by
  rw [select, candidates_plain]
  exact sn.selectFrom_plain sn.candidates []

end Snapshot

/-! ## 3. Steps -/

namespace Flow

variable {f : Flow} {c : Conversation}

theorem execute_plain (f : Flow) (c : Conversation) (node : String) (version : Int) :
    f.plain.execute c node version = f.execute c node version := rfl

theorem passWithin_plain (f : Flow) (budget : Nat) (sofar : Pass) (c : Conversation) :
    f.plain.passWithin budget sofar c = f.passWithin budget sofar c := by
  induction budget generalizing sofar c with
  | zero => rfl
  | succ budget ih => simp only [passWithin, execute_plain, ih]

theorem runPass_plain (f : Flow) (c : Conversation) : f.plain.runPass c = f.runPass c := by
  unfold runPass
  simp only [passWithin_plain]

theorem begin_plain (f : Flow) (e : Event) : f.plain.begin e = f.begin e := by
  have hstart : f.plain.start? = f.start? := rfl
  have hid : f.plain.id = f.id := rfl
  simp only [Flow.begin, hstart, hid, runPass_plain]

theorem proceed_plain (f : Flow) (c : Conversation) : f.plain.proceed c = f.proceed c := by
  have hid : f.plain.id = f.id := rfl
  simp only [proceed, hid, runPass_plain]

theorem callbackPass_plain (f : Flow) (c : Conversation) (back : Option Return) :
    f.plain.callbackPass c back = f.callbackPass c back := by
  have hid : f.plain.id = f.id := rfl
  simp only [callbackPass, hid, runPass_plain]

theorem stepPast_plain (f : Flow) (c : Conversation) (node : String) :
    f.plain.stepPast c node = f.stepPast c node := by
  have hid : f.plain.id = f.id := rfl
  have hnext : f.plain.next? node = f.next? node := rfl
  simp only [stepPast, hid, hnext, callbackPass_plain]

end Flow

namespace Conversation

theorem takeReply_plain (c : Conversation) (sn : Snapshot) (f : Flow) (e : Event) :
    c.takeReply sn.plain f.plain e = c.takeReply sn f e := by
  have hcontinuation : f.plain.continuation? c.node e.button e.text =
      f.continuation? c.node e.button e.text := rfl
  have hsettings : sn.plain.settings = sn.settings := rfl
  simp only [takeReply, hcontinuation, hsettings, Flow.proceed_plain]

theorem takeEvent_plain (c : Conversation) (sn : Snapshot) (e : Event) :
    c.takeEvent sn.plain e = c.takeEvent sn e := by
  have hplace : ((sn.plain.flow? c.flow).bind fun f => (f.node? c.node).map fun n => (f, n)) =
      ((sn.flow? c.flow).bind fun f => (f.node? c.node).map fun n => (f, n)).map fun place =>
        (place.1.plain, place.2) := by
    rw [Snapshot.flow?_plain, Option.bind_map, Option.map_bind]
    congr 1
    funext f
    rw [Function.comp_apply, Function.comp_apply, Option.map_map]
    rfl
  simp only [takeEvent, hplace]
  cases (sn.flow? c.flow).bind fun f => (f.node? c.node).map fun n => (f, n) with
  | none => rfl
  | some place => simp only [Option.map_some, takeReply_plain, Flow.proceed_plain]

end Conversation

namespace Event

variable {e : Event} {sn : Snapshot}

theorem respond_plain (e : Event) (sn : Snapshot) (r : Rule) (faq : Option FaqAnswer) :
    e.respond sn.plain r.plain faq = e.respond sn r faq := by
  have hid : r.plain.id = r.id := rfl
  have hresponse : r.plain.response = r.response := rfl
  simp only [respond, hid, hresponse, Snapshot.flow?_plain]
  cases faq with
  | some answer => rfl
  | none =>
    cases r.response with
    | startFlow id =>
      dsimp only
      cases sn.flow? id with
      | none => rfl
      | some f => exact f.begin_plain e
    | _ => rfl

theorem fire_plain (e : Event) (sn : Snapshot) (r : Rule) (selected : Selected) :
    e.fire sn.plain r.plain selected.plain = e.fire sn r selected := by
  have hid : r.plain.id = r.id := rfl
  have hzone : sn.plain.settings = sn.settings := rfl
  have hlimit (conversation : String) (z : Zone) :
      r.plain.limitHit? conversation z = r.limitHit? conversation z := rfl
  have hfaq : selected.plain.faq = selected.faq := rfl
  have hkeyword : selected.plain.keyword = selected.keyword := rfl
  simp only [fire, hid, hzone, hlimit, hfaq, hkeyword, respond_plain]

theorem selected?_plain (e : Event) (sn : Snapshot) (env : Environment) (w : World) :
    e.selected? sn.plain env w =
      (((e.selected? sn env w).1).map Selected.plain, (e.selected? sn env w).2) := by
  simp only [selected?, Snapshot.select_plain]
  rfl

theorem answer_plain (e : Event) (sn : Snapshot) : e.answer sn.plain = e.answer sn := by
  funext env w
  unfold answer
  rw [run_ofAct_bind, run_ofAct_bind, selected?_plain]
  generalize e.selected? sn env w = result
  obtain ⟨found, w'⟩ := result
  cases found with
  | none => rfl
  | some selected =>
    obtain ⟨candidate, keyword, faq⟩ := selected
    cases candidate with
    | flow f => exact congrFun (congrFun (f.begin_plain e) env) _
    | rule r => exact congrFun (congrFun (e.fire_plain sn r ⟨.rule r, keyword, faq⟩) env) _

end Event

/-! ## 4. Stores -/

namespace Store

theorem FlowRow.read_plain (r : FlowRow) : r.plain.read = r.read.map Flow.plain :=
  r.read_counted (.int 0) none

-- The statistics of a rule have no part in the rest of it.
theorem RuleRow.read_plain (r : RuleRow) : r.plain.read = r.read.map Rule.plain := by
  have hresponse : r.plain.readResponse = r.readResponse := rfl
  have hid : r.plain.id = r.id := rfl
  have htrigger : r.plain.trigger = r.trigger := rfl
  have hconfig : r.plain.config = r.config := rfl
  simp only [read, hresponse, hid, htrigger, hconfig, bind, Except.bind, pure, Except.pure]
  cases readTrigger r.trigger with
  | error e => rfl
  | ok trigger =>
    cases r.readResponse with
    | error e => rfl
    | ok response =>
      cases readUuid r.id with
      | error e => rfl
      | ok id => cases readDocument 5 TriggerConfig.fromJson r.config <;> rfl

theorem readable_map {ρ α β : Type} {read : ρ → Except StoreError α}
    {read' : ρ → Except StoreError β} {change : ρ → ρ} {view : α → β}
    (h : ∀ r, read' (change r) = (read r).map view) (rows : List ρ) :
    readable read' (rows.map change) = (readable read rows).map view := by
  unfold readable
  rw [List.filterMap_map, List.map_filterMap]
  congr 1
  funext r
  rw [Function.comp_apply, h]
  cases read r <;> rfl

theorem activeFlows_plain (s : Store) (workspace account : String) :
    s.plain.activeFlows workspace account = (s.activeFlows workspace account).map Flow.plain := by
  have hsort (rows : List FlowRow) :
      (rows.mergeSort fun a b => inOrder a.priority a.created b.priority b.created).map
        FlowRow.plain = (rows.map FlowRow.plain).mergeSort fun a b =>
          inOrder a.priority a.created b.priority b.created :=
    List.map_mergeSort fun _ _ _ _ => rfl
  simp only [activeFlows, plain]
  rw [← readable_map FlowRow.read_plain, hsort, List.filter_map]
  rfl

theorem activeRules_plain (s : Store) (workspace account : String) :
    s.plain.activeRules workspace account = (s.activeRules workspace account).map Rule.plain := by
  have hsort (rows : List RuleRow) :
      (rows.mergeSort fun a b => inOrder a.priority a.created b.priority b.created).map
        RuleRow.plain = (rows.map RuleRow.plain).mergeSort fun a b =>
          inOrder a.priority a.created b.priority b.created :=
    List.map_mergeSort fun _ _ _ _ => rfl
  simp only [activeRules, plain]
  rw [← readable_map RuleRow.read_plain, hsort, List.filter_map]
  rfl

theorem snapshot_plain (s : Store) (workspace account : String) :
    s.plain.snapshot workspace account = (s.snapshot workspace account).map Snapshot.plain := by
  have hsettings : s.plain.settings? workspace account = s.settings? workspace account := rfl
  unfold snapshot
  rw [hsettings, activeFlows_plain, activeRules_plain]
  cases s.settings? workspace account with
  | error e => rfl
  | ok settings =>
    simp only [Except.map, Snapshot.ofAccount, Snapshot.plain, List.filter_map]
    rfl

end Store

end Autoresponder
