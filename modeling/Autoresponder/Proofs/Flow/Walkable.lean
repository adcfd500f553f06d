import Autoresponder.Proofs.Flow.Graph
import Mathlib.Data.List.Nodup

/-!
# Graphs that can be walked

A graph is accepted exactly if its nodes have different names, one of them is the start, every edge
joins two of them, and at most one edge leads away from a node without buttons. A graph that is
refused has the problem that it is refused for. In a graph that is accepted a conversation begins at
the only start, goes on from a node without buttons along its only edge, and is never led to a name
without a node.
-/

namespace Autoresponder

def Node.Offers (n : Node) : Prop :=
  ∃ prompt bs variableName, n.kind = .buttons prompt bs variableName

/-- How many edges lead away from a name. Edges that join the same nodes count each. -/
def Flow.leaving (f : Flow) (id : String) : Nat := f.edges.countP (·.source = id)

/-- A graph that can be walked. `accepts_walkable` has it for what `Flow.validate` accepts. -/
structure Flow.Walkable (f : Flow) : Prop where
  distinct : (f.nodes.map (·.id)).Nodup
  start : f.nodes.countP (·.kind = .trigger) = 1
  joined : ∀ x ∈ f.edges, (∃ n ∈ f.nodes, n.id = x.source) ∧ ∃ n ∈ f.nodes, n.id = x.target
  narrow : ∀ n ∈ f.nodes, ¬ n.Offers → f.leaving n.id ≤ 1

/-- A graph has the problem that `GraphProblem.message` tells of. -/
def GraphProblem.Afflicts (f : Flow) : GraphProblem → Prop
  | duplicateNode id => 1 < (f.nodes.map (·.id)).count id
  | starts count => f.nodes.countP (·.kind = .trigger) = count ∧ count ≠ 1
  | unknownNode id => (∃ x ∈ f.edges, x.source = id ∨ x.target = id) ∧ ∀ n ∈ f.nodes, n.id ≠ id
  | fanOut kind id count => ⟨id, kind⟩ ∈ f.nodes ∧ ¬ Node.Offers ⟨id, kind⟩ ∧
      f.leaving id = count ∧ 1 < count

/-! ## 1. Kinds and names -/

theorem NodeKind.isTrigger_iff {kind : NodeKind} : kind.isTrigger = true ↔ kind = .trigger := by
  cases kind <;> simp [isTrigger]

theorem Node.isButtons_iff {n : Node} : n.kind.isButtons = true ↔ n.Offers := by
  obtain ⟨id, kind⟩ := n
  cases kind <;> simp [NodeKind.isButtons, Offers]

namespace Flow

variable {f : Flow} {p : GraphProblem} {id : String}

theorem countP_isTrigger (f : Flow) :
    (f.nodes.filter (·.kind.isTrigger)).length = f.nodes.countP (·.kind = .trigger) := by
  rw [← List.countP_eq_length_filter]
  exact List.countP_congr fun n _ => by simp [NodeKind.isTrigger_iff]

theorem length_outgoing (f : Flow) (id : String) : (f.outgoing id).length = f.leaving id := by
  rw [outgoing, leaving, ← List.countP_eq_length_filter]
  exact List.countP_congr fun x _ => by simp

theorem hasNode_iff : f.hasNode id = true ↔ ∃ n ∈ f.nodes, n.id = id := by
  simp [hasNode]

-- The names before a place stand in reverse, so they are only counted.
theorem firstRepeated_eq_some {before ids : List String} (h : firstRepeated before ids = some id) :
    1 < (before ++ ids).count id := by
  induction ids generalizing before with
  | nil => cases h
  | cons first rest ih =>
    unfold firstRepeated at h
    split at h
    · rename_i hbefore
      cases h
      have hpos : 0 < before.count id := List.count_pos_iff.mpr (by simpa using hbefore)
      rw [List.count_append, List.count_cons_self]
      omega
    · have hrest := ih h
      rwa [List.cons_append, (List.perm_middle (a := first)).symm.count_eq] at hrest

theorem firstRepeated_eq_none {before ids : List String} (h : firstRepeated before ids = none) :
    ids.Nodup ∧ ∀ id ∈ ids, id ∉ before := by
  induction ids generalizing before with
  | nil => exact ⟨List.nodup_nil, fun _ hid => absurd hid List.not_mem_nil⟩
  | cons first rest ih =>
    unfold firstRepeated at h
    split at h
    · cases h
    · rename_i hbefore
      obtain ⟨hnodup, hfresh⟩ := ih h
      refine ⟨List.nodup_cons.mpr ⟨fun hmem => hfresh first hmem List.mem_cons_self, hnodup⟩, ?_⟩
      rintro id (_ | ⟨_, hid⟩)
      · simpa using hbefore
      · exact fun hmem => hfresh id hid (List.mem_cons_of_mem _ hmem)

/-! ## 2. Problems -/

/-- A graph has the problem that `Flow.problem?` finds. -/
theorem afflicts_of_problem? (h : f.problem? = some p) : p.Afflicts f := by
  unfold problem? at h
  dsimp only at h
  split at h
  · rename_i id hrepeated
    cases h
    exact firstRepeated_eq_some hrepeated
  · split at h
    · rename_i hstarts
      cases h
      exact ⟨(countP_isTrigger f).symm, hstarts⟩
    · split at h
      · rename_i id hunknown
        cases h
        have hends := List.mem_of_find?_eq_some hunknown
        have hmissing := List.find?_some hunknown
        simp only [List.mem_flatMap, List.mem_cons, List.not_mem_nil, or_false] at hends
        obtain ⟨x, hx, hid⟩ := hends
        refine ⟨⟨x, hx, hid.imp Eq.symm Eq.symm⟩, fun n hn heq => ?_⟩
        rw [hasNode_iff.mpr ⟨n, hn, heq⟩] at hmissing
        cases hmissing
      · obtain ⟨n, hfound, rfl⟩ := Option.map_eq_some_iff.mp h
        have hwide := List.find?_some hfound
        simp only [Bool.and_eq_true, Bool.not_eq_true', decide_eq_true_eq] at hwide
        refine ⟨List.mem_of_find?_eq_some hfound, fun hoffers => ?_, (length_outgoing f n.id).symm,
          hwide.2⟩
        rw [Node.isButtons_iff.mpr hoffers] at hwide
        cases hwide.1

/-- A graph that a problem `Afflicts` is not `Walkable`. -/
theorem not_walkable_of_afflicts (h : p.Afflicts f) : ¬ f.Walkable := by
  intro walkable
  cases p with
  | duplicateNode id =>
    exact absurd h (Nat.not_lt.mpr (List.nodup_iff_count_le_one.mp walkable.distinct id))
  | starts count => exact h.2 (h.1.symm.trans walkable.start)
  | unknownNode id =>
    obtain ⟨⟨x, hx, hid⟩, hmissing⟩ := h
    obtain ⟨⟨n, hn, hsource⟩, ⟨m, hm, htarget⟩⟩ := walkable.joined x hx
    rcases hid with rfl | rfl
    · exact hmissing n hn hsource
    · exact hmissing m hm htarget
  | fanOut kind id count =>
    obtain ⟨hmem, hplain, hcount, hwide⟩ := h
    have hle := walkable.narrow ⟨id, kind⟩ hmem hplain
    dsimp only at hle
    omega

/-- A graph in which `Flow.problem?` finds nothing is `Walkable`. -/
theorem walkable_of_problem? (h : f.problem? = none) : f.Walkable := by
  unfold problem? at h
  dsimp only at h
  split at h
  · cases h
  rename_i hrepeated
  split at h
  · cases h
  rename_i hstarts
  split at h
  · cases h
  rename_i hunknown
  rw [countP_isTrigger, not_not] at hstarts
  have hends (id : String) (x : Edge) (hx : x ∈ f.edges) (hid : id = x.source ∨ id = x.target) :
      ∃ n ∈ f.nodes, n.id = id := by
    have hmem := List.find?_eq_none.mp hunknown id
      (List.mem_flatMap.mpr ⟨x, hx, by simpa using hid⟩)
    exact hasNode_iff.mp (by simpa using hmem)
  refine ⟨(firstRepeated_eq_none hrepeated).1, hstarts,
    fun x hx => ⟨hends _ x hx (.inl rfl), hends _ x hx (.inr rfl)⟩, fun n hn hplain => ?_⟩
  have hwide := List.find?_eq_none.mp (Option.map_eq_none_iff.mp h) n hn
  have hbuttons : n.kind.isButtons = false :=
    Bool.eq_false_iff.mpr (mt Node.isButtons_iff.mp hplain)
  rw [← length_outgoing]
  simpa [hbuttons] using hwide

theorem problem?_eq_none_iff : f.problem? = none ↔ f.Walkable := by
  refine ⟨walkable_of_problem?, fun walkable => ?_⟩
  cases h : f.problem? with
  | none => rfl
  | some p => exact absurd walkable (not_walkable_of_afflicts (afflicts_of_problem? h))

theorem validate_eq_ok_iff : f.validate = .ok () ↔ f.problem? = none := by
  unfold validate
  split <;> simp_all

/-! ## 3. Ways -/

/-- Where `start?`, `next?` and `target?` lead in a graph. -/
structure Guides (f : Flow) : Prop where
  /-- A conversation begins at the only start. -/
  start : ∃ n ∈ f.nodes, f.start? = some n ∧ n.kind = .trigger ∧
    ∀ m ∈ f.nodes, m.kind = .trigger → m = n
  /-- From a node without buttons it goes on along the only edge, if there is one. -/
  next : ∀ n ∈ f.nodes, ¬ n.Offers →
    (f.edges.filter (·.source = n.id) = [] ∧ f.next? n.id = none) ∨
      ∃ x, f.edges.filter (·.source = n.id) = [x] ∧ f.next? n.id = some x.target
  /-- A node is found under its name. -/
  node : ∀ n ∈ f.nodes, f.node n.id = .ok n
  /-- Wherever it goes on, there is a node. -/
  resolves : ∀ n ∈ f.nodes, ∀ id,
    (f.next? n.id = some id ∨ ∃ button, f.target? n.id button = some id) →
      ∃ m ∈ f.nodes, m.id = id ∧ f.node id = .ok m

namespace Walkable

theorem node?_of_mem (h : f.Walkable) {n : Node} (hn : n ∈ f.nodes) : f.node? n.id = some n := by
  obtain ⟨m, hm⟩ : ∃ m, f.node? n.id = some m := by
    rw [← Option.isSome_iff_exists, node?, List.find?_isSome]
    exact ⟨n, hn, beq_self_eq_true _⟩
  have hid : m.id = n.id := by simpa using List.find?_some hm
  rw [hm, List.inj_on_of_nodup_map h.distinct (List.mem_of_find?_eq_some hm) hn hid]

theorem node_of_mem (h : f.Walkable) {n : Node} (hn : n ∈ f.nodes) : f.node n.id = .ok n := by
  rw [Flow.node, h.node?_of_mem hn]

theorem exists_start? (h : f.Walkable) : ∃ n ∈ f.nodes, f.start? = some n ∧ n.kind = .trigger ∧
    ∀ m ∈ f.nodes, m.kind = .trigger → m = n := by
  obtain ⟨n, hn⟩ : ∃ n, f.nodes.filter (·.kind.isTrigger) = [n] := by
    rw [← List.length_eq_one_iff, countP_isTrigger]
    exact h.start
  have hmem (m : Node) : m ∈ f.nodes ∧ m.kind = .trigger ↔ m = n := by
    have hfilter : m ∈ f.nodes.filter (·.kind.isTrigger) ↔ m = n := by
      rw [hn, List.mem_singleton]
    rwa [List.mem_filter, NodeKind.isTrigger_iff] at hfilter
  obtain ⟨hnode, hkind⟩ := (hmem n).mpr rfl
  refine ⟨n, hnode, ?_, hkind, fun m hm htrigger => (hmem m).mp ⟨hm, htrigger⟩⟩
  rw [start?, ← List.head?_filter, hn, List.head?_cons]

theorem next?_of_plain (h : f.Walkable) {n : Node} (hn : n ∈ f.nodes) (hplain : ¬ n.Offers) :
    (f.edges.filter (·.source = n.id) = [] ∧ f.next? n.id = none) ∨
      ∃ x, f.edges.filter (·.source = n.id) = [x] ∧ f.next? n.id = some x.target := by
  have hnarrow : (f.edges.filter (·.source = n.id)).length ≤ 1 := by
    rw [← List.countP_eq_length_filter]
    exact h.narrow n hn hplain
  have hnext : f.next? n.id = (f.edges.filter (·.source = n.id)).head?.map (·.target) := rfl
  rw [hnext]
  rcases Nat.le_one_iff_eq_zero_or_eq_one.mp hnarrow with hnone | hone
  · rw [List.length_eq_zero_iff.mp hnone]
    exact .inl ⟨rfl, rfl⟩
  · obtain ⟨x, hx⟩ := List.length_eq_one_iff.mp hone
    rw [hx]
    exact .inr ⟨x, rfl, rfl⟩

theorem node_of_joins (h : f.Walkable) {source : String} (hjoins : f.Joins source id) :
    ∃ m ∈ f.nodes, m.id = id ∧ f.node id = .ok m := by
  obtain ⟨x, hx, -, rfl⟩ := hjoins
  obtain ⟨m, hm, htarget⟩ := (h.joined x hx).2
  exact ⟨m, hm, htarget, htarget ▸ h.node_of_mem hm⟩

theorem guides (h : f.Walkable) : f.Guides where
  start := h.exists_start?
  next _ hn hplain := h.next?_of_plain hn hplain
  node _ hn := h.node_of_mem hn
  resolves n _ id := by
    rintro (hnext | ⟨button, htarget⟩)
    · exact h.node_of_joins (joins_of_next? hnext)
    · obtain ⟨x, hx, hsource, hid, -⟩ := edge_of_target? htarget
      exact h.node_of_joins ⟨x, hx, hsource, hid⟩

end Walkable

/-- **A graph is accepted exactly if it can be walked.** What `Flow.validate` refuses has the
problem that the error names, and what it accepts guides a conversation from its start to nodes
alone (`Flow.Guides`). -/
theorem accepts_walkable (f : Flow) :
    (f.validate = .ok () ↔ f.Walkable) ∧
      (∀ e, f.validate = .error e → ∃ p : GraphProblem, e = .invalidGraph f.id p.message ∧
        p.Afflicts f) ∧
      (f.validate = .ok () → f.Guides) := by
  have haccepts : f.validate = .ok () ↔ f.Walkable :=
    validate_eq_ok_iff.trans problem?_eq_none_iff
  refine ⟨haccepts, fun e h => ?_, fun h => (haccepts.mp h).guides⟩
  unfold validate at h
  split at h
  · cases h
  · rename_i p hproblem
    cases h
    exact ⟨p, rfl, afflicts_of_problem? hproblem⟩

/-- Asks a question, and thanks whoever says yes: a flow that is `Walkable`. -/
def choosing : Flow :=
  { Flow.new (.ofNat 1) "shop" "main" "choosing" .anyMessage (.ofSeconds 0) with
    nodes := [⟨"start", .trigger⟩,
      ⟨"ask", .buttons "Shall we call you?" [⟨"yes", "Yes"⟩, ⟨"no", "No"⟩] none⟩,
      ⟨"thanks", .message "Thank you"⟩, ⟨"done", .finish none⟩]
    edges := [⟨"start", "ask", none⟩, ⟨"ask", "thanks", some "yes"⟩, ⟨"ask", "done", some "no"⟩,
      ⟨"thanks", "done", none⟩] }

/-- Thanks over and over, or once, so that it is not `Walkable`. -/
def wavering : Flow := { choosing with edges := choosing.edges ++ [⟨"thanks", "thanks", none⟩] }

/-- The question of `choosing` may lead to two places, and the thanks of `wavering` may not. -/
theorem accepts_walkable_choosing :
    choosing.validate = .ok () ∧ choosing.Walkable ∧ choosing.Guides ∧
      wavering.validate = .error (.invalidGraph (.ofNat 1)
        "message node 'thanks' has 2 outgoing edges") ∧ ¬ wavering.Walkable ∧
      ∃ p : GraphProblem, FlowError.invalidGraph (.ofNat 1)
        "message node 'thanks' has 2 outgoing edges" = .invalidGraph wavering.id p.message ∧
          p.Afflicts wavering := by
  have haccepted : choosing.validate = .ok () := by decide +kernel
  have hrefused : wavering.validate = .error (.invalidGraph (.ofNat 1)
      "message node 'thanks' has 2 outgoing edges") := by decide +kernel
  refine ⟨haccepted, (accepts_walkable choosing).1.mp haccepted,
    (accepts_walkable choosing).2.2 haccepted, hrefused, fun walkable => ?_,
    (accepts_walkable wavering).2.1 _ hrefused⟩
  rw [(accepts_walkable wavering).1.mpr walkable] at hrefused
  cases hrefused

end Flow

end Autoresponder
