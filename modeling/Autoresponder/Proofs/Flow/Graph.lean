import Autoresponder.Flow.Continuation
import Autoresponder.Proofs.Store.Offered

/-!
# Graphs of flows

Where a flow leads from a node is along one of its edges, and in a graph that can be walked every
edge joins two nodes.
-/

namespace Autoresponder

/-- An event stands for a button: it is a click on it, or its text names it. -/
def Button.IsMeantBy (b : Button) (payload : Option String) (text : String) : Prop :=
  match payload with
  | some id => b.id = id
  | none => b.isNamedBy text = true

theorem mem_of_chosen? {bs : List Button} {payload : Option String} {text : String} {b : Button}
    (h : chosen? bs payload text = some b) : b ∈ bs ∧ b.IsMeantBy payload text := by
  cases payload with
  | none =>
    have hnamed := List.find?_some h
    exact ⟨List.mem_of_find?_eq_some h, hnamed⟩
  | some id =>
    have hid := List.find?_some h
    exact ⟨List.mem_of_find?_eq_some h, beq_iff_eq.mp hid⟩

namespace Flow

def Joins (f : Flow) (source target : String) : Prop :=
  ∃ x ∈ f.edges, x.source = source ∧ x.target = target

variable {f g : Flow} {id button next : String}

theorem joins_of_next? (h : f.next? id = some next) : f.Joins id next := by
  obtain ⟨x, hx, rfl⟩ := Option.map_eq_some_iff.mp h
  obtain ⟨hmem, hsource⟩ := List.mem_filter.mp (List.mem_of_head? hx)
  exact ⟨x, hmem, beq_iff_eq.mp hsource, rfl⟩

theorem edge_of_target? (h : f.target? id button = some next) :
    ∃ x ∈ f.edges, x.source = id ∧ x.target = next ∧ x.handle = some button := by
  obtain ⟨x, hx, rfl⟩ := Option.map_eq_some_iff.mp h
  obtain ⟨hmem, hsource⟩ := List.mem_filter.mp (List.mem_of_find?_eq_some hx)
  have hhandle := List.find?_some hx
  exact ⟨x, hmem, beq_iff_eq.mp hsource, rfl, beq_iff_eq.mp hhandle⟩

/-- A reply leads (`Flow.continuation?`) along the edge of a button that it stands for
(`Button.IsMeantBy`). -/
theorem continuation?_eq_some {node text : String} {payload : Option String}
    {choice : Continuation} (h : f.continuation? node payload text = some choice) :
    ∃ n prompt bs, f.node? node = some n ∧
      n.kind = .buttons prompt bs choice.variableName ∧ choice.button ∈ bs ∧
      choice.button.IsMeantBy payload text ∧
      f.target? node choice.button.id = some choice.target := by
  obtain ⟨n, hn, h⟩ := Option.bind_eq_some_iff.mp h
  split at h
  · rename_i prompt bs variableName hkind
    obtain ⟨b, hb, h⟩ := Option.bind_eq_some_iff.mp h
    obtain ⟨target, htarget, h⟩ := Option.bind_eq_some_iff.mp h
    cases h
    obtain ⟨hmem, hmeant⟩ := mem_of_chosen? hb
    exact ⟨n, prompt, bs, hn, hkind, hmem, hmeant, htarget⟩
  · cases h

-- In a graph that can be walked edges lead to nodes.
theorem Joins.hasNode (h : f.Joins id next) (valid : f.problem? = none) :
    f.hasNode next = true := by
  obtain ⟨x, hx, -, rfl⟩ := h
  simp only [problem?] at valid
  split at valid
  · cases valid
  · split at valid
    · cases valid
    · split at valid
      · cases valid
      · rename_i hnone
        have hends := List.find?_eq_none.mp hnone x.target
          (List.mem_flatMap.mpr ⟨x, hx, by simp⟩)
        simpa using hends

instance (f g : Flow) : Decidable (f.SameGraph g) :=
  decidable_of_iff (f.id = g.id ∧ f.nodes = g.nodes ∧ f.edges = g.edges)
    ⟨fun h => ⟨h.1, h.2.1, h.2.2⟩, fun h => ⟨h.id, h.nodes, h.edges⟩⟩

theorem SameGraph.symm (h : f.SameGraph g) : g.SameGraph f :=
  ⟨h.id.symm, h.nodes.symm, h.edges.symm⟩

theorem SameGraph.node? (h : f.SameGraph g) (id : String) : f.node? id = g.node? id := by
  rw [Flow.node?, Flow.node?, h.nodes]

theorem SameGraph.next? (h : f.SameGraph g) (id : String) : f.next? id = g.next? id := by
  rw [Flow.next?, Flow.next?, outgoing, outgoing, h.edges]

theorem SameGraph.start? (h : f.SameGraph g) : f.start? = g.start? := by
  rw [Flow.start?, Flow.start?, h.nodes]

theorem SameGraph.continuation? (h : f.SameGraph g) (node : String) (payload : Option String)
    (text : String) : f.continuation? node payload text = g.continuation? node payload text := by
  have htarget (id button : String) : f.target? id button = g.target? id button := by
    rw [target?, target?, outgoing, outgoing, h.edges]
  simp only [Flow.continuation?, h.node?, htarget]

theorem SameGraph.problem? (h : f.SameGraph g) : f.problem? = g.problem? := by
  obtain ⟨-, hnodes, hedges⟩ := h
  cases f
  cases g
  dsimp only at hnodes hedges
  subst hnodes hedges
  rfl

end Flow

end Autoresponder
