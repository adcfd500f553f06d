import Autoresponder.Json.Decode
import Mathlib.Data.List.Basic

/-!
# Records read from their members

A record reader asks for one field after the other. Where it is given the members of an object, no
field takes anything away from the next one, so each is read on its own: what a reader makes of an
object follows from what it makes of each member. Members that it does not ask for may come and go.
-/

namespace Autoresponder.Json

/-! ## 1. Lists -/

-- A list of values is read from the list of their documents.
theorem asList_map {α : Type} {read : Decoder α} {write : α → Json}
    (h : ∀ a, read (write a) = some a) (as : List α) :
    asList read (.arr (as.map write)) = some as := by
  rw [asList, List.mapM_map]
  induction as with
  | nil => rfl
  | cons a rest ih => rw [List.mapM_cons, ih, Function.comp_apply, h]; rfl

theorem asList_ofStrings (xs : List String) : asList asString (ofStrings xs) = some xs :=
  asList_map (fun s => (rfl : asString (.str s) = some s)) xs

/-! ## 2. Fields -/

/-- A reader makes a value of the members of an object. -/
def Reads {α : Type} (members : List (String × Json)) (reader : RecordReader α) (a : α) : Prop :=
  reader (.named members) = some (a, .named members)

-- Members none of which goes by a key.
theorem filter_key {members : List (String × Json)} {key : String}
    (h : ∀ m ∈ members, m.1 ≠ key) :
    members.filter (·.1 == key) = [] ∧ members.filter (·.1 != key) = members := by
  constructor
  · rw [List.filter_eq_nil_iff]
    intro m hm
    rw [beq_iff_eq]
    exact h m hm
  · rw [List.filter_eq_self]
    intro m hm
    rw [bne_iff_ne]
    exact h m hm

section

variable {α β : Type} {members : List (String × Json)}

theorem asRecord_of_reads {reader : RecordReader α} {a : α} (h : Reads members reader a) :
    asRecord reader (.obj members) = some a := by
  rw [asRecord, RecordReader.finish, h]

namespace Reads

theorem finish {reader : RecordReader α} {a : α} (h : Reads members reader a) :
    reader.finish (.named members) = some a := by
  rw [RecordReader.finish, h]

theorem pure (a : α) : Reads members (Pure.pure a) a := rfl

theorem bind {reader : RecordReader α} {a : α} {next : α → RecordReader β} {b : β}
    (h : Reads members reader a) (hnext : Reads members (next a) b) :
    Reads members (reader >>= next) b := by
  simp only [Reads, Bind.bind, StateT.bind] at h hnext ⊢
  rw [h]
  exact hnext

variable {names : List String} {name : String} {value : Decoder α}

-- The only member that goes by one of the names of a field is its value.
theorem next_of_called {k : String} {j : Json}
    (h : members.filter (fun m => names.contains m.1) = [(k, j)]) :
    Reads members (RecordReader.next names) (some j) := by
  rw [Reads, RecordReader.next, h]

theorem next_of_not_called (h : members.filter (fun m => names.contains m.1) = []) :
    Reads members (RecordReader.next names) none := by
  rw [Reads, RecordReader.next, h]

theorem lift {a : α} {x : Option α} (h : x = some a) :
    Reads members (RecordReader.lift x) a := by
  rw [h]
  rfl

theorem field {j : Json} {a : α}
    (h : members.filter (fun m => [name].contains m.1) = [(name, j)]) (ha : value j = some a) :
    Reads members (RecordReader.field name value) a :=
  bind (next_of_called h) (lift ha)

theorem fieldOf {k : String} {j : Json} {a : α}
    (h : members.filter (fun m => names.contains m.1) = [(k, j)]) (ha : value j = some a) :
    Reads members (RecordReader.fieldOf names value) a :=
  bind (next_of_called h) (lift ha)

theorem fieldOr {j : Json} {default a : α}
    (h : members.filter (fun m => [name].contains m.1) = [(name, j)]) (ha : value j = some a) :
    Reads members (RecordReader.fieldOr name value default) a :=
  bind (next_of_called h) (lift ha)

theorem fieldOr_default {default : α}
    (h : members.filter (fun m => [name].contains m.1) = []) :
    Reads members (RecordReader.fieldOr name value default) default :=
  bind (next_of_not_called h) (pure default)

-- A string that is left out if there is none.
theorem nullableOr {s : Option String}
    (h : members.filter (fun m => [name].contains m.1) =
      (s.map fun s => (name, Json.str s)).toList) :
    Reads members (RecordReader.nullableOr name asString) s := by
  cases s with
  | none => exact fieldOr_default h
  | some s => exact fieldOr h rfl

end Reads

/-! ## 3. Members that are asked for -/

/-- Two objects have the same members of the `keys`. -/
def Agree (keys : List String) (members members' : List (String × Json)) : Prop :=
  ∀ key ∈ keys, members.filter (·.1 == key) = members'.filter (·.1 == key)

theorem agree_insert {keys : List String} {key : String} (h : key ∉ keys) (value : Json)
    (front back : List (String × Json)) :
    Agree keys (front ++ (key, value) :: back) (front ++ back) := by
  intro known hknown
  have hne : (key == known) = false := by
    rw [beq_eq_false_iff_ne]
    rintro rfl
    exact h hknown
  simp [hne]

/-- A reader looks at members of the `keys` only, and leaves all members to the next one. -/
def AsksFor {α : Type} (keys : List String) (reader : RecordReader α) : Prop :=
  ∀ members members', Agree keys members members' → ∃ x : Option α,
    reader (.named members) = x.map (·, .named members) ∧
      reader (.named members') = x.map (·, .named members')

namespace AsksFor

variable {keys : List String} {name : String}

theorem pure (a : α) : AsksFor keys (Pure.pure a : RecordReader α) :=
  fun _ _ _ => ⟨some a, rfl, rfl⟩

theorem failure : AsksFor keys (failure : RecordReader α) := fun _ _ _ => ⟨none, rfl, rfl⟩

theorem lift (x : Option α) : AsksFor keys (RecordReader.lift x) := fun _ _ _ => ⟨x, rfl, rfl⟩

theorem bind {reader : RecordReader α} {next : α → RecordReader β} (h : AsksFor keys reader)
    (hnext : ∀ a, AsksFor keys (next a)) : AsksFor keys (reader >>= next) := by
  intro members members' hagree
  obtain ⟨x, hx, hx'⟩ := h members members' hagree
  simp only [Bind.bind, StateT.bind, hx, hx']
  cases x with
  | none => exact ⟨none, rfl, rfl⟩
  | some a => exact hnext a members members' hagree

theorem next (hname : name ∈ keys) : AsksFor keys (RecordReader.next [name]) := by
  intro members members' hagree
  have hcalled : (fun m : String × Json => [name].contains m.1) = (·.1 == name) := by
    funext m
    rw [List.contains_cons, List.contains_nil, Bool.or_false]
  simp only [RecordReader.next, hcalled, hagree name hname]
  split
  · exact ⟨some none, rfl, rfl⟩
  · exact ⟨some (some _), rfl, rfl⟩
  · exact ⟨none, rfl, rfl⟩

theorem field (hname : name ∈ keys) (value : Decoder α) :
    AsksFor keys (RecordReader.field name value) := by
  refine bind (next hname) fun j => ?_
  cases j with
  | none => exact failure
  | some j => exact lift (value j)

theorem fieldOr (hname : name ∈ keys) (value : Decoder α) (default : α) :
    AsksFor keys (RecordReader.fieldOr name value default) := by
  refine bind (next hname) fun j => ?_
  cases j with
  | none => exact pure default
  | some j => exact lift (value j)

theorem finish_eq {reader : RecordReader α} (h : AsksFor keys reader)
    {members' : List (String × Json)} (hagree : Agree keys members members') :
    reader.finish (.named members) = reader.finish (.named members') := by
  obtain ⟨x, hx, hx'⟩ := h members members' hagree
  rw [RecordReader.finish, RecordReader.finish, hx, hx']
  cases x <;> rfl

end AsksFor

/-! ## 4. Values that are made -/

/-- Whatever a reader makes is of some sort. -/
def Makes {α : Type} (P : α → Prop) (reader : RecordReader α) : Prop :=
  ∀ source a source', reader source = some (a, source') → P a

namespace Makes

variable {P : β → Prop}

theorem pure {b : β} (h : P b) : Makes P (Pure.pure b : RecordReader β) := by
  rintro source a source' ⟨⟩
  exact h

theorem failure : Makes P (failure : RecordReader β) := by
  rintro source a source' ⟨⟩

theorem bind {reader : RecordReader α} {next : α → RecordReader β}
    (h : ∀ a, Makes P (next a)) : Makes P (reader >>= next) := by
  intro source b source' hb
  obtain ⟨⟨a, s⟩, -, hnext⟩ := Option.bind_eq_some_iff.mp hb
  exact h a s b source' hnext

theorem of_finish {reader : RecordReader β} (h : Makes P reader) {source : Source} {b : β}
    (hb : reader.finish source = some b) : P b := by
  rw [RecordReader.finish] at hb
  split at hb
  · rename_i heq
    cases hb
    exact h _ _ _ heq
  · rename_i heq
    cases hb
    exact h _ _ _ heq
  · cases hb

end Makes

end

end Autoresponder.Json
