import Autoresponder.Json.Basic

/-!
# Reading values from documents

A decoder turns a document into a value or refuses it. A record is read field by field, from an
object by name or from an array by position. In an object unknown members are passed over, and a
known one that is written twice is refused; in an array fields may be missing at the end if they
have a default, and nothing may be left over.
-/

namespace Autoresponder.Json

abbrev Decoder (α : Type) := Json → Option α

def asString : Decoder String
  | .str s => some s
  | _ => none

def asBool : Decoder Bool
  | .bool b => some b
  | _ => none

/-- An integer between two bounds. -/
def asIntIn (low high : Int) : Decoder Int
  | .int n => if low ≤ n ∧ n ≤ high then some n else none
  | _ => none

/-- An integer that 64 bits hold with its sign. -/
def asInt : Decoder Int := asIntIn Int64.minValue.toInt Int64.maxValue.toInt

/-- An integer of 64 bits without a sign. -/
def asUInt64 : Decoder UInt64 := fun j =>
  (asIntIn 0 (UInt64.size - 1) j).map fun n => .ofNat n.toNat

/-- An integer of 32 bits without a sign. -/
def asUInt32 : Decoder UInt32 := fun j =>
  (asIntIn 0 (UInt32.size - 1) j).map fun n => .ofNat n.toNat

/-- An array whose items are all accepted. -/
def asList {α : Type} (item : Decoder α) : Decoder (List α)
  | .arr items => items.mapM item
  | _ => none

/-- An object whose values are all accepted; of equal keys the last one stays. -/
def asEntries {α : Type} (value : Decoder α) : Decoder (List (String × α))
  | .obj members => (members.mapM fun m => (value m.2).map fun a => (m.1, a)).map (Text.putAll [])
  | _ => none

/-- Null, or an accepted value. -/
def asOptional {α : Type} (value : Decoder α) : Decoder (Option α)
  | .null => some none
  | j => (value j).map some

/-- One of a fixed set of names: as a string, or as the only key of an object whose value is
null. -/
def asName {α : Type} (names : String → Option α) : Decoder α
  | .str s => names s
  | .obj [(s, .null)] => names s
  | _ => none

/-- Where the fields of a record come from. -/
inductive Source where
  | named (members : List (String × Json))
  | listed (items : List Json)

/-- Reads fields one after the other. -/
abbrev RecordReader (α : Type) := StateT Source Option α

namespace RecordReader

/-- The value of the next field, if it is there. A field may go by several names, but by only one
at a time. -/
def next (names : List String) : RecordReader (Option Json) := fun source =>
  match source with
  | .named members =>
    match members.filter fun m => names.contains m.1 with
    | [] => some (none, source)
    | [(_, j)] => some (some j, source)
    | _ => none
  | .listed [] => some (none, source)
  | .listed (j :: rest) => some (some j, .listed rest)

/-- Whether the fields come by name. -/
def byName : RecordReader Bool := fun source =>
  match source with
  | .named _ => some (true, source)
  | .listed _ => some (false, source)

def lift {α : Type} (x : Option α) : RecordReader α := fun source => x.map (·, source)

/-- A field that must be there. -/
def field {α : Type} (name : String) (value : Decoder α) : RecordReader α := do
  match ← next [name] with
  | some j => lift (value j)
  | none => failure

/-- A field that must be there, under one of several names. -/
def fieldOf {α : Type} (names : List String) (value : Decoder α) : RecordReader α := do
  match ← next names with
  | some j => lift (value j)
  | none => failure

/-- A field with a default. -/
def fieldOr {α : Type} (name : String) (value : Decoder α) (default : α) : RecordReader α := do
  match ← next [name] with
  | some j => lift (value j)
  | none => pure default

/-- A field that may be null, and may be absent from an object. -/
def nullable {α : Type} (name : String) (value : Decoder α) : RecordReader (Option α) := do
  match ← next [name] with
  | some j => lift (asOptional value j)
  | none => if ← byName then pure none else failure

/-- A field that may be null and may be absent. -/
def nullableOr {α : Type} (name : String) (value : Decoder α) : RecordReader (Option α) :=
  fieldOr name (asOptional value) none

/-- Runs a reader to the end of its source. -/
def finish {α : Type} (reader : RecordReader α) (source : Source) : Option α :=
  match reader source with
  | some (a, .named _) => some a
  | some (a, .listed []) => some a
  | _ => none

end RecordReader

/-- A record, as an object or as an array of its fields. -/
def asRecord {α : Type} (reader : RecordReader α) : Decoder α
  | .obj members => reader.finish (.named members)
  | .arr items => reader.finish (.listed items)
  | _ => none

/-- A record with a member that says of which kind it is. In an array the kind comes first. -/
def asTagged {α : Type} (tag : String) (reader : String → RecordReader α) : Decoder α
  | .obj members =>
    match members.filter (·.1 == tag) with
    | [(_, .str kind)] => (reader kind).finish (.named (members.filter (·.1 != tag)))
    | _ => none
  | .arr (.str kind :: items) => (reader kind).finish (.listed items)
  | _ => none

end Autoresponder.Json
