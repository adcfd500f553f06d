/-!
# Integer columns

An integer column also takes text that spells no integer. Such a cell reads as zero and stands
behind all integers.
-/

namespace Autoresponder.Store

/-- A cell of an integer column. -/
inductive IntCell where
  | int (n : Int)
  | text (s : String)
  deriving DecidableEq, Repr

namespace IntCell

/-- What the cell reads as. -/
def value : IntCell → Int
  | int n => n
  | text _ => 0

/-- Whether the cell reads as true. -/
def isSet (c : IntCell) : Bool := c.value ≠ 0

/-- The greatest integer that a column holds. -/
def greatest : Int := Int64.maxValue.toInt

/-- The cell counted up by one. Beyond the greatest integer it is none any more, and what is no
integer counts from zero. -/
def next : IntCell → IntCell
  | int n => if n = greatest then text "9.22337203685478e+18" else int (n + 1)
  | text _ => int 1

/-- The order of the cells of a column. -/
def notAfter : IntCell → IntCell → Bool
  | int a, int b => a ≤ b
  | int _, text _ => true
  | text _, int _ => false
  | text a, text b => a ≤ b

/-- The cell of a truth value. -/
def ofBool (b : Bool) : IntCell := int (if b then 1 else 0)

/-- The cell of a number of 64 bits without a sign: the same bits with a sign. -/
def ofUInt64 (n : UInt64) : IntCell := int ((n.toNat : Int).bmod UInt64.size)

/-- The number without a sign that a cell reads as. -/
def asUInt64 (c : IntCell) : UInt64 := .ofNat c.value.toNat

/-- The number of 32 bits without a sign that a cell reads as. -/
def asUInt32 (c : IntCell) : UInt32 := .ofNat (min c.value.toNat (UInt32.size - 1))

@[simp] theorem isSet_ofBool (b : Bool) : (ofBool b).isSet = b := by cases b <;> rfl

@[simp] theorem value_int (n : Int) : (int n).value = n := rfl

end IntCell

end Autoresponder.Store
