import Autoresponder.Pattern.CharSet

/-!
# Patterns

The structure of a search pattern once its flags are resolved, and whether a text contains a match.

Positions of a text are held as the bits of a number, so a part of a pattern is a function from the
positions where it may start to the positions where it may end. These functions respect unions, so
a repetition is complete when a round adds nothing.
-/

namespace Autoresponder

namespace Pattern

/-- A condition on a position. -/
inductive Assertion where
  | textStart
  | textEnd
  | lineStart
  | lineEnd
  | boundary
  | noBoundary
  | wordStart
  | wordEnd
  | wordStartHalf
  | wordEndHalf
  deriving DecidableEq, Repr

end Pattern

/-- A pattern. -/
inductive Pattern where
  | empty
  | set (s : Pattern.CharSet)
  | assertion (a : Pattern.Assertion) (word : Pattern.CharSet)
  | seq (p q : Pattern)
  | alt (p q : Pattern)
  | rep (p : Pattern) (least : Nat) (most : Option Nat)
  deriving Inhabited

namespace Pattern

/-- Whether the pattern can only match the empty text. -/
def widthless : Pattern → Bool
  | empty => true
  | set _ => false
  | assertion _ _ => true
  | seq p q => p.widthless && q.widthless
  | alt p q => p.widthless && q.widthless
  | rep p _ most => p.widthless || most == some 0

/-- A repetition. What matches only the empty text is repeated at most once. -/
def repeated (p : Pattern) (least : Nat) (most : Option Nat) : Pattern :=
  if p.widthless then rep p (min least 1) (some (min (most.getD 1) 1)) else rep p least most

/-- The space that a set takes in an automaton, in bytes. -/
def setSize : CharSet → Nat
  | .none => 32
  | .range first last =>
    if last < 0x80 then 32 else if last < 0x800 then 96 else if first == last then 128 else 500
  | .rows rs => 60 * rs.length
  | .blanks => 400
  | .union a b | .inter a b | .diff a b | .symm a b => setSize a + setSize b
  | .compl a => setSize a + 500
  | .folded a => setSize a + 16

/-- The space that the pattern takes in an automaton, in bytes. A counted repetition is written
out. -/
def size : Pattern → Nat
  | empty => 32
  | set s => setSize s
  | assertion _ _ => 32
  | seq p q => p.size + q.size
  | alt p q => p.size + q.size + 48
  | rep p least none => (max least 1) * p.size + 40
  | rep p least (some most) => least * p.size + (most - least) * (p.size + 40)

/-- Patterns that take more space are refused. -/
def sizeLimit : Nat := 10485760

/-- A pattern with its sets and assertions replaced by the positions of one text where they
hold. -/
inductive Prepared where
  | stay (positions : Nat)
  | move (positions : Nat)
  | seq (p q : Prepared)
  | alt (p q : Prepared)
  | rep (p : Prepared) (least : Nat) (most : Nat)

/-- The bits of the positions that satisfy a condition. -/
def positionsWhere (test : Nat → Bool) (count : Nat) : Nat :=
  (List.range count).foldl (fun bits i => if test i then bits ||| (1 <<< i) else bits) 0

/-- Whether an assertion holds between the `i`-th character and the one before it. -/
def Assertion.holds (a : Assertion) (word : CharSet) (text : Array Nat) (i : Nat) : Bool :=
  let isWord (n : Option Nat) : Bool := (n.map word.has).getD false
  let before := isWord (if i == 0 then none else text[i - 1]?)
  let after := isWord text[i]?
  match a with
  | .textStart => i == 0
  | .textEnd => i == text.size
  | .lineStart => i == 0 || text[i - 1]? == some 10
  | .lineEnd => i == text.size || text[i]? == some 10
  | .boundary => before != after
  | .noBoundary => before == after
  | .wordStart => !before && after
  | .wordEnd => before && !after
  | .wordStartHalf => !before
  | .wordEndHalf => !after

/-- Prepares a pattern for a text. -/
def prepare (text : Array Nat) : Pattern → Prepared
  | .empty => .stay (positionsWhere (fun _ => true) (text.size + 1))
  | .set s => .move (positionsWhere (fun i => (text[i]?.map s.has).getD false) text.size)
  | .assertion a word => .stay (positionsWhere (a.holds word text) (text.size + 1))
  | .seq p q => .seq (p.prepare text) (q.prepare text)
  | .alt p q => .alt (p.prepare text) (q.prepare text)
  | .rep p least most => .rep (p.prepare text) least ((most.map (· - least)).getD (text.size + 1))

/-- Applies `f` a number of times, or until nothing changes. -/
def times (f : Nat → Nat) : Nat → Nat → Nat
  | 0, bits => bits
  | n + 1, bits =>
    let next := f bits
    if next == bits then bits else times f n next

/-- What can be reached by applying `f` up to a number of times. -/
def upTo (f : Nat → Nat) : Nat → Nat → Nat → Nat
  | 0, _, reached => reached
  | n + 1, frontier, reached =>
    let next := f frontier
    if reached ||| next == reached then reached else upTo f n next (reached ||| next)

/-- The positions where a match that starts at one of `bits` may end. -/
def Prepared.run : Prepared → Nat → Nat
  | stay positions, bits => bits &&& positions
  | move positions, bits => (bits &&& positions) <<< 1
  | seq p q, bits => q.run (p.run bits)
  | alt p q, bits => p.run bits ||| q.run bits
  | rep p least most, bits =>
    let start := times p.run least bits
    upTo p.run most start start

/-- Whether a pattern matches somewhere in a text. -/
def matchesIn (p : Pattern) (text : List Char) : Bool :=
  let chars := (text.map Char.toNat).toArray
  (p.prepare chars).run (positionsWhere (fun _ => true) (chars.size + 1)) != 0

end Pattern

end Autoresponder
