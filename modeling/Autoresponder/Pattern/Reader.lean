import Autoresponder.Pattern.Basic

/-!
# Reading patterns

The written form of patterns: characters, sets in brackets, groups, alternatives, repetitions,
assertions and flags. Look-around and back-references are refused, as is every escape of a letter
or digit without a meaning of its own.
-/

namespace Autoresponder.Pattern

/-- The flags in force at a place. -/
structure Flags where
  ignoreCase : Bool
  multiLine : Bool := false
  dotAll : Bool := false
  verbose : Bool := false
  unicode : Bool := true

/-- What is still to be read, the flags in force and the names of the groups so far. -/
structure ReaderState where
  rest : List Char
  flags : Flags
  names : List (List Char) := []

abbrev Reader (α : Type) := StateT ReaderState Option α

namespace Reader

def peek : Reader (Option Char) := fun s => some (s.rest.head?, s)

/-- The character behind the next one. -/
def peekSecond : Reader (Option Char) := fun s => some ((s.rest.drop 1).head?, s)

def skip (n : Nat) : Reader Unit := fun s => some ((), { s with rest := s.rest.drop n })

def rest : Reader (List Char) := fun s => some (s.rest, s)

def setRest (cs : List Char) : Reader Unit := fun s => some ((), { s with rest := cs })

def flags : Reader Flags := fun s => some (s.flags, s)

def setFlags (f : Flags) : Reader Unit := fun s => some ((), { s with flags := f })

/-- The next character, which must be there. -/
def take : Reader Char := fun s =>
  match s.rest with
  | c :: r => some (c, { s with rest := r })
  | [] => none

def expect (c : Char) : Reader Unit := do
  if (← take) != c then failure

/-- Takes the next characters if they are the given ones. -/
def accept (cs : List Char) : Reader Bool := fun s =>
  if cs.isPrefixOf s.rest then some (true, { s with rest := s.rest.drop cs.length })
  else some (false, s)

end Reader

open Reader

/-- Drops blanks and comments. -/
def dropSpace : Bool → List Char → List Char
  | _, [] => []
  | true, c :: r => dropSpace (c != '\n') r
  | false, c :: r =>
    if c == '#' then dropSpace true r
    else if Text.isBlank c then dropSpace false r
    else c :: r

/-- In verbose patterns, drops blanks and comments. -/
def skipSpace : Reader Unit := fun s =>
  if s.flags.verbose then some ((), { s with rest := dropSpace false s.rest }) else some ((), s)

def hexDigitValue? (c : Char) : Option Nat :=
  if c.isDigit then some (c.toNat - '0'.toNat)
  else if 'a' ≤ c && c ≤ 'f' then some (c.toNat - 'a'.toNat + 10)
  else if 'A' ≤ c && c ≤ 'F' then some (c.toNat - 'A'.toNat + 10)
  else none

/-- The character of a list of hexadecimal digits. -/
def hexChar? (digits : List Char) : Option Char := do
  if digits.isEmpty then none
  else
    let values ← digits.mapM hexDigitValue?
    let n := values.foldl (fun n d => n * 16 + d) 0
    if n.isValidChar then some (Char.ofNat n) else none

/-- The digits behind `x`, `u` or `U`: in braces, or a fixed number of them. -/
def readHex (count : Nat) : Reader Char := do
  skipSpace
  if (← peek) == some '\x7b' then
    skip 1
    let cs ← rest
    let inside := cs.takeWhile (· != '\x7d')
    setRest (cs.drop inside.length)
    expect '\x7d'
    let f ← flags
    let digits := if f.verbose then inside.filter (!Text.isBlank ·) else inside
    liftM (hexChar? digits)
  else
    let cs ← rest
    if cs.length < count then failure
    skip count
    liftM (hexChar? (cs.take count))

/-- The characters with a meaning of their own. -/
def metaChars : List Char :=
  ['\\', '.', '+', '*', '?', '(', ')', '|', '[', ']', '\x7b', '\x7d', '^', '$', '#', '&', '-', '~']

/-- Whether a character may be escaped to stand for itself. -/
def isEscapable (c : Char) : Bool :=
  metaChars.contains c ||
    (c.toNat < 0x80 && !c.isAlphanum && c != '<' && c != '>')

/-- What an escape stands for. -/
inductive Escaped where
  | char (c : Char)
  | set (s : CharSet)
  | assertion (a : Assertion)

/-- Under `ignoreCase` a set also has the other forms of its letters. -/
def withCase (f : Flags) (s : CharSet) : CharSet := if f.ignoreCase then .folded s else s

/-- A set or its complement. -/
def signed (negated : Bool) (s : CharSet) : CharSet := if negated then .compl s else s

/-- A named property behind `p` or `P`. -/
def readProperty (negated : Bool) : Reader Escaped := do
  let f ← flags
  if !f.unicode then failure
  skipSpace
  let name ←
    if (← peek) == some '\x7b' then do
      skip 1
      let cs ← rest
      let inside := cs.takeWhile (· != '\x7d')
      setRest (cs.drop inside.length)
      expect '\x7d'
      pure inside
    else do pure [← take]
  let (inner, name) := match name with
    | '^' :: r => (true, r)
    | r => (false, r)
  let value := match name.dropWhile (fun c => c != '=' && c != ':') with
    | _ :: r => r
    | [] => name
  let s ← liftM (CharSet.property? (CharSet.plainName value))
  pure (.set (signed (negated != inner) (withCase f s)))

/-- The name in braces that may follow an escaped `b`. -/
def boundaryNames : List (List Char × Assertion) :=
  [("\x7bstart\x7d".toList, .wordStart), ("\x7bend\x7d".toList, .wordEnd),
   ("\x7bstart-half\x7d".toList, .wordStartHalf), ("\x7bend-half\x7d".toList, .wordEndHalf)]

def readBoundary : Reader Escaped := do
  let cs ← rest
  match boundaryNames.find? fun (name, _) => name.isPrefixOf cs with
  | some (name, a) => do
    skip name.length
    pure (.assertion a)
  | none => pure (.assertion .boundary)

/-- An escape, behind its backslash. -/
def readEscape : Reader Escaped := do
  let f ← flags
  let c ← take
  let shorthand (negated : Bool) (wide narrow : CharSet) : Reader Escaped :=
    if f.unicode then pure (.set (signed negated wide))
    else if negated then failure
    else pure (.set narrow)
  match c with
  | 'x' => return .char (← readHex 2)
  | 'u' => return .char (← readHex 4)
  | 'U' => return .char (← readHex 8)
  | 'p' => readProperty false
  | 'P' => readProperty true
  | 'd' => shorthand false .digit .asciiDigit
  | 'D' => shorthand true .digit .asciiDigit
  | 's' => shorthand false .blanks .asciiBlank
  | 'S' => shorthand true .blanks .asciiBlank
  | 'w' => shorthand false .word .asciiWord
  | 'W' => shorthand true .word .asciiWord
  | 'a' => pure (.char '\x07')
  | 'f' => pure (.char '\x0c')
  | 't' => pure (.char '\t')
  | 'n' => pure (.char '\n')
  | 'r' => pure (.char '\r')
  | 'v' => pure (.char '\x0b')
  | 'A' => pure (.assertion .textStart)
  | 'z' => pure (.assertion .textEnd)
  | 'b' => readBoundary
  | 'B' => if f.unicode then pure (.assertion .noBoundary) else failure
  | '<' => pure (.assertion .wordStart)
  | '>' => pure (.assertion .wordEnd)
  | c => if isEscapable c then pure (.char c) else failure

/-- An operation between the parts of a set in brackets. -/
inductive SetOp where
  | inter
  | diff
  | symm

def SetOp.apply : SetOp → CharSet → CharSet → CharSet
  | inter => .inter
  | diff => .diff
  | symm => .symm

/-- One item of a set: a character or an escape. -/
def readItem : Reader Escaped := do
  match ← take with
  | '\\' => readEscape
  | c => pure (.char c)

def Escaped.asSet : Escaped → Option CharSet
  | .char c => some (.single c)
  | .set s => some s
  | .assertion _ => none

/-- An item or a range of characters. A hyphen before the closing bracket or another hyphen makes
no range. -/
def readRange : Reader CharSet := do
  let first ← readItem
  skipSpace
  let ahead : Option Char ← do
    let cs ← rest
    let f ← flags
    pure ((if f.verbose then dropSpace false (cs.drop 1) else cs.drop 1).head?)
  match ← peek with
  | none => failure
  | some '-' =>
    if ahead == some ']' || ahead == some '-' then liftM first.asSet
    else do
      skip 1
      skipSpace
      match first, ← readItem with
      | .char a, .char b => if b < a then failure else pure (.range a.toNat b.toNat)
      | _, _ => failure
  | some _ => liftM first.asSet

/-- A class in brackets and colons, behind its bracket, if there is one. -/
def bracketClass : Reader (Option CharSet) := fun s =>
  match s.rest with
  | ':' :: r =>
    let (negated, r) := match r with
      | '^' :: r => (true, r)
      | r => (false, r)
    let name := r.takeWhile (· != ':')
    match CharSet.bracketClass? (String.ofList name), r.drop name.length with
    | some c, ':' :: ']' :: r => some (some (signed negated c), { s with rest := r })
    | _, _ => some (none, s)
  | _ => some (none, s)

/-- Hyphens in front of a set, as characters of it. -/
def leadingHyphens : Nat → CharSet → Reader CharSet
  | 0, s => pure s
  | fuel + 1, s => do
    if ← accept ['-'] then
      skipSpace
      leadingHyphens fuel (.union s (.single '-'))
    else pure s

mutual

/-- A set, behind its opening bracket. -/
def readSet : Nat → Reader CharSet
  | 0 => failure
  | fuel + 1 => do
    skipSpace
    let negated ← accept ['^']
    skipSpace
    let f ← flags
    if negated && !f.unicode then failure
    let start ← leadingHyphens fuel .none
    -- A closing bracket that comes first stands for itself.
    let hyphens := match start with
      | .none => false
      | _ => true
    let start ← if !hyphens && (← accept [']']) then pure (.single ']') else pure start
    let s ← readSetParts fuel none start
    pure (signed negated (withCase f s))

/-- The parts of a set, where `left` is what an operation has to its left and `current` what has
been read of its right. -/
def readSetParts : Nat → Option (SetOp × CharSet) → CharSet → Reader CharSet
  | 0, _, _ => failure
  | fuel + 1, left, current => do
    skipSpace
    let f ← flags
    let joined : CharSet := match left with
      | none => current
      | some (op, l) => op.apply (withCase f l) (withCase f current)
    match ← peek with
    -- The set was never closed.
    | none => failure
    | some '[' => do
      skip 1
      match ← bracketClass with
      | some s => readSetParts fuel left (.union current s)
      | none => do
        let s ← readSet fuel
        readSetParts fuel left (.union current s)
    | some ']' => do
      skip 1
      pure joined
    | some c => do
      -- What stood to the left so far becomes the left side of the operation.
      if c == '&' && (← peekSecond) == some '&' then do
        skip 2
        readSetParts fuel (some (.inter, joined)) .none
      else if c == '-' && (← peekSecond) == some '-' then do
        skip 2
        readSetParts fuel (some (.diff, joined)) .none
      else if c == '~' && (← peekSecond) == some '~' then do
        skip 2
        readSetParts fuel (some (.symm, joined)) .none
      else do
        let s ← readRange
        readSetParts fuel left (.union current s)

end

/-- A flag letter and what it does. -/
def Flags.set? (f : Flags) (value : Bool) : Char → Option Flags
  | 'i' => some { f with ignoreCase := value }
  | 'm' => some { f with multiLine := value }
  | 's' => some { f with dotAll := value }
  | 'x' => some { f with verbose := value }
  | 'u' => some { f with unicode := value }
  | 'U' | 'R' => some f
  | _ => none

/-- Flag letters up to a colon or a closing parenthesis, each at most once; those behind the hyphen
are turned off. -/
def flagLetters (f : Flags) (value : Bool) (seen : List Char) : List Char →
    Option (Flags × Char × List Char)
  | [] => none
  | c :: r =>
    if c == ':' || c == ')' then
      if seen.head? == some '-' then none else some (f, c, r)
    else if c == '-' then
      if seen.contains '-' then none else flagLetters f false ('-' :: seen) r
    else if seen.contains c then none
    else (f.set? value c).bind fun f => flagLetters f value (c :: seen) r

/-- The name of a group, behind its opening bracket. -/
def readName : Reader Unit := fun s => do
  let name := s.rest.takeWhile (· != '>')
  let after := s.rest.drop name.length
  let starts (c : Char) : Bool := c == '_' || CharSet.has (.rows letterRows) c.toNat
  let continues (c : Char) : Bool :=
    starts c || ['.', '[', ']'].contains c || CharSet.has (.rows numberRows) c.toNat
  match name, after with
  | first :: more, '>' :: r =>
    if starts first && more.all continues && !s.names.contains name then
      some ((), { s with rest := r, names := name :: s.names })
    else none
  | _, _ => none

/-- A count in braces, blanks allowed around it. -/
def readCount : Reader (Option Nat) := fun s =>
  let cs := s.rest.dropWhile Text.isBlank
  let digits := cs.takeWhile Char.isDigit
  let after := (cs.drop digits.length).dropWhile Text.isBlank
  let n := digits.foldl (fun n c => n * 10 + (c.toNat - '0'.toNat)) 0
  if digits.isEmpty then some (none, { s with rest := after })
  else if n < UInt32.size then some (some n, { s with rest := after })
  else none

/-- The counts of a repetition, behind its opening brace. -/
def readCounts : Reader (Nat × Option Nat) := do
  let least ← liftM (← readCount)
  if ← accept [','] then
    skipSpace
    if ← accept ['\x7d'] then pure (least, none)
    else do
      let most ← liftM (← readCount)
      expect '\x7d'
      if most < least then failure
      pure (least, some most)
  else do
    expect '\x7d'
    pure (least, some least)

/-- Puts parts, held in reverse, behind each other. What is no part of its own is left out. -/
def inSequence (parts : List (Option Pattern)) : Pattern :=
  parts.foldl (fun tail part => match part with
    | some p => match tail with
      | .empty => p
      | t => .seq p t
    | none => tail) .empty

mutual

/-- Alternatives, up to a closing parenthesis or the end. -/
def readAlternatives : Nat → Reader Pattern
  | 0 => failure
  | fuel + 1 => do
    let first ← readSequence fuel []
    if ← accept ['|'] then do
      let others ← readAlternatives fuel
      pure (.alt first others)
    else pure first

/-- Parts, of which those already read are held in reverse. A change of flags is no part that can
be repeated. -/
def readSequence : Nat → List (Option Pattern) → Reader Pattern
  | 0, _ => failure
  | fuel + 1, parts => do
    skipSpace
    let f ← flags
    let again (least : Nat) (most : Option Nat) : Reader Pattern := do
      -- Whether a repetition is greedy does not matter for whether there is a match.
      let _ ← accept ['?']
      match parts with
      | some p :: others => readSequence fuel (some (p.repeated least most) :: others)
      | _ => failure
    match ← peek with
    | none | some '|' | some ')' => pure (inSequence parts)
    | some c => do
      skip 1
      match c with
      | '*' => again 0 none
      | '+' => again 1 none
      | '?' => again 0 (some 1)
      | '\x7b' => do
        let (least, most) ← readCounts
        skipSpace
        again least most
      | '(' => do
        let part ← readGroup fuel
        readSequence fuel (part :: parts)
      | '[' => do
        let s ← readSet fuel
        readSequence fuel (some (.set s) :: parts)
      | '.' => do
        if !f.unicode then failure
        let s : CharSet := if f.dotAll then .range 0 0x10FFFF else .compl (.range 10 10)
        readSequence fuel (some (.set s) :: parts)
      | '^' =>
        let a : Assertion := if f.multiLine then .lineStart else .textStart
        readSequence fuel (some (.assertion a .none) :: parts)
      | '$' =>
        let a : Assertion := if f.multiLine then .lineEnd else .textEnd
        readSequence fuel (some (.assertion a .none) :: parts)
      | '\\' => do
        let part : Pattern := match ← readEscape with
          | .char c => .set (withCase f (.single c))
          | .set s => .set (withCase f s)
          | .assertion a => .assertion a (if f.unicode then .word else .asciiWord)
        readSequence fuel (some part :: parts)
      | c => readSequence fuel (some (.set (withCase f (.single c))) :: parts)

/-- A group or a change of flags, behind its opening parenthesis. Flags that change inside a group
are back in force behind it. -/
def readGroup : Nat → Reader (Option Pattern)
  | 0 => failure
  | fuel + 1 => do
    let f ← flags
    let inside : Reader (Option Pattern) := do
      let p ← readAlternatives fuel
      expect ')'
      setFlags f
      pure (some p)
    skipSpace
    if ← accept ['?', 'P', '<'] then do
      readName
      inside
    else if ← accept ['?', '='] then failure
    else if ← accept ['?', '!'] then failure
    else if ← accept ['?', '<', '='] then failure
    else if ← accept ['?', '<', '!'] then failure
    else if ← accept ['?', '<'] then do
      readName
      inside
    else if ← accept ['?'] then do
      let cs ← rest
      let (changed, closing, r) ← liftM (flagLetters f true [] cs)
      setRest r
      setFlags changed
      -- Flags without a group stay in force up to the end of the group around them.
      if closing == ')' then
        if cs.head? == some ')' then failure
        pure none
      else inside
    else inside

end

/-- Reads a pattern. What does not read, or takes too much space, is no pattern. -/
def read? (ignoreCase : Bool) (text : List Char) : Option Pattern := do
  let start : ReaderState := { rest := text, flags := { ignoreCase } }
  let (p, s) ← readAlternatives (4 * text.length + 8) start
  if s.rest.isEmpty && p.size ≤ sizeLimit then some p else none

/-- Searches texts with the patterns that `read?` reads. -/
def reader (ignoreCase : Bool) (text : String) : Option (String → Bool) :=
  (read? ignoreCase text.toList).map fun p => fun message => p.matchesIn message.toList

end Autoresponder.Pattern
