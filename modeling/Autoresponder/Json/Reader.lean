import Autoresponder.Json.Number

/-!
# Reading JSON text

Text is cut into tokens by a machine that takes one character at a time, and tokens are put
together by a machine that keeps the containers still open on a stack. Containers nest at most 127
deep.
-/

namespace Autoresponder.Json

/-- A token of JSON text. A scalar is a finished value. -/
inductive Token where
  | openList
  | closeList
  | openObject
  | closeObject
  | comma
  | colon
  | text (s : String)
  | scalar (value : Json)

/-- Where the scanner stands. Characters of a token are held in reverse. -/
inductive Scan where
  /-- Between tokens. -/
  | between
  /-- In a number or a word. -/
  | word (chars : List Char)
  /-- In a string. -/
  | inText (chars : List Char)
  /-- Behind a backslash. -/
  | escape (chars : List Char)
  /-- In the four digits of an escape, `left` of which are to come. `high` is the first half of a
  pair. -/
  | hex (chars : List Char) (high : Option Nat) (left : Nat) (value : Nat)
  /-- Behind the first half of a pair. -/
  | pair (chars : List Char) (high : Nat)
  /-- Behind the backslash between the halves. -/
  | pairEscape (chars : List Char) (high : Nat)

def hexValue? (c : Char) : Option Nat :=
  if c.isDigit then some (c.toNat - '0'.toNat)
  else if 'a' ≤ c && c ≤ 'f' then some (c.toNat - 'a'.toNat + 10)
  else if 'A' ≤ c && c ≤ 'F' then some (c.toNat - 'A'.toNat + 10)
  else none

/-- The token of a finished word. -/
def wordToken? (chars : List Char) : Option Token :=
  if chars = ['t', 'r', 'u', 'e'] then some (.scalar (.bool true))
  else if chars = ['f', 'a', 'l', 's', 'e'] then some (.scalar (.bool false))
  else if chars = ['n', 'u', 'l', 'l'] then some (.scalar .null)
  else (readNumber chars).map .scalar

def isSpace (c : Char) : Bool := c == ' ' || c == '\t' || c == '\n' || c == '\r'

/-- One character between tokens. -/
def scanBetween (c : Char) : Scan × List Token :=
  if isSpace c then (.between, [])
  else match c with
    | '[' => (.between, [.openList])
    | ']' => (.between, [.closeList])
    | '{' => (.between, [.openObject])
    | '}' => (.between, [.closeObject])
    | ',' => (.between, [.comma])
    | ':' => (.between, [.colon])
    | '"' => (.inText [], [])
    | c => (.word [c], [])

def endsWord (c : Char) : Bool := isSpace c || ['[', ']', '{', '}', ',', ':', '"'].contains c

/-- The character that a one-letter escape stands for. -/
def escapeChar? : Char → Option Char
  | '"' => some '"'
  | '\\' => some '\\'
  | '/' => some '/'
  | 'b' => some '\x08'
  | 'f' => some '\x0c'
  | 'n' => some '\n'
  | 'r' => some '\r'
  | 't' => some '\t'
  | _ => none

/-- Ends an escape of four digits. The halves of a pair come in order and together. -/
def finishHex (chars : List Char) (high : Option Nat) (value : Nat) : Option Scan :=
  match high with
  | none =>
    if 0xD800 ≤ value && value ≤ 0xDBFF then some (.pair chars value)
    else if 0xDC00 ≤ value && value ≤ 0xDFFF then none
    else some (.inText (Char.ofNat value :: chars))
  | some high =>
    if 0xDC00 ≤ value && value ≤ 0xDFFF then
      some (.inText (Char.ofNat (0x10000 + (high - 0xD800) * 0x400 + (value - 0xDC00)) :: chars))
    else none

/-- One character: the next state and the tokens that it ends. -/
def scanStep (state : Scan) (c : Char) : Option (Scan × List Token) :=
  match state with
  | .between => some (scanBetween c)
  | .word chars =>
    if endsWord c then do
      let token ← wordToken? chars.reverse
      let (next, more) := scanBetween c
      some (next, token :: more)
    else some (.word (c :: chars), [])
  | .inText chars =>
    if c == '"' then some (.between, [.text (String.ofList chars.reverse)])
    else if c == '\\' then some (.escape chars, [])
    else if c.toNat < 0x20 then none
    else some (.inText (c :: chars), [])
  | .escape chars =>
    if c == 'u' then some (.hex chars none 4 0, [])
    else (escapeChar? c).map fun e => (.inText (e :: chars), [])
  | .hex chars high left value => do
    let d ← hexValue? c
    let value := value * 16 + d
    if left ≤ 1 then do
      let next ← finishHex chars high value
      some (next, [])
    else some (.hex chars high (left - 1) value, [])
  | .pair chars high => if c == '\\' then some (.pairEscape chars high, []) else none
  | .pairEscape chars high => if c == 'u' then some (.hex chars (some high) 4 0, []) else none

/-- The tokens of a text. -/
def tokens? (cs : List Char) : Option (List Token) := do
  let (last, found) ← cs.foldlM (fun (state, found) c => do
    let (next, tokens) ← scanStep state c
    some (next, tokens.reverse ++ found)) (Scan.between, [])
  match last with
  | .between => some found.reverse
  | .word chars => (wordToken? chars.reverse).map fun t => (t :: found).reverse
  | _ => none

/-- A container still open, its contents in reverse. `key` is the key whose value is awaited. -/
inductive Frame where
  | list (items : List Json)
  | object (members : List (String × Json)) (key : String)

/-- What may come next. -/
inductive Want where
  | value
  | firstItem
  | firstKey
  | key
  | colon
  | separator
  | nothing (whole : Json)

/-- The containers still open, innermost first, and what may come next. -/
structure Reading where
  frames : List Frame
  want : Want

/-- The greatest depth of nesting. -/
def depthLimit : Nat := 127

/-- Hands a finished value to the innermost open container. -/
def deliver (value : Json) : List Frame → Reading
  | [] => ⟨[], .nothing value⟩
  | .list items :: rest => ⟨.list (value :: items) :: rest, .separator⟩
  | .object members key :: rest => ⟨.object ((key, value) :: members) key :: rest, .separator⟩

/-- Opens a container. -/
def enter (frame : Frame) (want : Want) (frames : List Frame) : Option Reading :=
  if frames.length < depthLimit then some ⟨frame :: frames, want⟩ else none

/-- One token. -/
def readStep (r : Reading) (token : Token) : Option Reading :=
  match r.want, token, r.frames with
  | .value, .scalar v, fs | .firstItem, .scalar v, fs => some (deliver v fs)
  | .value, .text s, fs | .firstItem, .text s, fs => some (deliver (.str s) fs)
  | .value, .openList, fs | .firstItem, .openList, fs => enter (.list []) .firstItem fs
  | .value, .openObject, fs | .firstItem, .openObject, fs => enter (.object [] "") .firstKey fs
  | .firstItem, .closeList, .list _ :: fs => some (deliver (.arr []) fs)
  | .firstKey, .closeObject, .object _ _ :: fs => some (deliver (.obj []) fs)
  | .firstKey, .text s, .object ms _ :: fs | .key, .text s, .object ms _ :: fs =>
    some ⟨.object ms s :: fs, .colon⟩
  | .colon, .colon, fs => some ⟨fs, .value⟩
  | .separator, .comma, .list items :: fs => some ⟨.list items :: fs, .value⟩
  | .separator, .comma, .object ms k :: fs => some ⟨.object ms k :: fs, .key⟩
  | .separator, .closeList, .list items :: fs => some (deliver (.arr items.reverse) fs)
  | .separator, .closeObject, .object ms _ :: fs => some (deliver (.obj ms.reverse) fs)
  | _, _, _ => none

/-- Reads a text that is one document. -/
def parse (text : String) : Option Json := do
  let tokens ← tokens? text.toList
  let last ← tokens.foldlM readStep ⟨[], .value⟩
  match last.want with
  | .nothing whole => some whole
  | _ => none

end Autoresponder.Json
