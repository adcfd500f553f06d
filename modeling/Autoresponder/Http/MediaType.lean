import Autoresponder.Text.Search

/-!
# Media types

How a request names the format of its body: a type and a subtype with a slash between them, and
parameters behind a semicolon. What stands behind the last `+` of a subtype is its suffix.
-/

namespace Autoresponder.Http

/-- A media type, in lower case and without its parameters. -/
structure MediaType where
  main : List Char
  sub : List Char
  suffix : Option (List Char)
  deriving DecidableEq, Repr

namespace MediaType

/-- The characters of names. -/
def isToken (c : Char) : Bool :=
  c.isAlphanum || "!#$%&'*+-.^_`|~".toList.contains c

/-- Where a reader of parameters stands. -/
inductive Scan where
  /-- Before a name. -/
  | before
  | name
  /-- Behind the equals sign. -/
  | equals
  | value
  /-- Behind the quote that opens a value. -/
  | opened
  | quoted
  /-- Behind the quote that closes a value. -/
  | closed
  deriving DecidableEq, Repr

/-- The characters of values in quotes. -/
def isQuotable (c : Char) : Bool := 0x20 ≤ c.toNat && c.toNat ≠ 0x7F

/-- One character of parameters. -/
def scanStep (state : Scan) (c : Char) : Option Scan :=
  match state with
  | .before => if c == ' ' then some .before else if isToken c then some .name else none
  | .name => if c == '=' then some .equals else if isToken c then some .name else none
  | .equals => if c == '"' then some .opened else if isToken c then some .value else none
  | .value => if c == ';' then some .before else if isToken c then some .value else none
  | .opened => if isQuotable c then some .quoted else none
  | .quoted => if c == '"' then some .closed else if isQuotable c then some .quoted else none
  | .closed => if c == ';' then some .before else if c == ' ' then some .closed else none

/-- Whether a text is a list of parameters, each with its value. -/
def areParameters (cs : List Char) : Bool :=
  match cs.foldlM scanStep .before with
  | none | some .name | some .opened | some .quoted => false
  | some _ => true

/-- Splits a subtype from its suffix. -/
def splitSuffix (cs : List Char) : List Char × Option (List Char) :=
  let tail := cs.reverse.takeWhile (· != '+')
  if cs.length ≤ tail.length + 1 then (cs, none)
  else (cs.take (cs.length - tail.length - 1), some tail.reverse)

/-- Reads a media type. -/
def ofString? (text : String) : Option MediaType := do
  let cs := text.toList
  let (name, parameters) := match Text.splitAt? [';'] cs with
    | some (front, rest) => (front, rest)
    | none => (cs, [])
  let (main, rest) ← Text.splitAt? ['/'] (name.map Char.toLower)
  let (sub, suffix) := splitSuffix rest
  if main.isEmpty || rest.isEmpty || !(main ++ rest).all isToken || !areParameters parameters then
    none
  else some { main, sub, suffix }

/-- Whether a media type is one of JSON. -/
def isJson (m : MediaType) : Bool :=
  m.main == "application".toList &&
    (m.sub == "json".toList || m.suffix == some "json".toList)

end MediaType

end Autoresponder.Http
