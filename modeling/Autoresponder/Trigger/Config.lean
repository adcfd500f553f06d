import Autoresponder.Decimal.Binary
import Autoresponder.Text.Blank
import Autoresponder.Text.LowerCase
import Autoresponder.Text.Search

/-!
# Trigger configuration

The words and the command that a trigger listens for, and how the text of a message is compared
with them.
-/

namespace Autoresponder

open Text

/-- Reads a search pattern, with or without regard to case, and says in which texts it is found. Not
every text is a pattern. -/
abbrev PatternReader := Bool → String → Option (String → Bool)

/-- How a keyword is compared with a message. -/
inductive MatchMode where
  | contains
  | exact
  | startsWith
  | pattern
  deriving DecidableEq, Repr

/-- What a trigger listens for. -/
structure TriggerConfig where
  keywords : List String := []
  matchMode : MatchMode := .contains
  caseSensitive : Bool := false
  command : Option String := none
  aliases : List String := []
  /-- The similarity from which on an answer of the knowledge base is good enough. -/
  threshold : Option Decimal.Single := none
  deriving DecidableEq, Inhabited

namespace TriggerConfig

/-- Removes the difference of case unless it matters. -/
def normal (c : TriggerConfig) (s : String) : String := if c.caseSensitive then s else lower s

/-- Whether a keyword matches a text without blanks around it. A keyword that should be a pattern
and is none never does. -/
def keywordMatches (patterns : PatternReader) (c : TriggerConfig) (text keyword : String) : Bool :=
  let word := c.normal (trim keyword)
  match c.matchMode with
  | .contains => Text.contains (c.normal text) word
  | .exact => c.normal text = word
  | .startsWith => Text.startsWith (c.normal text) word
  | .pattern =>
    match patterns (!c.caseSensitive) keyword with
    | some isFoundIn => isFoundIn text
    | none => false

/-- The first keyword that matches a message. Blank keywords never match. -/
def matchKeyword (patterns : PatternReader) (c : TriggerConfig) (text : String) : Option String :=
  c.keywords.find? fun k => !blank k && c.keywordMatches patterns (trim text) k

/-- The first keyword that is the whole message. -/
def matchExact (c : TriggerConfig) (text : String) : Option String :=
  c.keywords.find? fun k => !blank k && c.normal (trim k) == c.normal (trim text)

/-- Whether a message is a command, alone or followed by a space and more. -/
def isCommand (message command : String) : Bool :=
  !command.isEmpty && (message == command || Text.startsWith message (command ++ " "))

/-- The command or the first alias that a message calls. -/
def matchCommand (c : TriggerConfig) (text : String) : Option String :=
  ((c.command.toList ++ c.aliases).map fun name => lower (trim name)).find?
    (isCommand (lower (trim text)))

end TriggerConfig

end Autoresponder
