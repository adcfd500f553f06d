import Autoresponder.Selection.Candidate

/-!
# Selection

The candidate that answers a message is the first one whose trigger takes it up. Triggers for
questions ask the knowledge base. What was asked on the way is kept: it is all that a message leaves
behind when it is matched.
-/

namespace Autoresponder

/-- A question to the knowledge base. -/
structure Lookup where
  workspace : String
  account : String
  question : String
  deriving DecidableEq, Repr

/-- An answer of the knowledge base, and how well it fits. -/
structure FaqAnswer where
  question : String
  answer : String
  score : Decimal.Single
  deriving DecidableEq

/-- What a knowledge base says to a question, given those that were asked before it for the same
message, newest first. It may have no answer, and may fail. -/
abbrev KnowledgeBase := List Lookup → Lookup → Except AutomationError (Option FaqAnswer)

/-- What messages are matched with. -/
structure Matcher where
  knowledge : Option KnowledgeBase
  /-- The similarity that an answer needs unless a trigger says otherwise. -/
  threshold : Decimal.Single
  zones : Zones
  patterns : PatternReader

/-- What is selected, and what of its trigger took up the message. -/
structure Selected where
  candidate : Candidate
  keyword : Option String := none
  faq : Option FaqAnswer := none
  deriving DecidableEq

/-- A message as triggers see it. -/
structure Query where
  text : String
  isFirst : Bool
  now : Instant

namespace Snapshot

def lookup (s : Snapshot) (q : Query) : Lookup := ⟨s.workspace, s.account, q.text⟩

/-- The answer to a message, if it fits well enough. A failure counts as no answer. -/
def answer? (s : Snapshot) (kb : KnowledgeBase) (threshold : Decimal.Single) (q : Query) :
    StateM (List Lookup) (Option FaqAnswer) := fun asked =>
  if Text.blank q.text then (none, asked)
  else
    let found := match kb asked (s.lookup q) with
      | .ok (some a) => if a.score.atLeast threshold then some a else none
      | _ => none
    (found, s.lookup q :: asked)

/-- Whether the trigger of a candidate takes up a message. -/
def evaluate (s : Snapshot) (m : Matcher) (q : Query) (c : Candidate) :
    StateM (List Lookup) (Option Selected) :=
  let plain : Selected := { candidate := c }
  let byKeyword (k : Option String) : Option Selected :=
    k.map fun k => { candidate := c, keyword := some k }
  match c.trigger with
  | .welcome => return if q.isFirst then some plain else none
  | .away => return if s.settings.isOpen m.zones q.now then none else some plain
  | .command => return byKeyword (c.config.matchCommand q.text)
  | .exactMatch => return byKeyword (c.config.matchExact q.text)
  | .keyword => return byKeyword (c.config.matchKeyword m.patterns q.text)
  | .faq =>
    match m.knowledge with
    | some kb => do
      let answer ← s.answer? kb (c.config.threshold.getD m.threshold) q
      return answer.map fun a => { candidate := c, faq := some a }
    | none => return none
  | .anyMessage => return some plain
  | .aiChat => return some plain
  | .fallback => return some plain

/-- The first of some candidates whose trigger takes up a message. -/
def selectFrom (s : Snapshot) (m : Matcher) (q : Query) :
    List Candidate → StateM (List Lookup) (Option Selected)
  | [] => return none
  | c :: rest => do
    match ← s.evaluate m q c with
    | some found => return some found
    | none => selectFrom s m q rest

/-- The first candidate whose trigger takes up a message, and the questions that were asked before
it was found, newest first. -/
def select (s : Snapshot) (m : Matcher) (q : Query) : Option Selected × List Lookup :=
  s.selectFrom m q s.candidates []

end Snapshot

end Autoresponder
