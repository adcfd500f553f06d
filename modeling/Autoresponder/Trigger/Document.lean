import Autoresponder.Json.Decode
import Autoresponder.Decimal.Shortest
import Autoresponder.Trigger.Config
import Autoresponder.Trigger.Kind

/-!
# Triggers as documents
-/

namespace Autoresponder

open Json Decimal

def TriggerKind.toJson (k : TriggerKind) : Json := .str k.tag

def TriggerKind.fromJson : Decoder TriggerKind := asName TriggerKind.ofTag?

namespace MatchMode

def tag : MatchMode → String
  | contains => "contains"
  | exact => "exact"
  | startsWith => "starts_with"
  | pattern => "regex"

def ofTag? : String → Option MatchMode
  | "contains" => some contains
  | "exact" => some exact
  | "starts_with" => some startsWith
  | "regex" => some pattern
  | _ => none

end MatchMode

/-- A number as one of 32 bits. An integer is rounded once; a fractional number has been rounded to
64 bits when it was read. -/
def asSingle : Decoder Single
  | .int n => some ⟨decide (n < 0), single.ofRatio n.natAbs 1⟩
  | .float x => some (x.round single)
  | _ => none

/-- What is left of a number of 32 bits after it was written with as few digits as it needs and
read again. There is no text for a number that is not finite. -/
def settle (x : Single) : Option Single :=
  match x.magnitude with
  | .finite s u =>
    let n := single.shortest s u
    let wide : Double := ⟨x.negative,
      double.ofRatio (n.digits * Nat.pow 10 n.exponent.toNat) (Nat.pow 10 (-n.exponent).toNat)⟩
    some (wide.round single)
  | _ => none

namespace TriggerConfig

def toJson (c : TriggerConfig) : Json :=
  .obj <|
    [("keywords", Json.ofStrings c.keywords),
     ("match_mode", .str c.matchMode.tag),
     ("case_sensitive", .bool c.caseSensitive)] ++
    (c.command.map fun s => ("command", Json.str s)).toList ++
    [("aliases", Json.ofStrings c.aliases)] ++
    (c.threshold.map fun x => ("threshold", Json.float (x.round double))).toList

open RecordReader in
def fromJson : Decoder TriggerConfig := asRecord do
  let keywords ← fieldOr "keywords" (asList asString) []
  let matchMode ← fieldOr "match_mode" (asName MatchMode.ofTag?) .contains
  let caseSensitive ← fieldOr "case_sensitive" asBool false
  let command ← nullableOr "command" asString
  let aliases ← fieldOr "aliases" (asList asString) []
  let threshold ← nullableOr "threshold" asSingle
  return { keywords, matchMode, caseSensitive, command, aliases, threshold }

/-- The configuration as it is after it was written to the store. -/
def settled (c : TriggerConfig) : TriggerConfig :=
  { c with threshold := c.threshold.bind settle }

end TriggerConfig

end Autoresponder
