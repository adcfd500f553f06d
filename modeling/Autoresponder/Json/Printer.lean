import Autoresponder.Json.Basic
import Autoresponder.Decimal.Shortest

/-!
# Writing JSON text

The compact form: no blanks, and nothing escaped that need not be.
-/

namespace Autoresponder.Json

open Decimal

/-- Fractional numbers are written with as few digits as read back; positional from `10 ^ -5` up to
below `10 ^ 16`, and then with at least one digit behind the point, and otherwise with an exponent
that shows its sign. -/
def floatText (x : Double) : String :=
  let sign := if x.negative then "-" else ""
  match x.magnitude with
  | .finite s u =>
    let n := double.shortest s u
    let e := n.leading
    if -5 ≤ e && e < 16 then
      let (whole, fraction) := n.positional
      sign ++ String.ofList whole ++ "." ++
        (if fraction.isEmpty then "0" else String.ofList fraction)
    else
      let mantissa := match n.digitText with
        | [] => ""
        | [d] => String.ofList [d]
        | d :: ds => String.ofList (d :: '.' :: ds)
      sign ++ mantissa ++ "e" ++ (if e < 0 then "-" else "+") ++ toString e.natAbs
  | _ => "null"

/-- One character of a string. -/
def escapeText (c : Char) : List Char :=
  match c with
  | '"' => ['\\', '"']
  | '\\' => ['\\', '\\']
  | '\x08' => ['\\', 'b']
  | '\x0c' => ['\\', 'f']
  | '\n' => ['\\', 'n']
  | '\r' => ['\\', 'r']
  | '\t' => ['\\', 't']
  | c =>
    if c.toNat < 0x20 then
      ['\\', 'u', '0', '0', Nat.digitChar (c.toNat / 16), Nat.digitChar (c.toNat % 16)]
    else [c]

def quote (s : String) : String :=
  "\"" ++ String.ofList (s.toList.flatMap escapeText) ++ "\""

mutual

/-- A document as compact text. -/
def compact : Json → String
  | .null => "null"
  | .bool b => if b then "true" else "false"
  | .int n => toString n
  | .float x => floatText x
  | .str s => quote s
  | .arr items => "[" ++ ",".intercalate (compactItems items) ++ "]"
  | .obj members => "\x7b" ++ ",".intercalate (compactMembers members) ++ "\x7d"

def compactItems : List Json → List String
  | [] => []
  | j :: rest => compact j :: compactItems rest

def compactMembers : List (String × Json) → List String
  | [] => []
  | (k, j) :: rest => (quote k ++ ":" ++ compact j) :: compactMembers rest

end

end Autoresponder.Json
