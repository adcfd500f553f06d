import Autoresponder.Json.Reader
import Autoresponder.Store.Basic

/-!
# Rows of other programs

A row that another program writes is given column by column. Columns that are left out take their
defaults; a row that lacks one without a default, or that the tables do not admit, is refused.
-/

namespace Autoresponder.Store

/-- A value for a column. -/
inductive Foreign where
  | null
  | int (n : Int)
  | text (s : String)
  deriving DecidableEq, Repr

/-- The columns of a row. -/
abbrev ForeignRow := List (String × Foreign)

namespace IntCell

/-- The digits of a decimal, and how many of them stand behind the point. -/
def decimal? (cs : List Char) : Option (Nat × Nat × List Char) :=
  let whole := cs.takeWhile Char.isDigit
  let rest := cs.drop whole.length
  let fraction := match rest with
    | '.' :: r => r.takeWhile Char.isDigit
    | _ => []
  let rest := match rest with
    | '.' :: r => r.drop fraction.length
    | r => r
  if whole.isEmpty && fraction.isEmpty then none
  else some (TimeText.digitsValue (whole ++ fraction), fraction.length, rest)

/-- An exponent, if the text has one. -/
def exponent? : List Char → Option Int
  | [] => some 0
  | e :: r =>
    if e == 'e' || e == 'E' then
      let (negative, ds) := match r with
        | '-' :: ds => (true, ds)
        | '+' :: ds => (false, ds)
        | ds => (false, ds)
      if ds.isEmpty || !ds.all Char.isDigit || 4 < ds.length then none
      else
        let n : Int := TimeText.digitsValue ds
        some (if negative then -n else n)
    else none

/-- A blank of a numeric text. -/
def isGap (c : Char) : Bool := c == ' ' || ('\t' ≤ c && c ≤ '\r')

/-- The integer that a text spells, if it spells one that a column holds. -/
def spelled? (s : String) : Option Int := do
  let cs := ((s.toList.dropWhile isGap).reverse.dropWhile isGap).reverse
  let (negative, cs) := match cs with
    | '-' :: r => (true, r)
    | '+' :: r => (false, r)
    | r => (false, r)
  let (digits, places, rest) ← decimal? cs
  let shift := (← exponent? rest) - places
  let num := digits * Nat.pow 10 shift.toNat
  let den := Nat.pow 10 (-shift).toNat
  if num % den ≠ 0 then none
  else
    let n : Int := if negative then -((num / den : Nat) : Int) else (num / den : Nat)
    if -greatest - 1 ≤ n ∧ n ≤ greatest then some n else none

/-- The cell that a text makes. -/
def ofText (s : String) : IntCell :=
  match spelled? s with
  | some n => int n
  | none => text s

end IntCell

namespace ForeignRow

/-- A text column that may be missing. An integer is written out. -/
def optional (r : ForeignRow) (column : String) : Option String :=
  match r.lookup column with
  | some (.text s) => some s
  | some (.int n) => some (toString n)
  | _ => none

/-- A text column that may not be missing. -/
def required (r : ForeignRow) (column : String) : Option String := r.optional column

/-- A text column with a default. -/
def textOr (r : ForeignRow) (column default : String) : Option String :=
  match r.lookup column with
  | none => some default
  | some .null => none
  | some _ => r.optional column

/-- A column with a document and a default. -/
def documentOr (r : ForeignRow) (column default : String) : Option (Option Json) :=
  (r.textOr column default).map Json.parse

/-- An integer column that may not be missing. -/
def integer (r : ForeignRow) (column : String) : Option IntCell :=
  match r.lookup column with
  | some (.int n) => some (.int n)
  | some (.text s) => some (.ofText s)
  | _ => none

/-- An integer column with a default. -/
def integerOr (r : ForeignRow) (column : String) (default : Int) : Option IntCell :=
  match r.lookup column with
  | none => some (.int default)
  | _ => r.integer column

def flow? (r : ForeignRow) : Option FlowRow := do
  return {
    id := ← r.required "id"
    workspace := ← r.required "workspace_id"
    account := ← r.required "account_id"
    name := ← r.required "name"
    trigger := ← r.required "trigger_type"
    config := ← r.documentOr "trigger_config" "\x7b\x7d"
    nodes := ← r.documentOr "nodes" "[]"
    edges := ← r.documentOr "edges" "[]"
    status := ← r.textOr "status" FlowStatus.draft.tag
    priority := ← r.integerOr "priority" 100
    version := ← r.integerOr "version" 1
    triggerCount := ← r.integerOr "trigger_count" 0
    lastTriggered := r.optional "last_triggered_at"
    created := ← r.required "created_at"
    updated := ← r.required "updated_at" }

def rule? (r : ForeignRow) : Option RuleRow := do
  return {
    id := ← r.required "id"
    workspace := ← r.required "workspace_id"
    account := ← r.required "account_id"
    name := ← r.required "name"
    trigger := ← r.required "rule_type"
    config := ← r.documentOr "trigger_config" "\x7b\x7d"
    responseTag := ← r.required "response_type"
    response := ← r.documentOr "response_config" "\x7b\x7d"
    isActive := ← r.integerOr "is_active" 1
    priority := ← r.integerOr "priority" 100
    cooldown := ← r.integerOr "cooldown_seconds" 0
    dailyCap := ← r.integerOr "max_triggers_per_day" 0
    triggerCount := ← r.integerOr "trigger_count" 0
    lastTriggered := r.optional "last_triggered_at"
    created := ← r.required "created_at"
    updated := ← r.required "updated_at" }

def firing? (r : ForeignRow) : Option FiringRow := do
  return {
    id := ← r.required "id"
    rule := ← r.required "rule_id"
    conversation := ← r.required "conversation_id"
    messageId := r.optional "trigger_message_id"
    text := ← r.required "trigger_text"
    keyword := r.optional "matched_keyword"
    success := ← r.integer "response_success"
    time := ← r.required "created_at" }

def state? (r : ForeignRow) : Option StateRow := do
  return {
    id := ← r.required "id"
    workspace := ← r.required "workspace_id"
    account := ← r.required "account_id"
    phone := ← r.required "phone_number"
    flow := ← r.required "flow_id"
    node := ← r.required "current_node_id"
    lastButton := r.optional "last_button_clicked"
    collected := ← r.documentOr "collected_variables" "\x7b\x7d"
    lastInbound := r.optional "last_inbound_at"
    resumeAt := r.optional "resume_at"
    isActive := ← r.integerOr "is_active" 1
    version := ← r.integerOr "version" 1
    created := ← r.required "created_at"
    updated := ← r.required "updated_at"
    completed := r.optional "completed_at" }

def settings? (r : ForeignRow) : Option SettingsRow := do
  let _updated ← r.required "updated_at"
  return {
    workspace := ← r.required "workspace_id"
    account := ← r.required "account_id"
    settings := ← r.documentOr "settings" "\x7b\x7d" }

end ForeignRow

/-- Inserts a row into a table, if the table admits it. -/
def insertForeign (s : Store) (table : String) (row : ForeignRow) : Option Store :=
  match table with
  | "flows" => do
    let r ← row.flow?
    if s.flows.any (·.id == r.id) then none else some { s with flows := s.flows ++ [r] }
  | "automation_rules" => do
    let r ← row.rule?
    if s.rules.any (·.id == r.id) then none else some { s with rules := s.rules ++ [r] }
  | "rule_trigger_log" => do
    let r ← row.firing?
    if s.firings.any (·.id == r.id) || !s.rules.any (·.id == r.rule) then none
    else some { s with firings := s.firings ++ [r] }
  | "conversation_states" => do
    let r ← row.state?
    let taken := r.isActive == .int 1 && s.states.any (isActiveFor r.workspace r.phone)
    if s.states.any (·.id == r.id) || taken then none
    else some { s with states := s.states ++ [r] }
  | "account_settings" => do
    let r ← row.settings?
    if s.settings.any (isFor r.workspace r.account) then none
    else some { s with settings := s.settings ++ [r] }
  | _ => none

end Autoresponder.Store
