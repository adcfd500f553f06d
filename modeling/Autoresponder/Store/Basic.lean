import Autoresponder.Store.Row

/-!
# The store

Tables of rows in the order in which they were inserted, and what can be asked of them and done to
them. A write that fails leaves the store as it was. At most one conversation of a person is
active at a time.
-/

namespace Autoresponder

open Store

/-- The stored tables. -/
structure Store where
  flows : List FlowRow := []
  rules : List RuleRow := []
  firings : List FiringRow := []
  settings : List SettingsRow := []
  states : List StateRow := []
  deriving Inhabited

namespace Store

/-- The readable ones among rows. -/
def readable {α β : Type} (read : α → Except StoreError β) (rows : List α) : List β :=
  rows.filterMap fun r => (read r).toOption

/-- Reads a row if there is one. -/
def readFirst {α β : Type} (read : α → Except StoreError β) (row : Option α) :
    Except StoreError (Option β) :=
  match row with
  | some r => (read r).map some
  | none => .ok none

/-- The lower priority goes first, then the older row. -/
def inOrder (priority : IntCell) (created : String) (priority' : IntCell) (created' : String) :
    Bool :=
  if priority ≠ priority' then priority.notAfter priority' else created ≤ created'

/-! ## Flows -/

/-- Stores a flow, new or in place of the one with the same identifier. -/
def putFlow (s : Store) (f : Flow) : Store :=
  let new := FlowRow.ofFlow f
  if s.flows.any (·.id == new.id) then
    { s with flows := s.flows.map fun r => if r.id == new.id then r.revised new else r }
  else { s with flows := s.flows ++ [new] }

def flow? (s : Store) (id : Uuid) : Except StoreError (Option Flow) :=
  readFirst FlowRow.read (s.flows.find? (·.id == toString id))

/-- The active flows of an account. -/
def activeFlows (s : Store) (workspace account : String) : List Flow :=
  let rows := s.flows.filter fun r =>
    r.workspace == workspace && r.account == account && r.status == FlowStatus.active.tag
  readable FlowRow.read
    (rows.mergeSort fun a b => inOrder a.priority a.created b.priority b.created)

def setFlowStatus (s : Store) (id : Uuid) (status : FlowStatus) (time : Instant) :
    Except StoreError Store :=
  let key := toString id
  if s.flows.any (·.id == key) then
    .ok { s with flows := s.flows.map fun r =>
      if r.id == key then { r with status := status.tag, updated := time.stored } else r }
  else .error (.notFound "flow" key)

/-- Counts a start of a flow. -/
def countFlowStart (s : Store) (id : Uuid) (time : Instant) : Store :=
  let key := toString id
  { s with flows := s.flows.map fun r =>
    if r.id == key then
      { r with triggerCount := r.triggerCount.next, lastTriggered := some time.stored }
    else r }

/-! ## Rules -/

/-- Stores a rule, new or in place of the one with the same identifier. -/
def putRule (s : Store) (r : Rule) : Store :=
  let new := RuleRow.ofRule r
  if s.rules.any (·.id == new.id) then
    { s with rules := s.rules.map fun r => if r.id == new.id then r.revised new else r }
  else { s with rules := s.rules ++ [new] }

def rule? (s : Store) (id : Uuid) : Except StoreError (Option Rule) :=
  readFirst RuleRow.read (s.rules.find? (·.id == toString id))

/-- The active rules of an account. -/
def activeRules (s : Store) (workspace account : String) : List Rule :=
  let rows := s.rules.filter fun r =>
    r.workspace == workspace && r.account == account && r.isActive == .int 1
  readable RuleRow.read
    (rows.mergeSort fun a b => inOrder a.priority a.created b.priority b.created)

/-! ## Firings -/

/-- The wording of a write that the tables do not admit. -/
def violation (operation what : String) : String :=
  operation ++ ": SQLite failure: `" ++ what ++ "`"

/-- Logs a firing, and counts it in its rule if it was a success. -/
def logFiring (s : Store) (e : Firing) : Except StoreError Store :=
  let new := FiringRow.ofFiring e
  let operation := "log_rule_trigger insert"
  if s.firings.any (·.id == new.id) then
    .error (.constraint (violation operation "UNIQUE constraint failed: rule_trigger_log.id"))
  -- Firings belong to a rule that is there.
  else if !s.rules.any (·.id == new.rule) then
    .error (.query (violation operation "FOREIGN KEY constraint failed"))
  else
    .ok { s with
      firings := s.firings ++ [new]
      rules := s.rules.map fun r =>
        if e.success && r.id == new.rule then
          { r with triggerCount := r.triggerCount.next, lastTriggered := some new.time }
        else r }

/-- The successful firings of a rule in a conversation. -/
def successes (s : Store) (rule : Uuid) (conversation : String) : List FiringRow :=
  s.firings.filter fun r =>
    r.rule == toString rule && r.conversation == conversation && r.success == .int 1

/-- The greatest of some timestamps. -/
def latest? : List String → Option String
  | [] => none
  | t :: rest => some (rest.foldl (fun a b => if a < b then b else a) t)

/-- The time of the last success of a rule in a conversation. -/
def lastFiring (s : Store) (rule : Uuid) (conversation : String) : Option Instant :=
  (latest? ((s.successes rule conversation).map (·.time))).map TimeText.readStored

/-- The number of successes of a rule in a conversation since an instant. -/
def countFirings (s : Store) (rule : Uuid) (conversation : String) (since : Instant) : Nat :=
  ((s.successes rule conversation).filter fun r => since.stored ≤ r.time).length

/-- All firings of a rule, newest first. -/
def ruleFirings (s : Store) (rule : Uuid) : List Firing :=
  readable FiringRow.read
    ((s.firings.filter (·.rule == toString rule)).mergeSort fun a b => b.time ≤ a.time)

/-! ## Conversations -/

/-- Whether a row is the active conversation of a person. -/
def isActiveFor (workspace phone : String) (r : StateRow) : Bool :=
  r.workspace == workspace && r.phone == phone && r.isActive == .int 1

/-- Begins a conversation. The active one of the same person ends. -/
def createState (s : Store) (c : Conversation) : Except StoreError Store :=
  let new := StateRow.ofConversation c
  if s.states.any (·.id == new.id) then
    .error (.constraint
      (violation "create_state insert" "UNIQUE constraint failed: conversation_states.id"))
  else
    let ended := s.states.map fun r =>
      if isActiveFor c.workspace c.phone r then r.displaced new.created else r
    .ok { s with states := ended ++ [new] }

def state? (s : Store) (id : Uuid) : Except StoreError (Option Conversation) :=
  readFirst StateRow.read (s.states.find? (·.id == toString id))

/-- The active conversation of a person. -/
def activeState? (s : Store) (workspace phone : String) :
    Except StoreError (Option Conversation) :=
  readFirst StateRow.read (s.states.find? (isActiveFor workspace phone))

/-- Writes a conversation over the stored one, if that still has a version. -/
def updateState (s : Store) (c : Conversation) (version : Int) :
    Except StoreError (Option Store) :=
  let new := StateRow.ofConversation c
  match s.states.find? fun r => r.id == new.id && r.version == .int version with
  | none => .ok none
  | some old =>
    -- The person of the stored row counts: that never changes.
    if c.isActive &&
        s.states.any fun r => r.id != old.id && isActiveFor old.workspace old.phone r then
      .error (.constraint (violation "update_state"
        ("UNIQUE constraint failed: conversation_states.workspace_id, " ++
          "conversation_states.phone_number")))
    else
      .ok (some { s with states := s.states.map fun r =>
        if r.id == old.id then r.revised new else r })

/-- The active conversations that are to be resumed, the longest due first. -/
def dueStates (s : Store) (now : Instant) : List Conversation :=
  let due (r : StateRow) : Bool :=
    r.isActive == .int 1 && match r.resumeAt with
      | some t => decide (t ≤ now.stored)
      | none => false
  readable StateRow.read ((s.states.filter due).mergeSort fun a b =>
    a.resumeAt.getD "" ≤ b.resumeAt.getD "")

/-- The number of active conversations of a person. -/
def countActive (s : Store) (workspace phone : String) : Nat :=
  (s.states.filter (isActiveFor workspace phone)).length

/-! ## Settings -/

def isFor (workspace account : String) (r : SettingsRow) : Bool :=
  r.workspace == workspace && r.account == account

def settings? (s : Store) (workspace account : String) :
    Except StoreError (Option AccountSettings) :=
  readFirst (fun r => readDocument 0 AccountSettings.fromJson r.settings)
    (s.settings.find? (isFor workspace account))

def putSettings (s : Store) (workspace account : String) (settings : AccountSettings) : Store :=
  let new : SettingsRow := ⟨workspace, account, some settings.toJson⟩
  if s.settings.any (isFor workspace account) then
    { s with settings := s.settings.map fun r => if isFor workspace account r then new else r }
  else { s with settings := s.settings ++ [new] }

end Store

end Autoresponder
