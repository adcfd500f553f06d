import Autoresponder.Engine.Calls

/-!
# Limits

How often a rule may answer a conversation: not before its cooldown has passed since its last
success, and not more often in a day of the account than its cap says.
-/

namespace Autoresponder

open Step

/-- Why a rule may not answer. -/
inductive LimitHit where
  | cooldown (retryAfter : Int)
  | dailyCap (count max : Nat)
  deriving DecidableEq, Repr

def LimitHit.message : LimitHit → String
  | cooldown retryAfter => "cooldown active, retry in " ++ toString retryAfter ++ "s"
  | dailyCap count max =>
    "daily cap reached (" ++ toString count ++ "/" ++ toString max ++ ")"

namespace Rule

/-- The cooldown in seconds, as a number of 64 bits with a sign. -/
def cooldownSeconds (r : Rule) : Int := (r.cooldown.toNat : Int).bmod UInt64.size

/-- Whether the cooldown still runs. -/
def cooldownHit? (r : Rule) (last now : Instant) : Option LimitHit :=
  let elapsed := Span.wholeSeconds (now.since last)
  if elapsed < r.cooldownSeconds then
    some (.cooldown ((r.cooldownSeconds - elapsed).bmod UInt64.size))
  else none

/-- Whether the cap is reached. -/
def capHit? (r : Rule) (count : Nat) : Option LimitHit :=
  if r.dailyCap.toNat ≤ count then some (.dailyCap count r.dailyCap.toNat) else none

/-- Whether the cooldown keeps a rule from answering a conversation. -/
def checkCooldown (r : Rule) (conversation : String) : Step StoreError (Option LimitHit) := do
  if r.cooldown = 0 then return none
  else
    match ← Calls.lastFiring r.id conversation with
    | some last => return r.cooldownHit? last (← now)
    | none => return none

/-- Whether the cap keeps a rule from answering a conversation. The day begins at midnight in the
zone. -/
def checkCap (r : Rule) (conversation : String) (z : Zone) :
    Step StoreError (Option LimitHit) := do
  if r.dailyCap = 0 then return none
  else return r.capHit? (← Calls.countFirings r.id conversation (z.localMidnight (← now)))

/-- What keeps a rule from answering a conversation, if anything does. -/
def limitHit? (r : Rule) (conversation : String) (z : Zone) :
    Step StoreError (Option LimitHit) := do
  match ← r.checkCooldown conversation with
  | some hit => return some hit
  | none => r.checkCap conversation z

end Rule

/-- What a firing is logged with. -/
structure FiringRecord where
  conversation : String
  messageId : Option String := none
  text : String
  keyword : Option String := none
  deriving DecidableEq, Repr

/-- Logs a firing of a rule. -/
def logFiring (rule : Uuid) (record : FiringRecord) (success : Bool) :
    Step StoreError Firing := do
  let id ← freshId
  let entry : Firing :=
    { id, rule, conversation := record.conversation, messageId := record.messageId,
      text := record.text, keyword := record.keyword, success, time := ← now }
  Calls.logFiring entry
  return entry

end Autoresponder
