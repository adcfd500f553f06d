import Autoresponder.Message.Basic

/-!
# Senders

A sender takes messages for delivery. It accepts or refuses each one, and may remember those that
were handed to it before.
-/

namespace Autoresponder

/-- A message that was handed to the sender, what it said, and the time by which it was handed
over. -/
structure Exchange where
  intent : SendIntent
  verdict : Except DeliveryError Receipt
  time : Instant

namespace Exchange

/-- The receipt of a message that was accepted. -/
def receipt? (e : Exchange) : Option Receipt :=
  match e.verdict with
  | .ok r => some r
  | .error _ => none

def accepted (e : Exchange) : Bool := e.receipt?.isSome

end Exchange

/-- What a sender says to a message, given all earlier exchanges, newest first. -/
abbrev Sender := List Exchange → SendIntent → Except DeliveryError Receipt

namespace Sender

/-- A sender for tests: it checks messages if asked to, accepts some, refuses some, and accepts the
rest. Without a number of refusals it refuses all that follow. -/
structure Script where
  failure : Option DeliveryError := none
  after : Nat := 0
  refusals : Option Nat := none
  validates : Bool := false
  anonymous : Bool := false

/-- Whether a message reaches the part of a script that counts. -/
def Script.counts (s : Script) (i : SendIntent) : Bool :=
  !s.validates || match i.message.validate with
    | .ok _ => true
    | .error _ => false

/-- Whether the `n`-th message that counts is refused, counted from 0. -/
def Script.refuses (s : Script) (n : Nat) : Bool :=
  s.after ≤ n && match s.refusals with
    | some k => n < s.after + k
    | none => true

/-- The sender that follows a script from the `start`-th exchange on. Accepted messages are numbered
from the first exchange of all. -/
def ofScript (s : Script) (start : Nat) : Sender := fun earlier intent => do
  if s.validates then intent.message.validate
  let since := earlier.take (earlier.length - start)
  let position := (since.filter fun e => s.counts e.intent).length
  match s.failure with
  | some e => if s.refuses position then .error e
  | none => pure ()
  let number := (earlier.filter (·.accepted)).length + 1
  .ok ⟨if s.anonymous then none else some ("wamid." ++ toString number)⟩

end Sender

end Autoresponder
