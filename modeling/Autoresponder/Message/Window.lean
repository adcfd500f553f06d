import Autoresponder.Time.Instant

/-!
# The messaging window

A message that is no template may be sent for 24 hours after the last one that came in.
-/

namespace Autoresponder.Window

/-- The length of the window. -/
def length : Span := Span.ofSeconds (24 * 3600)

/-- Whether the window is open. It is closed at its very end, and before any message came in. -/
def isOpen (lastInbound : Option Instant) (now : Instant) : Bool :=
  match lastInbound with
  | some last => decide (now.since last < length)
  | none => false

/-- The whole seconds for which the window stays open. -/
def remaining (lastInbound : Option Instant) (now : Instant) : Int :=
  match lastInbound with
  | some last => max 0 (Span.wholeSeconds (length - now.since last))
  | none => 0

/-- A conversation is stale once its window has closed. -/
def isStale (lastInbound : Option Instant) (now : Instant) : Bool := !isOpen lastInbound now

/-- Whether a delay is over. One without an end never is. -/
def delayDue (resumeAt : Option Instant) (now : Instant) : Bool :=
  match resumeAt with
  | some t => decide (t ≤ now)
  | none => false

end Autoresponder.Window
