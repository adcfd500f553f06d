/-!
# One at a time

Whoever works on a conversation holds the lock of the person it is with. The locks are kept in a
table, at which there is one caller at a time: a caller looks up the lock of a person, makes a new
one if there is none, leaves the table, and waits for the lock. When there are many locks, a caller
who comes to the table first goes through them and drops each one that nobody uses. The others go on
meanwhile: they take locks that they refer to, and give them back.
-/

namespace Autoresponder

/-- Somebody who writes to a workspace. -/
structure Person where
  workspace : String
  phone : String
  deriving DecidableEq, Repr

namespace Locks

/-- Where a caller is on the way to a lock and back. -/
inductive Stage where
  | idle
  /-- At the table, with the entries that are still to be looked at. -/
  | atTable (person : Person) (pending : List Person)
  /-- At the table, about to drop an entry that was found to be unused. -/
  | dropping (person entry : Person) (pending : List Person)
  | waiting (person : Person) (lock : Nat)
  | holding (person : Person) (lock : Nat)
  /-- The lock is free again, and the caller still refers to it. -/
  | leaving (person : Person) (lock : Nat)
  deriving DecidableEq, Repr

namespace Stage

/-- The lock that a caller refers to, and whose it is. -/
def entry? : Stage → Option (Person × Nat)
  | waiting p l => some (p, l)
  | holding p l => some (p, l)
  | leaving p l => some (p, l)
  | _ => none

def refersTo (lock : Nat) (stage : Stage) : Bool := stage.entry?.any (·.2 == lock)

def holds (lock : Nat) : Stage → Bool
  | holding _ l => l == lock
  | _ => false

def isAtTable : Stage → Bool
  | atTable _ _ => true
  | dropping _ _ _ => true
  | _ => false

end Stage

end Locks

/-- The locks that there are, each under the person it is for, and the callers. -/
structure Locks where
  /-- With more locks than these, those that nobody uses are dropped. -/
  limit : Nat
  table : List (Person × Nat) := []
  callers : List Locks.Stage

namespace Locks

/-- No locks yet, and a number of callers. -/
def start (callers : Nat) (limit : Nat := 1024) : Locks :=
  { limit, callers := .replicate callers .idle }

/-- How often a lock is referred to, by the table and by callers. -/
def references (s : Locks) (lock : Nat) : Nat :=
  s.table.countP (·.2 == lock) + s.callers.countP (·.refersTo lock)

/-- Whether somebody holds a lock. -/
def isHeld (s : Locks) (lock : Nat) : Bool := s.callers.any (·.holds lock)

/-- Whether nobody is at the table. -/
def tableIsFree (s : Locks) : Bool := s.callers.all (!·.isAtTable)

/-- A caller goes on to a stage. -/
def put (s : Locks) (caller : Nat) (stage : Stage) : Locks :=
  { s with callers := s.callers.set caller stage }

/-- Whether a caller refers to the lock of a person. -/
def isUsed (s : Locks) (p : Person) : Bool := (s.table.lookup p).any (1 < s.references ·)

/-- What callers can do. -/
inductive Move where
  /-- Comes to the table for the lock of a person. -/
  | call (caller : Nat) (person : Person)
  /-- Looks at one of the entries of the table. They may come in any order. -/
  | sweep (caller : Nat) (entry : Person)
  | drop (caller : Nat)
  /-- Leaves the table with the lock that is there, or with a new one that is put there. -/
  | enter (caller : Nat) (fresh : Nat)
  | acquire (caller : Nat)
  /-- Waits no longer. -/
  | giveUp (caller : Nat)
  | release (caller : Nat)
  | leave (caller : Nat)
  deriving Repr

/-- The locks after a move. A move that cannot be made changes nothing. -/
def step (s : Locks) : Move → Locks
  | .call i p =>
    if s.callers[i]? = some .idle ∧ s.tableIsFree then
      s.put i (.atTable p (if s.limit < s.table.length then s.table.map (·.1) else []))
    else s
  | .sweep i q =>
    match s.callers[i]? with
    | some (.atTable p pending) =>
      -- An unused lock is not dropped at once: the others may go on in between.
      if q ∈ pending then
        s.put i (if s.isUsed q then .atTable p (pending.erase q)
          else .dropping p q (pending.erase q))
      else s
    | _ => s
  | .drop i =>
    match s.callers[i]? with
    | some (.dropping p q pending) =>
      { s with table := s.table.filter (·.1 != q) }.put i (.atTable p pending)
    | _ => s
  | .enter i fresh =>
    match s.callers[i]? with
    | some (.atTable p []) =>
      match s.table.lookup p with
      | some l => s.put i (.waiting p l)
      | none =>
        -- A number that was the one of a lock before may be given again.
        if s.references fresh = 0 then
          { s with table := s.table ++ [(p, fresh)] }.put i (.waiting p fresh)
        else s
    | _ => s
  | .acquire i =>
    match s.callers[i]? with
    | some (.waiting p l) => if s.isHeld l then s else s.put i (.holding p l)
    | _ => s
  | .giveUp i =>
    match s.callers[i]? with
    | some (.waiting _ _) => s.put i .idle
    | _ => s
  | .release i =>
    match s.callers[i]? with
    | some (.holding p l) => s.put i (.leaving p l)
    | _ => s
  | .leave i =>
    match s.callers[i]? with
    | some (.leaving _ _) => s.put i .idle
    | _ => s

/-- The locks after some moves. -/
def after (s : Locks) (moves : List Move) : Locks := moves.foldl step s

end Locks

end Autoresponder
