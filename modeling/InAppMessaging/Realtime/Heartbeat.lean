/-!
# Heartbeats

The time by which the next heartbeat is due.  Every heartbeat replaces it; while none is due
nothing is ever late.
-/

namespace InAppMessaging

/-- When the next heartbeat is due, if one is; `buffer` is granted on top of every timeout. -/
structure Heartbeat where
  buffer : Nat
  due : Option Nat := none
deriving DecidableEq, Repr

namespace Heartbeat

/-- Expects the next heartbeat within a timeout from now. -/
def arm (b : Heartbeat) (now timeout : Nat) : Heartbeat :=
  { b with due := some (now + timeout + b.buffer) }

/-- Expects no heartbeat. -/
def disarm (b : Heartbeat) : Heartbeat := { b with due := none }

/-- A heartbeat is expected. -/
def isArmed (b : Heartbeat) : Bool := b.due.isSome

/-- Waits at most some time for the heartbeat to be late; answers with whether it is, and how
long that took. -/
def await (b : Heartbeat) (now limit : Nat) : Bool × Nat :=
  match b.due with
  | some due => if due ≤ now + limit then (true, due - now) else (false, limit)
  | none => (false, limit)

end Heartbeat

end InAppMessaging
