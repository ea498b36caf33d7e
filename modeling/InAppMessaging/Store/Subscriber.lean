import InAppMessaging.Session.Basic

/-!
# Subscribers

Who is told of new sessions.  A plain subscriber is told of every one.  One that watches an
attribute is told its value when it registers, and then whenever the value differs from the
one it was told last; what counts as different is its own choice.

* `Subscriber.notify_id` — being told leaves a subscriber's id alone.
-/

namespace InAppMessaging

/-- What a subscriber listens for, with attributes of type `V` over a host `H`. -/
inductive Watch (V H : Type) where
  | session (tell : Session → H → H)
  | attribute (select : Session → V) (same : V → V → Bool)
      (tell : Option V → V → Session → H → H)

/-- A subscriber, with the value it was told last. -/
structure Subscriber (V H : Type) where
  id : Nat
  watch : Watch V H
  told : Option V := none

namespace Subscriber

variable {V H : Type}

/-- Tells a subscriber of a session. -/
def notify (u : Subscriber V H) (s : Session) (host : H) : Subscriber V H × H :=
  match u.watch with
  | .session tell => (u, tell s host)
  | .attribute select same tell =>
      if u.told.any fun last => same last (select s) then (u, host)
      else ({ u with told := some (select s) }, tell u.told (select s) s host)

/-- A subscriber as it is registered: one that watches an attribute is told its value. -/
def register (id : Nat) (watch : Watch V H) (s : Session) (host : H) : Subscriber V H × H :=
  let fresh : Subscriber V H := { id, watch }
  match watch with
  | .session _ => (fresh, host)
  | .attribute .. => fresh.notify s host

/-- Tells all subscribers in their order. -/
def notifyAll : List (Subscriber V H) → Session → H → List (Subscriber V H) × H
  | [], _, host => ([], host)
  | u :: rest, s, host =>
      let (u, host) := u.notify s host
      let (rest, host) := notifyAll rest s host
      (u :: rest, host)

/-- Being told leaves a subscriber's id alone. -/
theorem notify_id (u : Subscriber V H) (s : Session) (host : H) :
    (u.notify s host).1.id = u.id := by
  unfold notify
  split
  · rfl
  · split <;> rfl

end Subscriber

end InAppMessaging
