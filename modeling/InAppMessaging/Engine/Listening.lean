import InAppMessaging.Engine.Basic
import InAppMessaging.Realtime.Connection

/-!
# Listening to a connection

The engine under one realtime connection.  Events and failures arrive at given times; in
between time passes, the poller keeps its hours, and the heartbeat may be late.  Listening may
be cancelled, and whoever listens may give up at some time without an end.  The end of the
stream arrives as a failure.

* `earliest_mem` — the earliest of several timed things is one of them.
-/

namespace InAppMessaging

/-- Who is asked to open the channel again. -/
inductive Reconnector where
  | recorder
  | mainThread
deriving DecidableEq, Repr

/-- What arrives over a connection. -/
abbrev Arrival := Except ChannelFailure RealtimeEvent

/-- What a connection brings one after the other: pauses, arrivals, and lines of the stream,
which may complete an arrival. -/
inductive Feed where
  | pause (ms : Nat)
  | arrival (a : Arrival)
  | line (l : StreamLine)

/-- The arrivals with their times, of a stream that ends after them if it closes. -/
def timetable (closes : Bool) : Nat → Block → List Feed → List (Nat × Arrival)
  | time, _, [] => if closes then [(time, .error Connection.closedFailure)] else []
  | time, b, .pause ms :: rest => timetable closes (time + ms) b rest
  | time, b, .arrival a :: rest => (time, a) :: timetable closes time b rest
  | time, b, .line l :: rest =>
      let (arrival, b) := b.receive l
      (arrival.map fun a => (time, a)).toList ++ timetable closes time b rest

/-- How a connection is listened to: who reconnects, when listening is cancelled, and when it
is given up. -/
structure Listening where
  reconnector : Reconnector
  cancelAt : Option Nat := none
  giveUpAt : Nat

/-- The engine and the connection after listening, and why it ended, if it did. -/
structure Listened where
  why : Option ConnectionEnd
  connection : Connection
  engine : Engine

/-- What may come before the next arrival. -/
inductive Interruption where
  | silence
  | cancelled
  | givenUp
deriving DecidableEq, Repr

namespace Listening

/-- The interruptions that are to come, with their times. -/
def interruptions (l : Listening) (c : Connection) : List (Nat × Interruption) :=
  (c.heartbeat.due.map fun due => (due, Interruption.silence)).toList ++
    [(l.giveUpAt, .givenUp)] ++
    (l.cancelAt.map fun time => (time, Interruption.cancelled)).toList

/-- The first of several timed things, of equals the one named first. -/
def earliest {α : Type} : List (Nat × α) → Option (Nat × α)
  | [] => none
  | x :: rest =>
      match earliest rest with
      | none => some x
      | some y => if y.1 < x.1 then some y else some x

/-- The earliest of several timed things is one of them. -/
theorem earliest_mem {α : Type} {xs : List (Nat × α)} {x : Nat × α} (h : earliest xs = some x) :
    x ∈ xs := by
  induction xs with
  | nil => simp [earliest] at h
  | cons y rest ih =>
      unfold earliest at h
      split at h
      · cases h
        exact List.mem_cons_self
      · next z hz =>
          split at h
          · cases h
            exact List.mem_cons_of_mem _ (ih hz)
          · cases h
            exact List.mem_cons_self

end Listening

namespace Engine

/-- Carries out an order of a connection. -/
def obeyOrder (who : Reconnector) (e : Engine) : ConnectionOrder → Engine
  | .dispatch a => e.dispatch a
  | .reconnect =>
      match who with
      | .recorder => e.onHost (·.record .reconnectAsked)
      | .mainThread => e.post .restart
  | .logError text => e.onHost (·.record (.errorLogged text))

/-- Carries out the orders of an answer. -/
def obeyAnswer (who : Reconnector) (a : ConnectionAnswer) (e : Engine) : Engine :=
  a.orders.foldl (obeyOrder who) e

/-- Lets time pass up to a moment, unless it has come already. -/
def waitUntil (moment : Nat) (e : Engine) : Engine :=
  if moment ≤ e.time then e else e.passTo moment (moment - e.time + 1)

/-- An interruption ends the listening. -/
def interrupt (l : Listening) (c : Connection) (e : Engine) : Interruption → Listened
  | .silence =>
      let answer := c.onSilence
      ⟨some .reconnecting, answer.next, e.obeyAnswer l.reconnector answer⟩
  | .cancelled => ⟨some .cancelled, c.silence, e⟩
  | .givenUp => ⟨none, c, e⟩

/-- Waits before another attempt, and makes it if nothing interrupts the wait. -/
def awaitRetry (l : Listening) (c : Connection) (delay : Nat) (e : Engine) : Listened :=
  let moment := e.time + delay
  match Listening.earliest (l.interruptions c) with
  | some (time, what) =>
      if time < moment then interrupt l c (e.waitUntil time) what
      else
        let answer := c.onRetry
        ⟨some .reconnecting, answer.next, (e.waitUntil moment).obeyAnswer l.reconnector answer⟩
  | none => ⟨none, c, e⟩

/-- Ends the listening after a failure. -/
def endWith (l : Listening) (c : Connection) (f : ChannelFailure) (e : Engine) : Listened :=
  let answer := c.onFailure f
  let e := e.obeyAnswer l.reconnector answer
  match answer.turn with
  | .retryIn delay => awaitRetry l answer.next delay e
  | .over why => ⟨some why, answer.next, e⟩
  | .listen => ⟨none, answer.next, e⟩

/-- Listens to what arrives; the arrivals come in the order of their times. -/
def listen (l : Listening) : List (Nat × Arrival) → Connection → Engine → Listened
  | [], c, e =>
      match Listening.earliest (l.interruptions c) with
      | some (time, what) => interrupt l c (e.waitUntil time) what
      | none => ⟨none, c, e⟩
  | (moment, arrival) :: rest, c, e =>
      match (Listening.earliest (l.interruptions c)).filter (·.1 < moment) with
      | some (time, what) => interrupt l c (e.waitUntil time) what
      | none =>
          let e := e.waitUntil moment
          match arrival with
          | .error f => endWith l c f e
          | .ok event =>
              let answer := c.onEvent e.time event
              let e := e.obeyAnswer l.reconnector answer
              match answer.turn with
              | .over why => ⟨some why, answer.next, e⟩
              | _ => listen l rest answer.next e

/-- Listens to one connection from the start; heartbeats of earlier ones no longer count. -/
def consume (l : Listening) (arrivals : List (Nat × Arrival)) (c : Connection) (e : Engine) :
    Listened :=
  e.listen l arrivals c.silence

end Engine

end InAppMessaging
