import InAppMessaging.Action
import InAppMessaging.Realtime.Event
import InAppMessaging.Realtime.Heartbeat
import InAppMessaging.Realtime.Retry

/-!
# Connections

What the events of a realtime connection are answered with.  A connection that was accepted
gives all attempts back and, like every heartbeat, sets the time for the next one; messages go
to the queue; a connection whose lifetime is over is opened again.  One that falls silent is
opened again as well.  A failure is retried as long as attempts are left; then realtime
updates are switched off.

* `attempts_onEvent_le` — an event uses up no attempt.
-/

namespace InAppMessaging

/-- Why a connection is no longer listened to. -/
inductive ConnectionEnd where
  | reconnecting
  | fellBack
  | cancelled
deriving DecidableEq, Repr

/-- What is done about an event. -/
inductive ConnectionOrder where
  | dispatch (a : Action)
  | reconnect
  | logError (text : String)
deriving DecidableEq

/-- How it goes on: with the next event, not at all, or with another attempt after a while. -/
inductive ConnectionTurn where
  | listen
  | over (why : ConnectionEnd)
  | retryIn (delay : Nat)
deriving DecidableEq

/-- What outlives single connections: the attempts, and the heartbeats with their default. -/
structure Connection where
  budget : RetryBudget
  heartbeat : Heartbeat
  defaultTimeout : Nat
deriving DecidableEq

/-- What is done, and how it goes on. -/
structure ConnectionAnswer where
  orders : List ConnectionOrder := []
  turn : ConnectionTurn := .listen
  next : Connection

namespace Connection

/-- The connections of a configuration. -/
def ofSettings (s : RealtimeSettings) : Connection where
  budget := { settings := { maxAttempts := s.maxRetries, delay := s.retryDelay } }
  heartbeat := { buffer := s.heartbeatBuffer }
  defaultTimeout := s.heartbeatTimeout

/-- Expects the next heartbeat. -/
def expect (c : Connection) (now timeout : Nat) : Connection :=
  { c with heartbeat := c.heartbeat.arm now timeout }

/-- Expects no heartbeat. -/
def silence (c : Connection) : Connection := { c with heartbeat := c.heartbeat.disarm }

/-- The answer to an event. -/
def onEvent (c : Connection) (now : Nat) : RealtimeEvent → ConnectionAnswer
  | .connected => { next := { c with budget := c.budget.reset }.expect now c.defaultTimeout }
  | .heartbeat timeout => { next := c.expect now timeout }
  | .messages [] => { next := c }
  | .messages (m :: rest) => { orders := [.dispatch (.processQueue (m :: rest))], next := c }
  | .lifetimeOver => { orders := [.reconnect], turn := .over .reconnecting, next := c.silence }
  | .unknown _ => { next := c }

/-- What is done about a failure, and how it goes on. -/
def reaction (b : RetryBudget) : RetryDecision → List ConnectionOrder × ConnectionTurn
  | .retry _ delay =>
      if delay = 0 then ([.reconnect], .over .reconnecting) else ([], .retryIn delay)
  | .exhausted =>
      ([.logError b.exhaustedText, .dispatch (.setRealtime false)], .over .fellBack)
  | .hopeless => ([.dispatch (.setRealtime false)], .over .fellBack)

/-- The answer to a failure. -/
def onFailure (c : Connection) (f : ChannelFailure) : ConnectionAnswer :=
  let (decision, budget) := c.budget.onFailure f
  let (orders, turn) := reaction budget decision
  { orders, turn, next := { c with budget }.silence }

/-- The answer to a heartbeat that is late. -/
def onSilence (c : Connection) : ConnectionAnswer :=
  { orders := [.reconnect], turn := .over .reconnecting, next := c.silence }

/-- The answer when the wait before another attempt is over. -/
def onRetry (c : Connection) : ConnectionAnswer :=
  { orders := [.reconnect], turn := .over .reconnecting, next := c }

/-- The failure of a stream that ends. -/
def closedFailure : ChannelFailure := .unknown "stream closed"

theorem attempts_onEvent_le (c : Connection) (now : Nat) (event : RealtimeEvent) :
    (c.onEvent now event).next.budget.attempts ≤ c.budget.attempts := by
  unfold onEvent
  split <;> simp [expect, silence, RetryBudget.reset]

end Connection

end InAppMessaging
