import InAppMessaging.Configuration
import InAppMessaging.Realtime.Failure
import InAppMessaging.Text.Duration

/-!
# Reconnecting

How often a broken channel is opened again.  The first attempt after a success is immediate,
the later ones wait; when all are used, or another attempt cannot help, the engine goes back
to polling.  A successful connection gives all attempts back.

* `RetryBudget.attempts_onFailure_le` — the attempts in use never exceed the limit.
-/

namespace InAppMessaging

/-- How many attempts there are between two successes, and the wait before all but the first,
in milliseconds. -/
structure RetrySettings where
  maxAttempts : Nat := ({} : RealtimeSettings).maxRetries
  delay : Nat := ({} : RealtimeSettings).retryDelay
deriving DecidableEq, Repr

/-- What to do about a failure. -/
inductive RetryDecision where
  | retry (attempt delay : Nat)
  | exhausted
  | hopeless
deriving DecidableEq, Repr

namespace RetryDecision

/-- The realtime channel is given up. -/
def isFallback : RetryDecision → Bool
  | retry .. => false
  | exhausted | hopeless => true

/-- The text of a decision. -/
def text : RetryDecision → String
  | retry attempt delay => "retry #" ++ toString attempt ++ " in " ++ Text.durationText delay
  | exhausted => "max retries reached"
  | hopeless => "retry not possible"

end RetryDecision

/-- The attempts used since the last success. -/
structure RetryBudget where
  settings : RetrySettings := {}
  attempts : Nat := 0
deriving DecidableEq, Repr

namespace RetryBudget

/-- Decides about a failure; a new attempt is counted. -/
def onFailure (b : RetryBudget) (failure : ChannelFailure) : RetryDecision × RetryBudget :=
  if !failure.retryable then (.hopeless, b)
  else if b.settings.maxAttempts ≤ b.attempts then (.exhausted, b)
  else
    (.retry (b.attempts + 1) (if b.attempts = 0 then 0 else b.settings.delay),
      { b with attempts := b.attempts + 1 })

/-- Gives all attempts back. -/
def reset (b : RetryBudget) : RetryBudget := { b with attempts := 0 }

/-- What is logged when the attempts are used up. -/
def exhaustedText (b : RetryBudget) : String :=
  "Max retries exceeded (" ++ toString b.attempts ++ "/" ++ toString b.settings.maxAttempts ++
    "), falling back to polling"

/-- The attempts in use never exceed the limit. -/
theorem attempts_onFailure_le {b : RetryBudget} (failure : ChannelFailure)
    (h : b.attempts ≤ b.settings.maxAttempts) :
    (b.onFailure failure).2.attempts ≤ (b.onFailure failure).2.settings.maxAttempts := by
  unfold onFailure
  split
  · exact h
  · split
    · exact h
    · simp only
      omega

end RetryBudget

end InAppMessaging
