/-!
# Failures of the realtime channel

Why a channel could not be opened or broke, and whether trying again may help.
-/

namespace InAppMessaging

/-- A failure of the realtime channel; with the server's status comes whether trying again may
help. -/
inductive ChannelFailure where
  | network (text : String)
  | server (status : Nat) (retry : Bool)
  | unknown (detail : String)
deriving DecidableEq, Repr

namespace ChannelFailure

/-- A status that may pass: time-outs, throttling and the server's own errors; of the others
only those of the client's errors are final. -/
def isPassing (status : Nat) : Bool :=
  status = 408 || status = 429 || !(400 ≤ status && status < 500)

/-- What is known of a failure, the network first, then the server's status, of which some are
worth another attempt. -/
def classify (network : Option String) (status : Option Nat) (detail : String) :
    ChannelFailure :=
  match network, status with
  | some text, _ => .network text
  | none, some status => .server status (isPassing status)
  | none, none => .unknown detail

/-- Trying again may help. -/
def retryable : ChannelFailure → Bool
  | network _ | unknown _ => true
  | server _ retry => retry

/-- The text of a failure. -/
def text : ChannelFailure → String
  | network cause => "network error: " ++ cause
  | server status _ => "server responded with " ++ toString status
  | unknown detail => "unknown error: " ++ detail

/-- The failure beneath this one. -/
def cause? : ChannelFailure → Option String
  | network cause => some cause
  | server _ _ | unknown _ => none

end ChannelFailure

end InAppMessaging
