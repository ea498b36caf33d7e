import InAppMessaging.Catalog.Json
import InAppMessaging.Realtime.Event
import InAppMessaging.Realtime.Request
import InAppMessaging.Realtime.Retry

/-!
# The realtime channel as JSON

Events, failures, decisions about another attempt, and requests, as objects.
-/

namespace InAppMessaging

open Json

/-- An event of the channel. -/
def RealtimeEvent.toValue : RealtimeEvent → Value
  | .connected => .object [("name", .text "Connected")]
  | .heartbeat timeout =>
      .object [("name", .text "Heartbeat"), ("timeout_ms", .integer timeout)]
  | .messages ms => .object [("name", .text "Messages"), ("messages", messageArray ms)]
  | .lifetimeOver => .object [("name", .text "TtlExceeded")]
  | .unknown kind => .object [("name", .text "Unknown"), ("event", .text kind)]

namespace ChannelFailure

/-- The name of the kind of a failure. -/
def name : ChannelFailure → String
  | network _ => "NetworkError"
  | server _ _ => "ServerError"
  | unknown _ => "UnknownError"

/-- The status the server answered with. -/
def status? : ChannelFailure → Option Nat
  | server status _ => some status
  | network _ | unknown _ => none

/-- The members of a failure. -/
def members (f : ChannelFailure) : List (String × Value) :=
  [("name", .text f.name), ("status", orNull (.integer ·) f.status?),
   ("should_retry", .bool f.retryable), ("text", .text f.text)]

end ChannelFailure

/-- The members of a decision. -/
def RetryDecision.members (d : RetryDecision) : List (String × Value) :=
  let (name, attempt, delay) := match d with
    | .retry attempt delay => ("RetryNow", some attempt, some delay)
    | .exhausted => ("MaxRetriesReached", none, none)
    | .hopeless => ("RetryNotPossible", none, none)
  [("decision", .text name), ("attempt", orNull (fun n : Nat => .integer n) attempt),
   ("delay_ms", orNull (fun n : Nat => .integer n) delay), ("text", .text d.text),
   ("is_fallback", .bool d.isFallback)]

/-- The name of the kind of a fault. -/
def RealtimeFault.name : RealtimeFault → String
  | noToken => "MissingUserToken"
  | endpoint _ => "InvalidEndpoint"

/-- The members of a request, or of the fault that prevents it. -/
def RealtimeRequest.members? : Except RealtimeFault RealtimeRequest → List (String × Value)
  | .error fault => [("error", .text fault.name), ("message", .text fault.text)]
  | .ok r =>
      [("url", .text r.url.text), ("headers", headerArray r.headers),
       ("read_timeout_secs", .integer r.readTimeoutSecs)]

end InAppMessaging
