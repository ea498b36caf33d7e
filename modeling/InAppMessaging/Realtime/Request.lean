import InAppMessaging.Header
import InAppMessaging.Url.Reader

/-!
# Opening the realtime channel

The request that subscribes a session: the endpoint of its environment with the session, the
workspace and the user token added to the query.  Without a token there is nobody to
subscribe.
-/

namespace InAppMessaging

/-- Why a channel cannot be asked for. -/
inductive RealtimeFault where
  | noToken
  | endpoint (fault : Url.Fault)
deriving DecidableEq, Repr

/-- The text of a fault. -/
def RealtimeFault.text : RealtimeFault → String
  | noToken => "cannot open the realtime channel without a user token"
  | endpoint fault => "invalid realtime endpoint: " ++ fault.text

/-- A request for the realtime channel. -/
structure RealtimeRequest where
  url : Url
  headers : List Header
  readTimeoutSecs : Nat
deriving DecidableEq, Repr

/-- The parameters that subscribe a session under a token. -/
def Session.realtimePairs (s : Session) (token : String) : List (String × String) :=
  [("sessionId", s.sessionId), ("siteId", s.siteId), ("userToken", Text.base64 token)]

/-- The request that subscribes a session. -/
def Session.realtimeRequest (s : Session) (c : Configuration) :
    Except RealtimeFault RealtimeRequest :=
  match s.userToken? with
  | none => .error .noToken
  | some token =>
      match Url.ofText (c.realtime.endpoint s.environment) with
      | .error fault => .error (.endpoint fault)
      | .ok endpoint =>
          .ok
            { url := endpoint.withPairs (s.realtimePairs token)
              headers := Header.ofSession s c.client token ++
                [Header.acceptEvents, Header.noCache]
              readTimeoutSecs := c.realtime.readTimeoutSecs }

end InAppMessaging
