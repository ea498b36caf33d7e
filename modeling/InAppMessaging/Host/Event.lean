import InAppMessaging.Action
import InAppMessaging.Catalog.Request
import InAppMessaging.Realtime.Channel
import InAppMessaging.Surface.Inline

/-!
# What the host sees

Everything the engine does outside its own session, as a value: callbacks to the listener,
calls to the presenter, the transport and the inline views, view reports, fetches, lines of
the error log, and what subscribers are told.
-/

namespace InAppMessaging

/-- A callback to the listener. -/
inductive Callback where
  | shown (m : Message)
  | dismissed (m : Message)
  | failed (m : Message)
  | tapped (m : Message) (route payload name : String)
  | embed (m : Message) (elementId : String)
deriving DecidableEq

/-- The callbacks that an action causes. -/
def Action.callbacks : Action → List Callback
  | .display m => [.shown m]
  | .dismiss m _ _ => [.dismissed m]
  | .loadingFailed m => [.failed m]
  | .tap m route name payload => [.tapped m route payload name]
  | .embed messages =>
      messages.filterMap fun m => m.delivery.elementId.map fun elementId => .embed m elementId
  | _ => []

/-- A value that a subscriber watches. -/
inductive Observed where
  | text (t : Option String)
  | number (n : Nat)
  | flag (b : Bool)
  | texts (ts : List String)
  | surfaces (s : InlineSurfaces)
  | surface (s : Option InlineState)
deriving DecidableEq

/-- Something that happened outside the session. -/
inductive Event where
  | entered (a : Action)
  | errorLogged (text : String)
  | viewLogged (m : Message) (sessionId : String)
  | fetched (r : CatalogRequest)
  | presented (m : Message) (position : Position)
  | tornDown
  | callback (c : Callback)
  | channel (call : ChannelCall)
  | reconnectAsked
  | view (place : Nat) (call : ViewCall)
  | told (subscription : Nat) (value : Observed)
  | noted (stage : String) (route : Option String)
deriving DecidableEq

end InAppMessaging
