import InAppMessaging.Action.Json
import InAppMessaging.Catalog.Json
import InAppMessaging.Host.Event

/-!
# Events as JSON

Each event of the journal as an object, or as a word if there is nothing more to say.  Views
and subscriptions are written by the names their owners gave them.
-/

namespace InAppMessaging

open Json

/-- A watched value. -/
def Observed.toValue : Observed → Value
  | text t => orNull .text t
  | number n => .integer n
  | flag b => .bool b
  | texts ts => textArray ts
  | surfaces s => s.toValue
  | surface s => orNull InlineState.toValue s

/-- The names of views by their places and of subscriptions by their ids. -/
structure EventNames where
  view : Nat → String
  subscription : Nat → Option String

/-- A callback, with its message by the tracking id. -/
def Callback.toValue : Callback → Value
  | shown m => .object [("shown", .text m.trackingId)]
  | dismissed m => .object [("dismissed", .text m.trackingId)]
  | failed m => .object [("failed", .text m.trackingId)]
  | tapped m route payload name =>
      .object [("tapped", .text m.trackingId), ("route", .text route), ("action", .text payload),
        ("name", .text name)]
  | embed m elementId => .object [("embed", .text m.trackingId), ("element_id", .text elementId)]

/-- A call to an inline view. -/
def ViewCall.toValue (view : String) : ViewCall → Value
  | embed m => .object [("view", .text view), ("embed", .text m.trackingId)]
  | clear => .object [("view", .text view), ("clear", .bool true)]

/-- An event of the journal. -/
def Event.toValue (names : EventNames) : Event → Value
  | entered a => .object [("action", .object a.summary)]
  | errorLogged text => .object [("error_log", .text text)]
  | viewLogged m sessionId =>
      .object [("log_view", .text m.trackingId), ("session", .text sessionId)]
  | fetched r => .object [("fetch", r.toValue)]
  | presented m position =>
      .object [("present", .text m.trackingId), ("position", .text position.name)]
  | tornDown => .text "teardown"
  | callback c => c.toValue
  | channel .start => .text "connect"
  | channel .stop => .text "disconnect"
  | reconnectAsked => .text "reconnect"
  | view place call => call.toValue (names.view place)
  | told id value =>
      .object [("sub", orNull .text (names.subscription id)), ("value", value.toValue)]
  | noted stage route => .object [("script", .text stage), ("route_seen", orNull .text route)]

end InAppMessaging
