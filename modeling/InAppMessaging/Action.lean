import InAppMessaging.Session.Basic

/-!
# Actions

The closed set of events that can change a session.  An action may be about one message
(`Action.message?`), and one of them may be the view that counts (`Action.marksShown`): the
display of a message, or for a persistent message its closing by the user.
-/

namespace InAppMessaging

/-- An event that can change the session. -/
inductive Action where
  | initialise (siteId dataCenter : String) (environment : Environment) (sessionId : String)
  | setPollInterval (interval : Nat)
  | setRoute (route : String)
  | setUser (userId : String)
  | setAnonymous (anonymousId : String)
  | setRealtime (enabled : Bool)
  | load (m : Message) (position : Option Position)
  | embed (messages : List Message)
  | processQueue (messages : List Message)
  | display (m : Message)
  | dismiss (m : Message) (log viaClose : Bool)
  | reportError (text : String)
  | clearQueue
  | reset (sessionId : String)
  | tap (m : Message) (route name payload : String)
  | loadingFailed (m : Message)
deriving DecidableEq, Inhabited

namespace Action

/-- Loading a message at its own anchor. -/
def present (m : Message) : Action := .load m none

/-- The user closes a message. -/
def close (m : Message) : Action := .dismiss m true true

/-- The engine closes a message, which must not be reported as a view. -/
def withdraw (m : Message) : Action := .dismiss m false true

/-- The name of an action. -/
def name : Action → String
  | initialise .. => "Initialize"
  | setPollInterval _ => "SetPollingInterval"
  | setRoute _ => "SetPageRoute"
  | setUser _ => "SetUserIdentifier"
  | setAnonymous _ => "SetAnonymousIdentifier"
  | setRealtime _ => "SetSseEnabled"
  | load .. => "LoadMessage"
  | embed _ => "EmbedMessages"
  | processQueue _ => "ProcessMessageQueue"
  | display _ => "DisplayMessage"
  | dismiss .. => "DismissMessage"
  | reportError _ => "ReportError"
  | clearQueue => "ClearMessageQueue"
  | reset _ => "Reset"
  | tap .. => "Tap"
  | loadingFailed _ => "MessageLoadingFailed"

/-- The one message an action is about. -/
def message? : Action → Option Message
  | load m _ | display m | dismiss m _ _ | tap m _ _ _ | loadingFailed m => some m
  | _ => none

/-- The action is the one view of its message that counts. -/
def marksShown : Action → Bool
  | display m => !m.isPersistent
  | dismiss m log viaClose => m.isPersistent && log && viaClose
  | _ => false

/-- The action reports an error. -/
def isErrorReport : Action → Bool
  | reportError _ => true
  | _ => false

end Action

end InAppMessaging
