import InAppMessaging.Host.Basic

/-!
# Reporting stages

The stages that tell the outside: of reported errors, and of what happened to messages.  The
listener is called back after the action was committed, so that it sees the session the action
left behind.
-/

namespace InAppMessaging.Pipeline

/-- Passes every action on. -/
def watching : Stage Host where
  name := "logging"
  handle := Program.forwardOnly

/-- Writes the reported errors into the error log. -/
def errorReporting : Stage Host where
  name := "error_reporting"
  handle
    | .reportError text =>
        .act (fun _ h => h.record (.errorLogged text)) (.forwardOnly (.reportError text))
    | a => .forwardOnly a

/-- Calls the listener back. -/
def callBack (a : Action) (h : Host) : Host :=
  if h.listens then h.recordAll (a.callbacks.map .callback) else h

/-- Tells the listener of an action once it has been committed. -/
def listening : Stage Host where
  name := "listener_fanout"
  handle a := .forward a (.act (fun _ => callBack a) .done)

end InAppMessaging.Pipeline
