import InAppMessaging.Action
import InAppMessaging.Json.Lookup
import InAppMessaging.Session.Json

/-!
# Actions as JSON

An action is an object with its name under `type` and its parts beside it.  Besides the names
of the actions themselves, the words `load`, `dismiss`, `dismiss_without_logging` and
`report_error` spell an action by what it is for.  A summary of an action names messages by
their tracking ids, and holds no parts that tell who somebody is.
-/

namespace InAppMessaging

open Json

namespace Action

/-- Messages in an array. -/
def messagesOf? (t : Tree) : Option (List Message) := do
  (← t.items?).mapM fun item => (Message.ofTree item).toOption

/-- Reads an action. -/
def ofTree? (t : Tree) : Option Action := do
  let text (name : String) : Option String := do (← t.given? name).asText.toOption
  let flag (name : String) : Option Bool := do (← t.given? name).asBool.toOption
  let message : Option Message := do (Message.ofTree (← t.given? "message")).toOption
  let messages : Option (List Message) := do messagesOf? (← t.given? "messages")
  match ← text "type" with
  | "Initialize" =>
      return .initialise (← text "site_id") (← text "data_center")
        (← Environment.ofName? (← text "environment")) (← text "session_id")
  | "SetPollingInterval" =>
      let interval ← ((← t.given? "interval_ms").asInteger 0 Text.maxWord64).toOption
      return .setPollInterval interval.toNat
  | "SetPageRoute" => return .setRoute (← text "route")
  | "SetUserIdentifier" => return .setUser (← text "user_id")
  | "SetAnonymousIdentifier" => return .setAnonymous (← text "anonymous_id")
  | "SetSseEnabled" => return .setRealtime (← flag "enabled")
  | "LoadMessage" =>
      match t.given? "position" with
      | none => return .load (← message) none
      | some _ => return .load (← message) (some (← Position.ofName? (← text "position")))
  | "EmbedMessages" => return .embed (← messages)
  | "ProcessMessageQueue" => return .processQueue (← messages)
  | "DisplayMessage" => return .display (← message)
  | "DismissMessage" =>
      return .dismiss (← message) (← flag "should_log") (← flag "via_close_action")
  | "ReportError" => return .reportError (← text "message")
  | "ClearMessageQueue" => return .clearQueue
  | "Reset" => return .reset (← text "session_id")
  | "Tap" => return .tap (← message) (← text "route") (← text "name") (← text "action")
  | "MessageLoadingFailed" => return .loadingFailed (← message)
  | "load" => return .present (← message)
  | "dismiss" => return .close (← message)
  | "dismiss_without_logging" => return .withdraw (← message)
  | "report_error" => return .reportError (← text "text")
  | _ => none

/-- Messages by their tracking ids. -/
def idArray (messages : List Message) : Value := textArray (messages.map (·.trackingId))

/-- The parts of an action that its summary holds besides the one message. -/
def details : Action → List (String × Value)
  | setPollInterval interval => [("interval_ms", .integer interval)]
  | setRoute route => [("route", .text route)]
  | setRealtime enabled => [("enabled", .bool enabled)]
  | load _ position => [("position", orNull (fun p => .text p.name) position)]
  | embed messages | processQueue messages => [("messages", idArray messages)]
  | dismiss _ log viaClose => [("should_log", .bool log), ("via_close_action", .bool viaClose)]
  | reportError text => [("text", .text text)]
  | _ => []

/-- A short account of an action. -/
def summary (a : Action) : List (String × Value) :=
  ("type", .text a.name) ::
    ((a.message?.map fun m => ("message", .text m.trackingId)).toList ++ a.details)

end Action

end InAppMessaging
