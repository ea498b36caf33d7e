import InAppMessaging.Message.Json
import InAppMessaging.Session.Diff

/-!
# Sessions as JSON

A session is written as its members in a fixed order, with what follows from them at the end.
Between two sessions only the members that differ are written.

* `changedMembers_self` — a session has changed in nothing from itself.
-/

namespace InAppMessaging

open Json

/-- A value, or null if there is none. -/
def orNull {α : Type} (encode : α → Value) (a : Option α) : Value := (a.map encode).getD .null

/-- Texts as an array. -/
def textArray (texts : List String) : Value := .array (texts.map .text)

/-- Messages as an array. -/
def messageArray (messages : List Message) : Value := .array (messages.map Message.toValue)

/-- The modal surface: its stage and its message. -/
def ModalState.toValue (s : ModalState) : Value :=
  .object [("name", .text s.name), ("message", orNull Message.toValue s.message?)]

/-- An inline element: its stage, its message, and its id while it has one. -/
def InlineState.toValue (s : InlineState) : Value :=
  .object <| [("name", .text s.name), ("message", s.message.toValue)] ++
    match s with
    | .readyToEmbed _ elementId | .embedded _ elementId => [("element_id", .text elementId)]
    | .dismissed _ => []

/-- The inline elements by their ids. -/
def InlineSurfaces.toValue (s : InlineSurfaces) : Value :=
  .object (s.elements.entries.map fun e => (e.1, e.2.toValue))

/-- The environment that has a short name. -/
def Environment.ofName? : String → Option Environment
  | "prod" => some .prod
  | "dev" => some .dev
  | "local" => some .localhost
  | _ => none

namespace Session

/-- The members of a session. -/
def members (s : Session) : List (String × Value) :=
  [("site_id", .text s.siteId), ("data_center", .text s.dataCenter),
   ("environment", .text s.environment.name), ("poll_interval_ms", .integer s.pollInterval),
   ("session_id", .text s.sessionId), ("current_route", orNull .text s.route),
   ("user_id", orNull .text s.userId), ("anonymous_id", orNull .text s.anonymousId),
   ("sse_enabled", .bool s.realtime), ("messages_in_queue", messageArray s.queue.messages),
   ("shown_message_queue_ids", textArray s.shown.keys),
   ("modal_message_state", s.modal.toValue),
   ("queued_inline_messages_state", s.inline.toValue),
   ("user_token", orNull .text s.userToken?), ("is_user_identified", .bool s.isIdentified),
   ("has_identity", .bool s.hasIdentity), ("should_use_sse", .bool s.usesRealtime)]

/-- A member of a session with the one of the same name from another session, if they
differ. -/
def differing (pair : (String × Value) × (String × Value)) : Option (String × Value) :=
  if pair.1.2.compact = pair.2.2.compact then none else some pair.2

/-- The members of a session that differ from those of an earlier one. -/
def changedMembers (before after : Session) : List (String × Value) :=
  (before.members.zip after.members).filterMap differing

/-- A session has changed in nothing from itself. -/
theorem changedMembers_self (s : Session) : s.changedMembers s = [] := by
  unfold changedMembers
  induction s.members with
  | nil => rfl
  | cons m rest ih => simpa [differing] using ih

end Session

/-- A change of one field. -/
def Change.toValue (c : Change) : Value :=
  .object [("field", .text c.field), ("before", .text c.before), ("after", .text c.after),
    ("text", .text c.text)]

end InAppMessaging
