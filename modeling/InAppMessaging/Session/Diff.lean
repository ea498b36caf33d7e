import InAppMessaging.Session.Basic
import InAppMessaging.Text.Inspect

/-!
# What changed between two sessions

The fields of a session that differ from those of another, in the order of declaration, each
with both values printed for inspection.

* `diff_self` — a session does not differ from itself.
-/

namespace InAppMessaging

open Text.Inspect

/-- An anchor, printed. -/
def Position.inspect : Position → List Char
  | top => "Top".toList
  | center => "Center".toList
  | bottom => "Bottom".toList

/-- An environment, printed. -/
def Environment.inspect : Environment → List Char
  | prod => "Prod".toList
  | dev => "Dev".toList
  | localhost => "Local".toList

/-- A frequency rule, printed. -/
def FrequencySettings.inspect (r : FrequencySettings) : List Char :=
  record "FrequencySettings"
    [field "count" (optional (fun n => integer n.toInt) r.count),
     field "delay" (optional (fun n => integer n.toInt) r.delay),
     field "ignore_dismiss" (optional bool r.ignoreDismiss)]

/-- A sticky block, printed. -/
def BroadcastSettings.inspect (r : BroadcastSettings) : List Char :=
  record "BroadcastSettings" [field "frequency" (optional FrequencySettings.inspect r.frequency)]

/-- A delivery block, printed. -/
def Delivery.inspect (r : Delivery) : List Char :=
  record "GistProperties"
    [field "route_rule" (optional quoted r.routeRule),
     field "element_id" (optional quoted r.elementId),
     field "campaign_id" (optional quoted r.campaignId),
     field "position" (optional Position.inspect r.position),
     field "persistent" (optional bool r.persistent),
     field "overlay_color" (optional quoted r.overlayColor),
     field "anonymous" (optional bool r.anonymous),
     field "broadcast" (optional BroadcastSettings.inspect r.broadcast)]

/-- A message, printed. -/
def Message.inspect (m : Message) : List Char :=
  record "Message"
    [field "message_id" (quoted m.id),
     field "priority" (optional (fun n => integer n.toInt) m.priority),
     field "queue_id" (optional quoted m.queueId),
     field "properties" (record "MessageProperties" [field "gist" m.delivery.inspect])]

/-- A queue, printed. -/
def MessageQueue.inspect (q : MessageQueue) : List Char :=
  record "MessageQueue" [field "messages" (sequence Message.inspect q.messages)]

/-- A modal surface, printed. -/
def ModalState.inspect (s : ModalState) : List Char :=
  match s.message? with
  | none => s.name.toList
  | some m => wrapped s.name m.inspect

/-- An inline element, printed. -/
def InlineState.inspect (s : InlineState) : List Char :=
  record s.name <|
    match s with
    | readyToEmbed m elementId | embedded m elementId =>
        [field "message" m.inspect, field "element_id" (quoted elementId)]
    | dismissed m => [field "message" m.inspect]

/-- The inline elements, printed. -/
def InlineSurfaces.inspect (s : InlineSurfaces) : List Char :=
  record "QueuedInlineMessagesState"
    [field "messages"
      (braces (s.elements.entries.map fun e => quoted e.1 ++ ':' :: ' ' :: e.2.inspect))]

/-- A set of texts, printed. -/
def TextSet.inspect (s : TextSet) : List Char := braces (s.keys.map quoted)

/-- A field with different values in two sessions, both printed. -/
structure Change where
  field : String
  before : String
  after : String
deriving DecidableEq, Repr

/-- A change as one line. -/
def Change.text (c : Change) : String := c.field ++ ": " ++ c.before ++ " -> " ++ c.after

/-- The change of one field, if its values differ. -/
def changeOf {α : Type} [DecidableEq α] (field : String) (inspect : α → List Char)
    (before after : α) : List Change :=
  if before = after then []
  else [⟨field, String.ofList (inspect before), String.ofList (inspect after)⟩]

/-- The fields in which two sessions differ. -/
def Session.diff (a b : Session) : List Change :=
  changeOf "site_id" quoted a.siteId b.siteId ++
  changeOf "data_center" quoted a.dataCenter b.dataCenter ++
  changeOf "environment" Environment.inspect a.environment b.environment ++
  changeOf "poll_interval_ms" (fun n : Nat => integer n) a.pollInterval b.pollInterval ++
  changeOf "session_id" quoted a.sessionId b.sessionId ++
  changeOf "current_route" (optional quoted) a.route b.route ++
  changeOf "user_id" (optional quoted) a.userId b.userId ++
  changeOf "anonymous_id" (optional quoted) a.anonymousId b.anonymousId ++
  changeOf "sse_enabled" bool a.realtime b.realtime ++
  changeOf "messages_in_queue" MessageQueue.inspect a.queue b.queue ++
  changeOf "shown_message_queue_ids" TextSet.inspect a.shown b.shown ++
  changeOf "modal_message_state" ModalState.inspect a.modal b.modal ++
  changeOf "queued_inline_messages_state" InlineSurfaces.inspect a.inline b.inline

theorem changeOf_self {α : Type} [DecidableEq α] (field : String) (inspect : α → List Char)
    (a : α) : changeOf field inspect a a = [] := by
  simp [changeOf]

theorem Session.diff_self (s : Session) : s.diff s = [] := by
  simp [Session.diff, changeOf_self]

end InAppMessaging
