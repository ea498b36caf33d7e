import InAppMessaging.Configuration
import InAppMessaging.Message.Json
import InAppMessaging.Realtime.Failure
import InAppMessaging.Realtime.Frame
import InAppMessaging.Text.Decimal

/-!
# Realtime events

What the frames of an event stream mean.  A payload that cannot be read never fails: it
stands for no messages, or for the default heartbeat.
-/

namespace InAppMessaging

open Json

/-- What the server tells over the realtime channel. -/
inductive RealtimeEvent where
  | connected
  | heartbeat (timeout : Nat)
  | messages (ms : List Message)
  | lifetimeOver
  | unknown (kind : String)
deriving DecidableEq

/-- The payload of a heartbeat: the seconds until the next one, if they are told. -/
def heartbeatSeconds : Tree → Decoded (Option Nat) :=
  Tree.asRecord
    [⟨["heartbeat"], fun t _ =>
      Tree.asOption (fun t => Int.toNat <$> t.asInteger 0 Text.maxWord64) t⟩]
    none

namespace RealtimeEvent

/-- The milliseconds until the next heartbeat, by the payload of one. -/
def heartbeatTimeout (data : String) : Nat :=
  match decodeText heartbeatSeconds data with
  | .ok (some seconds) => min (seconds * 1000) Text.maxWord64
  | _ => ({} : RealtimeSettings).heartbeatTimeout

/-- The messages of a payload. -/
def messagesOf (data : String) : List Message :=
  match decodeText (Tree.asList Message.ofTree) data with
  | .ok ms => ms
  | .error _ => []

/-- The kinds of frames that are understood. -/
def kinds : List String := ["connected", "heartbeat", "messages", "ttl_exceeded"]

/-- The meaning of a frame. -/
def ofFrame (f : Frame) : RealtimeEvent :=
  match f.kind with
  | "connected" => .connected
  | "heartbeat" => .heartbeat (heartbeatTimeout f.data)
  | "messages" => .messages (messagesOf f.data)
  | "ttl_exceeded" => .lifetimeOver
  | kind => .unknown kind

end RealtimeEvent

/-- A line of the stream, or the failure that came in its place. -/
inductive StreamLine where
  | text (line : String)
  | failed (failure : ChannelFailure)
deriving DecidableEq

/-- Takes the next line; answers with the event it completes, or with the failure. -/
def Block.receive (b : Block) : StreamLine → Option (Except ChannelFailure RealtimeEvent) × Block
  | .text line =>
      let (frame, b) := b.push (withoutReturns line)
      (frame.map fun f => .ok (RealtimeEvent.ofFrame f), b)
  | .failed failure => (some (.error failure), b)

/-- The events and failures of the lines that follow. -/
def Block.events : Block → List StreamLine → List (Except ChannelFailure RealtimeEvent)
  | _, [] => []
  | b, line :: rest =>
      let (event, b) := b.receive line
      event.toList ++ b.events rest

end InAppMessaging
