import InAppMessaging.Host.Basic

/-!
# Accounting stage

Keeps account of views: each message counts as viewed once, when it is displayed or, if it is
persistent, when the user closes it.  A display uses up a view of a sticky message.  A
broadcast is written off when the user closes it, an anonymous message however it goes away.
While realtime updates are in use nothing is fetched after a message went away, so the next
one is picked from the queue at hand.
-/

namespace InAppMessaging.Pipeline

/-- Reports a view if the action is the one that counts. -/
def logView (a : Action) (m : Message) (s : Session) (h : Host) : Host :=
  if a.marksShown then h.record (.viewLogged m s.sessionId) else h

/-- The class and the queue id under which a sticky message is counted. -/
def account? (m : Message) : Option (StickyClass × String) := do
  return (← m.stickyClass?, ← m.queueId)

/-- Uses up a view of a sticky message. -/
def countDisplay (m : Message) (s : Session) (h : Host) : Host :=
  match account? m with
  | some (k, queueId) => h.track k fun t => t.markSeen s.userToken? queueId
  | none => h

/-- A message that goes away is not shown again. -/
def writtenOff (k : StickyClass) (closedByUser : Bool) : Bool :=
  match k with
  | .broadcast => closedByUser
  | .anonymous => true

/-- Writes off a sticky message that goes away. -/
def countDismissal (m : Message) (closedByUser : Bool) (s : Session) (h : Host) : Host :=
  match account? m with
  | some (k, queueId) =>
      if writtenOff k closedByUser then h.track k fun t => t.markDismissed s.userToken? queueId
      else h
  | none => h

/-- Picks the next message while realtime updates are in use. -/
def pickNext (s : Session) : Program Host :=
  if s.usesRealtime then .dispatch (.processQueue s.queue.messages) .done else .done

/-- Keeps account of views and dismissals. -/
def accounting : Stage Host where
  name := "view_telemetry"
  handle
    | .display m =>
        .act (logView (.display m) m) <| .act (countDisplay m) <| .forwardOnly (.display m)
    | .dismiss m log viaClose =>
        let a := Action.dismiss m log viaClose
        let closedByUser := log && viaClose
        .act (logView a m) <| .act (countDismissal m closedByUser) <|
          .act (fun _ h => if closedByUser && m.isPersistent then h.requestRefresh else h) <|
            .forward a <| .read pickNext
    | a => .forwardOnly a

end InAppMessaging.Pipeline
