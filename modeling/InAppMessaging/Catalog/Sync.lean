import InAppMessaging.Host.Basic

/-!
# Applying catalog answers

What an answer means for a session: the actions it calls for, in their order.  Sticky
messages are not taken from the answer itself; it refreshes their snapshots, and those that
may be shown now are read back from there.
-/

namespace InAppMessaging

/-- What is logged when a fetch fails. -/
def fetchFailedText (status : Nat) : String := "Failed to fetch messages: " ++ toString status

/-- The messages of a catalog without caps of their own. -/
def regularMessages (messages : List Message) : List Message :=
  messages.filter fun m => !m.isBroadcast && !m.isAnonymous

/-- Refreshes the snapshots from a catalog and gathers what may be queued. -/
def gatherQueue (token : Option String) (messages : List Message) (h : Host) :
    List Message × Host :=
  let h := h.track .broadcast fun t => t.update token messages
  let h := h.track .anonymous fun t => t.update token messages
  let (broadcasts, h) := h.eligible .broadcast token
  let (anonymous, h) := h.eligible .anonymous token
  (regularMessages messages ++ broadcasts ++ anonymous, h)

/-- The action on the queue that an answer calls for. -/
def queueAction (s : Session) (r : CatalogResponse) (h : Host) : Action × Host :=
  match r.outcome with
  | .noContent => (.clearQueue, h)
  | .failed status => (.clearQueue, h.record (.errorLogged (fetchFailedText status)))
  | .messages ms =>
      let (queue, h) := gatherQueue s.userToken? ms h
      (.processQueue queue, h)

/-- The actions on how the session is updated, where an answer announces something new. -/
def cadenceActions (s : Session) (r : CatalogResponse) : List Action :=
  ((r.announcedInterval?.filter (· ≠ s.pollInterval)).map Action.setPollInterval).toList ++
    ((r.announcedRealtime?.filter (· ≠ s.realtime)).map Action.setRealtime).toList

/-- The actions that an answer calls for. -/
def applyAnswer (s : Session) (r : CatalogResponse) (h : Host) : List Action × Host :=
  let (queue, h) := queueAction s r h
  (queue :: cadenceActions s r, h)

end InAppMessaging
