import InAppMessaging.Action

/-!
# Reducing an action

The session that follows a session once an action is applied.  Every action applies to every
session; where it has nothing to change, the session stays.

* `reduce_queue_of_display` — a displayed message leaves the queue;
* `Session.markShown_find?` — marking a queue id puts it among the shown ones.
-/

namespace InAppMessaging

namespace Session

/-- Remembers a queue id as shown. -/
def markShown (s : Session) (queueId : String) : Session := { s with shown := s.shown.add queueId }

/-- Remembers the message of an action as shown if the action is the view that counts. -/
def markViewed (s : Session) (a : Action) (m : Message) : Session :=
  match m.queueId with
  | some queueId => if a.marksShown then s.markShown queueId else s
  | none => s

/-- Takes a message out of the queue. -/
def dequeue (s : Session) (m : Message) : Session :=
  match m.queueId with
  | some queueId => { s with queue := s.queue.without queueId }
  | none => s

/-- Puts what became of a message where it is kept: at the element that holds its queue id,
or on the modal surface. -/
def settle (s : Session) (m : Message) (inlineState : String → InlineState)
    (modalState : ModalState) : Session :=
  match m.delivery.elementId, m.queueId with
  | some elementId, some queueId =>
      { s with inline := s.inline.update queueId (inlineState elementId) }
  | some _, none => s
  | none, _ => { s with modal := modalState }

/-- The session in which a message has been displayed by an action. -/
def displayed (s : Session) (a : Action) (m : Message) : Session :=
  ((s.markViewed a m).dequeue m).settle m (.embedded m) (.displayed m)

/-- The session in which a message has left its surface by an action. -/
def dismissed (s : Session) (a : Action) (m : Message) : Session :=
  (s.markViewed a m).settle m (fun _ => .dismissed m) (.dismissed m)

/-- Gives every message with an element id to its element, later ones replacing earlier. -/
def embed (s : Session) (messages : List Message) : Session :=
  { s with
    inline := messages.foldl
      (fun inline m =>
        match m.delivery.elementId with
        | some elementId => inline.add m elementId
        | none => inline)
      s.inline }

/-- The session after an action. -/
def reduce (s : Session) (a : Action) : Session :=
  match a with
  | .initialise siteId dataCenter environment sessionId =>
      { s with siteId, dataCenter, environment, sessionId }
  | .setPollInterval interval => { s with pollInterval := interval }
  | .setRoute route => { s with route := some route }
  | .setUser userId => { s with userId := some userId }
  | .setAnonymous anonymousId => { s with anonymousId := some anonymousId }
  | .setRealtime enabled => { s with realtime := enabled }
  | .load m _ => { s with modal := .loading m }
  | .embed messages => s.embed messages
  | .processQueue messages => { s with queue := .ofList messages }
  | .clearQueue => { s with queue := .empty }
  | .display m => s.displayed a m
  | .dismiss m _ _ => s.dismissed a m
  | .loadingFailed m => s.dismissed a m
  | .reset sessionId =>
      { s with
        userId := none, route := none, sessionId, queue := .empty, shown := .empty,
        modal := .initial, inline := {} }
  | .reportError _ => s
  | .tap _ _ _ _ => s

/-- The session after several actions. -/
def reduceAll (s : Session) (actions : List Action) : Session := actions.foldl reduce s

theorem markShown_find? (s : Session) (queueId : String) :
    (s.markShown queueId).shown.find? queueId = some () :=
  Keyed.find?_insert_self s.shown queueId ()

theorem settle_queue (s : Session) (m : Message) (inlineState : String → InlineState)
    (modalState : ModalState) : (s.settle m inlineState modalState).queue = s.queue := by
  unfold settle
  split <;> rfl

/-- A displayed message leaves the queue. -/
theorem reduce_queue_of_display (s : Session) {m : Message} {queueId : String}
    (h : m.queueId = some queueId) :
    (s.reduce (.display m)).queue = s.queue.without queueId := by
  show (s.displayed (.display m) m).queue = s.queue.without queueId
  unfold displayed
  rw [settle_queue]
  simp only [dequeue, markViewed, h]
  split <;> rfl

theorem reduceAll_append (s : Session) (xs ys : List Action) :
    s.reduceAll (xs ++ ys) = (s.reduceAll xs).reduceAll ys :=
  List.foldl_append

end Session

end InAppMessaging
