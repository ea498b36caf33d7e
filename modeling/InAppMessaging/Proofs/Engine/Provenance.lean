import InAppMessaging.Proofs.Engine.Beside
import InAppMessaging.Proofs.Engine.Interleaving
import InAppMessaging.Proofs.Pipeline.Supply

/-!
# Whom a list of messages was obtained for

Lists of messages come from answers to fetches, over realtime connections, and from the app
itself.  The first two are obtained for somebody: the owner of the token in the request, or of
the token in the session at the moment the transport was told to open the connection.  `Books`
remember this for every list on its way: while the fetch is under way, while the connection is
there, while the poller has yet to send what the answer calls for, while the action waits in the
inbox, while the store is at it, and while the list is the queue.  A `Trail` is an engine in the
middle of its work with its books.

A fetch and its answer are steps of their own, there may be several fetches at a time, and a
connection may go on telling after the transport was told to close it.

* `Trail.run_moves` — what is no fetch and no arrival is a move of the engine;
* `Trail.run_answer` — **the steps of an answer that is left alone are `Engine.apply`**.
-/

namespace InAppMessaging

/-! ## Books -/

/-- For whom something was asked, and how many commits there had been by then. -/
structure Asking where
  token : Option String
  since : Nat
deriving DecidableEq, Repr

/-- A list of messages with what was asked for it; for the app's own lists nothing was. -/
structure Origin where
  asking? : Option Asking := none
  messages : List Message := []
deriving DecidableEq

/-- The messages that an action has queued. -/
def Action.queued : Action → List Message
  | .processQueue ms => ms
  | _ => []

/-- An action brings a queue. -/
def Action.isQueue : Action → Bool
  | .processQueue _ => true
  | _ => false

/-- The messages that a command has queued. -/
def Command.queued {V H : Type} : Command V H → List Message
  | .run a => a.queued
  | _ => []

theorem Action.isQueue_iff {a : Action} : a.isQueue = true ↔ ∃ ms, a = .processQueue ms := by
  constructor
  · intro h
    cases a with
    | processQueue ms => exact ⟨ms, rfl⟩
    | _ => exact absurd h Bool.false_ne_true
  · rintro ⟨ms, rfl⟩
    rfl

/-- An action without a list of its own queues nothing. -/
theorem Action.brings_of_isQueue {a : Action} {queued : Message → Bool}
    (h : a.isQueue = false) : a.Brings (fun _ => true) queued := by
  cases a with
  | processQueue ms => exact absurd h.symm Bool.false_ne_true
  | load m position => exact rfl
  | embed ms => exact fun _ _ => rfl
  | _ => trivial

/-- What a connection has queued about an arrival are its messages. -/
theorem Connection.queued_onArrival (c : Connection) (time : Nat) (arrival : Arrival)
    (a : Action) (h : ConnectionOrder.dispatch a ∈ (c.onArrival time arrival).orders) :
    a.queued ⊆ messagesOfArrival arrival := by
  rcases dispatch_onArrival h with rfl | rfl
  · exact fun m hm => hm
  · exact List.nil_subset _

/-- The origins of all lists on their way: of the messages the app sent itself, of the fetches
and connections so far, of what the poller has yet to send, of the commands in the inbox, of
the command the store is at, and of the queue. -/
structure Books where
  own : List Message := []
  fetches : List Asking := []
  connections : List Asking := []
  sending : List (Action × Origin) := []
  marks : List Origin := []
  current : Origin := {}
  kept : Origin := {}

namespace Books

/-- Commands of an origin have come into the inbox, so many. -/
def received (b : Books) (n : Nat) (origin : Origin) : Books :=
  { b with marks := b.marks ++ List.replicate n origin }

/-- Connections were opened, so many. -/
def opened (b : Books) (n : Nat) (asking : Asking) : Books :=
  { b with connections := b.connections ++ List.replicate n asking }

/-- The store takes an action from the inbox: a queue brings a list of its own, and any other
action may bring back the queue at hand. -/
def takeUp (b : Books) (a : Action) : Books :=
  { b with current := if a.isQueue then b.marks.headD {} else b.kept, marks := b.marks.tail }

/-- The store commits an action. -/
def commit (b : Books) (a : Action) : Books :=
  { b with kept := if a.isQueue then b.current else b.kept }

/-- What the next move of the store does to the books. -/
def advance (b : Books) (m : Moment) : Books :=
  match m.waiting, m.agenda, m.engine.inbox with
  | [], .commit a :: _, _ => b.commit a
  | [], [], .run a :: _ => b.takeUp a
  | [], [], _ :: _ => { b with marks := b.marks.tail }
  | _, _, _ => b

/-- What a move does to the books, apart from what it brings into the inbox. -/
def before (b : Books) (m : Moment) : Move → Books
  | .store => b.advance m
  | .dispatch a => { b with own := b.own ++ a.queued }
  | _ => b

end Books

/-! ## Trails -/

namespace Moment

/-- The commits so far, the last one first. -/
def log (m : Moment) : List Action := m.engine.store.committed

/-- What is asked for at a moment is asked for the owner of the session's token. -/
def asking (m : Moment) : Asking := ⟨m.session.userToken?, m.log.length⟩

/-- The commits since something was asked. -/
def since (m : Moment) (a : Asking) : List Action := m.log.take (m.log.length - a.since)

/-- How often the transport was told to open a connection. -/
def starts (m : Moment) : Nat := (m.engine.host.journal.filter (· = .channel .start)).length

/-- The queue that the store is about to commit. -/
def queueNext? (m : Moment) : Option (List Message) :=
  match m.waiting, m.agenda with
  | [], .commit (.processQueue ms) :: _ => some ms
  | _, _ => none

/-- The fetch that an engine would begin. -/
def fetchNext? (m : Moment) : Option Asking :=
  (m.session.pollRequest? m.engine.client).map fun r => ⟨some r.token, m.log.length⟩

end Moment

/-- An engine in the middle of its work, and whom its lists were obtained for. -/
structure Trail where
  moment : Moment
  books : Books := {}

/-- What may happen next: a move of the engine, a fetch, the answer to one, the sending of what
an answer called for, or an arrival over a connection. -/
inductive TrailStep where
  | move (mv : Move)
  | fetch
  | answer (fetch : Nat) (r : CatalogResponse)
  | send (place : Nat)
  | arrive (connection : Nat) (who : Reconnector) (c : Connection) (time : Nat)
      (arrival : Arrival)

/-- The origin of what a move brings into the inbox. -/
def Move.origin : Move → Origin
  | .dispatch a => ⟨none, a.queued⟩
  | _ => {}

namespace Trail

/-- The trail once the engine came to another moment: what has come into the inbox has the
origin, and what was opened was opened for the session as it is. -/
def follow (t : Trail) (b : Books) (m : Moment) (origin : Origin) : Trail where
  moment := m
  books := (b.received (m.engine.inbox.length - t.moment.engine.inbox.length) origin).opened
    (m.starts - t.moment.starts) m.asking

/-- The trail after a step. -/
def after (t : Trail) : TrailStep → Trail
  | .move mv => t.follow (t.books.before t.moment mv) (t.moment.after mv) mv.origin
  | .fetch =>
      t.follow { t.books with fetches := t.books.fetches ++ t.moment.fetchNext?.toList }
        (t.moment.onEngine (·.fetch)) {}
  | .answer i r =>
      match t.books.fetches[i]? with
      | none => t
      | some asking =>
          let (actions, host) := applyAnswer t.moment.session r t.moment.engine.host
          let due := actions.map fun a => (a, (⟨some asking, r.messages⟩ : Origin))
          t.follow { t.books with sending := t.books.sending ++ due }
            (t.moment.onEngine (·.onHost fun _ => host)) {}
  | .send i =>
      match t.books.sending[i]? with
      | none => t
      | some (a, origin) =>
          t.follow { t.books with sending := t.books.sending.eraseIdx i }
            (t.moment.onEngine (·.dispatch a)) origin
  | .arrive i who c time arrival =>
      match t.books.connections[i]? with
      | none => t
      | some asking =>
          t.follow t.books (t.moment.onEngine (·.obeyAnswer who (c.onArrival time arrival)))
            ⟨some asking, messagesOfArrival arrival⟩

/-- The trail after steps. -/
def run (t : Trail) (steps : List TrailStep) : Trail := steps.foldl after t

/-- An engine to which everything so far came from the app. -/
def start (e : Engine) : Trail where
  moment := { engine := e }
  books :=
    { own := e.session.queue.messages ++ e.inbox.flatMap (·.queued)
      marks := e.inbox.map fun c => ⟨none, c.queued⟩
      kept := ⟨none, e.session.queue.messages⟩ }

/-! ## Nothing changes for the engine -/

/-- What is no fetch and no arrival is a move of the engine. -/
theorem run_moves (t : Trail) (moves : List Move) :
    (t.run (moves.map .move)).moment = t.moment.run moves := by
  induction moves generalizing t with
  | nil => rfl
  | cons mv moves ih => exact ih (t.after (.move mv))

/-- Whatever is left to send can be sent in its order. -/
theorem run_sends (t : Trail) :
    (t.run (List.replicate t.books.sending.length (.send 0))).moment =
      t.moment.onEngine (·.dispatchAll (t.books.sending.map (·.1))) := by
  generalize hlength : t.books.sending.length = n
  induction n generalizing t with
  | zero =>
      rw [List.length_eq_zero_iff.mp hlength]
      rfl
  | succ n ih =>
      obtain ⟨first, rest, hsending⟩ := List.exists_cons_of_length_eq_add_one hlength
      have hnext : (t.after (.send 0)).books.sending = rest ∧
          (t.after (.send 0)).moment = t.moment.onEngine (·.dispatch first.1) := by
        unfold after
        rw [hsending]
        exact ⟨rfl, rfl⟩
      rw [List.replicate_succ]
      show ((t.after (.send 0)).run _).moment = _
      rw [ih _ (by rw [hnext.1]; rw [hsending] at hlength; exact Nat.succ.inj hlength), hnext.1,
        hnext.2, hsending]
      rfl

/-- **The steps of an answer that is left alone are `Engine.apply`.** -/
theorem run_answer {t : Trail} {i : Nat} {asking : Asking}
    (hfetch : t.books.fetches[i]? = some asking) (hsending : t.books.sending = [])
    (r : CatalogResponse) :
    ∃ n, (t.run (.answer i r :: List.replicate n (.send 0))).moment =
      t.moment.onEngine (·.apply r) := by
  refine ⟨(t.after (.answer i r)).books.sending.length, ?_⟩
  have hanswer : (t.after (.answer i r)).moment = t.moment.onEngine
        (·.onHost fun _ => (applyAnswer t.moment.session r t.moment.engine.host).2) ∧
      (t.after (.answer i r)).books.sending.map (·.1) =
        (applyAnswer t.moment.session r t.moment.engine.host).1 := by
    simp only [after, hfetch]
    refine ⟨rfl, ?_⟩
    show (t.books.sending ++ List.map _ _).map Prod.fst = _
    rw [hsending, List.nil_append, List.map_map]
    exact List.map_id _
  show ((t.after (.answer i r)).run _).moment = _
  rw [run_sends, hanswer.1, hanswer.2]
  rfl

end Trail

end InAppMessaging
