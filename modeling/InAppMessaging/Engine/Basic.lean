import InAppMessaging.Catalog.Sync
import InAppMessaging.Pipeline.Standard
import InAppMessaging.Store.Command

/-!
# The engine

The store with its inbox, the poster of the main thread and the poller take turns.  A step of
the store carries out one command, a step of the poster does one piece of posted work, and a
step of the poller takes it from one phase to the next.  Any order of steps is a run of the
engine.  `Engine.settle` is the run in which whoever became ready first has the first turn and
keeps it as long as there is something to do, but for no more than `allowance` steps; whoever
has used them up rests until nobody else is ready.
-/

namespace InAppMessaging

/-- A running engine. -/
structure Engine where
  stages : List (Stage Host) := Pipeline.standard
  client : ClientSettings := {}
  store : Runner Observed Host
  inbox : List (Command Observed Host) := []
  running : Bool := true
  time : Nat := 0
  subscriptions : Nat := 0

namespace Engine

/-- The session as it was committed last. -/
def session (e : Engine) : Session := e.store.session

/-- Everything outside the session. -/
def host (e : Engine) : Host := e.store.host

/-- Changes what is outside the session. -/
def onHost (change : Host → Host) (e : Engine) : Engine :=
  { e with store := { e.store with host := change e.store.host } }

/-! ## Commands -/

/-- Sends a command to the store, unless it has stopped. -/
def send (c : Command Observed Host) (e : Engine) : Engine :=
  if e.running then { e with inbox := e.inbox ++ [c] }.onHost (·.wake .store) else e

/-- Sends an action to the store. -/
def dispatch (a : Action) (e : Engine) : Engine := e.send (.run a)

/-- Sends actions to the store. -/
def dispatchAll (as : List Action) (e : Engine) : Engine := as.foldl (fun e a => e.dispatch a) e

/-- Registers a subscriber; the answer is its id, which `watch` is made with. -/
def subscribe (watch : Nat → Watch Observed Host) (e : Engine) : Nat × Engine :=
  let id := e.subscriptions + 1
  (id, { e with subscriptions := id }.send (.subscribe id (watch id)))

/-- Removes a subscriber. -/
def unsubscribe (id : Nat) (e : Engine) : Engine := e.send (.unsubscribe id)

/-- Posts work to the main thread. -/
def post (work : Work) (e : Engine) : Engine := e.onHost (·.post work e.session)

/-! ## Steps -/

/-- The store carries out its next command. -/
def stepStore (e : Engine) : Engine :=
  match e.inbox with
  | [] => e
  | c :: rest => { e with inbox := rest, store := e.store.obey e.stages c }

/-- The poster does the next piece of work. -/
def stepPoster (e : Engine) : Engine :=
  match e.host.posted with
  | [] => e
  | work :: rest => e.onHost fun h => { h with posted := rest }.perform e.session work

/-- Sets what the poller is at. -/
def setPhase (phase : PollerPhase) (e : Engine) : Engine :=
  e.onHost fun h => { h with poller := { h.poller with phase } }

/-- The poller begins to wait for its interval, as the session has it now. -/
def restPoller (e : Engine) : Engine :=
  e.onHost fun h => { h with poller := h.poller.rest (e.time + e.session.pollInterval) }

/-- The poller asks for the catalog, if the session polls. -/
def fetch (e : Engine) : Engine :=
  match e.session.pollRequest? e.client with
  | none => e.restPoller
  | some r => (e.onHost (·.record (.fetched r))).setPhase (.fetching r)

/-- Applies an answer to the session as it is now. -/
def apply (r : CatalogResponse) (e : Engine) : Engine :=
  let (actions, host) := applyAnswer e.session r e.host
  (e.onHost fun _ => host).dispatchAll actions

/-- Applies the next answer of the host, if it is one. -/
def receive (e : Engine) : Engine :=
  let (answer, host) := e.host.nextAnswer
  let e := e.onHost fun _ => host
  match answer with
  | .ok r => e.apply r
  | .error _ => e

/-- Fetches the catalog and applies the answer, if the session polls. -/
def applyNext (e : Engine) : Engine :=
  match e.session.pollRequest? e.client with
  | none => e
  | some r => (e.onHost (·.record (.fetched r))).receive

/-- The poller goes on to its next phase. -/
def stepPoller (e : Engine) : Engine :=
  match e.host.poller.phase with
  | .off | .waiting _ => e
  | .starting =>
      if e.running then (e.setPhase .settling).send (.barrier (·.wake .poller)) else e.fetch
  | .settling => e.fetch
  | .fetching _ => e.receive.restPoller

/-! ## Turns -/

/-- The poller has something to do at once. -/
def pollerIsBusy (e : Engine) : Bool :=
  match e.host.poller.phase with
  | .starting | .fetching _ => true
  | .off | .settling | .waiting _ => false

/-- The poller takes steps as long as it has something to do, at most so many more. -/
def turnPoller : Nat → Engine → Engine
  | 0, e => e
  | n + 1, e =>
      let e := e.stepPoller
      if e.pollerIsBusy then turnPoller n e else e

/-- How many steps a turn of the poller can have: at most two fetches. -/
def pollerSteps : Nat := 8

/-- How many steps the store and the poster may take in one turn. -/
def allowance : Nat := 128

/-- The store carries out commands; it rests when no more steps are left. -/
def turnStore : Nat → Engine → Engine
  | 0, e => e.onHost (·.rest .store)
  | n + 1, e => if e.inbox.isEmpty then e else turnStore n e.stepStore

/-- The poster does posted work; it rests when no more steps are left. -/
def turnPoster : Nat → Engine → Engine
  | 0, e => e.onHost (·.rest .poster)
  | n + 1, e => if e.host.posted.isEmpty then e else turnPoster n e.stepPoster

/-- A task does what there is to do. -/
def turn (e : Engine) : Task → Engine
  | .store => e.turnStore allowance
  | .poster => e.turnPoster allowance
  | .poller => e.turnPoller (pollerSteps + 1)

/-- Gives turns until nobody is ready and nobody rests, at most so many. -/
def giveTurns : Nat → Engine → Engine
  | 0, e => e
  | n + 1, e =>
      match e.host.ready with
      | t :: rest => giveTurns n ((e.onHost fun h => { h with ready := rest }).turn t)
      | [] => if e.host.resting.isEmpty then e else giveTurns n (e.onHost Host.rouse)

/-- How many turns are given at most; only polling without pause needs as many. -/
def turnLimit : Nat := 10000

/-- Runs the engine until nobody is ready. -/
def settle (e : Engine) : Engine := e.giveTurns turnLimit

/-- Fetches once outside the poller's hours, after the commands sent so far. -/
def pollOnce (e : Engine) : Engine := (if e.running then e.settle else e).applyNext

/-! ## Time -/

/-- Wakes the poller if its time has come. -/
def ring (e : Engine) : Engine :=
  match e.host.poller.wakeAt? with
  | some time => if time ≤ e.time then (e.setPhase .starting).onHost (·.wake .poller) else e
  | none => e

/-- Sets the time. -/
def setTime (time : Nat) (e : Engine) : Engine := { e with time }.ring

/-- Lets time pass up to a moment, with at most so many wakings in between.  Whoever is ready
at that moment has not had a turn yet. -/
def passTo (moment : Nat) : Nat → Engine → Engine
  | 0, e => e.setTime moment
  | n + 1, e =>
      let e := e.settle
      match e.host.poller.wakeAt? with
      | some time => if time < moment then passTo moment n (e.setTime time) else e.setTime moment
      | none => e.setTime moment

/-- Lets some time pass. -/
def sleep (ms : Nat) (e : Engine) : Engine := e.passTo (e.time + ms) (ms + 1)

/-- Stops the store; commands it has not carried out are lost. -/
def stopStore (e : Engine) : Engine :=
  let stopped := { e with running := false, inbox := [] }
  if e.host.poller.phase = .settling then stopped.onHost (·.wake .poller) else stopped

end Engine

end InAppMessaging
