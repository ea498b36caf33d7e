import InAppMessaging.Session.Reduce
import InAppMessaging.Store.Program
import InAppMessaging.Store.Subscriber

/-!
# Running actions

The one place where the session changes.  An action runs through all stages and, if the last
one forwards it, is committed: the session is reduced, the commit is logged and counted, and the
subscribers are told.  A stage that fails has its failure reported by a `ReportError` action,
unless it was handling one.  Dispatches nest up to a limit; one beyond it is dropped.
-/

namespace InAppMessaging

/-- How deep dispatches may nest. -/
def maxDispatchDepth : Nat := 64

/-- What is logged when a dispatch is dropped. -/
def depthExceededText : String := "dispatch depth exceeded, dropping action"

/-- The session with everyone who watches it; the committed actions come newest first, and are
counted beside that. -/
structure Runner (V H : Type) where
  session : Session
  subscribers : List (Subscriber V H) := []
  committed : List Action := []
  actionsProcessed : Nat := 0
  failures : Nat := 0
  host : H

namespace Runner

variable {V H : Type}

/-- Acts on the host. -/
def act (effect : Session → H → H) (r : Runner V H) : Runner V H :=
  { r with host := effect r.session r.host }

/-- Makes an action's change and tells the subscribers. -/
def commit (a : Action) (r : Runner V H) : Runner V H :=
  let next := Session.reduce r.session a
  let (subscribers, host) := Subscriber.notifyAll r.subscribers next r.host
  { r with
    session := next, subscribers, host, committed := a :: r.committed
    actionsProcessed := r.actionsProcessed + 1 }

/-- Runs a stage's program, given how to dispatch and how to forward; answers with the causes
if it fails. -/
def execute (dispatch forward : Action → Runner V H → Runner V H) :
    Program H → Runner V H → Runner V H × Option (List String)
  | .done, r => (r, none)
  | .fail causes, r => (r, some causes)
  | .read next, r => execute dispatch forward (next r.session) r
  | .act effect next, r => execute dispatch forward next (r.act effect)
  | .dispatch a next, r => execute dispatch forward next (dispatch a r)
  | .forward a next, r => execute dispatch forward next (forward a r)

variable [ErrorLog H]

/-- Writes a line into the error log. -/
def logError (text : String) (r : Runner V H) : Runner V H :=
  r.act fun _ => ErrorLog.logError text

/-- Reports that a stage failed on an action. -/
def reportFailure (dispatch : Action → Runner V H → Runner V H) (stage : String) (a : Action)
    (causes : List String) (r : Runner V H) : Runner V H :=
  let r := { r with failures := r.failures + 1 }
  if a.isErrorReport then
    r.logError ("failed while reporting an error: " ++ failureText causes)
  else dispatch (.reportError (stage ++ ": " ++ failureText causes)) r

/-- Runs an action through stages, given how to dispatch others. -/
def run (dispatch : Action → Runner V H → Runner V H) :
    List (Stage H) → Action → Runner V H → Runner V H
  | [], a, r => r.commit a
  | stage :: rest, a, r =>
      match execute dispatch (run dispatch rest) (stage.handle a) r with
      | (r, none) => r
      | (r, some causes) => r.reportFailure dispatch stage.name a causes

/-- Runs an action through all stages with so many levels of dispatches left. -/
def process (stages : List (Stage H)) : Nat → Action → Runner V H → Runner V H
  | 0, _, r => r.logError depthExceededText
  | levels + 1, a, r => run (process stages levels) stages a r

/-- Runs an action from outside. -/
def handle (stages : List (Stage H)) (a : Action) (r : Runner V H) : Runner V H :=
  r.process stages maxDispatchDepth a

end Runner

end InAppMessaging
