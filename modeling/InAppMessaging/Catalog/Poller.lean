import InAppMessaging.Catalog.Request

/-!
# Polling

The poller waits until all commands sent so far are done, fetches the catalog if the session
polls at all, and then waits for its interval to pass or for a refresh, whichever comes first.
A refresh asked for while the poller does not wait is remembered, but only once.
-/

namespace InAppMessaging

/-- What the poller is at. -/
inductive PollerPhase where
  | off
  | starting
  | settling
  | fetching (r : CatalogRequest)
  | waiting (wakeAt : Nat)
deriving DecidableEq

/-- The poller, with whether a refresh is remembered. -/
structure Poller where
  phase : PollerPhase := .off
  refresh : Bool := false
deriving DecidableEq

instance : Inhabited Poller := ⟨{}⟩

namespace Poller

/-- The poller waits for its time. -/
def isWaiting (p : Poller) : Bool :=
  match p.phase with
  | .waiting _ => true
  | _ => false

/-- The time it waits for. -/
def wakeAt? (p : Poller) : Option Nat :=
  match p.phase with
  | .waiting time => some time
  | _ => none

/-- Asks for a fetch as soon as possible. -/
def request (p : Poller) : Poller :=
  if p.isWaiting then { p with phase := .starting } else { p with refresh := true }

/-- Begins the wait after a fetch; a remembered refresh ends it at once. -/
def rest (p : Poller) (wakeAt : Nat) : Poller :=
  if p.refresh then { phase := .starting } else { p with phase := .waiting wakeAt }

end Poller

/-- The fetch that a session calls for, if it polls at all. -/
def Session.pollRequest? (s : Session) (client : ClientSettings) : Option CatalogRequest :=
  if s.usesRealtime then none else s.catalogRequest? client

end InAppMessaging
