import InAppMessaging.Engine.Basic

/-!
# Surfaces of an engine

How the host's surfaces are tied to the engine: the realtime channel, modal surfaces and
inline elements.  Each watches one attribute of the session and has work posted to the main
thread when it changes; in the other direction the host tells what the user did.
-/

namespace InAppMessaging

/-- The subscriptions that keep the realtime channel up to date. -/
structure ChannelWatch where
  realtime : Nat
  identity : Nat
deriving DecidableEq

/-- A modal surface: its message, and the subscription that tears it down. -/
structure ModalSurface where
  message : Message
  subscription : Nat
deriving DecidableEq

/-- An inline element: its id, the place of its view, and the subscription that feeds it. -/
structure InlineSurface where
  elementId : String
  place : Nat
  subscription : Nat
deriving DecidableEq

/-- Watches an attribute whose values differ unless they are equal. -/
def Watch.distinct (select : Session → Observed)
    (tell : Option Observed → Observed → Session → Host → Host) : Watch Observed Host :=
  .attribute select (fun a b => a = b) tell

/-- Watches whether realtime updates are switched on. -/
def Watch.realtimeFlag : Watch Observed Host :=
  .distinct (fun s => .flag s.realtime) fun _ _ s h => h.post (.realtimeChanged s.realtime) s

/-- Watches whether a named user is known. -/
def Watch.identification : Watch Observed Host :=
  .distinct (fun s => .flag s.isIdentified) fun _ _ s h =>
    h.post (.identityChanged s.isIdentified) s

/-- Has the modal surface torn down when its message is no longer active. -/
def tellModal (before : Option Observed) (now : Observed) (s : Session) (h : Host) : Host :=
  if before = some (.flag true) ∧ now = .flag false then h.post .tearDown s else h

/-- Watches whether a message is active on the modal surface. -/
def Watch.stillShown (m : Message) : Watch Observed Host :=
  .distinct (fun s => .flag (s.modal.active? = some m)) tellModal

/-- Has the view at a place follow its element. -/
def tellInline (elementId : String) (place : Nat) (s : Session) (h : Host) : Host :=
  match s.inline.find? elementId with
  | some state => h.post (.follow place state) s
  | none => h

/-- Watches the state of an inline element. -/
def Watch.element (elementId : String) (place : Nat) : Watch Observed Host :=
  .distinct (fun s => .surface (s.inline.find? elementId)) fun _ _ => tellInline elementId place

namespace Engine

/-! ## The realtime channel -/

/-- Watches the session for the realtime channel. -/
def watchChannel (e : Engine) : ChannelWatch × Engine :=
  let (realtime, e) := e.subscribe fun _ => .realtimeFlag
  let (identity, e) := e.subscribe fun _ => .identification
  (⟨realtime, identity⟩, e)

/-- Stops watching; the channel stays as it is. -/
def unwatchChannel (w : ChannelWatch) (e : Engine) : Engine :=
  (e.unsubscribe w.realtime).unsubscribe w.identity

/-! ## Modal surfaces -/

/-- Ties a presented message to the session. -/
def attachModal (m : Message) (e : Engine) : ModalSurface × Engine :=
  let (subscription, e) := e.subscribe fun _ => .stillShown m
  (⟨m, subscription⟩, e)

/-- The content of a modal surface has loaded. -/
def modalLoaded (w : ModalSurface) (e : Engine) : Engine := e.dispatch (.display w.message)

/-- The user closed a modal surface. -/
def modalClosed (w : ModalSurface) (e : Engine) : Engine := e.dispatch (.close w.message)

/-- The content of a modal surface could not be loaded. -/
def modalFailed (w : ModalSurface) (e : Engine) : Engine := e.dispatch (.loadingFailed w.message)

/-- The user tapped something on a modal surface. -/
def modalTapped (w : ModalSurface) (route name payload : String) (e : Engine) : Engine :=
  e.dispatch (.tap w.message route name payload)

/-- A modal surface is no longer tied to the session. -/
def detachModal (w : ModalSurface) (e : Engine) : Engine := e.unsubscribe w.subscription

/-! ## Inline elements -/

/-- Ties a new view to an inline element. -/
def attachInline (elementId : String) (e : Engine) : InlineSurface × Engine :=
  let place := e.host.views.length
  let e := e.onHost fun h => { h with views := h.views ++ [{}] }
  let (subscription, e) := e.subscribe fun _ => .element elementId place
  (⟨elementId, place, subscription⟩, e)

/-- The message that an inline element shows. -/
def attached? (w : InlineSurface) (e : Engine) : Option Message :=
  (e.host.views[w.place]?).bind (·.attached)

/-- Dispatches an action about the message that an inline element shows, if it shows one. -/
def aboutAttached (w : InlineSurface) (about : Message → Action) (e : Engine) : Engine :=
  match e.attached? w with
  | some m => e.dispatch (about m)
  | none => e

/-- The content of an inline element has loaded. -/
def inlineLoaded (w : InlineSurface) (e : Engine) : Engine := e.aboutAttached w .display

/-- The user closed the message of an inline element. -/
def inlineClosed (w : InlineSurface) (e : Engine) : Engine := e.aboutAttached w .close

/-- The user tapped something in an inline element. -/
def inlineTapped (w : InlineSurface) (route name payload : String) (e : Engine) : Engine :=
  e.aboutAttached w fun m => .tap m route name payload

/-- The view of an inline element goes away, while the element lives on. -/
def releaseInline (w : InlineSurface) (e : Engine) : Engine := e.unsubscribe w.subscription

/-- The view of an inline element is destroyed, and its message with it. -/
def detachInline (w : InlineSurface) (e : Engine) : Engine :=
  let e := e.releaseInline w
  (e.onHost fun h => { h with views := h.views.set w.place {} }).dispatchAll
    ((e.attached? w).map fun m => Action.dismiss m false false).toList

end Engine

end InAppMessaging
