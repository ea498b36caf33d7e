import InAppMessaging.Engine.Listening
import InAppMessaging.Engine.Surfaces
import InAppMessaging.Realtime.Request

/-!
# The app's engine

An engine with everything it needs: the standard pipeline, the poller and the watch over the
realtime channel.  What the app calls sends actions and returns at once; ids of new sessions
are drawn by the caller.
-/

namespace InAppMessaging

/-- Opens the preferences of a document; if it cannot be opened they are kept in memory. -/
def Storage.ofDocument (page : Document) : Storage :=
  match PreferenceFile.open? page true with
  | some f => .file f
  | none => .memory .empty

/-- The host that a configuration starts with. -/
def Configuration.host (c : Configuration) (storage : Storage) : Host where
  storage := storage
  broadcastLifetime := c.eligibility.lifetime .broadcast
  anonymousLifetime := c.eligibility.lifetime .anonymous

/-- An engine in an app. -/
structure App where
  configuration : Configuration
  watch : ChannelWatch
  engine : Engine

namespace App

/-- Starts an engine on a host. -/
def launch (c : Configuration) (host : Host) : App :=
  let bare : Engine := { client := c.client, store := { session := {}, host } }
  let (watch, e) := bare.watchChannel
  let e := (e.setPhase .starting).onHost (·.wake .poller)
  { configuration := c, watch, engine := e.settle }

/-- Acts on the engine. -/
def onEngine (change : Engine → Engine) (a : App) : App := { a with engine := change a.engine }

/-- Asks for a fetch as soon as possible. -/
def refresh (a : App) : App := a.onEngine (·.onHost Host.requestRefresh)

/-- Starts a session for a workspace. -/
def initialise (siteId dataCenter : String) (environment : Environment) (sessionId : String)
    (a : App) : App :=
  a.onEngine (·.dispatch (.initialise siteId dataCenter environment sessionId))

/-- Names the user and fetches their messages. -/
def identify (userId : String) (a : App) : App :=
  (a.onEngine (·.dispatch (.setUser userId))).refresh

/-- Sets the id of a user without a name and fetches their messages. -/
def setAnonymous (anonymousId : String) (a : App) : App :=
  (a.onEngine (·.dispatch (.setAnonymous anonymousId))).refresh

/-- The app navigated. -/
def navigate (route : String) (a : App) : App := a.onEngine (·.dispatch (.setRoute route))

/-- Closes the modal message as if the user had. -/
def dismiss (a : App) : App :=
  match a.engine.session.modal.active? with
  | some m => a.onEngine (·.dispatch (.close m))
  | none => a

/-- The app came to the foreground. -/
def enterForeground (a : App) : App := (a.onEngine (·.post .foreground)).refresh

/-- The app went to the background. -/
def enterBackground (a : App) : App := a.onEngine (·.post .background)

/-- Forgets the user, and then re-evaluates the realtime channel. -/
def reset (sessionId : String) (a : App) : App :=
  a.onEngine fun e => ((e.dispatch (.reset sessionId)).settle).post .restart

/-- The request for the realtime channel. -/
def realtimeRequest (a : App) : Except RealtimeFault RealtimeRequest :=
  a.engine.session.realtimeRequest a.configuration

/-- Stops the engine. -/
def shutdown (a : App) : App :=
  a.onEngine fun e => (((e.unwatchChannel a.watch).settle).setPhase .off).stopStore

end App

end InAppMessaging
