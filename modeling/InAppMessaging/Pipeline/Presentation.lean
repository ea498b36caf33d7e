import InAppMessaging.Host.Basic
import InAppMessaging.Selection

/-!
# Presentation stages

The stages that decide what comes on screen.  Loading a message opens the modal surface,
unless a message is displayed there.  Without an identity only actions that prepare a session
pass.  After a change of route a message that no longer fits is withdrawn, and selection runs
again over the queue.  A new queue is cut down to its candidates; messages for inline elements
are embedded, and one is loaded if the modal surface is free.
-/

namespace InAppMessaging.Pipeline

/-- What is reported when the modal surface is taken. -/
def modalBusyText : String := "A message is already being shown or cancelled"

/-- What is reported while nobody is known. -/
def noUserText : String := "User is not set."

/-- Opens the modal surface. -/
def present (m : Message) (position : Option Position) (_ : Session) (h : Host) : Host :=
  h.record (.presented m (position.getD m.position))

/-- Opens the modal surface for messages that are loaded there. -/
def activation : Stage Host where
  name := "modal_activation"
  handle
    | .load m position =>
        if m.isEmbedded then .forwardOnly (.load m position)
        else
          .read fun s =>
            if s.modal.isDisplayed then .dispatch (.reportError modalBusyText) .done
            else .act (present m position) (.forwardOnly (.load m position))
    | a => .forwardOnly a

/-- The action prepares a session and needs no identity. -/
def isPreparation : Action → Bool
  | .initialise .. | .setUser _ | .setAnonymous _ | .setRoute _ | .setRealtime _
  | .setPollInterval _ | .reset _ | .reportError _ => true
  | _ => false

/-- Drops what needs an identity while there is none. -/
def identityGuard : Stage Host where
  name := "user_guard"
  handle a :=
    if isPreparation a then .forwardOnly a
    else
      .read fun s =>
        if s.hasIdentity then .forwardOnly a else .dispatch (.reportError noUserText) .done

/-- Runs selection over the queue at hand. -/
def reselect : Program Host :=
  .read fun s => .dispatch (.processQueue s.queue.messages) .done

/-- Re-evaluates the screen after a change of route. -/
def navigation : Stage Host where
  name := "route_change"
  handle
    | .setRoute route =>
        .forward (.setRoute route) <| .read fun s =>
          match s.modal.active? with
          | some m =>
              if m.stillMatchesRoute route then reselect else .dispatch (.withdraw m) reselect
          | none => reselect
    | a => .forwardOnly a

/-- Loads a message if the modal surface is free. -/
def loadIfFree : Option Message → Program Host
  | some m => .read fun s => if s.modal.isActive then .done else .dispatch (.present m) .done
  | none => .done

/-- Embeds messages, if there are any. -/
def embedThen (messages : List Message) (next : Program Host) : Program Host :=
  if messages.isEmpty then next else .dispatch (.embed messages) next

/-- Picks what to show whenever a queue arrives. -/
def selecting : Stage Host where
  name := "selection"
  handle
    | .processQueue (m :: rest) =>
        .read fun s =>
          let picked := s.select (m :: rest)
          .forward (.processQueue picked.queue) (embedThen picked.inline (loadIfFree picked.modal))
    | a => .forwardOnly a

end InAppMessaging.Pipeline
