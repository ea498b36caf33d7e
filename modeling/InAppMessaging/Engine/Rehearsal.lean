import InAppMessaging.Host.Basic
import InAppMessaging.Text.Decimal

/-!
# Rehearsing a pipeline

Stages that are put around a pipeline to watch it or to disturb it: one that records every
action it sees, and scripted ones, which do a given thing with the actions they are meant for
and pass all others on.
-/

namespace InAppMessaging

/-- Records every action. -/
def recorder : Stage Host where
  name := "recorder"
  handle a := .act (fun _ h => h.record (.entered a)) (.forwardOnly a)

/-- What a scripted stage does with the actions it is meant for. -/
inductive ScriptMove where
  | fail (causes : List String)
  | failAfter (causes : List String)
  | drop
  | replace (other : Action)
  | dispatchBefore (a : Action)
  | dispatchAfter (a : Action)
  | echo
  | echoAfter
  | pass

/-- A scripted stage: the name of the actions it is meant for, if not all, and the route it
is meant for, if the action sets one. -/
structure Script where
  name : String
  on : Option String := none
  route : Option String := none
  move : ScriptMove

namespace Script

/-- The script is meant for an action. -/
def isFor (s : Script) (a : Action) : Bool :=
  s.on.all (· = a.name) &&
    match s.route, a with
    | some route, .setRoute r => r = route
    | some _, _ => false
    | none, _ => true

/-- The next poll interval after the one an action sets. -/
def echoOf : Action → Option Action
  | .setPollInterval interval => some (.setPollInterval (min (interval + 1) Text.maxWord64))
  | _ => none

/-- Dispatches an action, if there is one. -/
def dispatching (a : Option Action) (next : Program Host) : Program Host :=
  match a with
  | some a => .dispatch a next
  | none => next

/-- Plays a move on an action. -/
def play (name : String) (a : Action) : ScriptMove → Program Host
  | .fail causes => .fail causes
  | .failAfter causes => .forward a (.fail causes)
  | .drop => .done
  | .replace other => .forwardOnly other
  | .dispatchBefore other =>
      .dispatch other (.act (fun s h => h.record (.noted name s.route)) (.forwardOnly a))
  | .dispatchAfter other => .forward a (.dispatch other .done)
  | .echo => dispatching (echoOf a) (.forwardOnly a)
  | .echoAfter => .forward a (dispatching (echoOf a) .done)
  | .pass => .forwardOnly a

/-- The stage of a script. -/
def stage (s : Script) : Stage Host where
  name := s.name
  handle a := if s.isFor a then play s.name a s.move else .forwardOnly a

end Script

end InAppMessaging
