import InAppMessaging.Action

/-!
# Stages of the pipeline

An action passes one stage after the other before it changes the session.  What a stage does
with an action is a finite program: it may read the session, act on the host, dispatch other
actions, which run through all stages at once, forward an action to the next stage, and end
well or fail.  What it forwarded before it failed stays done.

* `Program.forwards_forwardOnly` — the stage that does nothing forwards once.
-/

namespace InAppMessaging

/-- What a stage does with one action, over a host `H`. -/
inductive Program (H : Type) where
  | done
  | fail (causes : List String)
  | read (next : Session → Program H)
  | act (effect : Session → H → H) (next : Program H)
  | dispatch (a : Action) (next : Program H)
  | forward (a : Action) (next : Program H)

namespace Program

variable {H : Type}

/-- Forwards an action and does nothing else. -/
def forwardOnly (a : Action) : Program H := .forward a .done

/-- The program forwards at most so many actions, whatever it reads. -/
inductive Forwards : Program H → Nat → Prop
  | done (n : Nat) : Forwards .done n
  | fail (causes : List String) (n : Nat) : Forwards (.fail causes) n
  | read {next : Session → Program H} {n : Nat} (h : ∀ s, Forwards (next s) n) :
      Forwards (.read next) n
  | act {effect : Session → H → H} {next : Program H} {n : Nat} (h : Forwards next n) :
      Forwards (.act effect next) n
  | dispatch {a : Action} {next : Program H} {n : Nat} (h : Forwards next n) :
      Forwards (.dispatch a next) n
  | forward {a : Action} {next : Program H} {n : Nat} (h : Forwards next n) :
      Forwards (.forward a next) (n + 1)

theorem forwards_forwardOnly (a : Action) : Forwards (forwardOnly a : Program H) 1 :=
  .forward (.done 0)

end Program

/-- A stage: its name, and what it does with each action. -/
structure Stage (H : Type) where
  name : String
  handle : Action → Program H

/-- The text of a failure: what happened last comes first. -/
def failureText (causes : List String) : String := ": ".intercalate causes.reverse

/-- A host that keeps a log of errors. -/
class ErrorLog (H : Type) where
  logError : String → H → H

end InAppMessaging
