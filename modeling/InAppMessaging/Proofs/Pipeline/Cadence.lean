import InAppMessaging.Proofs.Pipeline.Navigation
import Mathlib.Data.List.Basic

/-!
# What sets the cadence

How long the poller waits is part of the session, and one kind of action sets it.  The pipeline
lets every such action through, whoever is known, and sends none of its own; so the cadences that
are committed are those of the actions from outside, in their order.

* `cadencesOf_actionDeeds` — **an action sets the cadence that it names, and no other**;
* `Session.pollInterval_reduce` — nothing else changes the cadence of a session.
-/

namespace InAppMessaging

open Pipeline

/-- The cadence that an action sets, in milliseconds. -/
def Action.cadence? : Action → Option Nat
  | .setPollInterval interval => some interval
  | _ => none

/-- The cadence that the action of a command sets. -/
def Command.cadence? {V H : Type} : Command V H → Option Nat
  | .run a => a.cadence?
  | _ => none

/-- The cadences that deeds commit, in their order. -/
def cadencesOf (ds : List (Deed Host)) : List Nat := (commits ds).filterMap Action.cadence?

/-- What the first element brings comes before what the others bring. -/
theorem filterMap_cons_toList {α β : Type} (f : α → Option β) (x : α) (xs : List α) :
    (x :: xs).filterMap f = (f x).toList ++ xs.filterMap f := by
  rw [List.filterMap_eq_flatMap_toList, List.flatMap_cons, List.filterMap_eq_flatMap_toList]

/-! ## Deeds -/

variable {s : Session} {a : Action} {ds es : List (Deed Host)}

theorem cadencesOf_append (ds es : List (Deed Host)) :
    cadencesOf (ds ++ es) = cadencesOf ds ++ cadencesOf es := by
  unfold cadencesOf
  rw [commits_append, List.filterMap_append]

theorem cadencesOf_cons_commit (a : Action) (ds : List (Deed Host)) :
    cadencesOf (.commit a :: ds) = a.cadence?.toList ++ cadencesOf ds :=
  filterMap_cons_toList Action.cadence? a (commits ds)

theorem cadencesOf_landed (a : Action) : cadencesOf (landed a) = a.cadence?.toList :=
  (cadencesOf_cons_commit a _).trans (List.append_nil _)

/-- What follows from a queue sets no cadence. -/
theorem cadencesOf_of_followsQueue (h : ∀ d ∈ ds, d.FollowsQueue) : cadencesOf ds = [] := by
  refine List.filterMap_eq_nil_iff.mpr fun a ha => ?_
  cases h (.commit a) (mem_commits.mp ha) with
  | commit hqueue =>
      cases a with
      | setPollInterval interval => exact absurd hqueue Bool.false_ne_true
      | _ => rfl

theorem cadencesOf_guarded (h : a.cadence? = none) (s : Session) :
    cadencesOf (guarded s (landed a)) = [] := by
  unfold guarded
  split
  · rw [cadencesOf_landed, h]
    rfl
  · exact cadencesOf_of_followsQueue (reported_followsQueue noUserText)

theorem cadencesOf_reselectDeeds (s : Session) : cadencesOf (reselectDeeds s) = [] :=
  cadencesOf_of_followsQueue (queueDeeds_followsQueue _ s)

theorem cadencesOf_dismissDeeds (m : Message) (log viaClose : Bool) (s : Session) :
    cadencesOf (dismissDeeds m log viaClose s) = [] := by
  have hleave : cadencesOf (leaveDeeds m log viaClose s) = [] :=
    cadencesOf_guarded (a := .dismiss m log viaClose) rfl s
  unfold dismissDeeds
  rw [cadencesOf_append, hleave, List.nil_append]
  split
  · exact cadencesOf_reselectDeeds _
  · rfl

theorem cadencesOf_routeDeeds (route : String) (s : Session) :
    cadencesOf (routeDeeds route s) = [] := by
  unfold routeDeeds evaluateDeeds
  rw [cadencesOf_append, cadencesOf_landed]
  cases (s.reduce (.setRoute route)).modal.active? with
  | none => exact cadencesOf_reselectDeeds _
  | some m =>
      dsimp only
      split
      · exact cadencesOf_reselectDeeds _
      · rw [cadencesOf_append, cadencesOf_dismissDeeds, cadencesOf_reselectDeeds]
        rfl

/-- **An action sets the cadence that it names, and no other.** -/
theorem cadencesOf_actionDeeds (a : Action) (s : Session) :
    cadencesOf (actionDeeds a s) = a.cadence?.toList := by
  cases a with
  | reportError text => exact cadencesOf_of_followsQueue (reported_followsQueue text)
  | load m position => exact cadencesOf_of_followsQueue (loadDeeds_followsQueue m position s)
  | processQueue messages =>
      exact cadencesOf_of_followsQueue (queueDeeds_followsQueue messages s)
  | display m => exact cadencesOf_guarded (a := .display m) rfl s
  | dismiss m log viaClose => exact cadencesOf_dismissDeeds m log viaClose s
  | setRoute route => exact cadencesOf_routeDeeds route s
  | embed | clearQueue | tap | loadingFailed => exact cadencesOf_guarded rfl s
  | _ => exact cadencesOf_landed _

/-! ## Sessions -/

namespace Session

theorem pollInterval_settle (s : Session) (m : Message) (inlineState : String → InlineState)
    (modalState : ModalState) :
    (s.settle m inlineState modalState).pollInterval = s.pollInterval := by
  unfold settle
  split <;> rfl

theorem pollInterval_displayed (s : Session) (a : Action) (m : Message) :
    (s.displayed a m).pollInterval = s.pollInterval := by
  obtain ⟨shown, hviewed⟩ := s.markViewed_eq a m
  obtain ⟨queue, hqueue⟩ := dequeue_eq { s with shown } m
  unfold displayed
  rw [pollInterval_settle, hviewed, hqueue]

theorem pollInterval_dismissed (s : Session) (a : Action) (m : Message) :
    (s.dismissed a m).pollInterval = s.pollInterval := by
  obtain ⟨shown, hviewed⟩ := s.markViewed_eq a m
  unfold dismissed
  rw [pollInterval_settle, hviewed]

/-- **Nothing changes the cadence of a session but an action that names one.** -/
theorem pollInterval_reduce (s : Session) (a : Action) :
    (s.reduce a).pollInterval = a.cadence?.getD s.pollInterval := by
  cases a with
  | display m => exact s.pollInterval_displayed _ m
  | dismiss m log viaClose => exact s.pollInterval_dismissed _ m
  | loadingFailed m => exact s.pollInterval_dismissed _ m
  | _ => rfl

end Session

end InAppMessaging
