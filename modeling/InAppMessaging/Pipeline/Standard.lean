import InAppMessaging.Pipeline.Accounting
import InAppMessaging.Pipeline.Presentation
import InAppMessaging.Pipeline.Reporting

/-!
# The standard pipeline

The stages every action passes, in their order.  Each of them forwards an action at most once.

* `handle_forwards_once` — whatever the action, a stage forwards at most one.
-/

namespace InAppMessaging.Pipeline

/-- The stages in their order. -/
def standard : List (Stage Host) :=
  [watching, errorReporting, accounting, activation, identityGuard, navigation, selecting,
    listening]

open Program.Forwards in
theorem forwards_reselect (n : Nat) : Program.Forwards reselect n :=
  read fun _ => dispatch (done _)

open Program.Forwards in
theorem forwards_pickNext (s : Session) (n : Nat) : Program.Forwards (pickNext s) n := by
  unfold pickNext
  split
  · exact dispatch (done _)
  · exact done _

open Program.Forwards in
theorem forwards_loadIfFree (m : Option Message) (n : Nat) :
    Program.Forwards (loadIfFree m) n := by
  cases m with
  | none => exact done _
  | some m =>
      refine read fun s => ?_
      split
      · exact done _
      · exact dispatch (done _)

open Program.Forwards in
theorem forwards_embedThen {messages : List Message} {next : Program Host} {n : Nat}
    (h : Program.Forwards next n) : Program.Forwards (embedThen messages next) n := by
  unfold embedThen
  split
  · exact h
  · exact dispatch h

open Program.Forwards in
/-- Whatever the action, a stage forwards at most one. -/
theorem handle_forwards_once :
    ∀ stage ∈ standard, ∀ a, Program.Forwards (stage.handle a) 1 := by
  have only (a : Action) : Program.Forwards (Program.forwardOnly a : Program Host) 1 :=
    Program.forwards_forwardOnly a
  intro stage hs a
  simp only [standard, List.mem_cons, List.not_mem_nil, or_false] at hs
  rcases hs with rfl | rfl | rfl | rfl | rfl | rfl | rfl | rfl
  · exact only a
  · simp only [errorReporting]
    split
    · exact act (only _)
    · exact only _
  · simp only [accounting]
    split
    · exact act (act (only _))
    · exact act (act (act (forward (read fun s => forwards_pickNext s 0))))
    · exact only _
  · simp only [activation]
    split
    · split
      · exact only _
      · refine read fun s => ?_
        split
        · exact dispatch (done _)
        · exact act (only _)
    · exact only _
  · simp only [identityGuard]
    split
    · exact only _
    · refine read fun s => ?_
      split
      · exact only _
      · exact dispatch (done _)
  · simp only [navigation]
    split
    · refine forward (read fun s => ?_)
      split
      · split
        · exact forwards_reselect 0
        · exact dispatch (forwards_reselect 0)
      · exact forwards_reselect 0
    · exact only _
  · simp only [selecting]
    split
    · refine read fun s => ?_
      exact forward (forwards_embedThen (forwards_loadIfFree _ 0))
    · exact only _
  · exact forward (act (done _))

end InAppMessaging.Pipeline
