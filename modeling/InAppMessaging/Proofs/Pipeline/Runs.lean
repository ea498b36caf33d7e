import InAppMessaging.Proofs.Pipeline.Dispatches
import InAppMessaging.Proofs.Pipeline.Modal

/-!
# Runs

A run is what becomes of a list of actions from outside.  Its log of commits says through which
sessions it passes, and its visits say which actions enter the pipeline, from outside or by a
dispatch, and the session each of them meets.

* `Session.visitsAll_within` — the deeds of each visit are a stretch of the deeds of the run;
* `Session.depth_le_of_mem_visitsAll` — in a run no dispatch is dropped for its depth;
* `Runner.handleAll_eq` — **a run performs the deeds of its actions**, so it leaves the session
  that its commits make.
-/

namespace InAppMessaging

open Pipeline

namespace Session

/-- The deeds of actions from outside, one after another. -/
def deedsAll (s : Session) : List Action → List (Deed Host)
  | [] => []
  | a :: rest => deeds standard maxDispatchDepth a s ++
      (s.afterDeeds (deeds standard maxDispatchDepth a s)).deedsAll rest

/-- The visits of actions from outside, one after another. -/
def visitsAll (s : Session) : List Action → List Visit
  | [] => []
  | a :: rest => visits standard maxDispatchDepth a s ++
      (s.afterDeeds (deeds standard maxDispatchDepth a s)).visitsAll rest

/-- The deeds of each visit are a stretch of the deeds of the run. -/
theorem visitsAll_within (s : Session) (actions : List Action) :
    ∀ v ∈ s.visitsAll actions, Within s (s.deedsAll actions) v.session (v.deeds standard) := by
  induction actions generalizing s with
  | nil => exact fun v hv => absurd hv List.not_mem_nil
  | cons a rest ih =>
      intro v hv
      rcases List.mem_append.mp hv with hv | hv
      · exact (visits_within standard maxDispatchDepth a s v hv).append_right _
      · exact (ih _ v hv).append_left _

/-- Every action from outside is a visit, at the session those before it left behind. -/
theorem mem_visitsAll (s : Session) (earlier : List Action) (a : Action)
    (later : List Action) :
    ⟨maxDispatchDepth, a, s.afterDeeds (s.deedsAll earlier)⟩ ∈
      s.visitsAll (earlier ++ a :: later) := by
  induction earlier generalizing s with
  | nil => exact List.mem_append_left _ (mem_visits_self standard maxDispatchDepth a s)
  | cons b earlier ih =>
      refine List.mem_append_right _ ?_
      unfold deedsAll
      rw [afterDeeds_append]
      exact ih _

/-- In a run no dispatch is dropped for its depth. -/
theorem depth_le_of_mem_visitsAll {s : Session} {actions : List Action} :
    ∀ v ∈ s.visitsAll actions, depth v.action ≤ v.levels := by
  induction actions generalizing s with
  | nil => exact fun v hv => absurd hv List.not_mem_nil
  | cons a rest ih =>
      have hdepth : depth a ≤ maxDispatchDepth := by
        unfold depth maxDispatchDepth
        split <;> omega
      exact List.forall_mem_append.mpr ⟨depth_le_of_mem_visits hdepth, ih⟩

end Session

/-- A run performs the deeds of its actions. -/
theorem Runner.handleAll_eq {V : Type} (r : Runner V Host) (actions : List Action) :
    r.handleAll actions = r.performAll (r.session.deedsAll actions) := by
  induction actions generalizing r with
  | nil => rfl
  | cons a rest ih =>
      have hstep : r.handle standard a =
          r.performAll (deeds standard maxDispatchDepth a r.session) :=
        r.process_eq standard maxDispatchDepth a
      show (r.handle standard a).handleAll rest = _
      rw [ih, hstep, performAll_session, ← performAll_append]
      rfl

/-- What a run commits comes after what was committed before. -/
theorem Runner.committed_handleAll {V : Type} (r : Runner V Host) (actions : List Action) :
    (r.handleAll actions).committed.reverse =
      r.committed.reverse ++ commits (r.session.deedsAll actions) := by
  rw [handleAll_eq, performAll_committed]

/-- A run leaves the session that its commits make. -/
theorem Runner.session_handleAll {V : Type} (r : Runner V Host) (actions : List Action) :
    (r.handleAll actions).session =
      r.session.reduceAll (commits (r.session.deedsAll actions)) := by
  rw [handleAll_eq, performAll_session, Session.afterDeeds_eq]

end InAppMessaging
