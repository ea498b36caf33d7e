import InAppMessaging.Store.Runner

/-!
# What a pipeline does, as a list

Stages read the session and nothing else, and only commits change it.  So what becomes of an
action is settled by the session it meets: a list of deeds, each a commit, an effect on the
host, or a counted failure.  `deeds` computes the list without a runner, and running the action
performs it.

* `Runner.execute_eq` — one program;
* `Runner.run_eq` — an action on its way through stages;
* `Runner.process_eq` — **an action is processed by performing its deeds**.
-/

namespace InAppMessaging

variable {V H : Type}

/-- One thing a pipeline does. -/
inductive Deed (H : Type) where
  | commit (a : Action)
  | act (effect : Session → H → H)
  | failed

/-- The session after a deed. -/
def Session.afterDeed (s : Session) : Deed H → Session
  | .commit a => s.reduce a
  | .act _ => s
  | .failed => s

/-- The session after deeds. -/
def Session.afterDeeds (s : Session) (ds : List (Deed H)) : Session := ds.foldl afterDeed s

theorem Session.afterDeeds_append (s : Session) (ds es : List (Deed H)) :
    s.afterDeeds (ds ++ es) = (s.afterDeeds ds).afterDeeds es :=
  List.foldl_append

/-! ## Performing deeds -/

namespace Runner

/-- Performs a deed. -/
def perform (r : Runner V H) : Deed H → Runner V H
  | .commit a => r.commit a
  | .act effect => r.act effect
  | .failed => { r with failures := r.failures + 1 }

/-- Performs deeds in their order. -/
def performAll (r : Runner V H) (ds : List (Deed H)) : Runner V H := ds.foldl perform r

theorem performAll_cons (r : Runner V H) (d : Deed H) (ds : List (Deed H)) :
    r.performAll (d :: ds) = (r.perform d).performAll ds := rfl

theorem performAll_append (r : Runner V H) (ds es : List (Deed H)) :
    r.performAll (ds ++ es) = (r.performAll ds).performAll es :=
  List.foldl_append

theorem perform_session (r : Runner V H) (d : Deed H) :
    (r.perform d).session = r.session.afterDeed d := by
  cases d <;> rfl

/-- Deeds change the session as they say. -/
theorem performAll_session (r : Runner V H) (ds : List (Deed H)) :
    (r.performAll ds).session = r.session.afterDeeds ds := by
  induction ds generalizing r with
  | nil => rfl
  | cons d ds ih =>
      rw [performAll_cons, ih, perform_session]
      rfl

end Runner

/-! ## The deeds of a pipeline -/

/-- The deeds of a stage's program, given those of dispatching and of forwarding, and the
causes if it fails. -/
def Program.deeds (dispatch forward : Action → Session → List (Deed H)) :
    Program H → Session → List (Deed H) × Option (List String)
  | .done, _ => ([], none)
  | .fail causes, _ => ([], some causes)
  | .read next, s => deeds dispatch forward (next s) s
  | .act effect next, s =>
      let rest := deeds dispatch forward next s
      (.act effect :: rest.1, rest.2)
  | .dispatch a next, s =>
      let rest := deeds dispatch forward next (s.afterDeeds (dispatch a s))
      (dispatch a s ++ rest.1, rest.2)
  | .forward a next, s =>
      let rest := deeds dispatch forward next (s.afterDeeds (forward a s))
      (forward a s ++ rest.1, rest.2)

variable [ErrorLog H]

/-- The deeds that follow the failure of a stage. -/
def failureDeeds (dispatch : Action → Session → List (Deed H)) (stage : String) (a : Action)
    (s : Session) : Option (List String) → List (Deed H)
  | none => []
  | some causes =>
      .failed ::
        if a.isErrorReport then
          [.act fun _ => ErrorLog.logError
            ("failed while reporting an error: " ++ failureText causes)]
        else dispatch (.reportError (stage ++ ": " ++ failureText causes)) s

/-- The deeds of an action on its way through stages, given those of dispatching. -/
def deedsThrough (dispatch : Action → Session → List (Deed H)) :
    List (Stage H) → Action → Session → List (Deed H)
  | [], a, _ => [.commit a]
  | stage :: rest, a, s =>
      let own := (stage.handle a).deeds dispatch (deedsThrough dispatch rest) s
      own.1 ++ failureDeeds dispatch stage.name a (s.afterDeeds own.1) own.2

/-- The deeds of an action with so many levels of dispatches left. -/
def deeds (stages : List (Stage H)) : Nat → Action → Session → List (Deed H)
  | 0, _, _ => [.act fun _ => ErrorLog.logError depthExceededText]
  | levels + 1, a, s => deedsThrough (deeds stages levels) stages a s

/-! ## Running is performing -/

namespace Runner

omit [ErrorLog H] in
/-- A program is executed by performing its deeds. -/
theorem execute_eq {dispatch forward : Action → Runner V H → Runner V H}
    {dispatchDeeds forwardDeeds : Action → Session → List (Deed H)}
    (hdispatch : ∀ a r, dispatch a r = r.performAll (dispatchDeeds a r.session))
    (hforward : ∀ a r, forward a r = r.performAll (forwardDeeds a r.session))
    (p : Program H) (r : Runner V H) :
    execute dispatch forward p r =
      (r.performAll (p.deeds dispatchDeeds forwardDeeds r.session).1,
        (p.deeds dispatchDeeds forwardDeeds r.session).2) := by
  induction p generalizing r with
  | done => rfl
  | fail causes => rfl
  | read next ih => exact ih r.session r
  | act effect next ih => exact ih (r.act effect)
  | dispatch a next ih =>
      rw [execute, hdispatch, ih, performAll_session, ← performAll_append]
      rfl
  | forward a next ih =>
      rw [execute, hforward, ih, performAll_session, ← performAll_append]
      rfl

/-- What follows a failure is performing its deeds. -/
theorem reportFailure_eq {dispatch : Action → Runner V H → Runner V H}
    {dispatchDeeds : Action → Session → List (Deed H)}
    (hdispatch : ∀ a r, dispatch a r = r.performAll (dispatchDeeds a r.session))
    (stage : String) (a : Action) (causes : List String) (r : Runner V H) :
    r.reportFailure dispatch stage a causes =
      r.performAll (failureDeeds dispatchDeeds stage a r.session (some causes)) := by
  unfold reportFailure failureDeeds
  cases a.isErrorReport with
  | true => rfl
  | false => exact hdispatch _ _

/-- An action runs through stages by performing its deeds. -/
theorem run_eq {dispatch : Action → Runner V H → Runner V H}
    {dispatchDeeds : Action → Session → List (Deed H)}
    (hdispatch : ∀ a r, dispatch a r = r.performAll (dispatchDeeds a r.session))
    (stages : List (Stage H)) (a : Action) (r : Runner V H) :
    run dispatch stages a r = r.performAll (deedsThrough dispatchDeeds stages a r.session) := by
  induction stages generalizing a r with
  | nil => rfl
  | cons stage rest ih =>
      rw [run, execute_eq hdispatch ih, deedsThrough]
      cases hfail : ((stage.handle a).deeds dispatchDeeds (deedsThrough dispatchDeeds rest)
          r.session).2 with
      | none => simp only [failureDeeds, List.append_nil]
      | some causes =>
          simp only [performAll_append]
          rw [reportFailure_eq hdispatch, performAll_session]

/-- **An action is processed by performing its deeds.** -/
theorem process_eq (stages : List (Stage H)) (levels : Nat) (a : Action) (r : Runner V H) :
    r.process stages levels a = r.performAll (deeds stages levels a r.session) := by
  induction levels generalizing a r with
  | zero => rfl
  | succ levels ih => exact run_eq ih stages a r

end Runner

end InAppMessaging
