import InAppMessaging.Proofs.Store.Visits

/-!
# Limits that are not reached

A dispatch that finds no level left is dropped.  Whether that happens is seen from the visits: if
every visit has a level left, then anything may be done to a dispatch beyond the limit, and any
higher limit may be set, and nothing changes for the session, the log of commits or the host.

* `Runner.processOr` — running an action, with anything done beyond the limit;
* `Runner.run_congr` — stages notice dispatches only where they dispatch;
* `Runner.processOr_eq` — **a limit that is not reached makes no difference.**
-/

namespace InAppMessaging.Runner

variable {V H : Type}

/-- What two ways to dispatch do to an action that meets a session is the same. -/
def AgreeAt (dispatch dispatch' : Action → Runner V H → Runner V H) (c : Dispatched) : Prop :=
  ∀ r : Runner V H, r.session = c.2 → dispatch' c.1 r = dispatch c.1 r

section Congruence

variable {dispatch dispatch' forward forward' : Action → Runner V H → Runner V H}
  {dispatchDeeds forwardDeeds : Action → Session → List (Deed H)}
  {behind : Action → Session → List Dispatched}

/-- A program notices how dispatches are done only where it dispatches, and where those behind it
do. -/
theorem execute_congr
    (hdispatch : ∀ a r, dispatch a r = r.performAll (dispatchDeeds a r.session))
    (hforward : ∀ a r, forward a r = r.performAll (forwardDeeds a r.session))
    (hbehind : ∀ a r, (∀ c ∈ behind a r.session, AgreeAt dispatch dispatch' c) →
      forward' a r = forward a r)
    (p : Program H) (r : Runner V H)
    (hagree : ∀ c ∈ p.dispatches dispatchDeeds forwardDeeds behind r.session,
      AgreeAt dispatch dispatch' c) :
    execute dispatch' forward' p r = execute dispatch forward p r := by
  induction p generalizing r with
  | done => rfl
  | fail causes => rfl
  | read next ih => exact ih r.session r hagree
  | act effect next ih => exact ih (r.act effect) hagree
  | dispatch a next ih =>
      obtain ⟨hfirst, hlater⟩ := List.forall_mem_cons.mp hagree
      have hsession : (dispatch a r).session =
          r.session.afterDeeds (dispatchDeeds a r.session) := by
        rw [hdispatch, performAll_session]
      rw [execute, execute, hfirst r rfl]
      apply ih
      rw [hsession]
      exact hlater
  | forward a next ih =>
      obtain ⟨hfirst, hlater⟩ := List.forall_mem_append.mp hagree
      have hsession : (forward a r).session =
          r.session.afterDeeds (forwardDeeds a r.session) := by
        rw [hforward, performAll_session]
      rw [execute, execute, hbehind a r hfirst]
      apply ih
      rw [hsession]
      exact hlater

variable [ErrorLog H]

/-- A failure is reported by a dispatch, if at all. -/
theorem reportFailure_congr (stage : String) (a : Action) (causes : List String)
    (r : Runner V H)
    (hagree : ∀ c ∈ failureDispatches stage a r.session (some causes),
      AgreeAt dispatch dispatch' c) :
    r.reportFailure dispatch' stage a causes = r.reportFailure dispatch stage a causes := by
  unfold failureDispatches at hagree
  unfold reportFailure
  by_cases hreport : a.isErrorReport = true
  · simp only [hreport, if_true]
  · simp only [hreport] at hagree ⊢
    exact hagree _ List.mem_cons_self _ rfl

/-- **Stages notice how dispatches are done only where they dispatch.** -/
theorem run_congr (hdispatch : ∀ a r, dispatch a r = r.performAll (dispatchDeeds a r.session))
    (stages : List (Stage H)) (a : Action) (r : Runner V H)
    (hagree : ∀ c ∈ dispatchesThrough dispatchDeeds stages a r.session,
      AgreeAt dispatch dispatch' c) :
    run dispatch' stages a r = run dispatch stages a r := by
  induction stages generalizing a r with
  | nil => rfl
  | cons stage rest ih =>
      obtain ⟨hown, hfailure⟩ := List.forall_mem_append.mp hagree
      have hexecute := execute_congr hdispatch (run_eq hdispatch rest)
        (fun b q hq => ih b q hq) (stage.handle a) r hown
      have hresult := execute_eq hdispatch (run_eq hdispatch rest) (stage.handle a) r
      rw [run, run, hexecute, hresult]
      cases hcauses : ((stage.handle a).deeds dispatchDeeds (deedsThrough dispatchDeeds rest)
          r.session).2 with
      | none => rfl
      | some causes =>
          rw [hcauses] at hfailure
          apply reportFailure_congr
          rw [performAll_session]
          exact hfailure

end Congruence

variable [ErrorLog H]

/-- Runs an action through all stages with so many levels of dispatches left, and does anything
one likes when there is none. -/
def processOr (beyond : Action → Runner V H → Runner V H) (stages : List (Stage H)) :
    Nat → Action → Runner V H → Runner V H
  | 0, a, r => beyond a r
  | levels + 1, a, r => run (processOr beyond stages levels) stages a r

/-- What is done beyond the limit is that the dispatch is dropped, with a line in the error
log. -/
theorem processOr_drop (stages : List (Stage H)) (levels : Nat) :
    processOr (fun _ r => r.logError depthExceededText) stages levels =
      (process stages levels : Action → Runner V H → Runner V H) := by
  induction levels with
  | zero => rfl
  | succ levels ih =>
      funext a r
      rw [processOr, process, ih]

/-- **A limit that is not reached makes no difference**: neither does a higher one, nor what is
done beyond it. -/
theorem processOr_eq (beyond : Action → Runner V H → Runner V H) (stages : List (Stage H))
    {limit higher : Nat} (hlimit : limit ≤ higher) (a : Action) (r : Runner V H)
    (hleft : ∀ v ∈ visits stages limit a r.session, 0 < v.levels) :
    processOr beyond stages higher a r = r.process stages limit a := by
  induction limit generalizing higher a r with
  | zero =>
      have hnone := hleft _ (mem_visits_self stages 0 a r.session)
      exact absurd hnone (Nat.lt_irrefl 0)
  | succ limit ih =>
      obtain ⟨more, rfl⟩ : ∃ more, higher = more + 1 := ⟨higher - 1, by omega⟩
      have hmore : limit ≤ more := by omega
      rw [processOr, process]
      apply run_congr (process_eq stages limit)
      intro c hc q hq
      apply ih hmore
      intro v hv
      rw [hq] at hv
      exact hleft v (List.mem_cons_of_mem _ (List.mem_flatMap.mpr ⟨c, hc, hv⟩))

/-- So every limit from one that is not reached on gives the same. -/
theorem process_eq_of_le (stages : List (Stage H)) {limit higher : Nat}
    (hlimit : limit ≤ higher) (a : Action) (r : Runner V H)
    (hleft : ∀ v ∈ visits stages limit a r.session, 0 < v.levels) :
    r.process stages higher a = r.process stages limit a := by
  rw [← processOr_eq _ stages hlimit a r hleft, processOr_drop]

end InAppMessaging.Runner
