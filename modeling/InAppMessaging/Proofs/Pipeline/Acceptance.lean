import InAppMessaging.Proofs.Pipeline.Runs
import InAppMessaging.Proofs.Session.Along

/-!
# What the pipeline lets through

The reduction takes any action at any session; the pipeline does not commit any.  What is no
preparation is committed only while somebody is known, and a queue only as selection left it.
Every log of commits is made of such actions, so an invariant of sessions has to be kept by
those only.

* `Session.Accepts` — what the pipeline commits at a session;
* `Session.accepted_deedsAll` — **a run commits nothing else.**
-/

namespace InAppMessaging

open Pipeline

namespace Session

/-! ## What is accepted -/

/-- The pipeline lets an action through to a session. -/
structure Accepts (s : Session) (a : Action) : Prop where
  /-- Only preparations need nobody. -/
  known : isPreparation a = false → s.hasIdentity = true
  /-- A queue is made of the candidates of some messages. -/
  selected : ∀ queue, a = .processQueue queue → ∃ given, queue = candidates given s.shown

/-- Nothing is asked of a preparation. -/
theorem accepts_preparation {a : Action} (ha : isPreparation a = true) (s : Session) :
    s.Accepts a where
  known := fun hnot => absurd (ha.symm.trans hnot) (by decide)
  selected := by
    rintro queue rfl
    exact absurd ha Bool.false_ne_true

/-- Somebody is known, and it is no queue. -/
theorem accepts_of_identity {s : Session} {a : Action} (hidentity : s.hasIdentity = true)
    (ha : ∀ queue, a ≠ .processQueue queue) : s.Accepts a where
  known := fun _ => hidentity
  selected := fun queue hqueue => absurd hqueue (ha queue)

/-- Somebody is known, and the queue is a selection. -/
theorem accepts_candidates {s : Session} (hidentity : s.hasIdentity = true)
    (given : List Message) : s.Accepts (.processQueue (candidates given s.shown)) where
  known := fun _ => hidentity
  selected := fun _ hqueue => ⟨given, (Action.processQueue.inj hqueue).symm⟩

/-- What deeds commit is accepted. -/
def Accepted (s : Session) (ds : List (Deed Host)) : Prop := s.Along Accepts (commits ds)

/-! ## What the pipeline brings about -/

variable {s : Session} {a : Action} {ds es : List (Deed Host)}

theorem accepted_append :
    s.Accepted (ds ++ es) ↔ s.Accepted ds ∧ (s.afterDeeds ds).Accepted es := by
  unfold Accepted
  rw [commits_append, along_append, afterDeeds_eq]

theorem accepted_landed (ha : s.Accepts a) : s.Accepted (landed a) := ⟨ha, trivial⟩

theorem accepted_reported (s : Session) (text : String) : s.Accepted (reported text) :=
  ⟨accepts_preparation rfl s, trivial⟩

theorem accepted_guarded (h : s.hasIdentity = true → s.Accepted ds) :
    s.Accepted (guarded s ds) := by
  unfold guarded
  by_cases hidentity : s.hasIdentity = true
  · rw [if_pos hidentity]
    exact h hidentity
  · rw [if_neg hidentity]
    exact s.accepted_reported noUserText

/-- The guard makes any action acceptable, but for queues. -/
theorem accepted_guarded_landed (s : Session) (ha : ∀ queue, a ≠ .processQueue queue) :
    s.Accepted (guarded s (landed a)) :=
  accepted_guarded fun hidentity => accepted_landed (accepts_of_identity hidentity ha)

theorem accepted_loadDeeds (m : Message) (position : Option Position) (s : Session) :
    s.Accepted (loadDeeds m position s) := by
  have hload : s.Accepted (guarded s (landed (.load m position))) :=
    s.accepted_guarded_landed fun _ => nofun
  unfold loadDeeds
  split
  · exact hload
  · split
    · exact s.accepted_reported modalBusyText
    · exact hload

theorem accepted_embedPicked (picked : List Message) (s : Session) :
    s.Accepted (embedPicked picked s) := by
  unfold embedPicked
  split
  · trivial
  · exact s.accepted_guarded_landed fun _ => nofun

theorem accepted_loadPicked (picked : Option Message) (s : Session) :
    s.Accepted (loadPicked picked s) := by
  unfold loadPicked
  split
  · split
    · trivial
    · exact accepted_loadDeeds _ none s
  · trivial

/-- **A queue is committed as selection left it.** -/
theorem accepted_queueDeeds (messages : List Message) (s : Session) :
    s.Accepted (queueDeeds messages s) := by
  refine accepted_guarded fun hidentity => ?_
  by_cases hnone : messages.isEmpty = true
  · rw [if_pos hnone]
    have hempty : candidates [] s.shown = [] := List.mergeSort_nil
    have haccepts := accepts_candidates hidentity []
    rw [hempty] at haccepts
    exact accepted_landed haccepts
  · rw [if_neg hnone]
    unfold selectDeeds
    have hqueue : s.Accepted (landed (.processQueue (s.select messages).queue)) :=
      accepted_landed (accepts_candidates hidentity messages)
    exact accepted_append.mpr ⟨hqueue,
      accepted_append.mpr ⟨accepted_embedPicked _ _, accepted_loadPicked _ _⟩⟩

theorem accepted_dismissDeeds (m : Message) (log viaClose : Bool) (s : Session) :
    s.Accepted (dismissDeeds m log viaClose s) := by
  have hleave : s.Accepted (leaveDeeds m log viaClose s) :=
    s.accepted_guarded_landed (a := .dismiss m log viaClose) fun _ => nofun
  refine accepted_append.mpr ⟨hleave, ?_⟩
  split
  · exact accepted_queueDeeds _ _
  · trivial

theorem accepted_evaluateDeeds (route : String) (s : Session) :
    s.Accepted (evaluateDeeds route s) := by
  have hreselect : ∀ s : Session, s.Accepted (reselectDeeds s) :=
    fun s => accepted_queueDeeds s.queue.messages s
  unfold evaluateDeeds
  split
  · split
    · exact hreselect s
    · exact accepted_append.mpr ⟨accepted_dismissDeeds _ false true s, hreselect _⟩
  · exact hreselect s

/-- What an action brings about is accepted. -/
theorem accepted_actionDeeds (a : Action) (s : Session) : s.Accepted (actionDeeds a s) := by
  cases a with
  | reportError text => exact s.accepted_reported text
  | load m position => exact accepted_loadDeeds m position s
  | processQueue messages => exact accepted_queueDeeds messages s
  | display m => exact s.accepted_guarded_landed (a := .display m) fun _ => nofun
  | dismiss m log viaClose => exact accepted_dismissDeeds m log viaClose s
  | setRoute route =>
      have hroute : s.Accepted (landed (.setRoute route)) :=
        accepted_landed (accepts_preparation rfl s)
      exact accepted_append.mpr ⟨hroute, accepted_evaluateDeeds route _⟩
  | embed | clearQueue | tap | loadingFailed => exact s.accepted_guarded_landed fun _ => nofun
  | _ => exact accepted_landed (accepts_preparation rfl s)

/-- **A run commits nothing that is not accepted.** -/
theorem accepted_deedsAll (s : Session) (actions : List Action) :
    s.Accepted (s.deedsAll actions) := by
  induction actions generalizing s with
  | nil => trivial
  | cons a rest ih =>
      have hfirst : s.Accepted (deeds standard maxDispatchDepth a s) := by
        show s.Accepted (deeds standard (59 + 5) a s)
        rw [deeds_standard]
        exact accepted_actionDeeds a s
      exact accepted_append.mpr ⟨hfirst, ih _⟩

end Session

/-- The log of a run from the first session, and the session it leaves. -/
theorem Runner.log_handleAll {V : Type} (subscribers : List (Subscriber V Host)) (host : Host)
    (actions : List Action) :
    let run := handleAll { session := {}, subscribers, host } actions
    run.session = ({} : Session).reduceAll run.committed.reverse ∧
      ({} : Session).Along Session.Accepts run.committed.reverse := by
  have hlog : (handleAll { session := {}, subscribers, host } actions).committed.reverse =
      commits (({} : Session).deedsAll actions) :=
    committed_handleAll { session := {}, subscribers, host } actions
  have hsession := session_handleAll { session := {}, subscribers, host } actions
  intro run
  have haccepted : ({} : Session).Along Session.Accepts run.committed.reverse := by
    rw [hlog]
    exact Session.accepted_deedsAll {} actions
  rw [← hlog] at hsession
  exact ⟨hsession, haccepted⟩

end InAppMessaging
