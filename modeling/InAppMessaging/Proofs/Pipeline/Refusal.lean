import InAppMessaging.Proofs.Pipeline.Modal
import InAppMessaging.Proofs.Pipeline.Queue

/-!
# What comes of an action that nobody may send

While nobody is known, an action that is no preparation goes no further than the guard, which has
it reported.  The guard is the fifth of the stages, though, and those before it do not ask for an
identity: a message for the modal surface is presented before it is dropped, unless its surface
is taken, and a view that counts is logged.  Apart from that and the report nothing happens.

* `actionDeeds_refused` — the deeds of such an action, up to the guard and from there;
* `performAll_beforeGuard` — those up to the guard, as one change of the host;
* `Runner.handle_refused` — **all that comes of a refused action**, and which of them are dropped
  in silence.
-/

namespace InAppMessaging

open Pipeline

namespace Pipeline

variable {s : Session} {a : Action}

/-! ## Up to the guard -/

/-- The one call that the stages before the guard may make for an action: to present a message,
or to log its view. -/
def callBeforeGuard (a : Action) (s : Session) : Option Event :=
  match a with
  | .load m position =>
      if m.isEmbedded || s.modal.isDisplayed then none
      else some (.presented m (position.getD m.position))
  | .display m | .dismiss m _ _ =>
      if a.marksShown then some (.viewLogged m s.sessionId) else none
  | _ => none

/-- The user closes a persistent message, so that the queue is fetched anew. -/
def asksForRefresh : Action → Bool
  | .dismiss m log viaClose => (log && viaClose) && m.isPersistent
  | _ => false

/-- What the stages before the guard make of the host while nobody is known. -/
def beforeGuard (a : Action) (s : Session) (h : Host) : Host :=
  let called := h.recordAll (callBeforeGuard a s).toList
  if asksForRefresh a then called.requestRefresh else called

/-- The deeds of the stages before the guard. -/
def deedsBeforeGuard (a : Action) (s : Session) : List (Deed Host) :=
  match a with
  | .load m position =>
      if m.isEmbedded || s.modal.isDisplayed then [] else [.act (present m position)]
  | .display m => [.act (logView a m), .act (countDisplay m)]
  | .dismiss m log viaClose =>
      [.act (logView a m), .act (countDismissal m (log && viaClose)),
        .act fun _ h => if (log && viaClose) && m.isPersistent then h.requestRefresh else h]
  | _ => []

/-- What is reported of an action that is refused: that its surface is taken, or that nobody is
known. -/
def refusal (a : Action) (s : Session) : String :=
  match a with
  | .load m _ => if !m.isEmbedded && s.modal.isDisplayed then modalBusyText else noUserText
  | _ => noUserText

/-- **The deeds of an action that is refused**, up to the guard and from there. -/
theorem actionDeeds_refused (h : s.hasIdentity = false) (ha : isPreparation a = false) :
    actionDeeds a s = deedsBeforeGuard a s ++ reported (refusal a s) := by
  have hclosed := guarded_of_none h
  cases a with
  | load m position =>
      show loadDeeds m position s = _
      unfold loadDeeds deedsBeforeGuard refusal
      rw [hclosed]
      by_cases hembedded : m.isEmbedded = true
      · simp only [hembedded, if_true, Bool.true_or, Bool.not_true, Bool.false_and,
          Bool.false_eq_true, if_false, List.nil_append]
      · by_cases hbusy : s.modal.isDisplayed = true
        · simp only [hembedded, hbusy, Bool.false_eq_true, if_false, if_true, Bool.or_true,
            Bool.not_false, Bool.true_and, List.nil_append]
        · simp only [hembedded, hbusy, Bool.false_eq_true, if_false, Bool.or_false,
            Bool.and_false, List.cons_append, List.nil_append]
  | display m =>
      show displayDeeds m s = _
      unfold displayDeeds
      rw [hclosed]
      rfl
  | dismiss m log viaClose =>
      have hleave : leaveDeeds m log viaClose s =
          deedsBeforeGuard (.dismiss m log viaClose) s ++ reported noUserText := by
        unfold leaveDeeds
        rw [hclosed]
        rfl
      have hsession : s.afterDeeds (leaveDeeds m log viaClose s) = s := by
        rw [hleave]
        rfl
      show dismissDeeds m log viaClose s = _
      unfold dismissDeeds
      dsimp only
      rw [hsession, usesRealtime_of_no_identity h, if_neg Bool.false_ne_true, List.append_nil]
      exact hleave
  | embed | processQueue | clearQueue | tap | loadingFailed => exact hclosed _
  | _ => exact absurd ha (Bool.noConfusion)

/-- Without a token no view is counted. -/
theorem countDisplay_of_no_token (htoken : s.userToken? = none) (m : Message) (h : Host) :
    countDisplay m s h = h := by
  unfold countDisplay
  rw [htoken]
  cases account? m with
  | none => rfl
  | some account => exact Host.track_of_kept _ (fun t now p => t.markSeen_of_no_token _ now p) h

/-- Without a token no message is written off. -/
theorem countDismissal_of_no_token (htoken : s.userToken? = none) (m : Message)
    (closedByUser : Bool) (h : Host) : countDismissal m closedByUser s h = h := by
  have hkept : ∀ k q, h.track k (fun t => t.markDismissed none q) = h :=
    fun k q => Host.track_of_kept k (fun t now p => t.markDismissed_of_no_token q now p) h
  unfold countDismissal
  rw [htoken]
  cases account? m with
  | none => rfl
  | some account =>
      dsimp only
      split
      · exact hkept _ _
      · rfl

/-- A view is logged if it counts. -/
theorem logView_eq (a : Action) (m : Message) (s : Session) (h : Host) :
    logView a m s h =
      h.recordAll (if a.marksShown then some (.viewLogged m s.sessionId) else none).toList := by
  unfold logView
  cases a.marksShown <;> rfl

/-- **What is done before the guard is one change of the host.** -/
theorem performAll_beforeGuard {V : Type} (r : Runner V Host)
    (h : r.session.hasIdentity = false) (a : Action) :
    r.performAll (deedsBeforeGuard a r.session) =
      { r with host := beforeGuard a r.session r.host } := by
  have htoken : r.session.userToken? = none := Session.userToken?_eq_none h
  cases a with
  | load m position =>
      show r.performAll (if m.isEmbedded || r.session.modal.isDisplayed then []
        else [.act (present m position)]) =
          { r with
            host := r.host.recordAll
              (if m.isEmbedded || r.session.modal.isDisplayed then none
                else some (.presented m (position.getD m.position))).toList }
      cases m.isEmbedded || r.session.modal.isDisplayed <;> rfl
  | display m =>
      have hhost : countDisplay m r.session (logView (.display m) m r.session r.host) =
          beforeGuard (.display m) r.session r.host := by
        rw [countDisplay_of_no_token htoken, logView_eq]
        rfl
      exact congrArg (fun host => { r with host := host }) hhost
  | dismiss m log viaClose =>
      have hcounted : countDismissal m (log && viaClose) r.session
          (logView (.dismiss m log viaClose) m r.session r.host) =
            r.host.recordAll (callBeforeGuard (.dismiss m log viaClose) r.session).toList := by
        rw [countDismissal_of_no_token htoken, logView_eq]
        rfl
      exact congrArg (fun host => { r with
        host := if (log && viaClose) && m.isPersistent then host.requestRefresh else host })
        hcounted
  | _ => rfl

/-- Asking for a fetch is seen by the poller only. -/
theorem outward_requestRefresh (h : Host) : h.requestRefresh.outward = h.outward := by
  unfold Host.requestRefresh
  dsimp only
  split
  · unfold Host.wake
    split <;> rfl
  · rfl

/-- What is called before the guard is a collaborator. -/
theorem isOutward_of_callBeforeGuard {e : Event} (he : callBeforeGuard a s = some e) :
    e.isOutward = true := by
  unfold callBeforeGuard at he
  split at he
  · split at he
    · exact absurd he.symm (Option.some_ne_none e)
    · obtain rfl := Option.some.inj he
      rfl
  · split at he
    · obtain rfl := Option.some.inj he
      rfl
    · exact absurd he.symm (Option.some_ne_none e)
  · split at he
    · obtain rfl := Option.some.inj he
      rfl
    · exact absurd he.symm (Option.some_ne_none e)
  · exact absurd he.symm (Option.some_ne_none e)

/-- The collaborators see the call, and nothing else. -/
theorem outward_beforeGuard (a : Action) (s : Session) (h : Host) :
    (beforeGuard a s h).outward = h.outward.more (callBeforeGuard a s).toList := by
  have hcalled : (h.recordAll (callBeforeGuard a s).toList).outward =
      h.outward.more (callBeforeGuard a s).toList := by
    cases hcall : callBeforeGuard a s with
    | none => rfl
    | some e =>
        show (h.record e).outward = h.outward.more [e]
        unfold Host.outward Outward.more Host.record
        rw [List.filter_cons_of_pos (isOutward_of_callBeforeGuard hcall)]
        rfl
  unfold beforeGuard
  dsimp only
  split
  · rw [outward_requestRefresh, hcalled]
  · exact hcalled

/-- Of a report the collaborators see the line in the error log. -/
theorem outward_reported {V : Type} {r : Runner V Host} (hkeeps : r.Keeps Host.outward)
    (text : String) :
    (r.performAll (reported text)).host.outward = r.host.outward.more [.errorLogged text] := by
  have hlogged : (r.act fun _ h => h.record (.errorLogged text)).Keeps Host.outward := hkeeps
  show ((r.act fun _ h => h.record (.errorLogged text)).performAll
    (landed (.reportError text))).host.outward = _
  rw [outward_landed_of_none hlogged rfl]
  rfl

end Pipeline

/-! ## The whole effect -/

/-- All that comes of an action that is refused. -/
structure Refused {V : Type} (r r' : Runner V Host) (a : Action) : Prop where
  /-- It is as if the error had been reported, once the stages before the guard have been. -/
  whole : r' = { r with host := beforeGuard a r.session r.host }.handle standard
    (.reportError (refusal a r.session))
  /-- Nothing about the session changes. -/
  session : r'.session = r.session
  /-- The report is committed, and nothing else. -/
  committed : r'.committed = .reportError (refusal a r.session) :: r.committed
  /-- The collaborators are called as before the guard, and then the error log; what subscribers
  do besides is theirs. -/
  calls : r.Keeps Host.outward → r'.host.outward.calls =
    .errorLogged (refusal a r.session) ::
      ((callBeforeGuard a r.session).toList ++ r.host.outward.calls)
  /-- Nothing is written to the preferences. -/
  storage : r.Keeps Host.outward → r'.host.storage = r.host.storage

/-- An action is dropped in silence: one report is committed and logged, and nothing else changes
for the session or is noticed by a collaborator. -/
structure DroppedSilently {V : Type} (r r' : Runner V Host) : Prop where
  session : r'.session = r.session
  reported : ∃ text, r'.committed = .reportError text :: r.committed ∧
    r'.host.outward.calls = .errorLogged text :: r.host.outward.calls
  storage : r'.host.storage = r.host.storage

/-- What comes of a refused action while nobody is known. -/
theorem Runner.refused {V : Type} (r : Runner V Host) {a : Action}
    (h : r.session.hasIdentity = false) (ha : isPreparation a = false) :
    Refused r (r.handle standard a) a := by
  have hwhole : r.handle standard a = { r with host := beforeGuard a r.session r.host }.performAll
      (reported (refusal a r.session)) := by
    rw [handle_standard, actionDeeds_refused h ha, performAll_append, performAll_beforeGuard r h]
  have hseen : r.Keeps Host.outward → (r.handle standard a).host.outward =
      (r.host.outward.more (callBeforeGuard a r.session).toList).more
        [.errorLogged (refusal a r.session)] := by
    intro hkeeps
    have hkeeps' : ({ r with host := beforeGuard a r.session r.host } : Runner V Host).Keeps
        Host.outward := hkeeps
    rw [hwhole, outward_reported hkeeps', outward_beforeGuard]
  refine ⟨?_, ?_, ?_, ?_, ?_⟩
  · rw [hwhole, handle_standard]
    rfl
  · rw [hwhole]
    rfl
  · rw [hwhole]
    rfl
  · exact fun hkeeps => congrArg Outward.calls (hseen hkeeps)
  · exact fun hkeeps => congrArg Outward.storage (hseen hkeeps)

namespace Runner

variable {V : Type}

/-- **All that comes of a refused action.**  While there is neither a user id nor an anonymous id,
an action that is no preparation leaves the session as it is and commits one report.  It calls no
listener and writes no preference.  A message for the modal surface is presented all the same,
if the surface is not taken, and the view that counts is logged; every other action is dropped in
silence. -/
theorem handle_refused (r : Runner V Host) {a : Action} (huser : r.session.userId = none)
    (hanonymous : r.session.anonymousId = none) (ha : isPreparation a = false) :
    Refused r (r.handle standard a) a ∧
      (r.Keeps Host.outward →
        (DroppedSilently r (r.handle standard a) ↔ callBeforeGuard a r.session = none)) := by
  have hrefused := r.refused (Session.hasIdentity_eq_false huser hanonymous) ha
  refine ⟨hrefused, fun hkeeps => ⟨fun hsilent => ?_, fun hnone => ?_⟩⟩
  · obtain ⟨text, -, hlogged⟩ := hsilent.reported
    rw [hrefused.calls hkeeps] at hlogged
    have hlater := (List.cons.inj hlogged).2
    exact Option.toList_eq_nil_iff.mp (List.append_left_eq_self.mp hlater)
  · have hcalls := hrefused.calls hkeeps
    rw [hnone, Option.toList_none, List.nil_append] at hcalls
    exact ⟨hrefused.session, ⟨_, hrefused.committed, hcalls⟩, hrefused.storage hkeeps⟩

/-- A runner that knows nobody. -/
def stranger : Runner Unit Host := { session := {}, host := {} }

/-- The banner is not displayed, but its view is logged. -/
theorem stranger_display :
    Refused stranger (stranger.handle standard (.display banner)) (.display banner) ∧
      stranger.Keeps Host.outward ∧
      (stranger.handle standard (.display banner)).host.journal =
        [.errorLogged noUserText, .viewLogged banner ""] := by
  refine ⟨(stranger.handle_refused rfl rfl rfl).1, ?_, by decide +kernel⟩
  exact fun u hu => absurd hu List.not_mem_nil

/-- Not every action is dropped in silence while nobody is known, even where nobody watches: the
banner that a stranger loads is presented. -/
theorem stranger_not_silent :
    ¬ ∀ (r : Runner Unit Host) (a : Action), r.subscribers = [] → r.session.userId = none →
      r.session.anonymousId = none → isPreparation a = false →
        DroppedSilently r (r.handle standard a) := by
  intro hsilent
  obtain ⟨text, -, hcalls⟩ := (hsilent stranger (.load banner none) rfl rfl rfl rfl).reported
  have hpresented : (stranger.handle standard (.load banner none)).host.outward.calls =
      [.errorLogged noUserText, .presented banner banner.position] := by decide +kernel
  have hempty : stranger.host.outward.calls = [] := rfl
  rw [hpresented, hempty] at hcalls
  exact absurd (List.cons.inj hcalls).2 (List.cons_ne_nil _ _)

end Runner

end InAppMessaging
