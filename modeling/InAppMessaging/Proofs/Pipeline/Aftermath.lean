import InAppMessaging.Proofs.Pipeline.Deeds
import InAppMessaging.Proofs.Session.Reduce

/-!
# What an action makes of the session

The session after all that follows from an action, without the host: what is guarded does not
happen while nobody is known, and processing a queue comes down to three changes
(`Session.afterQueue`).

* `Session.handled_of_no_identity` — while nobody is known only preparations change it;
* `Session.handled_of_identity` — otherwise it is what `Session.followed` says;
* `Session.hasIdentity_handled` — an identity lasts until a reset.
-/

namespace InAppMessaging

open Pipeline

/-- The session after an action from outside and all that follows from it. -/
def Session.handled (s : Session) (a : Action) : Session := s.afterDeeds (actionDeeds a s)

theorem Runner.handle_session {V : Type} (r : Runner V Host) (a : Action) :
    (r.handle standard a).session = r.session.handled a := by
  rw [handle_standard, performAll_session]
  rfl

/-- The session after a queue was processed: selection replaces the queue and fills the
elements, and a message is loaded if the modal surface was free. -/
def Session.afterQueue (s : Session) (messages : List Message) : Session :=
  if messages.isEmpty then s.reduce (.processQueue [])
  else
    let picked := s.select messages
    let filled := (s.reduce (.processQueue picked.queue)).embed picked.inline
    match picked.modal with
    | some p => if s.modal.isActive then filled else { filled with modal := .loading p }
    | none => filled

/-- The session after a message went away: while realtime updates are in use the queue is
processed again. -/
def Session.afterDismissal (s : Session) (m : Message) (log viaClose : Bool) : Session :=
  let left := s.reduce (.dismiss m log viaClose)
  if left.usesRealtime then left.afterQueue left.queue.messages else left

/-- The session after a change of route: a message that no longer fits goes away, and the
queue is processed again. -/
def Session.afterRoute (s : Session) (route : String) : Session :=
  let moved := s.reduce (.setRoute route)
  let kept :=
    match moved.modal.active? with
    | some m => if m.stillMatchesRoute route then moved else moved.afterDismissal m false true
    | none => moved
  kept.afterQueue kept.queue.messages

/-- The session after an action while somebody is known. -/
def Session.followed (s : Session) (a : Action) : Session :=
  match a with
  | .load m position =>
      if m.isEmbedded || !s.modal.isDisplayed then s.reduce (.load m position) else s
  | .processQueue messages => s.afterQueue messages
  | .dismiss m log viaClose => s.afterDismissal m log viaClose
  | .setRoute route => s.afterRoute route
  | a => s.reduce a

namespace Pipeline

variable {s : Session} {a : Action} {m : Message}

theorem afterDeeds_landed (s : Session) (a : Action) :
    s.afterDeeds (landed a) = s.reduce a := rfl

theorem guarded_of_identity (h : s.hasIdentity = true) (ds : List (Deed Host)) :
    guarded s ds = ds := by
  unfold guarded
  rw [if_pos h]

/-- Without an identity the guard has anything reported. -/
theorem guarded_of_none (h : s.hasIdentity = false) (ds : List (Deed Host)) :
    guarded s ds = reported noUserText := by
  unfold guarded
  rw [h]
  rfl

/-- Without an identity the guard is closed. -/
theorem afterDeeds_guarded_of_none (h : s.hasIdentity = false) (ds : List (Deed Host)) :
    s.afterDeeds (guarded s ds) = s := by
  rw [guarded_of_none h]
  rfl

/-- With an identity a message is loaded, unless it wants the modal surface while a message is
displayed there. -/
theorem afterDeeds_loadDeeds (h : s.hasIdentity = true) (m : Message)
    (position : Option Position) :
    s.afterDeeds (loadDeeds m position s) =
      if m.isEmbedded || !s.modal.isDisplayed then s.reduce (.load m position) else s := by
  unfold loadDeeds
  rw [guarded_of_identity h]
  cases m.isEmbedded with
  | true => rfl
  | false => cases s.modal.isDisplayed <;> rfl

/-- Embedding what was picked gives the elements their messages. -/
theorem afterDeeds_embedPicked (h : s.hasIdentity = true) (messages : List Message) :
    s.afterDeeds (embedPicked messages s) = s.embed messages := by
  unfold embedPicked
  cases messages with
  | nil => rfl
  | cons m rest =>
      rw [guarded_of_identity h]
      rfl

/-- A surface that is free displays nothing. -/
theorem isDisplayed_of_not_isActive {modal : ModalState} (h : modal.isActive = false) :
    modal.isDisplayed = false := by
  cases modal with
  | displayed m => exact absurd h (by simp [ModalState.isActive, ModalState.active?])
  | _ => rfl

/-- Loading what was picked opens the modal surface, if it is free. -/
theorem afterDeeds_loadPicked (h : s.hasIdentity = true) (picked : Option Message) :
    s.afterDeeds (loadPicked picked s) =
      match picked with
      | some p => if s.modal.isActive then s else { s with modal := .loading p }
      | none => s := by
  cases picked with
  | none => rfl
  | some p =>
      unfold loadPicked
      cases hactive : s.modal.isActive with
      | true => rfl
      | false =>
          have hfree : s.modal.isDisplayed = false := isDisplayed_of_not_isActive hactive
          simp only [Bool.false_eq_true, if_false]
          rw [afterDeeds_loadDeeds h, hfree, Bool.not_false, Bool.or_true]
          rfl

/-- With an identity a queue is processed as `Session.afterQueue` says. -/
theorem afterDeeds_queueDeeds (h : s.hasIdentity = true) (messages : List Message) :
    s.afterDeeds (queueDeeds messages s) = s.afterQueue messages := by
  unfold queueDeeds Session.afterQueue
  rw [guarded_of_identity h]
  cases messages.isEmpty with
  | true => rfl
  | false =>
      simp only [Bool.false_eq_true, if_false]
      generalize s.select messages = picked
      have hqueued : (s.reduce (.processQueue picked.queue)).hasIdentity = true := h
      have hfilled : ((s.reduce (.processQueue picked.queue)).embed
          picked.inline).hasIdentity = true := h
      unfold selectDeeds
      rw [Session.afterDeeds_append, Session.afterDeeds_append, afterDeeds_landed,
        afterDeeds_embedPicked hqueued, afterDeeds_loadPicked hfilled]
      rfl

/-- With an identity a message goes away as `Session.afterDismissal` says. -/
theorem afterDeeds_dismissDeeds (h : s.hasIdentity = true) (m : Message) (log viaClose : Bool) :
    s.afterDeeds (dismissDeeds m log viaClose s) = s.afterDismissal m log viaClose := by
  have hleft : s.afterDeeds (leaveDeeds m log viaClose s) = s.reduce (.dismiss m log viaClose) := by
    unfold leaveDeeds
    rw [guarded_of_identity h]
    rfl
  have hidentity : (s.reduce (.dismiss m log viaClose)).hasIdentity = true :=
    Session.hasIdentity_reduce (fun _ hreset => nomatch hreset) h
  unfold dismissDeeds Session.afterDismissal
  rw [Session.afterDeeds_append, hleft]
  generalize s.reduce (.dismiss m log viaClose) = left at hidentity ⊢
  dsimp only
  cases left.usesRealtime with
  | true => exact afterDeeds_queueDeeds hidentity _
  | false => rfl

/-- A queue leaves the identity alone. -/
theorem hasIdentity_afterQueue (s : Session) (messages : List Message) :
    (s.afterQueue messages).hasIdentity = s.hasIdentity := by
  unfold Session.afterQueue
  cases messages.isEmpty with
  | true => rfl
  | false =>
      cases hpicked : (s.select messages).modal with
      | none => simp only [hpicked]; rfl
      | some p => cases s.modal.isActive <;> simp only [hpicked] <;> rfl

/-- A queue leaves a modal surface alone that is not free, and loads at most one message on one
that is. -/
theorem modal_afterQueue (s : Session) (messages : List Message) :
    (s.afterQueue messages).modal = s.modal ∨
      (s.modal.isActive = false ∧ ∃ p, (s.afterQueue messages).modal = .loading p) := by
  unfold Session.afterQueue
  cases messages.isEmpty with
  | true => exact Or.inl rfl
  | false =>
      cases hpicked : (s.select messages).modal with
      | none => simp only [hpicked]; exact Or.inl rfl
      | some p =>
          simp only [hpicked]
          cases s.modal.isActive with
          | true => exact Or.inl rfl
          | false => exact Or.inr ⟨rfl, p, rfl⟩

/-- A message that goes away leaves an identity. -/
theorem hasIdentity_afterDismissal (h : s.hasIdentity = true) (m : Message)
    (log viaClose : Bool) : (s.afterDismissal m log viaClose).hasIdentity = true := by
  have hleft : (s.reduce (.dismiss m log viaClose)).hasIdentity = true :=
    Session.hasIdentity_reduce (fun _ hreset => nomatch hreset) h
  unfold Session.afterDismissal
  generalize s.reduce (.dismiss m log viaClose) = left at hleft ⊢
  dsimp only
  cases left.usesRealtime with
  | true => exact (hasIdentity_afterQueue _ _).trans hleft
  | false => exact hleft

/-- With an identity the screen is re-evaluated as `Session.afterRoute` says. -/
theorem afterDeeds_routeDeeds (h : s.hasIdentity = true) (route : String) :
    s.afterDeeds (routeDeeds route s) = s.afterRoute route := by
  have hmoved : (s.reduce (.setRoute route)).hasIdentity = true := h
  unfold routeDeeds Session.afterRoute
  rw [Session.afterDeeds_append, afterDeeds_landed]
  generalize s.reduce (.setRoute route) = moved at hmoved ⊢
  unfold evaluateDeeds
  dsimp only
  cases moved.modal.active? with
  | none => exact afterDeeds_queueDeeds hmoved _
  | some m =>
      cases hroute : m.stillMatchesRoute route with
      | true =>
          simp only [hroute, if_true]
          exact afterDeeds_queueDeeds hmoved _
      | false =>
          simp only [hroute, Bool.false_eq_true, if_false]
          rw [Session.afterDeeds_append, afterDeeds_dismissDeeds hmoved]
          exact afterDeeds_queueDeeds (hasIdentity_afterDismissal hmoved m false true) _

/-- A change of route leaves an identity. -/
theorem hasIdentity_afterRoute (h : s.hasIdentity = true) (route : String) :
    (s.afterRoute route).hasIdentity = true := by
  have hmoved : (s.reduce (.setRoute route)).hasIdentity = true := h
  unfold Session.afterRoute
  generalize s.reduce (.setRoute route) = moved at hmoved ⊢
  dsimp only
  rw [hasIdentity_afterQueue]
  cases moved.modal.active? with
  | none => exact hmoved
  | some m =>
      cases hroute : m.stillMatchesRoute route with
      | true => simpa only [hroute, if_true] using hmoved
      | false =>
          simpa only [hroute, Bool.false_eq_true, if_false] using
            hasIdentity_afterDismissal hmoved m false true

/-! ## While nobody is known -/

/-- Realtime updates are not in use without an identity. -/
theorem usesRealtime_of_no_identity (h : s.hasIdentity = false) : s.usesRealtime = false := by
  unfold Session.hasIdentity at h
  rw [Bool.or_eq_false_iff] at h
  unfold Session.usesRealtime Session.isIdentified
  rw [h.1, Bool.and_false]

/-- Without an identity no message goes away. -/
theorem afterDeeds_dismissDeeds_of_none (h : s.hasIdentity = false) (m : Message)
    (log viaClose : Bool) : s.afterDeeds (dismissDeeds m log viaClose s) = s := by
  have hleft : s.afterDeeds (leaveDeeds m log viaClose s) = s :=
    afterDeeds_guarded_of_none h (landed (.dismiss m log viaClose))
  unfold dismissDeeds
  rw [Session.afterDeeds_append, hleft, usesRealtime_of_no_identity h]
  rfl

/-- Without an identity nothing is re-evaluated. -/
theorem afterDeeds_evaluateDeeds_of_none (h : s.hasIdentity = false) (route : String) :
    s.afterDeeds (evaluateDeeds route s) = s := by
  have hreselect : s.afterDeeds (reselectDeeds s) = s := afterDeeds_guarded_of_none h _
  unfold evaluateDeeds
  cases s.modal.active? with
  | none => exact hreselect
  | some m =>
      cases hroute : m.stillMatchesRoute route with
      | true => simp only [hroute, if_true, hreselect]
      | false =>
          simp only [hroute, Bool.false_eq_true, if_false]
          rw [Session.afterDeeds_append, afterDeeds_dismissDeeds_of_none h, hreselect]

end Pipeline

namespace Session

variable {s : Session}

/-- **While nobody is known only preparations change the session.** -/
theorem handled_of_no_identity (h : s.hasIdentity = false) (a : Action) :
    s.handled a = if isPreparation a then s.reduce a else s := by
  unfold handled actionDeeds
  cases a with
  | load m position =>
      show s.afterDeeds (loadDeeds m position s) = s
      have hclosed := afterDeeds_guarded_of_none h (landed (.load m position))
      unfold loadDeeds
      cases m.isEmbedded with
      | true => exact hclosed
      | false =>
          cases s.modal.isDisplayed with
          | true => rfl
          | false => exact hclosed
  | dismiss m log viaClose => exact afterDeeds_dismissDeeds_of_none h m log viaClose
  | setRoute route =>
      have hroute : (s.reduce (.setRoute route)).hasIdentity = false := h
      show s.afterDeeds (routeDeeds route s) = s.reduce (.setRoute route)
      unfold routeDeeds
      rw [afterDeeds_append, afterDeeds_landed]
      exact afterDeeds_evaluateDeeds_of_none hroute route
  | embed | processQueue | display | clearQueue | tap | loadingFailed =>
      exact afterDeeds_guarded_of_none h _
  | _ => rfl

/-- **While somebody is known every action has its full effect.** -/
theorem handled_of_identity (h : s.hasIdentity = true) (a : Action) :
    s.handled a = s.followed a := by
  cases a with
  | load m position => exact afterDeeds_loadDeeds h m position
  | processQueue messages => exact afterDeeds_queueDeeds h messages
  | dismiss m log viaClose => exact afterDeeds_dismissDeeds h m log viaClose
  | setRoute route => exact afterDeeds_routeDeeds h route
  | display m =>
      show s.afterDeeds (guarded s (landed (.display m))) = s.reduce (.display m)
      rw [guarded_of_identity h]
      rfl
  | embed | clearQueue | tap | loadingFailed =>
      exact congrArg s.afterDeeds (guarded_of_identity h _)
  | _ => rfl

/-- An identity lasts until a reset. -/
theorem hasIdentity_handled (h : s.hasIdentity = true) {a : Action}
    (ha : ∀ sessionId, a ≠ .reset sessionId) : (s.handled a).hasIdentity = true := by
  have hreduce : (s.reduce a).hasIdentity = true := hasIdentity_reduce ha h
  rw [handled_of_identity h]
  cases a with
  | load m position =>
      show (if m.isEmbedded || !s.modal.isDisplayed then s.reduce (.load m position)
        else s).hasIdentity = true
      split
      · exact hreduce
      · exact h
  | processQueue messages => exact (hasIdentity_afterQueue s messages).trans h
  | dismiss m log viaClose => exact hasIdentity_afterDismissal h m log viaClose
  | setRoute route => exact hasIdentity_afterRoute h route
  | _ => exact hreduce

end Session

end InAppMessaging
