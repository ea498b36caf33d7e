import InAppMessaging.Proofs.Pipeline.Aftermath

/-!
# The displayed message on the modal surface

Which actions take a displayed message off the modal surface.  Some are meant to: a reset, a
change of route, and the dismissal or failure of the message itself (`Action.releases`).  Of
the others most leave it where it is, but the reduction of a display, a dismissal or a failure
does not ask whose surface it writes to, and the check on loading looks at messages for the
modal surface only (`Action.displaces`).

* `Session.Known.handled` — the surface is used only while somebody is known;
* `Runner.modal_stays_iff` — a displayed message stays exactly if the action does not displace
  it.
-/

namespace InAppMessaging

open Pipeline

/-- The action is meant to take a displayed message off the surface, if need be. -/
def Action.releases (m : Message) : Action → Bool
  | .reset _ | .setRoute _ => true
  | .dismiss other _ _ | .loadingFailed other => other = m
  | _ => false

/-- The action puts something about another message where a displayed one is. -/
def Action.displaces (m : Message) : Action → Bool
  | .load other _ => other.isEmbedded
  | .display other | .dismiss other _ _ | .loadingFailed other =>
      !other.isEmbedded && other ≠ m
  | _ => false

namespace Session

variable {s : Session} {m : Message}

/-! ## Somebody is known -/

/-- The modal surface has been used only if somebody is known. -/
def Known (s : Session) : Prop := s.modal = .initial ∨ s.hasIdentity = true

/-- A session without identity keeps an unused surface unused. -/
theorem modal_reduce_preparation {a : Action} (ha : isPreparation a = true)
    (h : s.modal = .initial) : (s.reduce a).modal = .initial := by
  cases a with
  | initialise | setUser | setAnonymous | setRoute | setRealtime | setPollInterval
  | reportError => exact h
  | reset => rfl
  | _ => exact absurd ha Bool.false_ne_true

/-- **Every action keeps it so.** -/
theorem Known.handled (h : s.Known) (a : Action) : (s.handled a).Known := by
  cases hidentity : s.hasIdentity with
  | true =>
      by_cases hreset : ∃ sessionId, a = .reset sessionId
      · obtain ⟨sessionId, rfl⟩ := hreset
        rw [handled_of_identity hidentity]
        exact Or.inl rfl
      · exact Or.inr (hasIdentity_handled hidentity fun sessionId ha => hreset ⟨sessionId, ha⟩)
  | false =>
      have hmodal : s.modal = .initial := by
        rcases h with hmodal | hknown
        · exact hmodal
        · rw [hidentity] at hknown
          exact absurd hknown Bool.false_ne_true
      rw [handled_of_no_identity hidentity]
      by_cases ha : isPreparation a = true
      · rw [if_pos ha]
        exact Or.inl (modal_reduce_preparation ha hmodal)
      · rw [if_neg ha]
        exact Or.inl hmodal

/-! ## Action by action -/

/-- A queue leaves a displayed message on the surface and does not bring one there. -/
theorem modal_afterQueue_iff (s : Session) (messages : List Message) :
    (s.afterQueue messages).modal = .displayed m ↔ s.modal = .displayed m := by
  rcases modal_afterQueue s messages with hsame | ⟨hfree, p, hloading⟩
  · rw [hsame]
  · constructor
    · intro hdisplayed
      rw [hloading] at hdisplayed
      exact ModalState.noConfusion hdisplayed
    · intro hdisplayed
      rw [hdisplayed] at hfree
      exact absurd hfree (by simp [ModalState.isActive, ModalState.active?])

/-- Of what happens when a message goes away, only its dismissal matters to a displayed one. -/
theorem modal_afterDismissal_iff (s : Session) (other : Message) (log viaClose : Bool) :
    (s.afterDismissal other log viaClose).modal = .displayed m ↔
      (s.reduce (.dismiss other log viaClose)).modal = .displayed m := by
  unfold afterDismissal
  generalize s.reduce (.dismiss other log viaClose) = left
  dsimp only
  cases left.usesRealtime with
  | true => exact modal_afterQueue_iff left _
  | false => exact Iff.rfl

/-- The dismissal of another message leaves a displayed one if it is about an element. -/
theorem modal_dismissed_iff {other : Message} (a : Action) (hmodal : s.modal = .displayed m)
    (hother : other ≠ m) :
    (s.dismissed a other).modal = .displayed m ↔ (!other.isEmbedded && other ≠ m) = false := by
  rw [modal_dismissed]
  cases other.isEmbedded with
  | true => simp [hmodal]
  | false => simp [hother]

/-- **An action leaves a displayed message unless it displaces it.** -/
theorem modal_followed_iff {a : Action} (hmodal : s.modal = .displayed m)
    (hkeep : a.releases m = false) :
    (s.followed a).modal = .displayed m ↔ a.displaces m = false := by
  cases a with
  | load other position =>
      have hdisplayed : s.modal.isDisplayed = true := by
        rw [hmodal]
        rfl
      show (if other.isEmbedded || !s.modal.isDisplayed then s.reduce (.load other position)
        else s).modal = .displayed m ↔ other.isEmbedded = false
      rw [hdisplayed, Bool.not_true, Bool.or_false]
      cases other.isEmbedded with
      | true => simp [reduce]
      | false => simp [hmodal]
  | processQueue messages =>
      have hqueue := (modal_afterQueue_iff s messages).mpr hmodal
      exact ⟨fun _ => rfl, fun _ => hqueue⟩
  | display other =>
      show (s.displayed (.display other) other).modal = .displayed m ↔
        (!other.isEmbedded && other ≠ m) = false
      rw [modal_displayed]
      cases other.isEmbedded with
      | true => simp [hmodal]
      | false => simp
  | dismiss other log viaClose =>
      have hother : other ≠ m := of_decide_eq_false hkeep
      exact (modal_afterDismissal_iff s other log viaClose).trans
        (modal_dismissed_iff _ hmodal hother)
  | loadingFailed other => exact modal_dismissed_iff _ hmodal (of_decide_eq_false hkeep)
  | setRoute route => exact absurd hkeep Bool.noConfusion
  | reset sessionId => exact absurd hkeep Bool.noConfusion
  | _ => exact ⟨fun _ => rfl, fun _ => hmodal⟩

end Session

/-! ## Every reachable session -/

namespace Runner

variable {V : Type}

/-- A runner after actions from outside. -/
def handleAll (r : Runner V Host) (actions : List Action) : Runner V Host :=
  actions.foldl (fun r a => r.handle standard a) r

/-- What every action from outside keeps lasts through a run. -/
theorem handleAll_keeps {I : Runner V Host → Prop}
    (hstep : ∀ r a, I r → I (r.handle standard a)) {r : Runner V Host} (h : I r)
    (actions : List Action) : I (r.handleAll actions) := by
  induction actions generalizing r with
  | nil => exact h
  | cons a actions ih => exact ih (hstep r a h)

/-- The modal surface of a reachable session has been used only if somebody is known. -/
theorem known_handleAll {r : Runner V Host} (h : r.session.Known) (actions : List Action) :
    (r.handleAll actions).session.Known := by
  refine handleAll_keeps (I := fun r => r.session.Known) (fun r a hr => ?_) h actions
  rw [handle_session]
  exact hr.handled a

/-- **When a displayed message stays.**  In every session reachable from the first one, an
action that is not meant to release the displayed message leaves it on the modal surface
exactly if it does not displace it: if it neither loads a message meant for an element nor
displays, dismisses or fails another message for the modal surface. -/
theorem modal_stays_iff {r : Runner V Host} (hfirst : r.session = {}) (actions : List Action)
    {m : Message} {a : Action} (hmodal : (r.handleAll actions).session.modal = .displayed m)
    (hkeep : a.releases m = false) :
    ((r.handleAll actions).handle standard a).session.modal = .displayed m ↔
      a.displaces m = false := by
  have hstart : r.session.Known := by
    rw [hfirst]
    exact Or.inl rfl
  have hidentity : (r.handleAll actions).session.hasIdentity = true := by
    rcases known_handleAll hstart actions with hinitial | hknown
    · rw [hmodal] at hinitial
      exact ModalState.noConfusion hinitial
    · exact hknown
  rw [handle_session, Session.handled_of_identity hidentity]
  exact Session.modal_followed_iff hmodal hkeep

/-- A banner for the modal surface. -/
def banner : Message := { id := "banner", queueId := some "b" }

/-- A coupon for the modal surface. -/
def coupon : Message := { id := "coupon", queueId := some "c" }

/-- A coupon was being loaded when a banner took its place and was displayed. -/
def bannerShown : Runner Unit Host :=
  handleAll { session := {}, host := {} }
    [.setUser "ada", .load coupon none, .load banner none, .display banner]

/-- The coupon is not loaded again while the banner is displayed, but a late report that it
failed takes the banner off the surface. -/
theorem bannerShown_displaced :
    (bannerShown.handle standard (.load coupon none)).session.modal = .displayed banner ∧
      (bannerShown.handle standard (.loadingFailed coupon)).session.modal ≠
        .displayed banner := by
  constructor
  · exact (modal_stays_iff rfl _ (by decide) (by decide)).mpr (by decide)
  · intro hstays
    have hdisplaces := (modal_stays_iff rfl _ (by decide) (by decide)).mp hstays
    exact absurd hdisplaces (by decide)

end Runner

end InAppMessaging
