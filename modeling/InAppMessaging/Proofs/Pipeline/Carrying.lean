import InAppMessaging.Proofs.Pipeline.Navigation
import InAppMessaging.Proofs.Pipeline.Shown
import InAppMessaging.Proofs.Session.Elements

/-!
# Messages come from outside

The pipeline makes no messages.  Those in the queue, on the modal surface and at the elements,
and those that a committed action is about, all came in with some action from outside.  Said for
any test of messages: if the messages of the actions from outside pass it, then so do those of
every commit and of every session.

* `Session.Only.reduce` — **a session holds no other messages than its actions carry**;
* `actionDeeds_carry` — what follows from an action carries its messages and those at hand;
* `Session.deedsAll_carry` — **what a run commits carries the messages of its actions.**
-/

namespace InAppMessaging

open Pipeline

variable {fits : Message → Bool}

/-! ## Actions and sessions -/

/-- The messages of an action, the one it is about and those it brings, pass a test. -/
structure Action.Carries (fits : Message → Bool) (a : Action) : Prop where
  about : ∀ m, a.message? = some m → fits m = true
  brought : a.Brings fits fits

/-- An action that is about no message, and brings none, carries nothing. -/
theorem Action.carries_of_none {a : Action} (habout : a.message? = none)
    (hbrought : a.Brings fits fits) : a.Carries fits :=
  ⟨fun m hm => absurd (habout.symm.trans hm).symm (Option.some_ne_none m), hbrought⟩

/-- The messages at the elements pass a test. -/
def InlineSurfaces.Hold (surfaces : InlineSurfaces) (fits : Message → Bool) : Prop :=
  surfaces.Every fun _ state => fits state.message = true

/-- The messages that a session holds pass a test. -/
structure Session.Only (fits : Message → Bool) (s : Session) : Prop where
  queue : s.Holds fits
  modal : ∀ m, s.modal.active? = some m → fits m = true
  elements : s.inline.Hold fits

namespace Session

variable {s : Session} {a : Action}

/-- The first session holds nothing. -/
theorem only_empty (fits : Message → Bool) : ({} : Session).Only fits where
  queue := fun _ hm => absurd hm List.not_mem_nil
  modal := fun m hm => absurd hm.symm (Option.some_ne_none m)
  elements := InlineSurfaces.every_empty _

/-- What occupies the modal surface was there before, or the action is about it. -/
theorem active_reduce {m : Message} (h : (s.reduce a).modal.active? = some m) :
    s.modal.active? = some m ∨ a.message? = some m := by
  have hgone : ∀ a other, (s.dismissed a other).modal.active? = some m →
      s.modal.active? = some m := by
    intro a other h
    have hactive : (s.dismissed a other).modal.isActive = true := by
      unfold ModalState.isActive
      rw [h]
      rfl
    rwa [modal_of_active_dismissed hactive] at h
  cases a with
  | load other position => exact Or.inr h
  | display other =>
      have hsurface : (s.displayed (.display other) other).modal.active? = some m := h
      rw [modal_displayed] at hsurface
      by_cases hother : other.isEmbedded = true
      · rw [if_pos hother] at hsurface
        exact Or.inl hsurface
      · rw [if_neg hother] at hsurface
        exact Or.inr hsurface
  | dismiss other log viaClose => exact Or.inl (hgone _ other h)
  | loadingFailed other => exact Or.inl (hgone _ other h)
  | reset sessionId => exact absurd h.symm (Option.some_ne_none m)
  | _ => exact Or.inl h

/-- The elements hold what actions carry there. -/
theorem hold_reduce (h : s.inline.Hold fits) (ha : a.Carries fits) :
    (s.reduce a).inline.Hold fits := by
  cases hsettled : a.settled? with
  | some settled =>
      obtain ⟨m, state⟩ := settled
      obtain ⟨habout, hmessage⟩ := Action.message?_of_settled hsettled
      rw [s.inline_reduce_of_settled hsettled]
      cases m.delivery.elementId with
      | none => exact h
      | some elementId =>
          cases m.queueId with
          | none => exact h
          | some queueId =>
              have hstate : fits (state elementId).message = true := by
                rw [hmessage elementId]
                exact ha.about m habout
              exact InlineSurfaces.Every.update h fun _ _ => hstate
  | none =>
      cases a with
      | display m => exact absurd hsettled (Option.some_ne_none _)
      | dismiss m log viaClose => exact absurd hsettled (Option.some_ne_none _)
      | loadingFailed m => exact absurd hsettled (Option.some_ne_none _)
      | embed messages => exact every_embed h fun m hm _ _ => ha.brought m hm
      | reset sessionId => exact InlineSurfaces.every_empty _
      | _ => exact h

/-- **A session holds no other messages than its actions carry.** -/
theorem Only.reduce (h : s.Only fits) (ha : a.Carries fits) : (s.reduce a).Only fits where
  queue := h.queue.reduce ha.brought
  modal := by
    intro m hm
    rcases active_reduce hm with hbefore | habout
    · exact h.modal m hbefore
    · exact ha.about m habout
  elements := hold_reduce h.elements ha

/-- The same after several actions. -/
theorem Only.reduceAll (h : s.Only fits) {log : List Action}
    (hlog : ∀ a ∈ log, a.Carries fits) : (s.reduceAll log).Only fits :=
  reduceAll_keeps (fun _ _ hs ha => hs.reduce ha) h hlog

end Session

/-! ## Deeds -/

/-- The messages of what a deed commits pass a test. -/
def Deed.Carries (fits : Message → Bool) : Deed Host → Prop
  | .commit a => a.Carries fits
  | .act _ => True
  | .failed => True

/-- The messages of what deeds commit pass a test. -/
def AllCarry (fits : Message → Bool) (ds : List (Deed Host)) : Prop :=
  ∀ d ∈ ds, d.Carries fits

/-- Of what follows from a queue only loads are about a message, and they bring it. -/
theorem Deed.FollowsQueue.carries {d : Deed Host} (h : d.FollowsQueue)
    (hbrings : d.Brings fits fits) : d.Carries fits := by
  cases h with
  | commit hqueue =>
      rename_i a
      cases a with
      | load m position =>
          refine ⟨fun other hother => ?_, hbrings⟩
          obtain rfl := Option.some.inj hother
          exact hbrings
      | processQueue messages => exact Action.carries_of_none rfl hbrings
      | embed messages => exact Action.carries_of_none rfl hbrings
      | reportError text => exact Action.carries_of_none rfl hbrings
      | _ => exact absurd hqueue Bool.false_ne_true
  | callBack a => trivial
  | errorLogged text => trivial
  | present m position => trivial

theorem AllCarry.append {ds es : List (Deed Host)} (hds : AllCarry fits ds)
    (hes : AllCarry fits es) : AllCarry fits (ds ++ es) :=
  List.forall_mem_append.mpr ⟨hds, hes⟩

/-- What deeds commit carries what they carry. -/
theorem AllCarry.commits {ds : List (Deed Host)} (hds : AllCarry fits ds) :
    ∀ a ∈ commits ds, a.Carries fits :=
  fun a ha => hds (.commit a) (mem_commits.mp ha)

theorem Session.Only.afterDeeds {s : Session} {ds : List (Deed Host)} (h : s.Only fits)
    (hds : AllCarry fits ds) : (s.afterDeeds ds).Only fits := by
  rw [Session.afterDeeds_eq]
  exact h.reduceAll hds.commits

namespace Pipeline

variable {s : Session} {a : Action} {m : Message} {messages : List Message}

theorem landed_carry (ha : a.Carries fits) : AllCarry fits (landed a) :=
  List.forall_mem_cons.mpr ⟨ha, List.forall_mem_singleton.mpr trivial⟩

theorem reported_carry (fits : Message → Bool) (text : String) :
    AllCarry fits (reported text) :=
  fun d hd => (reported_followsQueue text d hd).carries (reported_bring fits fits text d hd)

theorem guarded_carry {ds : List (Deed Host)} (h : AllCarry fits ds) (s : Session) :
    AllCarry fits (guarded s ds) := by
  unfold guarded
  split
  · exact h
  · exact reported_carry fits noUserText

theorem loadDeeds_carry (hm : fits m = true) (position : Option Position) (s : Session) :
    AllCarry fits (loadDeeds m position s) :=
  fun d hd => (loadDeeds_followsQueue m position s d hd).carries
    (loadDeeds_bring hm position s d hd)

theorem queueDeeds_carry (hmessages : ∀ m ∈ messages, fits m = true) (s : Session) :
    AllCarry fits (queueDeeds messages s) := by
  have hbring : AllBring fits fits (queueDeeds messages s) :=
    queueDeeds_bring (fun _ hm => hm) fun m hm => hmessages m (mem_candidates hm)
  exact fun d hd => (queueDeeds_followsQueue messages s d hd).carries (hbring d hd)

/-- A dismissal carries its message, and the queue at hand. -/
theorem dismissDeeds_carry (h : s.Only fits) (hm : fits m = true) (log viaClose : Bool) :
    AllCarry fits (dismissDeeds m log viaClose s) := by
  have hdismiss : (Action.dismiss m log viaClose).Carries fits := by
    refine ⟨fun other hother => ?_, trivial⟩
    obtain rfl := Option.some.inj hother
    exact hm
  have hleave : AllCarry fits (leaveDeeds m log viaClose s) :=
    List.forall_mem_cons.mpr ⟨trivial, List.forall_mem_cons.mpr ⟨trivial,
      List.forall_mem_cons.mpr ⟨trivial, guarded_carry (landed_carry hdismiss) s⟩⟩⟩
  refine hleave.append ?_
  split
  · exact queueDeeds_carry (h.afterDeeds hleave).queue _
  · exact fun d hd => absurd hd List.not_mem_nil

/-- A change of route carries what it withdraws, and the queue at hand. -/
theorem routeDeeds_carry (h : s.Only fits) (route : String) :
    AllCarry fits (routeDeeds route s) := by
  have hroute : (Action.setRoute route).Carries fits := Action.carries_of_none rfl trivial
  have hmoved : (s.reduce (.setRoute route)).Only fits := h.reduce hroute
  refine (landed_carry hroute).append ?_
  unfold evaluateDeeds
  cases hactive : (s.reduce (.setRoute route)).modal.active? with
  | none => exact queueDeeds_carry hmoved.queue _
  | some m =>
      dsimp only
      split
      · exact queueDeeds_carry hmoved.queue _
      · have hwithdraw := dismissDeeds_carry hmoved (hmoved.modal m hactive) false true
        exact hwithdraw.append (queueDeeds_carry (hmoved.afterDeeds hwithdraw).queue _)

/-- **What follows from an action** carries its messages and those at hand. -/
theorem actionDeeds_carry (h : s.Only fits) (ha : a.Carries fits) :
    AllCarry fits (actionDeeds a s) := by
  cases a with
  | reportError text => exact reported_carry fits text
  | load m position => exact loadDeeds_carry (ha.about m rfl) position s
  | processQueue messages => exact queueDeeds_carry ha.brought s
  | display m =>
      exact List.forall_mem_cons.mpr ⟨trivial, List.forall_mem_cons.mpr ⟨trivial,
        guarded_carry (landed_carry ha) s⟩⟩
  | dismiss m log viaClose => exact dismissDeeds_carry h (ha.about m rfl) log viaClose
  | setRoute route => exact routeDeeds_carry h route
  | embed | clearQueue | tap | loadingFailed => exact guarded_carry (landed_carry ha) s
  | _ => exact landed_carry ha

end Pipeline

/-- **What a run commits carries the messages of its actions.** -/
theorem Session.deedsAll_carry {s : Session} (h : s.Only fits) {actions : List Action}
    (hactions : ∀ a ∈ actions, a.Carries fits) : AllCarry fits (s.deedsAll actions) := by
  induction actions generalizing s with
  | nil => exact fun d hd => absurd hd List.not_mem_nil
  | cons a rest ih =>
      obtain ⟨ha, hrest⟩ := List.forall_mem_cons.mp hactions
      have hdeeds : deeds standard maxDispatchDepth a s = actionDeeds a s :=
        deeds_standard 59 a s
      have hfirst : AllCarry fits (deeds standard maxDispatchDepth a s) := by
        rw [hdeeds]
        exact actionDeeds_carry h ha
      exact hfirst.append (ih (h.afterDeeds hfirst) hrest)

end InAppMessaging
