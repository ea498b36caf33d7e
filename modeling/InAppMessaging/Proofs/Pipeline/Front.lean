import InAppMessaging.Pipeline.Standard
import InAppMessaging.Proofs.Store.Keeping

/-!
# The stages in front of the listener

Of the standard stages only the last one calls the listener.  The others write into the error log
and the log of views, call the presenter, count views in the stored preferences and ask the poller
for a fetch; whatever else they do, they do by dispatching and forwarding.

* `Unmoved` — a view of the host that none of these things changes;
* `front_keeps` — **the stages in front of the listener leave every such view alone**;
* `Unmoved.standard_keeps` — so do all standard stages, if callbacks do not change it either.
-/

namespace InAppMessaging

variable {α : Type} {view : Host → α}

namespace Host

/-- Events that do not concern a view may be recorded all at once. -/
theorem recordAll_keeps {es : List Event} (hes : ∀ e ∈ es, ∀ h, view (h.record e) = view h)
    (h : Host) : view (h.recordAll es) = view h := by
  unfold recordAll
  induction es generalizing h with
  | nil => rfl
  | cons e es ih =>
      obtain ⟨he, hrest⟩ := List.forall_mem_cons.mp hes
      rw [List.foldl_cons, ih hrest, he]

/-- Taking over the channel does not concern a view of other things. -/
theorem setChannel_keeps (hcall : ∀ call h, view (h.record (.channel call)) = view h)
    (hchannel : ∀ channel h, view { h with channel } = view h) (h : Host)
    (next : Channel × List ChannelCall) : view (h.setChannel next) = view h := by
  refine (recordAll_keeps (fun e he => ?_) _).trans (hchannel next.1 h)
  obtain ⟨call, -, rfl⟩ := List.mem_map.mp he
  exact hcall call

/-- Asking for a fetch does not concern a view of other things. -/
theorem requestRefresh_keeps (hwake : ∀ t h, view (wake t h) = view h)
    (hpoller : ∀ poller h, view { h with poller } = view h) (h : Host) :
    view h.requestRefresh = view h := by
  unfold requestRefresh
  dsimp only
  split
  · rw [hwake, hpoller]
  · exact hpoller _ h

end Host

namespace Pipeline

/-- The standard stages but the last. -/
def front : List (Stage Host) :=
  [watching, errorReporting, accounting, activation, identityGuard, navigation, selecting]

theorem standard_eq : standard = front ++ [listening] := rfl

/-- A view of the host that does not change with the error log, the log of views, the presenter,
the stored preferences and the poller. -/
structure Unmoved (view : Host → α) : Prop where
  errorLogged : ∀ text h, view (h.record (.errorLogged text)) = view h
  viewLogged : ∀ m sessionId h, view (h.record (.viewLogged m sessionId)) = view h
  presented : ∀ m position h, view (h.record (.presented m position)) = view h
  stored : ∀ storage h, view { h with storage } = view h
  refreshed : ∀ h, view h.requestRefresh = view h

namespace Unmoved

theorem logView (hview : Unmoved view) (a : Action) (m : Message) (s : Session) (h : Host) :
    view (logView a m s h) = view h := by
  unfold Pipeline.logView
  split
  · exact hview.viewLogged m s.sessionId h
  · rfl

theorem countDisplay (hview : Unmoved view) (m : Message) (s : Session) (h : Host) :
    view (countDisplay m s h) = view h := by
  unfold Pipeline.countDisplay
  split
  · exact hview.stored _ h
  · rfl

theorem countDismissal (hview : Unmoved view) (m : Message) (closedByUser : Bool) (s : Session)
    (h : Host) : view (countDismissal m closedByUser s h) = view h := by
  unfold Pipeline.countDismissal
  split
  · split
    · exact hview.stored _ h
    · rfl
  · rfl

end Unmoved

theorem accounting_keeps (hview : Unmoved view) : accounting.Keeps view := by
  intro a
  cases a with
  | display m => exact ⟨hview.logView _ m, hview.countDisplay m, trivial⟩
  | dismiss m log viaClose =>
      refine ⟨hview.logView _ m, hview.countDismissal m _, fun _ h => ?_, fun s => ?_⟩
      · dsimp only
        split
        · exact hview.refreshed h
        · rfl
      · unfold pickNext
        split <;> trivial
  | _ => trivial

theorem activation_keeps (hview : Unmoved view) : activation.Keeps view := by
  intro a
  cases a with
  | load m position =>
      show Program.Keeps view (if m.isEmbedded then _ else _)
      split
      · trivial
      · intro s
        dsimp only
        split
        · trivial
        · exact ⟨fun _ h => hview.presented m _ h, trivial⟩
  | _ => trivial

/-- The guard does nothing to the host itself. -/
theorem identityGuard_keeps (view : Host → α) : identityGuard.Keeps view := by
  intro a
  show Program.Keeps view (if isPreparation a then _ else _)
  split
  · trivial
  · intro s
    dsimp only
    split <;> trivial

/-- A change of route does nothing to the host itself. -/
theorem navigation_keeps (view : Host → α) : navigation.Keeps view := by
  have hreselect : reselect.Keeps view := fun _ => trivial
  intro a
  cases a with
  | setRoute route =>
      intro s
      dsimp only
      split
      · split
        · exact hreselect
        · exact hreselect
      · exact hreselect
  | _ => trivial

/-- Selection does nothing to the host itself. -/
theorem selecting_keeps (view : Host → α) : selecting.Keeps view := by
  have hload : ∀ picked, (loadIfFree picked).Keeps view := by
    rintro (- | m)
    · trivial
    · intro s
      dsimp only
      split <;> trivial
  have hembed : ∀ messages picked, (embedThen messages (loadIfFree picked)).Keeps view := by
    intro messages picked
    unfold embedThen
    split
    · exact hload picked
    · exact hload picked
  intro a
  match a with
  | .processQueue (m :: rest) => exact fun s => hembed _ _
  | .processQueue [] => trivial
  | .initialise .. | .setPollInterval _ | .setRoute _ | .setUser _ | .setAnonymous _
  | .setRealtime _ | .load .. | .embed _ | .clearQueue | .display _ | .dismiss ..
  | .loadingFailed _ | .reset _ | .reportError _ | .tap .. => trivial

/-- **The stages in front of the listener leave alone what they do not move.** -/
theorem front_keeps (hview : Unmoved view) : ∀ stage ∈ front, stage.Keeps view := by
  have herrors : errorReporting.Keeps view := by
    intro a
    cases a with
    | reportError text => exact ⟨fun _ h => hview.errorLogged text h, trivial⟩
    | _ => trivial
  intro stage hstage
  simp only [front, List.mem_cons, List.not_mem_nil, or_false] at hstage
  rcases hstage with rfl | rfl | rfl | rfl | rfl | rfl | rfl
  · exact fun _ => trivial
  · exact herrors
  · exact accounting_keeps hview
  · exact activation_keeps hview
  · exact identityGuard_keeps view
  · exact navigation_keeps view
  · exact selecting_keeps view

/-- **All standard stages do**, if the callbacks do not move it either. -/
theorem Unmoved.standard_keeps (hview : Unmoved view)
    (hcallback : ∀ c h, view (h.record (.callback c)) = view h) :
    ∀ stage ∈ standard, stage.Keeps view := by
  have hcalled : ∀ a h, view (callBack a h) = view h := by
    intro a h
    unfold callBack
    split
    · refine Host.recordAll_keeps (fun e he => ?_) h
      obtain ⟨c, -, rfl⟩ := List.mem_map.mp he
      exact hcallback c
    · rfl
  rw [standard_eq]
  exact List.forall_mem_append.mpr
    ⟨front_keeps hview, List.forall_mem_singleton.mpr fun a => ⟨fun _ => hcalled a, trivial⟩⟩

end Pipeline

end InAppMessaging
