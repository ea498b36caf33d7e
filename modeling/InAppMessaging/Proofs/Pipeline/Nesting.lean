import InAppMessaging.Proofs.Pipeline.Dispatches
import InAppMessaging.Proofs.Pipeline.Navigation
import InAppMessaging.Proofs.Store.Limits

/-!
# How deep dispatches nest

A change of route dismisses, a dismissal has the queue processed, and what is picked from the
queue is embedded or loaded.  Embedding and loading may end in a report, which would make five;
but a queue is processed behind the guard, and a message is picked for the modal surface only
where it is free, so nobody objects to a pick.  The rank of an action at a session says so, and
goes down with every dispatch.

* `rank_of_dispatched_processQueue` — what is picked from a queue dispatches nothing;
* `rank_lt_of_dispatched` — **every dispatch goes down in rank**;
* `Runner.process_of_four_le` — **four levels are enough**: with any limit from four on, nothing
  is dropped and the same happens.
-/

namespace InAppMessaging.Pipeline

variable {s : Session} {a : Action} {m : Message} {messages : List Message}

/-! ## What goes through -/

section Straight

variable {dispatch forward : Action → Session → List (Deed Host)}
  {behind : Action → Session → List Dispatched}

theorem dispatchesThrough_listening (a : Action) (s : Session) :
    dispatchesThrough dispatch [listening] a s = [] := rfl

/-- From the guard on nothing is dispatched for most actions, if there is an identity. -/
theorem dispatchesThrough_guarded (h : isPreparation a = false)
    (htail : Passes [navigation, selecting] a) (hidentity : s.hasIdentity = true) :
    dispatchesThrough dispatch [identityGuard, navigation, selecting, listening] a s = [] := by
  have hpass : dispatchesThrough dispatch ([navigation, selecting] ++ [listening]) a s = [] := by
    rw [dispatchesThrough_passes htail, dispatchesThrough_listening]
  rw [dispatchesThrough_identityGuard h, if_pos hidentity]
  exact hpass

/-- With an identity messages are embedded without a dispatch. -/
theorem dispatchesThrough_embed (hidentity : s.hasIdentity = true) (messages : List Message) :
    dispatchesThrough dispatch standard (.embed messages) s = [] := by
  have hhead : Passes [watching, errorReporting, accounting, activation] (.embed messages) :=
    passes_cons rfl <| passes_cons rfl <| passes_cons rfl <| passes_cons rfl passes_nil
  have htail : Passes [navigation, selecting] (.embed messages) :=
    passes_cons rfl <| passes_cons rfl passes_nil
  show dispatchesThrough dispatch ([watching, errorReporting, accounting, activation] ++
    [identityGuard, navigation, selecting, listening]) (.embed messages) s = _
  rw [dispatchesThrough_passes hhead, dispatchesThrough_guarded rfl htail hidentity]

/-- With an identity a message is loaded without a dispatch, if its surface is free. -/
theorem dispatchesThrough_load (hidentity : s.hasIdentity = true)
    (hfree : m.isEmbedded = true ∨ s.modal.isDisplayed = false) (position : Option Position) :
    dispatchesThrough dispatch standard (.load m position) s = [] := by
  have hhead : Passes [watching, errorReporting, accounting] (.load m position) :=
    passes_cons rfl <| passes_cons rfl <| passes_cons rfl passes_nil
  have htail : Passes [navigation, selecting] (.load m position) :=
    passes_cons rfl <| passes_cons rfl passes_nil
  have hguarded : dispatchesThrough dispatch [identityGuard, navigation, selecting, listening]
      (.load m position) s = [] := dispatchesThrough_guarded rfl htail hidentity
  show dispatchesThrough dispatch ([watching, errorReporting, accounting] ++
    activation :: [identityGuard, navigation, selecting, listening]) (.load m position) s = _
  rw [dispatchesThrough_passes hhead]
  by_cases hembedded : m.isEmbedded = true
  · rw [dispatchesThrough_forwardOnly (by simp [activation, hembedded]), hguarded]
  · have hmodal : s.modal.isDisplayed = false := hfree.resolve_left hembedded
    have hhandle : activation.handle (.load m position) = .read fun s =>
        if s.modal.isDisplayed then .dispatch (.reportError modalBusyText) .done
        else .act (present m position) (.forwardOnly (.load m position)) := by
      simp [activation, hembedded]
    generalize [identityGuard, navigation, selecting, listening] = rest at hguarded ⊢
    simp [dispatchesThrough, hhandle, hmodal, Program.forwardOnly, Program.dispatches,
      Program.deeds, failureDispatches, hguarded]

/-- With an identity embedding messages leaves an identity, however many levels are left. -/
theorem hasIdentity_after_embed (hidentity : s.hasIdentity = true) (levels : Nat)
    (messages : List Message) :
    (s.afterDeeds (deeds standard levels (.embed messages) s)).hasIdentity = true := by
  cases levels with
  | zero => exact hidentity
  | succ levels =>
      have hhead : Passes [watching, errorReporting, accounting, activation] (.embed messages) :=
        passes_cons rfl <| passes_cons rfl <| passes_cons rfl <| passes_cons rfl passes_nil
      have htail : Passes [navigation, selecting] (.embed messages) :=
        passes_cons rfl <| passes_cons rfl passes_nil
      have hpass : deedsThrough (deeds standard levels) ([navigation, selecting] ++ [listening])
          (.embed messages) s = landed (.embed messages) := by
        rw [deedsThrough_passes htail, deedsThrough_listening]
      have hdeeds : deeds standard (levels + 1) (.embed messages) s =
          landed (.embed messages) := by
        show deedsThrough (deeds standard levels) ([watching, errorReporting, accounting,
          activation] ++ identityGuard :: ([navigation, selecting] ++ [listening])) _ s = _
        rw [deedsThrough_passes hhead, deedsThrough_identityGuard_of_identity rfl hidentity]
        exact hpass
      rw [hdeeds]
      exact hidentity

/-- What was picked for the modal surface is loaded only where it is free. -/
theorem dispatches_loadIfFree (picked : Option Message) (s : Session) :
    ∀ c ∈ (loadIfFree picked).dispatches dispatch forward behind s,
      s.modal.isActive = false ∧ ∃ p, c = (.present p, s) := by
  intro c hc
  cases picked with
  | none => exact absurd hc List.not_mem_nil
  | some p =>
      have hprogram : (loadIfFree (some p)).dispatches dispatch forward behind s =
          (if s.modal.isActive then Program.done
            else .dispatch (.present p) .done).dispatches dispatch forward behind s := rfl
      rw [hprogram] at hc
      by_cases hactive : s.modal.isActive = true
      · rw [if_pos hactive] at hc
        exact absurd hc List.not_mem_nil
      · rw [if_neg hactive] at hc
        obtain rfl := List.mem_singleton.mp hc
        exact ⟨Bool.eq_false_iff.mpr hactive, p, rfl⟩

/-- What was picked is embedded first, and the rest comes after that. -/
theorem dispatches_embedThen (messages : List Message) (next : Program Host) (s : Session) :
    ∀ c ∈ (embedThen messages next).dispatches dispatch forward behind s,
      c = (.embed messages, s) ∨
        ∃ s', (s' = s ∨ s' = s.afterDeeds (dispatch (.embed messages) s)) ∧
          c ∈ next.dispatches dispatch forward behind s' := by
  intro c hc
  unfold embedThen at hc
  by_cases hnone : messages.isEmpty = true
  · rw [if_pos hnone] at hc
    exact Or.inr ⟨s, Or.inl rfl, hc⟩
  · rw [if_neg hnone] at hc
    rcases List.mem_cons.mp hc with rfl | hlater
    · exact Or.inl rfl
    · exact Or.inr ⟨_, Or.inr rfl, hlater⟩

/-- Embedding and loading what was picked does not fail. -/
theorem succeeds_picked (messages : List Message) (picked : Option Message) (s : Session) :
    ((embedThen messages (loadIfFree picked)).deeds dispatch forward s).2 = none := by
  have hload : ∀ s, ((loadIfFree picked).deeds dispatch forward s).2 = none := by
    intro s
    cases picked with
    | none => rfl
    | some p =>
        have hprogram : (loadIfFree (some p)).deeds dispatch forward s =
            (if s.modal.isActive then Program.done
              else .dispatch (.present p) .done).deeds dispatch forward s := rfl
        rw [hprogram]
        split <;> rfl
  unfold embedThen
  split
  · exact hload s
  · exact hload _

/-- Selection dispatches its picks: messages to embed where the queue was committed, and a
message to load where the modal surface is free, there or after the embedding. -/
theorem dispatchesThrough_selecting (first : Message) (others : List Message) (s : Session) :
    let picked := s.select (first :: others)
    let queued := s.reduce (.processQueue picked.queue)
    ∀ c ∈ dispatchesThrough dispatch [selecting, listening] (.processQueue (first :: others)) s,
      c = (.embed picked.inline, queued) ∨
        ∃ s', (s' = queued ∨ s' = queued.afterDeeds (dispatch (.embed picked.inline) queued)) ∧
          s'.modal.isActive = false ∧ ∃ p, c = (.present p, s') := by
  intro picked queued c hc
  have hdispatches : dispatchesThrough dispatch [selecting, listening]
      (.processQueue (first :: others)) s =
      (embedThen picked.inline (loadIfFree picked.modal)).dispatches dispatch
          (deedsThrough dispatch [listening]) (dispatchesThrough dispatch [listening]) queued ++
        failureDispatches selecting.name (.processQueue (first :: others)) _
          ((embedThen picked.inline (loadIfFree picked.modal)).deeds dispatch
            (deedsThrough dispatch [listening]) queued).2 := rfl
  rw [hdispatches, succeeds_picked, failureDispatches, List.append_nil] at hc
  rcases dispatches_embedThen _ _ _ c hc with hembed | ⟨s', hs', hload⟩
  · exact Or.inl hembed
  · exact Or.inr ⟨s', hs', dispatches_loadIfFree _ _ c hload⟩

end Straight

/-! ## Ranks -/

/-- How deep the dispatches on behalf of an action nest at a session, itself included.  Without
an identity everything that needs one ends in a report, and so does a message for the modal
surface while one is displayed there. -/
def rank (a : Action) (s : Session) : Nat :=
  match a with
  | .reportError _ => 1
  | .embed _ => if s.hasIdentity then 1 else 2
  | .load m _ => if s.hasIdentity && (m.isEmbedded || !s.modal.isDisplayed) then 1 else 2
  | .processQueue _ => 2
  | .dismiss .. => 3
  | .setRoute _ => 4
  | _ => 2

theorem rank_pos (a : Action) (s : Session) : 0 < rank a s := by
  unfold rank
  split <;> first | decide | (split <;> decide)

/-- No rank is higher than four, and none but those of a route and of a dismissal higher than
two. -/
theorem rank_le (a : Action) (s : Session) : rank a s ≤ 4 ∧ (depth a ≤ 3 → rank a s ≤ 2) ∧
    (depth a ≤ 4 → rank a s ≤ 3) := by
  cases a with
  | setRoute route => simp [rank, depth]
  | dismiss m log viaClose => simp [rank, depth]
  | embed messages => unfold rank; dsimp only; split <;> simp
  | load m position => unfold rank; dsimp only; split <;> simp
  | _ => simp [rank]

/-- What nests no deeper than itself has the least rank. -/
theorem rank_of_depth (h : depth a < 2) (s : Session) : rank a s = 1 := by
  obtain ⟨text, rfl⟩ := isErrorReport_of_depth h
  rfl

/-- **What is picked from a queue dispatches nothing**: there is an identity behind the guard,
and the modal surface is free. -/
theorem rank_of_dispatched_processQueue (levels : Nat) (messages : List Message) (s : Session) :
    ∀ c ∈ dispatchesThrough (deeds standard levels) standard (.processQueue messages) s,
      rank c.1 c.2 = 1 := by
  intro c hc
  rw [dispatchesThrough_queue] at hc
  by_cases hidentity : s.hasIdentity = true
  · rw [if_pos hidentity] at hc
    cases messages with
    | nil => exact absurd hc List.not_mem_nil
    | cons first others =>
        have hqueued : (s.reduce (.processQueue (s.select (first :: others)).queue)).hasIdentity =
            true := hidentity
        rcases dispatchesThrough_selecting first others s c hc with rfl | ⟨s', hs', hfree, p, rfl⟩
        · simp only [rank, hqueued, if_true]
        · have hknown : s'.hasIdentity = true := by
            rcases hs' with rfl | rfl
            · exact hqueued
            · exact hasIdentity_after_embed hqueued levels _
          have hmodal : s'.modal.isDisplayed = false := isDisplayed_of_not_isActive hfree
          simp [rank, Action.present, hknown, hmodal]
  · rw [if_neg hidentity] at hc
    obtain rfl := List.mem_singleton.mp hc
    rfl

/-- **Every dispatch goes down in rank.** -/
theorem rank_lt_of_dispatched (levels : Nat) (a : Action) (s : Session) :
    ∀ c ∈ dispatchesThrough (deeds standard levels) standard a s, rank c.1 c.2 < rank a s := by
  intro c hc
  have hdepth := depth_lt_of_dispatched a s c hc
  obtain ⟨-, htwo, hthree⟩ := rank_le c.1 c.2
  -- a report is all that is dispatched for what nests two deep, if anything is
  have hreport : depth a ≤ 2 → rank c.1 c.2 = 1 :=
    fun ha => rank_of_depth (Nat.lt_of_lt_of_le hdepth ha) c.2
  cases a with
  | setRoute route => exact Nat.lt_succ_of_le (hthree (Nat.le_of_lt_succ hdepth))
  | dismiss m log viaClose => exact Nat.lt_succ_of_le (htwo (Nat.le_of_lt_succ hdepth))
  | processQueue messages =>
      rw [rank_of_dispatched_processQueue levels messages s c hc]
      exact Nat.one_lt_two
  | reportError text =>
      have hnone : depth c.1 < 1 := hdepth
      have hpositive : 0 < depth c.1 := by
        unfold depth
        split <;> decide
      omega
  | embed messages =>
      by_cases hidentity : s.hasIdentity = true
      · rw [dispatchesThrough_embed hidentity] at hc
        exact absurd hc List.not_mem_nil
      · rw [hreport (Nat.le_refl 2)]
        simp [rank, hidentity]
  | load m position =>
      by_cases hfree : (s.hasIdentity && (m.isEmbedded || !s.modal.isDisplayed)) = true
      · rw [Bool.and_eq_true, Bool.or_eq_true, Bool.not_eq_true'] at hfree
        rw [dispatchesThrough_load hfree.1 hfree.2] at hc
        exact absurd hc List.not_mem_nil
      · rw [hreport (Nat.le_refl 2)]
        simp only [rank, if_neg hfree, Nat.one_lt_two]
  | _ =>
      rw [hreport (Nat.le_refl 2)]
      exact Nat.one_lt_two

end InAppMessaging.Pipeline

/-! ## The limit is not reached -/

namespace InAppMessaging.Runner

open Pipeline

/-- Dispatches nest four deep at most. -/
theorem levels_of_mem_visits (limit : Nat) (a : Action) (s : Session) :
    ∀ v ∈ visits standard limit a s, limit < v.levels + 4 := by
  intro v hv
  have hrank := visits_rank_le standard rank rank_lt_of_dispatched limit a s v hv
  have hfirst := (rank_le a s).1
  have hpositive := rank_pos v.action v.session
  omega

/-- **Four levels are enough.**  At any session, reachable or not, and for any action from
outside, an action that is dispatched is at most the fourth of those that are under way.  So with
any limit from four on, the session, the log of commits and what is done to the host and by
subscribers are the same as with the one that is set; and they do not depend on what would be
done with a dispatch beyond the limit, for there is none. -/
theorem process_of_four_le {V : Type} (r : Runner V Host) (a : Action) {limit : Nat}
    (hlimit : 4 ≤ limit) :
    (∀ v ∈ visits standard limit a r.session, limit < v.levels + 4) ∧
    r.process standard limit a = r.handle standard a ∧
    ∀ beyond, processOr beyond standard limit a r = r.handle standard a := by
  have hleft : ∀ v ∈ visits standard 4 a r.session, 0 < v.levels := by
    intro v hv
    have hlevels := levels_of_mem_visits 4 a r.session v hv
    omega
  have hset : r.handle standard a = r.process standard 4 a :=
    process_eq_of_le standard (by decide : 4 ≤ maxDispatchDepth) a r hleft
  refine ⟨levels_of_mem_visits limit a r.session, ?_, fun beyond => ?_⟩
  · rw [hset]
    exact process_eq_of_le standard hlimit a r hleft
  · rw [hset]
    exact processOr_eq beyond standard hlimit a r hleft

/-- In the cart the hint takes the place of the offer with four levels as with more.  With three a
dispatch is dropped: the offer's withdrawal has the queue processed, and loading the hint for that
would be the fourth. -/
theorem shopRunner_four_levels :
    shopRunner.process standard 4 (.setRoute "cart") =
        shopRunner.handle standard (.setRoute "cart") ∧
      (shopRunner.process standard 4 (.setRoute "cart")).session.modal = .loading hint ∧
      (shopRunner.process standard 3 (.setRoute "cart")).host.journal.contains
        (.errorLogged depthExceededText) = true := by
  obtain ⟨-, hsame, -⟩ := shopRunner.process_of_four_le (.setRoute "cart") (Nat.le_refl 4)
  exact ⟨hsame, by decide +kernel, by decide +kernel⟩

end InAppMessaging.Runner
