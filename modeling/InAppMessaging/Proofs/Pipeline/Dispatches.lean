import InAppMessaging.Proofs.Pipeline.Supply
import InAppMessaging.Proofs.Store.Visits

/-!
# What the standard pipeline dispatches

Each stage dispatches only what nests less deep than the action it handles, so with enough
levels left nothing is ever dropped.  On behalf of a queue the pipeline dispatches the picks of
selection, and reports; on behalf of those, reports.

* `dispatchesThrough_processQueue` — what is dispatched on behalf of a queue;
* `depth_le_of_mem_visits` — no visit exceeds the levels it has left;
* `nested_processQueue_bring` — **nothing that is dispatched on behalf of a queue brings more
  than its candidates**.
-/

namespace InAppMessaging.Pipeline

variable {s : Session} {ms : List Message} {a : Action}

/-! ## What a queue dispatches -/

section Dispatches

variable {dispatch : Action → Session → List (Deed Host)} {rest : List (Stage Host)}
  {stage : Stage Host}

theorem dispatchesThrough_forwardOnly (h : stage.handle a = .forwardOnly a) (s : Session) :
    dispatchesThrough dispatch (stage :: rest) a s = dispatchesThrough dispatch rest a s := by
  simp only [dispatchesThrough, h, Program.forwardOnly, Program.dispatches, Program.deeds,
    failureDispatches, List.append_nil]

/-- Stages that have nothing to do with an action dispatch nothing for it. -/
theorem dispatchesThrough_passes {stages : List (Stage Host)} (h : Passes stages a)
    (s : Session) :
    dispatchesThrough dispatch (stages ++ rest) a s = dispatchesThrough dispatch rest a s := by
  induction stages with
  | nil => rfl
  | cons stage stages ih =>
      rw [List.cons_append, dispatchesThrough_forwardOnly (h stage List.mem_cons_self)]
      exact ih fun other hother => h other (List.mem_cons_of_mem stage hother)

/-- Without an identity the guard dispatches a report, and nobody behind it anything. -/
theorem dispatchesThrough_identityGuard (h : isPreparation a = false) (s : Session) :
    dispatchesThrough dispatch (identityGuard :: rest) a s =
      if s.hasIdentity then dispatchesThrough dispatch rest a s
      else [(.reportError noUserText, s)] := by
  cases hs : s.hasIdentity <;>
    simp [dispatchesThrough, identityGuard, h, hs, Program.forwardOnly, Program.dispatches,
      Program.deeds, failureDispatches]

/-- A selection is embedded and loaded. -/
theorem sends_picked (messages : List Message) (picked : Option Message) :
    (embedThen messages (loadIfFree picked)).Sends
      (fun b => b = .embed messages ∨ ∃ m, picked = some m ∧ b = .present m)
      fun _ => False := by
  have hload : (loadIfFree picked).Sends
      (fun b => b = .embed messages ∨ ∃ m, picked = some m ∧ b = .present m)
      fun _ => False := by
    cases picked with
    | none => trivial
    | some m =>
        intro s
        show (if s.modal.isActive then Program.done else .dispatch (.present m) .done).Sends _ _
        split
        · trivial
        · exact ⟨Or.inr ⟨m, rfl, rfl⟩, trivial⟩
  unfold embedThen
  split
  · exact hload
  · exact ⟨Or.inl rfl, hload⟩

/-- On behalf of a queue nothing is dispatched but by selection, or by the guard. -/
theorem dispatchesThrough_queue (ms : List Message) (s : Session) :
    dispatchesThrough dispatch standard (.processQueue ms) s =
      if s.hasIdentity then dispatchesThrough dispatch [selecting, listening] (.processQueue ms) s
      else [(.reportError noUserText, s)] := by
  have hhead : Passes [watching, errorReporting, accounting, activation] (.processQueue ms) :=
    passes_cons rfl <| passes_cons rfl <| passes_cons rfl <| passes_cons rfl passes_nil
  show dispatchesThrough dispatch ([watching, errorReporting, accounting, activation] ++
    identityGuard :: navigation :: [selecting, listening]) (.processQueue ms) s = _
  rw [dispatchesThrough_passes hhead, dispatchesThrough_identityGuard rfl,
    dispatchesThrough_forwardOnly rfl]

/-- On behalf of a queue nothing is dispatched but what was selected, or a report. -/
theorem dispatchesThrough_processQueue (ms : List Message) (s : Session) :
    ∀ c ∈ dispatchesThrough dispatch standard (.processQueue ms) s,
      c.1 = .reportError noUserText ∨ c.1 = .embed (s.select ms).inline ∨
        ∃ m, (s.select ms).modal = some m ∧ c.1 = .present m := by
  intro c hc
  rw [dispatchesThrough_queue] at hc
  by_cases hidentity : s.hasIdentity = true
  · rw [if_pos hidentity] at hc
    cases ms with
    | nil => exact absurd hc List.not_mem_nil
    | cons first others =>
        have hselecting : (Program.forward (.processQueue (s.select (first :: others)).queue)
            (embedThen (s.select (first :: others)).inline
              (loadIfFree (s.select (first :: others)).modal))).Sends
            (fun b => b = .embed (s.select (first :: others)).inline ∨
              ∃ m, (s.select (first :: others)).modal = some m ∧ b = .present m)
            fun _ => True :=
          ⟨trivial, (sends_picked _ _).mono (fun _ h => h) fun _ h => h.elim⟩
        exact Or.inr (dispatchesThrough_stage hselecting rfl rfl
          (fun a s _ c hc => absurd hc List.not_mem_nil) c hc)
  · rw [if_neg hidentity] at hc
    obtain rfl := List.mem_singleton.mp hc
    exact Or.inl rfl

end Dispatches

/-! ## How dispatches nest -/

/-- How deep the dispatches on behalf of an action nest, itself included. -/
def depth : Action → Nat
  | .reportError _ => 1
  | .processQueue _ => 3
  | .dismiss .. => 4
  | .setRoute _ => 5
  | _ => 2

/-- An action that nests no deeper than itself is a report. -/
theorem isErrorReport_of_depth (h : depth a < 2) : ∃ text, a = .reportError text := by
  cases a with
  | reportError text => exact ⟨text, rfl⟩
  | _ => exact absurd h (by simp [depth])

/-- A program dispatches what nests less deep than an action, and forwards the action itself, or
one of its kind. -/
def NestsWithin (a : Action) (p : Program Host) : Prop :=
  p.Sends (fun b => depth b < depth a) fun b => depth b ≤ depth a ∧ (depth a ≤ 2 → b = a)

theorem nestsWithin_forwardOnly (a : Action) : NestsWithin a (.forwardOnly a) :=
  ⟨⟨Nat.le_refl _, fun _ => rfl⟩, trivial⟩

/-- A dismissal has the queue processed once more. -/
theorem nestsWithin_accounting (a : Action) : NestsWithin a (accounting.handle a) := by
  simp only [accounting]
  split
  · exact nestsWithin_forwardOnly _
  · refine ⟨⟨Nat.le_refl _, fun _ => rfl⟩, fun s => ?_⟩
    unfold pickNext
    split
    · exact ⟨by simp [depth], trivial⟩
    · trivial
  · exact nestsWithin_forwardOnly _

/-- A message that the surface is not free for is reported. -/
theorem nestsWithin_activation (a : Action) : NestsWithin a (activation.handle a) := by
  simp only [activation]
  split
  · split
    · exact nestsWithin_forwardOnly _
    · intro s
      dsimp only
      split
      · exact ⟨by simp [depth], trivial⟩
      · exact nestsWithin_forwardOnly _
  · exact nestsWithin_forwardOnly _

/-- Whatever comes without an identity is reported, unless it is a report. -/
theorem nestsWithin_identityGuard (a : Action) : NestsWithin a (identityGuard.handle a) := by
  simp only [identityGuard]
  split
  · exact nestsWithin_forwardOnly _
  · next hpreparation =>
      intro s
      dsimp only
      split
      · exact nestsWithin_forwardOnly _
      · refine ⟨?_, trivial⟩
        cases a with
        | reportError text => exact absurd rfl hpreparation
        | _ => simp [depth]

/-- A new route may have a message withdrawn, and has the queue processed once more. -/
theorem nestsWithin_navigation (a : Action) : NestsWithin a (navigation.handle a) := by
  have hreselect : ∀ route, NestsWithin (.setRoute route) reselect :=
    fun route s => ⟨by simp [depth], trivial⟩
  simp only [navigation]
  split
  · refine ⟨⟨Nat.le_refl _, fun _ => rfl⟩, fun s => ?_⟩
    dsimp only
    split
    · split
      · exact hreselect _
      · exact ⟨by simp [depth, Action.withdraw], hreselect _⟩
    · exact hreselect _
  · exact nestsWithin_forwardOnly _

/-- What was selected from a queue is embedded and loaded. -/
theorem nestsWithin_selecting (a : Action) : NestsWithin a (selecting.handle a) := by
  simp only [selecting]
  split
  · intro s
    refine ⟨⟨Nat.le_refl _, fun h => absurd h (by simp [depth])⟩, ?_⟩
    refine (sends_picked _ _).mono (fun b hb => ?_) fun _ h => h.elim
    rcases hb with rfl | ⟨m, -, rfl⟩
    · simp [depth]
    · simp [depth, Action.present]
  · exact nestsWithin_forwardOnly _

/-- **Every stage dispatches what nests less deep than the action it handles.** -/
theorem nestsWithin_handle :
    ∀ stage ∈ standard, ∀ a, NestsWithin a (stage.handle a) := by
  intro stage hs a
  simp only [standard, List.mem_cons, List.not_mem_nil, or_false] at hs
  rcases hs with rfl | rfl | rfl | rfl | rfl | rfl | rfl | rfl
  · exact nestsWithin_forwardOnly a
  · simp only [errorReporting]
    split
    · exact nestsWithin_forwardOnly _
    · exact nestsWithin_forwardOnly _
  · exact nestsWithin_accounting a
  · exact nestsWithin_activation a
  · exact nestsWithin_identityGuard a
  · exact nestsWithin_navigation a
  · exact nestsWithin_selecting a
  · exact ⟨⟨Nat.le_refl _, fun _ => rfl⟩, trivial⟩

/-- What is dispatched on an action's way nests less deep than the action. -/
theorem depth_lt_of_dispatched {dispatch : Action → Session → List (Deed Host)} (a : Action)
    (s : Session) : ∀ c ∈ dispatchesThrough dispatch standard a s, depth c.1 < depth a := by
  have hstages : ∀ stage ∈ standard, ∀ b, depth b ≤ depth a →
      (stage.handle b).Sends (fun c => depth c < depth a) fun c => depth c ≤ depth a := by
    intro stage hstage b hb
    refine (nestsWithin_handle stage hstage b).mono (fun c hc => ?_) fun c hc => ?_
    · exact Nat.lt_of_lt_of_le hc hb
    · exact Nat.le_trans hc.1 hb
  exact dispatchesThrough_sends hstages a (Nat.le_refl _) s

/-- No dispatch is dropped for its depth. -/
theorem depth_le_of_mem_visits {levels : Nat} (hlevels : depth a ≤ levels) :
    ∀ v ∈ visits standard levels a s, depth v.action ≤ v.levels := by
  intro v hv
  have hrank := visits_rank_le standard (fun a _ => depth a)
    (fun _ a s => depth_lt_of_dispatched a s) levels a s v hv
  omega

/-- **On behalf of a queue nothing is dispatched that brings anything but its candidates.** -/
theorem nested_processQueue_bring {up queued : Message → Bool}
    (h : ∀ m ∈ candidates ms s.shown, up m = true) (levels : Nat) :
    ∀ v ∈ (Visit.mk levels (.processQueue ms) s).nested standard, v.action.Brings up queued := by
  have hstages : ∀ stage ∈ standard, ∀ a, a.Brings up queued ∧ depth a ≤ 2 →
      (stage.handle a).Sends (fun b => b.Brings up queued ∧ depth b ≤ 2)
        fun b => b.Brings up queued ∧ depth b ≤ 2 := by
    intro stage hstage a ha
    refine (nestsWithin_handle stage hstage a).mono (fun b hb => ?_) fun b hb => ?_
    · obtain ⟨text, rfl⟩ := isErrorReport_of_depth (Nat.lt_of_lt_of_le hb ha.2)
      exact ⟨trivial, by simp [depth]⟩
    · rw [hb.2 ha.2]
      exact ha
  intro v hv
  unfold Visit.nested at hv
  cases levels with
  | zero => exact absurd hv List.not_mem_nil
  | succ levels =>
      obtain ⟨c, hc, hv⟩ := List.mem_flatMap.mp hv
      have hfirst : c.1.Brings up queued ∧ depth c.1 ≤ 2 := by
        rcases dispatchesThrough_processQueue ms s c hc with hreport | hembed | ⟨m, hm, hload⟩
        · rw [hreport]
          exact ⟨trivial, by simp [depth]⟩
        · rw [hembed]
          exact ⟨fun m hm => h m (mem_candidates_of_inline hm), by simp [depth]⟩
        · rw [hload]
          exact ⟨h m (mem_candidates_of_modal hm), by simp [depth, Action.present]⟩
      exact (visits_sends hstages levels c.1 c.2 hfirst v hv).1

end InAppMessaging.Pipeline
