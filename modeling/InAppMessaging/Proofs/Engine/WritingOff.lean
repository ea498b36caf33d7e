import InAppMessaging.Proofs.Engine.Capping
import InAppMessaging.Proofs.Pipeline.WritingOff
import Mathlib.Logic.Relation

/-!
# Who writes a queue id off, over the lives of an app

A step takes the host through a number of turns: where the store takes an action, each of its
deeds is one; every other step is one by itself.  The stored text that says that a queue id is
written off appears at a turn of the store only, at a deed of a display or of a dismissal.
Catalogs, resets, launches, the clock and whatever else happens leave an absent text absent.

* `Engine.turns_lead` — the turns of a step lead from the host before it to the host after it;
* `Engine.written_off_in_turn` — **a queue id is written off by its last view or by a dismissal
  that its rule heeds**, and a broadcast only by a user who closes it.
-/

namespace InAppMessaging

open Pipeline

namespace Engine

variable {e : Engine} {k : StickyClass} {q : String} {h h' : Host}

/-! ## Turns -/

/-- In the course of a step, one host comes right after another.  Where the store takes an
action, every deed brings its own; otherwise the step brings one. -/
inductive Turns (e : Engine) : LifeStep → Host → Host → Prop
  | deed {before after : List (Deed Host)} {d : Deed Host}
      (hdeeds : e.deedsNext = before ++ d :: after) :
      Turns e .store (e.store.performAll before).host ((e.store.performAll before).perform d).host
  | step {step : LifeStep} (h : step = .store → e.deedsNext = []) :
      Turns e step e.host (e.after step).host

/-- The store performs the deeds of the action that it takes. -/
theorem host_stepStore_of_run {a : Action} {rest : List (Command Observed Host)}
    (hinbox : e.inbox = .run a :: rest) :
    e.stepStore.host = (e.store.performAll e.deedsNext).host := by
  have hdeeds : e.deedsNext = deeds e.stages maxDispatchDepth a e.session := by
    unfold deedsNext
    rw [hinbox]
  have hstep : e.stepStore.store = e.store.obey e.stages (.run a) := by
    unfold stepStore
    rw [hinbox]
  have hobey : e.store.obey e.stages (.run a) =
      e.store.performAll (deeds e.stages maxDispatchDepth a e.session) :=
    e.store.process_eq e.stages maxDispatchDepth a
  show e.stepStore.store.host = _
  rw [hstep, hobey, hdeeds]

/-- Only an action has deeds. -/
theorem inbox_of_deedsNext (hdeeds : e.deedsNext ≠ []) :
    ∃ a rest, e.inbox = .run a :: rest ∧
      e.deedsNext = deeds e.stages maxDispatchDepth a e.session := by
  unfold deedsNext at hdeeds ⊢
  split at hdeeds
  · next a rest hinbox => exact ⟨a, rest, hinbox, rfl⟩
  · exact absurd rfl hdeeds

/-- **The turns of a step lead from the host before it to the host after it.** -/
theorem turns_lead (e : Engine) (step : LifeStep) :
    Relation.ReflTransGen (e.Turns step) e.host (e.after step).host := by
  by_cases hstep : step = .store → e.deedsNext = []
  · exact .single (.step hstep)
  · obtain ⟨rfl, hdeeds⟩ := Classical.not_imp.mp hstep
    obtain ⟨a, rest, hinbox, -⟩ := inbox_of_deedsNext hdeeds
    -- the induction is on the deeds that are left, the others have been performed
    have hleft : ∀ todo done, done ++ todo = e.deedsNext → Relation.ReflTransGen (e.Turns .store)
        (e.store.performAll done).host (e.store.performAll e.deedsNext).host := by
      intro todo
      induction todo with
      | nil =>
          intro done hdone
          rw [← hdone, List.append_nil]
      | cons d todo ih =>
          intro done hdone
          have hnext := ih (done ++ [d]) ((List.append_assoc done [d] todo).trans hdone)
          rw [Runner.performAll_append] at hnext
          exact .head (.deed hdone.symm) hnext
    show Relation.ReflTransGen _ e.store.host e.stepStore.host
    rw [host_stepStore_of_run hinbox]
    exact hleft e.deedsNext [] rfl

/-! ## Turns without deeds -/

/-- **An answer writes nothing off.** -/
theorem offText?_apply (r : CatalogResponse) (habsent : e.host.offText? k q = none) :
    (e.apply r).host.offText? k q = none := by
  have hqueue : (queueAction e.session r e.host).2.offText? k q = none := by
    unfold queueAction
    cases r.outcome with
    | noContent => exact habsent
    | failed status => exact habsent
    | messages ms => exact offText?_gatherQueue habsent _ ms
  exact (Host.offText?_of_values (values_dispatchAll _ _)).trans hqueue

/-- **Nothing but an action writes a queue id off.** -/
theorem offText?_after (he : e.Settled) {step : LifeStep} (hkeeps : step.KeepsValues)
    (hdeeds : step = .store → e.deedsNext = []) (habsent : e.host.offText? k q = none) :
    (e.after step).host.offText? k q = none := by
  cases step with
  | answer r => exact offText?_apply r habsent
  | store =>
      refine (Host.offText?_of_values ?_).trans habsent
      show e.stepStore.host.values = e.host.values
      match hinbox : e.inbox with
      | [] =>
          unfold stepStore
          rw [hinbox]
      | .run a :: rest =>
          rw [host_stepStore_of_run hinbox, hdeeds rfl]
          rfl
      | .subscribe id watch :: rest =>
          unfold stepStore
          rw [hinbox]
          have hwatch := he.inbox (.subscribe id watch) (hinbox ▸ List.mem_cons_self)
          exact Subscriber.register_keeps hwatch id e.session e.host
      | .unsubscribe id :: rest =>
          unfold stepStore
          rw [hinbox]
          rfl
      | .barrier reached :: rest =>
          unfold stepStore
          rw [hinbox]
          exact he.inbox (.barrier reached) (hinbox ▸ List.mem_cons_self) e.store.host
  | _ => exact (Host.offText?_of_values (values_after hkeeps rfl nofun e)).trans habsent

/-! ## Turns of the store -/

/-- **A queue id is written off by its last view or by a dismissal that its rule heeds.**  In
whatever lives of an app, if at some turn the stored text is absent before and there after, the
store is taking an action, and the turn is a deed of a visit that displays a message of the
queue id whose stored rule allows one view, or takes one away whose stored rule heeds that
(`WritesOff`).  A broadcast is taken away by the action from outside, with both flags set. -/
theorem written_off_in_turn (he : e.Settled) {earlier : List LifeStep} {step : LifeStep}
    (hkeeps : ∀ other ∈ earlier ++ [step], other.KeepsValues)
    (hturn : (e.live earlier).Turns step h h') (habsent : h.offText? k q = none)
    (hoff : h'.offText? k q ≠ none) :
    step = .store ∧ h'.offText? k q = some "true" ∧
      ∃ a rest before d v, (e.live earlier).inbox = .run a :: rest ∧
        h = ((e.live earlier).store.performAll before).host ∧
        h' = (((e.live earlier).store.performAll before).perform d).host ∧
        WritesOffAt k q (e.live earlier).store a before d v := by
  obtain ⟨hearlier, hstep⟩ := List.forall_mem_append.mp hkeeps
  have hsettled : (e.live earlier).Settled := he.live hearlier
  cases hturn with
  | step hdeeds =>
      have hkept : step.KeepsValues := hstep step (List.mem_singleton_self step)
      exact absurd (offText?_after hsettled hkept hdeeds habsent) hoff
  | @deed before after d hdeeds =>
      have hsome : (e.live earlier).deedsNext ≠ [] := by
        rw [hdeeds]
        exact List.append_ne_nil_of_right_ne_nil _ (List.cons_ne_nil d after)
      obtain ⟨a, rest, hinbox, hnext⟩ := inbox_of_deedsNext hsome
      rw [hnext, hsettled.stages] at hdeeds
      obtain ⟨htext, v, hv⟩ := Runner.visit_of_writtenOff hsettled.subscribers hdeeds habsent hoff
      exact ⟨rfl, htext, a, rest, before, d, v, hinbox, rfl, rfl, hv⟩

/-- The turn at which a view is counted, which is logged before. -/
theorem turns_display {m : Message} {rest : List (Command Observed Host)}
    (hstages : e.stages = standard) (hinbox : e.inbox = .run (.display m) :: rest) :
    let logged := e.store.act (logView (.display m) m)
    e.Turns .store logged.host (logged.act (countDisplay m)).host := by
  have hdeeds : e.deedsNext = [.act (logView (.display m) m)] ++
      .act (countDisplay m) :: guarded e.session (landed (.display m)) := by
    unfold deedsNext
    rw [hinbox, hstages]
    exact deeds_standard 59 (.display m) e.session
  exact .deed hdeeds

/-- An offer for one view is about to be displayed. -/
def offeredOnce : List LifeStep :=
  [.store, .store] ++ greeted "ada" (offer 1) ++ [.store, .call (.display (offer 1))]

/-- When its view is counted the offer is written off. -/
theorem offeredOnce_written_off :
    let e := minuteEngine.live offeredOnce
    let logged := e.store.act (logView (.display (offer 1)) (offer 1))
    let counted := logged.act (countDisplay (offer 1))
    logged.host.offText? .broadcast "o" = none ∧
      logged.host.rule? .broadcast "o" = some ⟨1, 0, false⟩ ∧
      counted.host.offText? .broadcast "o" = some "true" ∧
      ∃ a rest before d v, e.inbox = .run a :: rest ∧
        logged.host = (e.store.performAll before).host ∧
        counted.host = ((e.store.performAll before).perform d).host ∧
        WritesOffAt .broadcast "o" e.store a before d v := by
  have hfair : ∀ step ∈ offeredOnce ++ [.store], step.KeepsValues := by
    simp only [offeredOnce, greeted, catalogOf, List.cons_append, List.nil_append,
      List.forall_mem_cons, LifeStep.KeepsValues, true_and]
    exact fun step h => absurd h List.not_mem_nil
  have hsettled := minuteEngine_settled.live (List.forall_mem_append.mp hfair).1
  have hinbox : (minuteEngine.live offeredOnce).inbox = [.run (.display (offer 1))] := rfl
  intro e logged counted
  obtain ⟨habsent, hrule, htext⟩ : logged.host.offText? .broadcast "o" = none ∧
      logged.host.rule? .broadcast "o" = some ⟨1, 0, false⟩ ∧
      counted.host.offText? .broadcast "o" = some "true" := by
    decide +kernel
  have hturn : e.Turns .store logged.host counted.host := turns_display hsettled.stages hinbox
  have hoff : counted.host.offText? .broadcast "o" ≠ none := by
    rw [htext]
    exact Option.some_ne_none "true"
  exact ⟨habsent, hrule, written_off_in_turn minuteEngine_settled hfair hturn habsent hoff |>.2⟩

end Engine

end InAppMessaging
