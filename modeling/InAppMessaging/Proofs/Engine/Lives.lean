import InAppMessaging.Engine.Surfaces
import InAppMessaging.Proofs.Engine.Beside
import InAppMessaging.Proofs.Pipeline.Counting
import InAppMessaging.Proofs.Pipeline.Shown

/-!
# The life of an app

An app is launched again and again over the same stored values.  In each of its lives the store
and the main thread take their steps, the app calls, answers to fetches are applied, and
connections bring what they bring, in any order.  `Engine.live` is what becomes of an engine, and
`Engine.tally` counts the displays on its way.

* `Engine.grows_after` — a step beside the store brings commands into the inbox, no more;
* `Engine.Settled.after` — a step leaves alone what it has no business with;
* `Engine.remembers_after`, `Engine.counted_stepStore` — **no step forgets a view, and a display
  that is counted adds one**;
* `Engine.counted_live` — the stored count is no less than the number of counted displays.
-/

namespace InAppMessaging

open Pipeline

/-- What may happen in the lives of an app. -/
inductive LifeStep where
  | store
  | poster
  | call (a : Action)
  | post (work : Work)
  | answer (r : CatalogResponse)
  | arrive (who : Reconnector) (c : Connection) (time : Nat) (arrival : Arrival)
  | subscribe (watch : Nat → Watch Observed Host)
  | unsubscribe (id : Nat)
  | barrier (reached : Host → Host)
  | elsewhere (change : Host → Host)
  | elapse (time : Nat)
  | stop
  | relaunch (client : ClientSettings) (host : Host)

/-- The store takes its next command. -/
def LifeStep.isStore : LifeStep → Bool
  | .store => true
  | _ => false

namespace Engine

/-- An engine that starts with nothing but the values that an earlier one stored. -/
def relaunch (client : ClientSettings) (host : Host) (e : Engine) : Engine :=
  { client, store := { session := {}, host := { host with storage := e.host.storage } } }

/-- The engine after a step. -/
def after (e : Engine) : LifeStep → Engine
  | .store => e.stepStore
  | .poster => e.stepPoster
  | .call a => e.dispatch a
  | .post work => e.post work
  | .answer r => e.apply r
  | .arrive who c time arrival => e.obeyAnswer who (c.onArrival time arrival)
  | .subscribe watch => (e.subscribe watch).2
  | .unsubscribe id => e.unsubscribe id
  | .barrier reached => e.send (.barrier reached)
  | .elsewhere change => e.onHost change
  | .elapse time => { e with time }
  | .stop => e.stopStore
  | .relaunch client host => e.relaunch client host

/-- The engine after steps. -/
def live (e : Engine) (steps : List LifeStep) : Engine := steps.foldl after e

theorem live_append (e : Engine) (steps others : List LifeStep) :
    e.live (steps ++ others) = (e.live steps).live others := List.foldl_append

/-! ## A store that stops -/

theorem inbox_stopStore (e : Engine) : e.stopStore.inbox = [] := by
  unfold stopStore
  dsimp only
  split <;> rfl

/-- A store that stops has lost its commands and is as it was otherwise. -/
theorem store_stopStore (e : Engine) :
    e.stopStore.stages = e.stages ∧ e.stopStore.session = e.session ∧
      e.stopStore.store.subscribers = e.store.subscribers := by
  unfold stopStore
  dsimp only
  split <;> exact ⟨rfl, rfl, rfl⟩

/-! ## Steps beside the store -/

end Engine

/-- A step happens beside the store, and of the commands that it sends something is known. -/
def LifeStep.Sends (P : Command Observed Host → Prop) (e : Engine) : LifeStep → Prop
  | .call a => P (.run a)
  | .answer r => ∀ a ∈ (applyAnswer e.session r e.host).1, P (.run a)
  | .arrive _ c time arrival =>
      ∀ a, ConnectionOrder.dispatch a ∈ (c.onArrival time arrival).orders → P (.run a)
  | .subscribe watch => ∀ id, P (.subscribe id (watch id))
  | .unsubscribe id => P (.unsubscribe id)
  | .barrier reached => P (.barrier reached)
  | .store | .stop | .relaunch _ _ => False
  | _ => True

namespace Engine

/-- **A step beside the store brings what it sends into the inbox, no more.** -/
theorem grows_after {P : Command Observed Host → Prop} {e : Engine} {step : LifeStep}
    (h : step.Sends P e) : Grows P e (e.after step) := by
  cases step with
  | store | stop | relaunch => exact h.elim
  | poster =>
      show Grows P e e.stepPoster
      unfold stepPoster
      split
      · exact .refl P e
      · exact .onHost P e _
  | call a => exact .send h e
  | post work => exact .onHost P e _
  | answer r => exact .apply h
  | arrive who c time arrival => exact .obeyAnswer h who e
  | subscribe watch => exact .subscribe h e
  | unsubscribe id => exact .send h e
  | barrier reached => exact .send h e
  | elsewhere change => exact .onHost P e change
  | elapse time => exact .idle rfl rfl rfl rfl rfl

/-! ## Counting displays -/

/-- The store is about to display a message of a queue id while somebody is known. -/
def displaysNext (k : StickyClass) (q : String) (e : Engine) : Bool :=
  match e.inbox with
  | .run (.display m) :: _ => account? m = some (k, q) && e.session.userToken?.isSome
  | _ => false

/-- And the view will be counted. -/
def viewsNext (k : StickyClass) (q : String) (e : Engine) : Bool :=
  e.displaysNext k q && e.host.counts k q

/-- How many steps of the store there are at which something is the case. -/
def tally (p : Engine → Bool) (e : Engine) : List LifeStep → Nat
  | [] => 0
  | step :: rest => (step.isStore && p e).toNat + (e.after step).tally p rest

/-- The deeds of the action that the store is about to take. -/
def deedsNext (e : Engine) : List (Deed Host) :=
  match e.inbox with
  | .run a :: _ => deeds e.stages maxDispatchDepth a e.session
  | _ => []

end Engine

/-! ## Stored values -/

/-- A command does nothing to the stored values but by the stages. -/
def Command.KeepsValues : Command Observed Host → Prop
  | .subscribe _ watch => watch.Keeps Host.values
  | .barrier reached => ∀ h, (reached h).values = h.values
  | _ => True

/-- A step does nothing to the stored values but by the store and by answers. -/
def LifeStep.KeepsValues : LifeStep → Prop
  | .subscribe watch => ∀ id, (watch id).Keeps Host.values
  | .barrier reached => ∀ h, (reached h).values = h.values
  | .elsewhere change => ∀ h, (change h).values = h.values
  | _ => True

namespace Host

theorem values_setChannel (h : Host) (next : Channel × List ChannelCall) :
    (h.setChannel next).values = h.values :=
  values_recordAll _ _

/-- Work for the main thread does not concern the stored values. -/
theorem values_perform (s : Session) (h : Host) (work : Work) :
    (h.perform s work).values = h.values := by
  cases work with
  | foreground | background | restart => exact values_setChannel _ _
  | realtimeChanged | identityChanged => exact values_setChannel _ _
  | tearDown => rfl
  | follow place state =>
      show (h.followView place state).values = h.values
      unfold followView
      split
      · rfl
      · exact values_recordAll _ _

theorem values_post (work : Work) (s : Session) (h : Host) :
    (h.post work s).values = h.values := by
  unfold post
  split
  · exact values_wake _ _
  · exact values_perform s h work

end Host

/-! ## The surfaces -/

namespace Watch

theorem realtimeFlag_keepsValues : Watch.realtimeFlag.Keeps Host.values :=
  fun _ _ s h => Host.values_post _ s h

theorem identification_keepsValues : Watch.identification.Keeps Host.values :=
  fun _ _ s h => Host.values_post _ s h

theorem stillShown_keepsValues (m : Message) : (Watch.stillShown m).Keeps Host.values := by
  intro last value s h
  unfold tellModal
  split
  · exact Host.values_post _ s h
  · rfl

theorem element_keepsValues (elementId : String) (place : Nat) :
    (Watch.element elementId place).Keeps Host.values := by
  intro last value s h
  show (tellInline elementId place s h).values = h.values
  unfold tellInline
  split
  · exact Host.values_post _ s h
  · rfl

end Watch

namespace Engine

/-! ## What a step leaves alone -/

/-- An engine with the standard pipeline, in which nothing but the stages and answers has
anything to do with the stored values. -/
structure Settled (e : Engine) : Prop where
  stages : e.stages = standard
  subscribers : e.store.Keeps Host.values
  inbox : ∀ c ∈ e.inbox, c.KeepsValues

namespace Settled

variable {e e' : Engine}

/-- An engine with nothing to do and no subscribers is settled. -/
theorem bare (client : ClientSettings) (host : Host) :
    Settled { client, store := { session := {}, host } } :=
  ⟨rfl, fun _ hu => absurd hu List.not_mem_nil, fun _ hc => absurd hc List.not_mem_nil⟩

theorem grows (h : e.Settled) (hgrows : Grows Command.KeepsValues e e') : e'.Settled := by
  obtain ⟨new, hinbox, hnew⟩ := hgrows.inbox
  refine ⟨hgrows.stages.trans h.stages, ?_, ?_⟩
  · intro u hu
    rw [hgrows.subscribers] at hu
    exact h.subscribers u hu
  · rw [hinbox]
    exact List.forall_mem_append.mpr ⟨h.inbox, hnew⟩

theorem subscribe {watch : Nat → Watch Observed Host} (h : e.Settled)
    (hwatch : ∀ id, (watch id).Keeps Host.values) : (e.subscribe watch).2.Settled :=
  h.grows (.subscribe hwatch e)

/-- The store carries out a command. -/
theorem stepStore (h : e.Settled) : e.stepStore.Settled := by
  obtain ⟨stages, client, store, inbox, running, time, subscriptions⟩ := e
  cases inbox with
  | nil => exact h
  | cons c rest =>
      obtain ⟨hc, hrest⟩ := List.forall_mem_cons.mp h.inbox
      refine ⟨h.stages, ?_, hrest⟩
      show (store.obey stages c).Keeps Host.values
      cases c with
      | run a =>
          have hdeeds : store.obey stages (.run a) = store.performAll _ :=
            store.process_eq stages maxDispatchDepth a
          rw [hdeeds]
          exact Runner.keeps_performAll h.subscribers _
      | subscribe id watch =>
          intro u hu
          rcases List.mem_append.mp hu with hold | hnew
          · exact h.subscribers u hold
          · have hwatch : u.watch = watch := by
              rw [List.mem_singleton.mp hnew]
              exact Subscriber.register_watch id watch store.session store.host
            rw [hwatch]
            exact hc
      | unsubscribe id => exact fun u hu => h.subscribers u (List.mem_filter.mp hu).1
      | barrier reached => exact h.subscribers

/-- **A step keeps an engine settled.** -/
theorem after (h : e.Settled) {step : LifeStep} (hstep : step.KeepsValues) :
    (e.after step).Settled := by
  cases step with
  | store => exact h.stepStore
  | stop =>
      obtain ⟨hstages, -, hsubscribers⟩ := e.store_stopStore
      refine ⟨hstages.trans h.stages, fun u hu => h.subscribers u (hsubscribers ▸ hu), ?_⟩
      show ∀ c ∈ e.stopStore.inbox, c.KeepsValues
      rw [inbox_stopStore]
      exact fun _ hc => absurd hc List.not_mem_nil
  | relaunch client host => exact .bare client _
  | answer | arrive => exact h.grows (grows_after fun _ _ => trivial)
  | subscribe | barrier => exact h.grows (grows_after hstep)
  | _ => exact h.grows (grows_after trivial)

/-- The watch over the realtime channel has no business with the stored values. -/
theorem watchChannel (h : e.Settled) : e.watchChannel.2.Settled :=
  (h.subscribe fun _ => Watch.realtimeFlag_keepsValues).subscribe
    fun _ => Watch.identification_keepsValues

/-- A modal surface has no business with the stored values. -/
theorem attachModal (h : e.Settled) (m : Message) : (e.attachModal m).2.Settled :=
  h.subscribe fun _ => Watch.stillShown_keepsValues m

/-- An inline element has no business with the stored values. -/
theorem attachInline (h : e.Settled) (elementId : String) :
    (e.attachInline elementId).2.Settled :=
  (h.grows (.onHost _ e _)).subscribe fun _ => Watch.element_keepsValues elementId _

end Settled

/-! ## Views are remembered -/

section Remembering

variable {e : Engine} {k : StickyClass} {q : String} {count : Nat}

theorem values_send (c : Command Observed Host) (e : Engine) :
    (e.send c).host.values = e.host.values := by
  unfold send
  split
  · exact Host.values_wake _ _
  · rfl

theorem values_dispatchAll (actions : List Action) (e : Engine) :
    (e.dispatchAll actions).host.values = e.host.values := by
  induction actions generalizing e with
  | nil => rfl
  | cons a rest ih => exact (ih (e.dispatch a)).trans (values_send _ e)

theorem values_stopStore (e : Engine) : e.stopStore.host.values = e.host.values := by
  unfold stopStore
  dsimp only
  split
  · exact Host.values_wake _ _
  · rfl

/-- What a connection has done does not concern the stored values. -/
theorem values_obeyAnswer (who : Reconnector) (answer : ConnectionAnswer) (e : Engine) :
    (e.obeyAnswer who answer).host.values = e.host.values := by
  have horder : ∀ (o : ConnectionOrder) (e : Engine),
      (e.obeyOrder who o).host.values = e.host.values := by
    intro o e
    cases o with
    | dispatch a => exact values_send _ e
    | reconnect =>
        cases who with
        | recorder => rfl
        | mainThread => exact Host.values_post _ _ _
    | logError text => rfl
  unfold obeyAnswer
  induction answer.orders generalizing e with
  | nil => rfl
  | cons o rest ih => exact (ih (e.obeyOrder who o)).trans (horder o e)

/-- An answer that offers the queue id changes no count. -/
theorem timesShown_apply {r : CatalogResponse}
    (hoffers : ∀ ms, r.outcome = .messages ms → Offers k q count ms) (e : Engine) :
    (e.apply r).host.timesShown k q = e.host.timesShown k q := by
  have hqueue : (queueAction e.session r e.host).2.timesShown k q = e.host.timesShown k q := by
    unfold queueAction
    cases houtcome : r.outcome with
    | noContent => rfl
    | failed status => rfl
    | messages ms => exact (hoffers ms houtcome).timesShown_gatherQueue _ e.host
  exact (Host.timesShown_of_values (values_dispatchAll _ _)).trans hqueue

/-- **The store forgets no view.** -/
theorem remembers_stepStore (h : e.Settled) : Host.Remembers k q e.host e.stepStore.host := by
  obtain ⟨stages, client, store, inbox, running, time, subscriptions⟩ := e
  cases inbox with
  | nil => exact Nat.le_refl _
  | cons c rest =>
      have hc := (List.forall_mem_cons.mp h.inbox).1
      show Host.Remembers k q store.host (store.obey stages c).host
      cases c with
      | run a =>
          have hdeeds : store.obey stages (.run a) =
              store.performAll (deeds stages maxDispatchDepth a store.session) :=
            store.process_eq stages maxDispatchDepth a
          have hstages : stages = standard := h.stages
          rw [hdeeds, hstages]
          refine Runner.performAll_respects h.subscribers (fun _ _ => Host.remembers_of_values)
            (fun _ _ _ => Nat.le_trans) ?_
          exact deeds_respect (fun _ _ => Nat.le_refl _) (standard_remembers k q) _ _ _
      | subscribe id watch =>
          exact Host.remembers_of_values (Subscriber.register_keeps hc id store.session store.host)
      | unsubscribe id => exact Nat.le_refl _
      | barrier reached => exact Host.remembers_of_values (hc store.host)

end Remembering

end Engine

/-- Whatever an answer brings, it offers the queue id. -/
def LifeStep.Offers (k : StickyClass) (q : String) (count : Nat) : LifeStep → Prop
  | .answer r => ∀ ms, r.outcome = .messages ms → InAppMessaging.Offers k q count ms
  | _ => True

namespace Engine

variable {e : Engine} {k : StickyClass} {q : String} {count : Nat}

/-- Only the store and answers have anything to do with the stored values. -/
theorem values_after {step : LifeStep} (hkeeps : step.KeepsValues) (hstore : step.isStore = false)
    (hanswer : ∀ r, step ≠ .answer r) (e : Engine) :
    (e.after step).host.values = e.host.values := by
  cases step with
  | store => exact nomatch hstore
  | poster =>
      show e.stepPoster.host.values = e.host.values
      unfold stepPoster
      split
      · rfl
      · exact Host.values_perform _ _ _
  | call a => exact values_send _ e
  | post work => exact Host.values_post work e.session e.host
  | answer r => exact absurd rfl (hanswer r)
  | arrive who c time arrival => exact values_obeyAnswer who _ e
  | subscribe watch => exact values_send _ _
  | unsubscribe id => exact values_send _ e
  | barrier reached => exact values_send _ e
  | elsewhere change => exact hkeeps e.host
  | elapse time => rfl
  | stop => exact values_stopStore e
  | relaunch client host => rfl

/-- **No step forgets a view.** -/
theorem remembers_after (h : e.Settled) {step : LifeStep} (hkeeps : step.KeepsValues)
    (hoffers : step.Offers k q count) : Host.Remembers k q e.host (e.after step).host := by
  cases step with
  | store => exact remembers_stepStore h
  | answer r => exact Nat.le_of_eq (timesShown_apply hoffers e).symm
  | _ => exact Host.remembers_of_values (values_after hkeeps rfl nofun e)

/-- A display forgets no view. -/
theorem remembers_displayDeeds (k : StickyClass) (q : String) (m : Message) (s : Session) :
    ∀ d ∈ displayDeeds m s, d.Respects (Host.Remembers k q) := by
  have hall := deeds_respect (fun _ _ => Nat.le_refl _) (standard_remembers k q)
    maxDispatchDepth (.display m) s
  rw [show deeds standard maxDispatchDepth (.display m) s = displayDeeds m s from
    deeds_standard 59 _ _] at hall
  exact hall

/-- **A display that is counted adds one** to the stored count. -/
theorem counted_stepStore (h : e.Settled) (hview : e.viewsNext k q = true) :
    min (e.host.timesShown k q + 1) Text.maxWord32 ≤ e.stepStore.host.timesShown k q := by
  obtain ⟨hdisplay, hcounts⟩ := Bool.and_eq_true_iff.mp hview
  obtain ⟨stages, client, store, inbox, running, time, subscriptions⟩ := e
  unfold displaysNext at hdisplay
  split at hdisplay
  · next m rest hinbox =>
      change inbox = _ at hinbox
      subst hinbox
      obtain ⟨hm, htoken⟩ := Bool.and_eq_true_iff.mp hdisplay
      have hstages : stages = standard := h.stages
      have hdeeds : store.obey stages (.run (.display m)) =
          store.performAll (displayDeeds m store.session) := by
        rw [hstages]
        exact handle_standard (.display m) store
      -- the first deed only records, so the view is still counted when the second is done
      have hlogged := (counts_logView k q (.display m) m store.session store.host).trans hcounts
      have hcounted := Host.timesShown_countDisplay (of_decide_eq_true hm)
        (Option.isSome_iff_ne_none.mp htoken) hlogged
      rw [timesShown_logView] at hcounted
      show _ ≤ (store.obey stages (.run (.display m))).host.timesShown k q
      rw [hdeeds]
      refine Nat.le_trans (Nat.le_of_eq hcounted.symm) ?_
      have hrespects := remembers_displayDeeds k q m store.session
      have hrest := (List.forall_mem_cons.mp (List.forall_mem_cons.mp hrespects).2).2
      have hkeeps := Runner.keeps_performAll h.subscribers
        [.act (logView (.display m) m), .act (countDisplay m)]
      exact Runner.performAll_respects hkeeps (fun _ _ => Host.remembers_of_values)
        (fun _ _ _ => Nat.le_trans) hrest
  · exact absurd hdisplay Bool.false_ne_true

/-- **The stored count is no less than the number of counted displays**, as far as a 32-bit
number can hold it. -/
theorem counted_live (h : e.Settled) {steps : List LifeStep}
    (hkeeps : ∀ step ∈ steps, step.KeepsValues) (hoffers : ∀ step ∈ steps, step.Offers k q count) :
    min (e.host.timesShown k q + e.tally (viewsNext k q) steps) Text.maxWord32 ≤
      (e.live steps).host.timesShown k q := by
  induction steps generalizing e with
  | nil => exact Nat.min_le_left _ _
  | cons step rest ih =>
      obtain ⟨hstep, hrest⟩ := List.forall_mem_cons.mp hkeeps
      obtain ⟨hoffer, hothers⟩ := List.forall_mem_cons.mp hoffers
      have hlater := ih (h.after hstep) hrest hothers
      have hfirst : min (e.host.timesShown k q + (step.isStore && e.viewsNext k q).toNat)
          Text.maxWord32 ≤ (e.after step).host.timesShown k q := by
        cases hcase : step.isStore && e.viewsNext k q with
        | false =>
            have hremembers := remembers_after h hstep hoffer
            exact Nat.le_trans (Nat.min_le_left _ _) hremembers
        | true =>
            obtain ⟨hstore, hview⟩ := Bool.and_eq_true_iff.mp hcase
            cases step with
            | store => exact counted_stepStore h hview
            | _ => exact absurd hstore Bool.false_ne_true
      show min (e.host.timesShown k q + ((step.isStore && e.viewsNext k q).toNat +
        (e.after step).tally (viewsNext k q) rest)) _ ≤
          ((e.after step).live rest).host.timesShown k q
      omega

/-- The engine stays settled. -/
theorem Settled.live (h : e.Settled) {steps : List LifeStep}
    (hkeeps : ∀ step ∈ steps, step.KeepsValues) : (e.live steps).Settled := by
  induction steps generalizing e with
  | nil => exact h
  | cons step rest ih =>
      obtain ⟨hstep, hrest⟩ := List.forall_mem_cons.mp hkeeps
      exact ih (h.after hstep) hrest

end Engine

end InAppMessaging
