import InAppMessaging.Engine.App
import InAppMessaging.Proofs.Engine.Lives

/-!
# The course that an engine takes

What is proved of every life holds of the course that an engine takes by itself: its turns, the
hours of its poller and what it does while it listens to a connection are steps of a life, in
one particular order.

* `Engine.becomes_settle`, `Engine.becomes_passTo` — **an engine that is left alone lives on**,
  and nobody calls meanwhile;
* `Engine.time_waitUntil` — the clock stands where an engine has waited to, since nothing else
  moves it;
* `Engine.becomes_listen` — **an engine that listens to a connection lives on**, and nothing
  happens meanwhile but that and what arrives;
* `Engine.Settled.settle`, `Engine.Settled.listen` — so a settled engine stays settled;
* `App.launch_settled` — and the engine of every app is settled at its launch.
-/

namespace InAppMessaging

/-! ## Steps that nobody asks for -/

/-- What happens by itself at once: nobody calls, nothing arrives, no app is launched or stopped,
and no time passes. -/
def LifeStep.IsPrompt : LifeStep → Prop
  | .store | .poster | .post _ | .answer _ => True
  | .barrier reached => ∀ h, (reached h).values = h.values
  | .elsewhere change => ∀ h, (change h).values = h.values
  | _ => False

/-- What happens by itself, at once or as time passes. -/
def LifeStep.IsOwn : LifeStep → Prop
  | .elapse _ => True
  | step => step.IsPrompt

/-- What happens by itself or arrives over a connection. -/
def LifeStep.IsHeard : LifeStep → Prop
  | .arrive _ _ _ _ => True
  | step => step.IsOwn

theorem LifeStep.IsPrompt.isOwn {step : LifeStep} (h : step.IsPrompt) : step.IsOwn := by
  cases step <;> first | exact h | trivial

theorem LifeStep.IsOwn.isHeard {step : LifeStep} (h : step.IsOwn) : step.IsHeard := by
  cases step <;> first | exact h | trivial

theorem LifeStep.IsPrompt.isHeard {step : LifeStep} (h : step.IsPrompt) : step.IsHeard :=
  h.isOwn.isHeard

/-- What happens by itself or arrives leaves the stored values to the store and to answers. -/
theorem LifeStep.IsHeard.keepsValues {step : LifeStep} (h : step.IsHeard) :
    step.KeepsValues := by
  cases step <;> first | exact h | trivial

namespace Host

theorem values_rest (t : Task) (h : Host) : (h.rest t).values = h.values := rfl

theorem values_rouse (h : Host) : h.rouse.values = h.values := rfl

end Host

namespace Engine

/-- One engine becomes another by steps of a life, about which something is known. -/
def Becomes (P : LifeStep → Prop) (e e' : Engine) : Prop :=
  ∃ steps : List LifeStep, (∀ step ∈ steps, P step) ∧ e.live steps = e'

namespace Becomes

variable {P Q : LifeStep → Prop} {e e' e'' : Engine}

theorem refl (P : LifeStep → Prop) (e : Engine) : e.Becomes P e :=
  ⟨[], fun _ h => absurd h List.not_mem_nil, rfl⟩

theorem trans (h : e.Becomes P e') (h' : e'.Becomes P e'') : e.Becomes P e'' := by
  obtain ⟨steps, hsteps, rfl⟩ := h
  obtain ⟨others, hothers, rfl⟩ := h'
  exact ⟨steps ++ others, List.forall_mem_append.mpr ⟨hsteps, hothers⟩, live_append e steps others⟩

theorem mono (h : e.Becomes P e') (hPQ : ∀ step, P step → Q step) : e.Becomes Q e' := by
  obtain ⟨steps, hsteps, rfl⟩ := h
  exact ⟨steps, fun step hstep => hPQ step (hsteps step hstep), rfl⟩

end Becomes

theorem becomes_after {P : LifeStep → Prop} (step : LifeStep) (h : P step) (e : Engine) :
    e.Becomes P (e.after step) :=
  ⟨[step], List.forall_mem_singleton.mpr h, rfl⟩

/-- A change elsewhere, which has nothing to do with the stored values. -/
theorem becomes_onHost (change : Host → Host) (h : ∀ host, (change host).values = host.values)
    (e : Engine) : e.Becomes LifeStep.IsPrompt (e.onHost change) :=
  becomes_after (.elsewhere change) h e

/-! ## The poller -/

theorem becomes_setPhase (phase : PollerPhase) (e : Engine) :
    e.Becomes LifeStep.IsPrompt (e.setPhase phase) :=
  becomes_onHost (fun h => { h with poller := { h.poller with phase } }) (fun _ => rfl) e

theorem becomes_restPoller (e : Engine) : e.Becomes LifeStep.IsPrompt e.restPoller :=
  becomes_onHost (fun h => { h with poller := h.poller.rest (e.time + e.session.pollInterval) })
    (fun _ => rfl) e

theorem becomes_fetch (e : Engine) : e.Becomes LifeStep.IsPrompt e.fetch := by
  unfold fetch
  split
  · exact e.becomes_restPoller
  · next r _ =>
      exact (becomes_onHost _ (Host.values_record (.fetched r)) e).trans (becomes_setPhase _ _)

theorem becomes_receive (e : Engine) : e.Becomes LifeStep.IsPrompt e.receive := by
  have hnext : e.Becomes LifeStep.IsPrompt (e.onHost fun _ => e.host.nextAnswer.2) := by
    have htail : e.host.nextAnswer.2 = { e.host with answers := e.host.answers.tail } := by
      unfold Host.nextAnswer
      cases hanswers : e.host.answers with
      | nil =>
          show e.host = { e.host with answers := [] }
          rw [← hanswers]
      | cons answer rest => rfl
    rw [htail]
    exact becomes_onHost (fun h => { h with answers := h.answers.tail }) (fun _ => rfl) e
  unfold receive
  dsimp only
  split
  · next r _ => exact hnext.trans (becomes_after (.answer r) trivial _)
  · exact hnext

/-- **The steps of the poller are made up of steps of a life.** -/
theorem becomes_stepPoller (e : Engine) : e.Becomes LifeStep.IsPrompt e.stepPoller := by
  unfold stepPoller
  split
  · exact .refl _ e
  · exact .refl _ e
  · split
    · have hbarrier : LifeStep.IsPrompt (.barrier (·.wake .poller)) := Host.values_wake .poller
      exact (becomes_setPhase _ e).trans (becomes_after _ hbarrier _)
    · exact e.becomes_fetch
  · exact e.becomes_fetch
  · exact e.becomes_receive.trans (becomes_restPoller _)

/-! ## Turns -/

theorem becomes_turnStore (n : Nat) (e : Engine) : e.Becomes LifeStep.IsPrompt (e.turnStore n) := by
  induction n generalizing e with
  | zero => exact becomes_onHost _ (Host.values_rest .store) e
  | succ n ih =>
      unfold turnStore
      split
      · exact .refl _ e
      · exact (becomes_after .store trivial e).trans (ih _)

theorem becomes_turnPoster (n : Nat) (e : Engine) :
    e.Becomes LifeStep.IsPrompt (e.turnPoster n) := by
  induction n generalizing e with
  | zero => exact becomes_onHost _ (Host.values_rest .poster) e
  | succ n ih =>
      unfold turnPoster
      split
      · exact .refl _ e
      · exact (becomes_after .poster trivial e).trans (ih _)

theorem becomes_turnPoller (n : Nat) (e : Engine) :
    e.Becomes LifeStep.IsPrompt (e.turnPoller n) := by
  induction n generalizing e with
  | zero => exact .refl _ e
  | succ n ih =>
      unfold turnPoller
      dsimp only
      split
      · exact e.becomes_stepPoller.trans (ih _)
      · exact e.becomes_stepPoller

theorem becomes_turn (t : Task) (e : Engine) : e.Becomes LifeStep.IsPrompt (e.turn t) := by
  cases t with
  | store => exact e.becomes_turnStore _
  | poster => exact e.becomes_turnPoster _
  | poller => exact e.becomes_turnPoller _

theorem becomes_giveTurns (n : Nat) (e : Engine) : e.Becomes LifeStep.IsPrompt (e.giveTurns n) := by
  induction n generalizing e with
  | zero => exact .refl _ e
  | succ n ih =>
      unfold giveTurns
      split
      · next t rest _ =>
          have hready : e.Becomes LifeStep.IsPrompt (e.onHost fun h => { h with ready := rest }) :=
            becomes_onHost (fun h => { h with ready := rest }) (fun _ => rfl) e
          exact (hready.trans (becomes_turn t _)).trans (ih _)
      · split
        · exact .refl _ e
        · exact (becomes_onHost _ Host.values_rouse e).trans (ih _)

/-- **An engine that is left alone lives on.** -/
theorem becomes_settle (e : Engine) : e.Becomes LifeStep.IsPrompt e.settle :=
  e.becomes_giveTurns _

/-! ## Time -/

theorem becomes_ring (e : Engine) : e.Becomes LifeStep.IsPrompt e.ring := by
  unfold ring
  split
  · split
    · exact (becomes_setPhase _ _).trans (becomes_onHost _ (Host.values_wake .poller) _)
    · exact .refl _ _
  · exact .refl _ _

theorem becomes_setTime (time : Nat) (e : Engine) :
    e.Becomes LifeStep.IsOwn (e.setTime time) :=
  (becomes_after (.elapse time) trivial e).trans
    ((becomes_ring { e with time }).mono fun _ => LifeStep.IsPrompt.isOwn)

/-- **An engine for which time passes lives on.** -/
theorem becomes_passTo (moment n : Nat) (e : Engine) :
    e.Becomes LifeStep.IsOwn (e.passTo moment n) := by
  induction n generalizing e with
  | zero => exact e.becomes_setTime moment
  | succ n ih =>
      unfold passTo
      dsimp only
      refine (e.becomes_settle.mono fun _ => LifeStep.IsPrompt.isOwn).trans ?_
      split
      · split
        · exact (becomes_setTime _ _).trans (ih _)
        · exact becomes_setTime _ _
      · exact becomes_setTime _ _

/-! ## The clock -/

theorem time_send (c : Command Observed Host) (e : Engine) : (e.send c).time = e.time := by
  unfold send
  split <;> rfl

/-- What none of several things does to the clock they do not do together. -/
theorem time_foldl {α : Type} {act : Engine → α → Engine} (h : ∀ e x, (act e x).time = e.time)
    (xs : List α) (e : Engine) : (xs.foldl act e).time = e.time := by
  induction xs generalizing e with
  | nil => rfl
  | cons x rest ih => exact (ih (act e x)).trans (h e x)

theorem time_stepStore (e : Engine) : e.stepStore.time = e.time := by
  unfold stepStore
  split <;> rfl

theorem time_stepPoster (e : Engine) : e.stepPoster.time = e.time := by
  unfold stepPoster
  split <;> rfl

/-- What happens at once takes no time. -/
theorem time_after {step : LifeStep} (h : step.IsPrompt) (e : Engine) :
    (e.after step).time = e.time := by
  cases step with
  | store => exact e.time_stepStore
  | poster => exact e.time_stepPoster
  | post work => rfl
  | answer r => exact time_foldl (fun e a => time_send (.run a) e) _ _
  | barrier reached => exact time_send _ e
  | elsewhere change => rfl
  | _ => exact h.elim

theorem Becomes.time_eq {e e' : Engine} (h : e.Becomes LifeStep.IsPrompt e') :
    e'.time = e.time := by
  obtain ⟨steps, hsteps, rfl⟩ := h
  induction steps generalizing e with
  | nil => rfl
  | cons step rest ih =>
      obtain ⟨hstep, hrest⟩ := List.forall_mem_cons.mp hsteps
      exact (ih hrest).trans (time_after hstep e)

theorem time_setTime (time : Nat) (e : Engine) : (e.setTime time).time = time :=
  (becomes_ring { e with time }).time_eq

/-- **Time passes up to the moment**, however often the poller wakes on the way. -/
theorem time_passTo (moment n : Nat) (e : Engine) : (e.passTo moment n).time = moment := by
  induction n generalizing e with
  | zero => exact time_setTime moment e
  | succ n ih =>
      unfold passTo
      dsimp only
      split
      · split
        · exact ih _
        · exact time_setTime moment _
      · exact time_setTime moment _

theorem time_waitUntil {moment : Nat} {e : Engine} (h : e.time ≤ moment) :
    (e.waitUntil moment).time = moment := by
  unfold waitUntil
  split
  · next hcome => exact Nat.le_antisymm h hcome
  · exact time_passTo _ _ e

/-- Orders of a connection are carried out at once. -/
theorem time_obeyAnswer (who : Reconnector) (answer : ConnectionAnswer) (e : Engine) :
    (e.obeyAnswer who answer).time = e.time := by
  refine time_foldl (fun e order => ?_) answer.orders e
  cases order with
  | dispatch a => exact time_send (.run a) e
  | reconnect => cases who <;> rfl
  | logError text => rfl

/-! ## Connections -/

theorem becomes_waitUntil (moment : Nat) (e : Engine) :
    e.Becomes LifeStep.IsHeard (e.waitUntil moment) := by
  unfold waitUntil
  split
  · exact .refl _ e
  · exact (e.becomes_passTo _ _).mono fun _ => LifeStep.IsOwn.isHeard

/-- Whoever is asked to reconnect is told. -/
theorem becomes_reconnect {answer : ConnectionAnswer} (horders : answer.orders = [.reconnect])
    (who : Reconnector) (e : Engine) : e.Becomes LifeStep.IsHeard (e.obeyAnswer who answer) := by
  unfold obeyAnswer
  rw [horders]
  cases who with
  | recorder =>
      exact (becomes_onHost _ (Host.values_record .reconnectAsked) e).mono
        fun _ => LifeStep.IsPrompt.isHeard
  | mainThread => exact becomes_after (.post .restart) trivial e

variable {l : Listening}

theorem becomes_interrupt (what : Interruption) (c : Connection) (e : Engine) :
    e.Becomes LifeStep.IsHeard (interrupt l c e what).engine := by
  cases what with
  | silence => exact becomes_reconnect rfl _ _
  | cancelled => exact .refl _ _
  | givenUp => exact .refl _ _

theorem becomes_awaitRetry (c : Connection) (delay : Nat) (e : Engine) :
    e.Becomes LifeStep.IsHeard (awaitRetry l c delay e).engine := by
  unfold awaitRetry
  dsimp only
  split
  · split
    · exact (becomes_waitUntil _ e).trans (becomes_interrupt _ _ _)
    · exact (becomes_waitUntil _ e).trans (becomes_reconnect rfl _ _)
  · exact .refl _ e

theorem becomes_arrive (arrival : Arrival) (who : Reconnector) (c : Connection) (time : Nat)
    (e : Engine) : e.Becomes LifeStep.IsHeard (e.obeyAnswer who (c.onArrival time arrival)) :=
  becomes_after (.arrive who c time arrival) trivial e

theorem becomes_endWith (c : Connection) (f : ChannelFailure) (e : Engine) :
    e.Becomes LifeStep.IsHeard (endWith l c f e).engine := by
  have harrive := e.becomes_arrive (.error f) l.reconnector c 0
  unfold endWith
  dsimp only
  split
  · exact harrive.trans (becomes_awaitRetry _ _ _)
  · exact harrive
  · exact harrive

/-- **An engine that listens to a connection lives on.** -/
theorem becomes_listen (arrivals : List (Nat × Arrival)) (c : Connection) (e : Engine) :
    e.Becomes LifeStep.IsHeard (listen l arrivals c e).engine := by
  induction arrivals generalizing c e with
  | nil =>
      unfold listen
      split
      · exact (becomes_waitUntil _ e).trans (becomes_interrupt _ _ _)
      · exact .refl _ e
  | cons x rest ih =>
      obtain ⟨moment, arrival⟩ := x
      unfold listen
      split
      · exact (becomes_waitUntil _ e).trans (becomes_interrupt _ _ _)
      · refine (becomes_waitUntil moment e).trans ?_
        dsimp only
        split
        · exact becomes_endWith _ _ _
        · next event =>
            have harrive := (e.waitUntil moment).becomes_arrive (.ok event) l.reconnector c
              (e.waitUntil moment).time
            split
            · exact harrive
            · exact harrive.trans (ih _ _)

/-! ## What stays settled -/

namespace Settled

variable {e e' : Engine}

/-- Whatever course an engine takes, it stays settled. -/
theorem becomes (h : e.Settled) (hcourse : e.Becomes LifeStep.IsHeard e') : e'.Settled := by
  obtain ⟨steps, hsteps, rfl⟩ := hcourse
  exact h.live fun step hstep => (hsteps step hstep).keepsValues

theorem settle (h : e.Settled) : e.settle.Settled :=
  h.becomes (e.becomes_settle.mono fun _ => LifeStep.IsPrompt.isHeard)

theorem listen (h : e.Settled) (arrivals : List (Nat × Arrival)) (c : Connection) :
    (Engine.listen l arrivals c e).engine.Settled :=
  h.becomes (becomes_listen arrivals c e)

end Settled

end Engine

/-- **An app that is launched has a settled engine**, whatever an earlier one stored. -/
theorem App.launch_settled (c : Configuration) (host : Host) :
    (App.launch c host).engine.Settled := by
  have hbare : Engine.Settled { client := c.client, store := { session := {}, host } } :=
    .bare c.client host
  have hstarting := hbare.watchChannel.becomes
    ((Engine.becomes_setPhase .starting _).mono fun _ => LifeStep.IsPrompt.isHeard)
  have hwoken := hstarting.becomes
    ((Engine.becomes_onHost _ (Host.values_wake .poller) _).mono fun _ => LifeStep.IsPrompt.isHeard)
  exact hwoken.settle

end InAppMessaging
