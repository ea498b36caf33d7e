import InAppMessaging.Engine.Surfaces
import InAppMessaging.Proofs.Store.Deeds

/-!
# The store and the main thread side by side

The store and the main thread do not wait for each other to finish.  While the store is in the
middle of a command, between two deeds or between two subscribers that it tells of a commit, the
main thread may do its work; and while the main thread is busy with work for which it has read
the session, the store may change the session.  `Moment` is an engine at such a point, `Move` is
what may happen next, and any list of moves is an interleaving.

* `Moment.run_store` — **the moves of a store that is left alone make up its step**;
* `Moment.run_poster` — and so do those of the main thread.
-/

namespace InAppMessaging

/-- An engine in the middle of its work: what the store has yet to do of its command, whom it
has yet to tell of a commit, and the work the main thread is busy with, together with the
session that it read for it. -/
structure Moment where
  engine : Engine
  agenda : List (Deed Host) := []
  waiting : List (Subscriber Observed Host) := []
  atWork : Option (Work × Session) := none

/-- What may happen at a moment: the store or the main thread goes on, the app calls, or
something else changes the host. -/
inductive Move where
  | store
  | poster
  | foreground
  | background
  | restart
  | dispatch (a : Action)
  | subscribe (watch : Nat → Watch Observed Host)
  | unsubscribe (id : Nat)
  | barrier (reached : Host → Host)
  | elsewhere (change : Host → Host)

namespace Moment

/-- The session as it was committed last. -/
def session (m : Moment) : Session := m.engine.session

/-- Nothing is left to do. -/
def IsQuiet (m : Moment) : Prop :=
  m.engine.inbox = [] ∧ m.agenda = [] ∧ m.waiting = [] ∧ m.engine.host.posted = [] ∧
    m.atWork = none

instance (m : Moment) : Decidable m.IsQuiet :=
  inferInstanceAs (Decidable (_ = [] ∧ _ = [] ∧ _ = [] ∧ _ = [] ∧ _ = none))

/-- Changes the engine. -/
def onEngine (change : Engine → Engine) (m : Moment) : Moment :=
  { m with engine := change m.engine }

/-! ## Steps of the store -/

/-- The next subscriber is told of the session. -/
def tell (m : Moment) (u : Subscriber Observed Host) (rest : List (Subscriber Observed Host)) :
    Moment :=
  let told := u.notify m.session m.engine.host
  { m with
    engine.store.subscribers := m.engine.store.subscribers ++ [told.1]
    engine.store.host := told.2
    waiting := rest }

/-- An action is committed; all subscribers wait to be told. -/
def commit (m : Moment) (a : Action) (rest : List (Deed Host)) : Moment :=
  { m with
    engine.store.session := m.session.reduce a
    engine.store.committed := a :: m.engine.store.committed
    engine.store.actionsProcessed := m.engine.store.actionsProcessed + 1
    engine.store.subscribers := []
    agenda := rest
    waiting := m.engine.store.subscribers }

/-- The store goes on: it tells the next subscriber, does the next deed, or takes the next
command. -/
def stepStore (m : Moment) : Moment :=
  match m.waiting, m.agenda, m.engine.inbox with
  -- a commit is over only when everyone has been told of it
  | u :: rest, _, _ => m.tell u rest
  | [], .commit a :: rest, _ => m.commit a rest
  | [], d :: rest, _ => { m with engine.store := m.engine.store.perform d, agenda := rest }
  -- the deeds are settled by the session here, since nobody but the store changes it
  | [], [], .run a :: rest =>
      { m with
        engine.inbox := rest
        agenda := deeds m.engine.stages maxDispatchDepth a m.session }
  | [], [], c :: rest =>
      { m with engine.inbox := rest, engine.store := m.engine.store.obey m.engine.stages c }
  | [], [], [] => m

/-! ## Steps of the main thread -/

/-- The main thread goes on: it takes the next piece of work and reads the session for it, or
finishes the one it is busy with. -/
def stepPoster (m : Moment) : Moment :=
  match m.atWork, m.engine.host.posted with
  | some (w, s), _ => { m with engine := m.engine.onHost fun h => h.perform s w, atWork := none }
  | none, w :: rest =>
      { m with
        engine := m.engine.onHost fun h => { h with posted := rest }
        atWork := some (w, m.session) }
  | none, [] => m

/-! ## Runs -/

/-- The moment after a move. -/
def after (m : Moment) : Move → Moment
  | .store => m.stepStore
  | .poster => m.stepPoster
  | .foreground => m.onEngine fun e => e.post .foreground
  | .background => m.onEngine fun e => e.post .background
  | .restart => m.onEngine fun e => e.post .restart
  | .dispatch a => m.onEngine fun e => e.dispatch a
  | .subscribe watch => m.onEngine fun e => (e.subscribe watch).2
  | .unsubscribe id => m.onEngine fun e => e.unsubscribe id
  | .barrier reached => m.onEngine fun e => e.send (.barrier reached)
  | .elsewhere change => m.onEngine fun e => e.onHost change

/-- The moment after moves. -/
def run (m : Moment) (moves : List Move) : Moment := moves.foldl after m

theorem run_append (m : Moment) (moves others : List Move) :
    m.run (moves ++ others) = (m.run moves).run others := List.foldl_append

/-! ## A store that is left alone -/

variable {m m' m'' : Moment}

/-- The store comes from one moment to another by its own moves. -/
def Leads (m m' : Moment) : Prop := ∃ n, m.run (List.replicate n .store) = m'

theorem leads_step (m : Moment) : m.Leads m.stepStore := ⟨1, rfl⟩

theorem Leads.refl (m : Moment) : m.Leads m := ⟨0, rfl⟩

/-- One stretch after the other. -/
theorem Leads.trans (h : m.Leads m') (h' : m'.Leads m'') : m.Leads m'' := by
  obtain ⟨n, rfl⟩ := h
  obtain ⟨k, rfl⟩ := h'
  refine ⟨n + k, ?_⟩
  rw [← List.replicate_append_replicate, run_append]

/-- **All who wait are told.** -/
theorem leads_notifyAll (m : Moment) :
    m.Leads { m with
      engine.store.subscribers := m.engine.store.subscribers ++
        (Subscriber.notifyAll m.waiting m.session m.engine.host).1
      engine.store.host := (Subscriber.notifyAll m.waiting m.session m.engine.host).2
      waiting := [] } := by
  obtain ⟨e, agenda, waiting, atWork⟩ := m
  induction waiting generalizing e with
  | nil =>
      simp only [Subscriber.notifyAll, List.append_nil]
      exact Leads.refl _
  | cons u rest ih =>
      have htold := ih (tell ⟨e, agenda, u :: rest, atWork⟩ u rest).engine
      refine (leads_step _).trans ?_
      simp only [tell, List.append_assoc, List.singleton_append] at htold
      exact htold

/-- A deed is done. -/
theorem leads_perform (e : Engine) (d : Deed Host) (rest : List (Deed Host))
    (atWork : Option (Work × Session)) :
    Leads ⟨e, d :: rest, [], atWork⟩ ⟨{ e with store := e.store.perform d }, rest, [], atWork⟩ := by
  cases d with
  | commit a => exact (leads_step _).trans (leads_notifyAll _)
  | act effect => exact leads_step _
  | failed => exact leads_step _

/-- All deeds are done. -/
theorem leads_performAll (e : Engine) (ds : List (Deed Host)) (atWork : Option (Work × Session)) :
    Leads ⟨e, ds, [], atWork⟩ ⟨{ e with store := e.store.performAll ds }, [], [], atWork⟩ := by
  induction ds generalizing e with
  | nil => exact Leads.refl _
  | cons d rest ih => exact (leads_perform e d rest atWork).trans (ih _)

/-- **The moves of a store that is left alone make up its step.** -/
theorem run_store (e : Engine) (atWork : Option (Work × Session)) :
    Leads ⟨e, [], [], atWork⟩ ⟨e.stepStore, [], [], atWork⟩ := by
  obtain ⟨stages, client, store, inbox, running, time, subscriptions⟩ := e
  cases inbox with
  | nil => exact Leads.refl _
  | cons c rest =>
      cases c with
      | run a =>
          have hdeeds : store.obey stages (.run a) =
              store.performAll (deeds stages maxDispatchDepth a store.session) :=
            Runner.process_eq stages maxDispatchDepth a store
          unfold Engine.stepStore
          dsimp only
          rw [hdeeds]
          exact (leads_step _).trans (leads_performAll _ _ _)
      | subscribe id watch => exact leads_step _
      | unsubscribe id => exact leads_step _
      | barrier reached => exact leads_step _

/-- **The moves of a main thread that is left alone make up its step.** -/
theorem run_poster (e : Engine) (agenda : List (Deed Host))
    (waiting : List (Subscriber Observed Host)) :
    run ⟨e, agenda, waiting, none⟩ [.poster, .poster] = ⟨e.stepPoster, agenda, waiting, none⟩ := by
  obtain ⟨stages, client, ⟨session, subscribers, committed, actionsProcessed, failures, host⟩,
    inbox, running, time, subscriptions⟩ := e
  simp only [run, List.foldl_cons, List.foldl_nil, after, stepPoster, Engine.stepPoster,
    Engine.host, Engine.onHost, Engine.session, Moment.session]
  cases hposted : host.posted with
  | nil => simp only [hposted]
  | cons w rest => rfl

end Moment

end InAppMessaging
