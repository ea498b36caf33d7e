import InAppMessaging.Engine.Listening
import InAppMessaging.Proofs.Catalog.Gathering

/-!
# What happens beside the store

Only the store changes the session.  Whatever happens beside it, in the app, on the main
thread, in the poller or over a connection, changes the host and sends commands, which come
into the inbox at its end.  `Engine.Grows` says so, with what is known of the new commands.

* `Engine.Grows.send`, `Engine.Grows.fetch`, `Engine.Grows.apply`, `Engine.Grows.obeyAnswer` —
  **each of these brings commands into the inbox, no more**;
* `mem_applyAnswer`, `Connection.dispatch_onArrival` — which actions the poller sends about an
  answer, and a connection about an arrival.
-/

namespace InAppMessaging

/-! ## New commands -/

/-- Nothing has happened to an engine, apart from its host, but that commands came into its
inbox, about which something is known. -/
structure Engine.Grows (P : Command Observed Host → Prop) (e e' : Engine) : Prop where
  stages : e'.stages = e.stages
  session : e'.session = e.session
  log : e'.store.committed = e.store.committed
  subscribers : e'.store.subscribers = e.store.subscribers
  inbox : ∃ new, e'.inbox = e.inbox ++ new ∧ ∀ c ∈ new, P c

namespace Engine.Grows

variable {P : Command Observed Host → Prop} {e e' e'' : Engine}

/-- Nothing came into the inbox. -/
theorem idle (hstages : e'.stages = e.stages) (hsession : e'.session = e.session)
    (hlog : e'.store.committed = e.store.committed)
    (hsubscribers : e'.store.subscribers = e.store.subscribers) (hinbox : e'.inbox = e.inbox) :
    Grows P e e' :=
  ⟨hstages, hsession, hlog, hsubscribers, [], hinbox.trans (List.append_nil _).symm,
    fun _ hc => absurd hc List.not_mem_nil⟩

theorem refl (P : Command Observed Host → Prop) (e : Engine) : Grows P e e :=
  idle rfl rfl rfl rfl rfl

theorem onHost (P : Command Observed Host → Prop) (e : Engine) (change : Host → Host) :
    Grows P e (e.onHost change) :=
  idle rfl rfl rfl rfl rfl

theorem trans (h : Grows P e e') (h' : Grows P e' e'') : Grows P e e'' := by
  obtain ⟨new, hnew, hcommands⟩ := h.inbox
  obtain ⟨more, hmore, hcommands'⟩ := h'.inbox
  refine ⟨h'.stages.trans h.stages, h'.session.trans h.session, h'.log.trans h.log,
    h'.subscribers.trans h.subscribers, new ++ more, ?_,
    List.forall_mem_append.mpr ⟨hcommands, hcommands'⟩⟩
  rw [hmore, hnew, List.append_assoc]

/-- A command that is sent comes into the inbox, unless the store has stopped. -/
theorem send {c : Command Observed Host} (hc : P c) (e : Engine) : Grows P e (e.send c) := by
  unfold Engine.send
  split
  · exact ⟨rfl, rfl, rfl, rfl, [c], rfl, List.forall_mem_singleton.mpr hc⟩
  · exact refl P e

theorem dispatchAll {actions : List Action} (h : ∀ a ∈ actions, P (.run a)) (e : Engine) :
    Grows P e (e.dispatchAll actions) := by
  induction actions generalizing e with
  | nil => exact refl P e
  | cons a rest ih =>
      obtain ⟨ha, hrest⟩ := List.forall_mem_cons.mp h
      exact (send ha e).trans (ih hrest _)

theorem subscribe {watch : Nat → Watch Observed Host} (h : ∀ id, P (.subscribe id (watch id)))
    (e : Engine) : Grows P e (e.subscribe watch).2 := by
  have hbegun : Grows P e { e with subscriptions := e.subscriptions + 1 } :=
    idle rfl rfl rfl rfl rfl
  exact hbegun.trans (send (h _) _)

theorem fetch (P : Command Observed Host → Prop) (e : Engine) : Grows P e e.fetch := by
  unfold Engine.fetch
  split
  · exact idle rfl rfl rfl rfl rfl
  · exact idle rfl rfl rfl rfl rfl

/-- **Applying an answer sends the actions that it calls for.** -/
theorem apply {r : CatalogResponse}
    (h : ∀ a ∈ (applyAnswer e.session r e.host).1, P (.run a)) : Grows P e (e.apply r) :=
  (onHost P e _).trans (dispatchAll h _)

theorem obeyOrder {o : ConnectionOrder} (ho : ∀ a, o = .dispatch a → P (.run a))
    (who : Reconnector) (e : Engine) : Grows P e (e.obeyOrder who o) := by
  cases o with
  | dispatch a => exact send (ho a rfl) e
  | reconnect =>
      cases who with
      | recorder => exact idle rfl rfl rfl rfl rfl
      | mainThread => exact idle rfl rfl rfl rfl rfl
  | logError text => exact idle rfl rfl rfl rfl rfl

/-- **Orders of a connection send the actions that they dispatch.** -/
theorem obeyAnswer {answer : ConnectionAnswer}
    (h : ∀ a, ConnectionOrder.dispatch a ∈ answer.orders → P (.run a)) (who : Reconnector)
    (e : Engine) : Grows P e (e.obeyAnswer who answer) := by
  unfold Engine.obeyAnswer
  generalize answer.orders = orders at h
  induction orders generalizing e with
  | nil => exact refl P e
  | cons o rest ih =>
      have ho : ∀ a, o = .dispatch a → P (.run a) :=
        fun a heq => h a (heq ▸ List.mem_cons_self)
      exact (obeyOrder ho who e).trans (ih _ fun a ha => h a (List.mem_cons_of_mem o ha))

end Engine.Grows

/-! ## Answers and arrivals -/

/-- **The poller sends a list of messages, or something about none.** -/
theorem mem_applyAnswer {s : Session} {r : CatalogResponse} {h : Host} {a : Action}
    (ha : a ∈ (applyAnswer s r h).1) :
    (∃ ms, r.outcome = .messages ms ∧ a = .processQueue (gatherQueue s.userToken? ms h).1) ∨
      a = .clearQueue ∨ (∃ interval, a = .setPollInterval interval) ∨
        ∃ enabled, a = .setRealtime enabled := by
  rcases List.mem_cons.mp ha with rfl | hcadence
  · show (∃ ms, r.outcome = .messages ms ∧ (queueAction s r h).1 = _) ∨
      (queueAction s r h).1 = .clearQueue ∨ _
    unfold queueAction
    cases r.outcome with
    | noContent => exact Or.inr (Or.inl rfl)
    | failed status => exact Or.inr (Or.inl rfl)
    | messages ms => exact Or.inl ⟨ms, rfl, rfl⟩
  · rcases List.mem_append.mp hcadence with hinterval | henabled
    · obtain ⟨interval, -, rfl⟩ := Option.map_eq_some_iff.mp (Option.mem_toList.mp hinterval)
      exact Or.inr (Or.inr (Or.inl ⟨interval, rfl⟩))
    · obtain ⟨enabled, -, rfl⟩ := Option.map_eq_some_iff.mp (Option.mem_toList.mp henabled)
      exact Or.inr (Or.inr (Or.inr ⟨enabled, rfl⟩))

/-- What a connection does about an arrival. -/
def Connection.onArrival (c : Connection) (time : Nat) : Arrival → ConnectionAnswer
  | .ok event => c.onEvent time event
  | .error failure => c.onFailure failure

/-- The messages of an arrival. -/
def messagesOfArrival : Arrival → List Message
  | .ok (.messages ms) => ms
  | _ => []

/-- **A connection sends the messages of an arrival, or gives realtime updates up.** -/
theorem Connection.dispatch_onArrival {c : Connection} {time : Nat} {arrival : Arrival}
    {a : Action} (h : ConnectionOrder.dispatch a ∈ (c.onArrival time arrival).orders) :
    a = .processQueue (messagesOfArrival arrival) ∨ a = .setRealtime false := by
  cases arrival with
  | ok event =>
      change ConnectionOrder.dispatch a ∈ (c.onEvent time event).orders at h
      unfold onEvent at h
      split at h
      · exact absurd h List.not_mem_nil
      · exact absurd h List.not_mem_nil
      · exact absurd h List.not_mem_nil
      · injection List.mem_singleton.mp h with heq
        exact Or.inl heq
      · exact absurd (List.mem_singleton.mp h) (by simp)
      · exact absurd h List.not_mem_nil
  | error failure =>
      change ConnectionOrder.dispatch a ∈ (c.onFailure failure).orders at h
      unfold onFailure at h
      dsimp only at h
      unfold reaction at h
      refine Or.inr ?_
      split at h
      · split at h
        · simp at h
        · simp at h
      · simpa using h
      · simpa using h

end InAppMessaging
