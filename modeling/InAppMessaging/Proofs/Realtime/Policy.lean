import InAppMessaging.Proofs.Realtime.Listener

/-!
# The policy of a listener

What is proved of every course of things holds of an engine that listens to a connection, since
that is one such course, in which an arrival comes before an interruption of the same moment.

* `Engine.consume_goesOn` — **an engine that listens to a connection goes on with the course**;
* `Listener.run_keeps_policy` — **the policy**, over any number of connections.
-/

namespace InAppMessaging

/-! ## What can happen to who listens or waits -/

namespace Listener

variable {c : Connection} {h : Hearing} {past : List Hearing}

theorem after_arrive (time : Nat) (arrival : Arrival) (hturn : h.turn = .listen) :
    (⟨c, h :: past⟩ : Listener).after (.arrive time arrival) =
      ⟨(c.onArrival time arrival).next,
        h.answered [arrival] (c.onArrival time arrival) :: past⟩ := by
  obtain ⟨arrivals, orders, turn⟩ := h
  cases hturn
  rfl

theorem after_silence {time : Nat} (hturn : h.turn = .listen)
    (hlate : c.heartbeat.due.any (· ≤ time) = true) :
    (⟨c, h :: past⟩ : Listener).after (.silence time) =
      ⟨c.onSilence.next, h.answered [] c.onSilence :: past⟩ := by
  obtain ⟨arrivals, orders, turn⟩ := h
  cases hturn
  exact if_pos hlate

theorem after_retry {delay : Nat} (hturn : h.turn = .retryIn delay) :
    (⟨c, h :: past⟩ : Listener).after .retry =
      ⟨c.onRetry.next, h.answered [] c.onRetry :: past⟩ := by
  obtain ⟨arrivals, orders, turn⟩ := h
  cases hturn
  rfl

theorem after_cancel (hturn : ∀ why, h.turn ≠ .over why) :
    (⟨c, h :: past⟩ : Listener).after .cancel =
      ⟨c.silence, h.answered [] { turn := .over .cancelled, next := c.silence } :: past⟩ := by
  obtain ⟨arrivals, orders, turn⟩ := h
  unfold Hearing.answered
  dsimp only
  rw [List.append_nil, List.append_nil]
  cases turn with
  | «over» why => exact absurd rfl (hturn why)
  | listen => rfl
  | retryIn delay => rfl

end Listener

namespace Engine

/-- One engine becomes another by carrying out orders in their order, with time passing before,
between and after them. -/
inductive Obeyed (who : Reconnector) : Engine → List ConnectionOrder → Engine → Prop
  | done (e : Engine) : Obeyed who e [] e
  | wait {e e' : Engine} {orders : List ConnectionOrder} (moment : Nat)
      (h : Obeyed who (e.waitUntil moment) orders e') : Obeyed who e orders e'
  | answer {e e' : Engine} {orders : List ConnectionOrder} (answer : ConnectionAnswer)
      (h : Obeyed who (e.obeyAnswer who answer) orders e') :
      Obeyed who e (answer.orders ++ orders) e'

/-- Listening on to the latest connection of a listener is a course of things: the arrivals that
were heard are the first of those there were, the listener comes out as it should, and the engine
has carried out the new orders. -/
def GoesOn (who : Reconnector) (arrivals : List Arrival) (l : Listener) (e : Engine)
    (r : Listened) : Prop :=
  ∃ course past before after new orders, l.hearings = before :: past ∧
    l.run course = ⟨r.connection, after :: past⟩ ∧
    after.arrivals = before.arrivals ++ new ∧ new <+: arrivals ∧
    after.orders = before.orders ++ orders ∧ e.Obeyed who orders r.engine ∧
    ∀ why, r.why = some why ↔ after.turn = .over why

namespace GoesOn

variable {who : Reconnector} {arrivals : List Arrival} {c : Connection} {h : Hearing}
  {past : List Hearing} {e : Engine} {r : Listened}

theorem wait (moment : Nat) (hgoes : GoesOn who arrivals ⟨c, h :: past⟩ (e.waitUntil moment) r) :
    GoesOn who arrivals ⟨c, h :: past⟩ e r := by
  obtain ⟨course, past, before, after, new, orders, hbefore, hrun, hnew, hpart, horders, hobeyed,
    hwhy⟩ := hgoes
  exact ⟨course, past, before, after, new, orders, hbefore, hrun, hnew, hpart, horders,
    hobeyed.wait moment, hwhy⟩

/-- Nothing more happens. -/
theorem stop (arrivals : List Arrival) (past : List Hearing) (e : Engine)
    (hwhy : ∀ why, r.why = some why ↔ h.turn = .over why) (hengine : r.engine = e)
    (hconnection : r.connection = c) : GoesOn who arrivals ⟨c, h :: past⟩ e r := by
  obtain ⟨why, connection, engine⟩ := r
  subst hengine hconnection
  exact ⟨[], past, h, h, [], [], rfl, rfl, (List.append_nil _).symm, List.nil_prefix,
    (List.append_nil _).symm, .done _, hwhy⟩

/-- Something happens and is answered, and then it goes on. -/
theorem step (o : Occurrence) (heard : List Arrival) {rest : List Arrival}
    (answer : ConnectionAnswer)
    (ho : (⟨c, h :: past⟩ : Listener).after o = ⟨answer.next, h.answered heard answer :: past⟩)
    (hgoes : GoesOn who rest ⟨answer.next, h.answered heard answer :: past⟩
      (e.obeyAnswer who answer) r) : GoesOn who (heard ++ rest) ⟨c, h :: past⟩ e r := by
  obtain ⟨course, past', before, after, new, orders, hbefore, hrun, hnew, hpart, horders, hobeyed,
    hwhy⟩ := hgoes
  obtain ⟨rfl, rfl⟩ := List.cons.inj hbefore
  refine ⟨o :: course, past, h, after, heard ++ new, answer.orders ++ orders, rfl, ?_, ?_,
    List.prefix_append_right_inj heard |>.mpr hpart, ?_, hobeyed.answer answer, hwhy⟩
  · show ((⟨c, h :: past⟩ : Listener).after o).run course = _
    rw [ho]
    exact hrun
  · rw [hnew, Hearing.answered, List.append_assoc]
  · rw [horders, Hearing.answered, List.append_assoc]

end GoesOn

/-! ## Listening step by step -/

variable {l : Listening} {c : Connection} {h : Hearing} {past : List Hearing} {e : Engine}
  {arrivals : List Arrival}

/-- Over is over. -/
theorem goesOn_over {why : ConnectionEnd} (hturn : h.turn = .over why) :
    GoesOn l.reconnector arrivals ⟨c, h :: past⟩ e ⟨some why, c, e⟩ := by
  refine .stop arrivals past e (fun other => ?_) rfl rfl
  rw [hturn]
  exact ⟨fun hwhy => congrArg _ (Option.some.inj hwhy),
    fun hother => congrArg _ (ConnectionTurn.over.inj hother)⟩

/-- Who gives up listens no more, and nothing comes of that. -/
theorem goesOn_left (hturn : ∀ why, h.turn ≠ .over why) :
    GoesOn l.reconnector arrivals ⟨c, h :: past⟩ e ⟨none, c, e⟩ :=
  .stop arrivals past e (fun why => ⟨nofun, fun hover => absurd hover (hturn why)⟩) rfl rfl

/-- **An interruption may happen**: the heartbeat is late only for who listens. -/
theorem interrupt_goesOn {time : Nat} {what : Interruption}
    (hwhat : (time, what) ∈ l.interruptions c) (hturn : ∀ why, h.turn ≠ .over why)
    (hsilence : what = .silence → h.turn = .listen) :
    GoesOn l.reconnector arrivals ⟨c, h :: past⟩ e (interrupt l c e what) := by
  cases what with
  | silence =>
      have hdue : c.heartbeat.due = some time := by
        simpa [Listening.interruptions] using hwhat
      have hlate : c.heartbeat.due.any (· ≤ time) = true := by
        rw [hdue]
        exact decide_eq_true (Nat.le_refl time)
      exact .step (.silence time) [] c.onSilence (Listener.after_silence (hsilence rfl) hlate)
        (goesOn_over rfl)
  | cancelled =>
      exact .step .cancel [] { turn := .over .cancelled, next := c.silence } (Listener.after_cancel hturn)
        (goesOn_over rfl)
  | givenUp => exact goesOn_left hturn

/-- The wait before another attempt. -/
theorem awaitRetry_goesOn {delay : Nat} (hturn : h.turn = .retryIn delay)
    (hdue : c.heartbeat.due = none) :
    GoesOn l.reconnector arrivals ⟨c, h :: past⟩ e (awaitRetry l c delay e) := by
  have hnotOver : ∀ why, h.turn ≠ .over why := by
    rw [hturn]
    exact nofun
  unfold awaitRetry
  split
  · next time what hwhat =>
      have hmem := Listening.earliest_mem hwhat
      dsimp only
      split
      · refine .wait time (interrupt_goesOn hmem hnotOver ?_)
        rintro rfl
        simp [Listening.interruptions, hdue] at hmem
      · exact .wait _ (.step .retry [] c.onRetry (Listener.after_retry hturn) (goesOn_over rfl))
  · exact goesOn_left hnotOver

/-- A failure, and what comes of it. -/
theorem endWith_goesOn (f : ChannelFailure) (time : Nat) (hturn : h.turn = .listen) :
    GoesOn l.reconnector (.error f :: arrivals) ⟨c, h :: past⟩ e (endWith l c f e) := by
  refine .step (.arrive time (.error f)) [.error f] (c.onFailure f)
    (Listener.after_arrive time (.error f) hturn) ?_
  unfold endWith
  dsimp only
  split
  · next delay hdelay => exact awaitRetry_goesOn hdelay rfl
  · next why hwhy => exact goesOn_over hwhy
  · next hlisten => exact goesOn_left (by rw [Hearing.answered, hlisten]; exact nofun)

/-- **Listening goes on with the course**, whatever arrives when. -/
theorem listen_goesOn (feed : List (Nat × Arrival)) (hturn : h.turn = .listen) :
    GoesOn l.reconnector (feed.map (·.2)) ⟨c, h :: past⟩ e (listen l feed c e) := by
  induction feed generalizing c h e with
  | nil =>
      have hnotOver : ∀ why, h.turn ≠ .over why := by
        rw [hturn]
        exact nofun
      unfold listen
      split
      · next time what hwhat =>
          exact .wait time
            (interrupt_goesOn (Listening.earliest_mem hwhat) hnotOver fun _ => hturn)
      · exact goesOn_left hnotOver
  | cons arrival rest ih =>
      obtain ⟨moment, arrival⟩ := arrival
      unfold listen
      split
      · next time what hwhat =>
          have hmem := Listening.earliest_mem (Option.mem_filter_iff.mp hwhat).1
          refine .wait time (interrupt_goesOn hmem ?_ fun _ => hturn)
          rw [hturn]
          exact nofun
      · refine .wait moment ?_
        cases arrival with
        | error f => exact endWith_goesOn f (e.waitUntil moment).time hturn
        | ok event =>
            refine .step (.arrive (e.waitUntil moment).time (.ok event)) [.ok event]
              (c.onEvent (e.waitUntil moment).time event) (Listener.after_arrive _ _ hturn) ?_
            dsimp only
            split
            · next why hwhy => exact goesOn_over hwhy
            · next hgoes =>
                refine ih ?_
                cases event with
                | lifetimeOver => exact absurd rfl (hgoes _)
                | messages ms => cases ms <;> rfl
                | _ => rfl

/-- **Listening to another connection is a course of things**, from the moment it is there. -/
theorem consume_goesOn (feed : List (Nat × Arrival)) (who : Listener) (e : Engine) :
    GoesOn l.reconnector (feed.map (·.2)) (who.after .connect) e
      (e.consume l feed who.connection) :=
  listen_goesOn feed rfl

end Engine

/-! ## The policy -/

/-- The messages that an action queues, if it does. -/
def Action.queues? : Action → Option (List Message)
  | .processQueue ms => some ms
  | _ => none

namespace Listener

variable {l : Listener} {limit : Nat}

/-- The lists of messages that connections have brought, in their order. -/
def brought (l : Listener) : List (List Message) := l.hearings.reverse.flatMap Hearing.lists

/-- What was dispatched about connections, in its order. -/
def dispatched (l : Listener) : List Action := l.hearings.reverse.flatMap Hearing.dispatched

/-- How often the channel was opened again after connections that have failed. -/
def reopened (l : Listener) : Nat :=
  ((l.hearings.filter Hearing.failed).flatMap Hearing.orders).count .reconnect

/-- How it goes on with the latest connection. -/
def turn? (l : Listener) : Option ConnectionTurn := l.hearings.head?.map Hearing.turn

/-- **The lists that came are queued**, each once and in their order. -/
theorem queued_of_isSound (hsound : l.IsSound) :
    l.dispatched.filterMap Action.queues? = l.brought := by
  unfold dispatched brought
  rw [List.filterMap_flatMap, List.flatMap_def, List.flatMap_def]
  refine congrArg List.flatten (List.map_congr_left fun h hmem => ?_)
  have hlists : (h.lists.map Action.processQueue).filterMap Action.queues? = h.lists := by
    rw [List.filterMap_map]
    exact List.filterMap_some
  rw [(hsound h (List.mem_reverse.mp hmem)).dispatched, List.filterMap_append, hlists]
  split <;> exact List.append_nil _

/-- The channel is opened again once for each connection that failed and is not given up. -/
theorem reopened_of_isSound (hsound : l.IsSound) : l.reopened = l.retries := by
  obtain ⟨c, hearings⟩ := l
  unfold reopened retries
  dsimp only
  induction hearings with
  | nil => rfl
  | cons h past ih =>
      obtain ⟨hfirst, hpast⟩ := List.forall_mem_cons.mp hsound
      have hrest := ih hpast
      have hreconnects : h.orders.count .reconnect = if h.turn = .over .reconnecting then 1 else 0 :=
        hfirst.reconnects
      rw [List.countP_cons, ← hrest, List.filter_cons]
      cases hfailed : h.failed with
      | false => simp [Hearing.retried, hfailed]
      | true => simp [Hearing.retried, hfailed, hreconnects, Nat.add_comm]

/-- A listener that listens has a connection to do so. -/
theorem turn?_eq_listen (h : l.turn? = some .listen) :
    ∃ c heard past, l = ⟨c, heard :: past⟩ ∧ heard.turn = .listen := by
  obtain ⟨c, hearings⟩ := l
  obtain ⟨heard, hhead, hturn⟩ := Option.map_eq_some_iff.mp h
  obtain ⟨past, rfl⟩ := List.head?_eq_some_iff.mp hhead
  exact ⟨c, heard, past, rfl, hturn⟩

/-- **A failure that is final ends the attempts**, and uses up none of them. -/
theorem fallsBack_of_final (time : Nat) {f : ChannelFailure} (hturn : l.turn? = some .listen)
    (hfinal : f.retryable = false ∨ l.connection.budget.settings.maxAttempts ≤ l.attempts) :
    (l.after (.arrive time (.error f))).turn? = some (.over .fellBack) ∧
      (l.after (.arrive time (.error f))).attempts = l.attempts := by
  obtain ⟨c, heard, past, rfl, hlisten⟩ := turn?_eq_listen hturn
  obtain ⟨logged, hanswer⟩ := Connection.onFailure_of_final hfinal
  rw [after_arrive time (.error f) hlisten, Connection.onArrival, hanswer]
  exact ⟨rfl, rfl⟩

/-- **The reconnections after failures are limited** as long as no connection is accepted: when
all have been made, no attempt is left. -/
theorem reopened_run (hsound : l.IsSound) (hfrugal : l.Frugal limit) {course : List Occurrence}
    (hcourse : ∀ time, .arrive time (.ok .connected) ∉ course) :
    (l.run course).reopened ≤ l.reopened + limit ∧
      ((l.run course).reopened = l.reopened + limit → limit ≤ (l.run course).attempts) := by
  have hspends := spends_run hsound hfrugal hcourse
  have hlater := frugal_run hsound hfrugal course
  rw [reopened_of_isSound hsound,
    reopened_of_isSound (run_keeps (P := IsSound) (fun _ _ _ h => h.isSound) hsound course)]
  have hused : (l.run course).attempts ≤ limit := hlater.attempts
  have hwaiting : l.waits.toNat ≤ l.attempts := hfrugal.waiting
  unfold Spends dues at hspends
  omega

/-- **The policy**, after any course of things.  What was done about each connection is sound, and
the lists that came were queued, each once and in their order.  The attempts never exceed their
limit.  Since any earlier time from which on no connection was accepted, the channel was opened
again at most that often after failures; once it was, the next failure ends the attempts, and one
that another attempt cannot help ends them at once, without using one up.  An engine that listens to
another connection goes on with such a course. -/
theorem run_keeps_policy (s : RealtimeSettings) (course : List Occurrence) :
    let l := (ofSettings s).run course
    l.IsSound ∧ l.dispatched.filterMap Action.queues? = l.brought ∧ l.attempts ≤ s.maxRetries ∧
      (∀ before stretch, course = before ++ stretch →
        (∀ time, .arrive time (.ok .connected) ∉ stretch) →
          let earlier := (ofSettings s).run before
          l.reopened ≤ earlier.reopened + s.maxRetries ∧
            (l.reopened = earlier.reopened + s.maxRetries → l.turn? = some .listen →
              ∀ time f, (l.after (.arrive time (.error f))).turn? = some (.over .fellBack))) ∧
      (∀ time f, f.retryable = false → l.turn? = some .listen →
        (l.after (.arrive time (.error f))).turn? = some (.over .fellBack) ∧
          (l.after (.arrive time (.error f))).attempts = l.attempts) ∧
      ∀ (how : Listening) (feed : List (Nat × Arrival)) (e : Engine),
        Engine.GoesOn how.reconnector (feed.map (·.2)) (l.after .connect) e
          (e.consume how feed l.connection) := by
  intro l
  have hsound : l.IsSound := sound_run s course
  have hfrugal : l.Frugal s.maxRetries := frugal_run (sound_run s []) (frugal_ofSettings s) course
  refine ⟨hsound, queued_of_isSound hsound, hfrugal.attempts, ?_, ?_, ?_⟩
  · intro before stretch hcourse hnone earlier
    have hl : l = earlier.run stretch := by
      show (ofSettings s).run course = _
      rw [hcourse, run_append]
    have hlimited := reopened_run (sound_run s before)
      (frugal_run (sound_run s []) (frugal_ofSettings s) before) hnone
    rw [← hl] at hlimited
    refine ⟨hlimited.1, fun hall hturn time f => (fallsBack_of_final time hturn (Or.inr ?_)).1⟩
    rw [hfrugal.settings]
    exact hlimited.2 hall
  · intro time f hretryable hturn
    exact fallsBack_of_final time hturn (Or.inl hretryable)
  · intro how feed e
    exact Engine.consume_goesOn feed l e

/-- With one attempt: a connection was accepted, brought a message, and failed; the channel was
opened again, and the next failure is the last. -/
theorem run_keeps_policy_once :
    let course := [.connect, .arrive 0 (.ok .connected),
      .arrive 10 (.ok (.messages [{ queueId := some "tip" }])), .arrive 10 (.ok (.messages [])),
      .arrive 20 (.error Connection.closedFailure), .connect]
    let l := (ofSettings { maxRetries := 1 }).run course
    (l.reopened = 1 ∧ l.dispatched.filterMap Action.queues? = [[{ queueId := some "tip" }]]) ∧
      (l.after (.arrive 30 (.error Connection.closedFailure))).turn? = some (.over .fellBack) := by
  intro course l
  have hpolicy := run_keeps_policy { maxRetries := 1 } course
  refine ⟨⟨rfl, hpolicy.2.1⟩, (hpolicy.2.2.2.1 (course.take 2) (course.drop 2) rfl ?_).2 rfl rfl 30 _⟩
  intro time hmem
  simp [course] at hmem

end Listener

end InAppMessaging
