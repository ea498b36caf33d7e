import InAppMessaging.Proofs.Engine.Beside

/-!
# Listening to one connection after the other

Whoever listens to a connection meets arrivals, a heartbeat that is late, and perhaps somebody
who cancels; whoever waits before another attempt may be cancelled as well.  Several of these may
be at hand at once, and any of them may come first.  `Listener` is one who listens, with the
connections so far, `Occurrence` is what may happen next, and any list of occurrences is a course
of things.

* `Hearing.Sound`, `Listener.sound_run` — **what is done about a connection**, and nothing else is;
* `Listener.frugal_run` — the attempts never exceed their limit;
* `Listener.spends_run` — **every reconnection after a failure uses up an attempt**, until a
  connection is accepted.
-/

namespace InAppMessaging

/-! ## What may happen -/

/-- A connection as far as it was listened to: what arrived, what was done about it, and how it
goes on. -/
structure Hearing where
  arrivals : List Arrival := []
  orders : List ConnectionOrder := []
  turn : ConnectionTurn := .listen

/-- Somebody who listens to connections: what outlives these, and how they went, the latest one
first. -/
structure Listener where
  connection : Connection
  hearings : List Hearing := []

/-- What may happen to a listener: a connection is there, it brings something, its heartbeat is
late, the listening is cancelled, or the wait before another attempt is over. -/
inductive Occurrence where
  | connect
  | arrive (time : Nat) (arrival : Arrival)
  | silence (time : Nat)
  | cancel
  | retry

/-- What came of an answer to arrivals. -/
def Hearing.answered (h : Hearing) (arrivals : List Arrival) (answer : ConnectionAnswer) :
    Hearing where
  arrivals := h.arrivals ++ arrivals
  orders := h.orders ++ answer.orders
  turn := answer.turn

namespace Listener

/-- One who has not listened to anything yet. -/
def ofSettings (s : RealtimeSettings) : Listener := { connection := .ofSettings s }

/-- The listener after an occurrence; what cannot happen changes nothing. -/
def after (l : Listener) : Occurrence → Listener
  | .connect => ⟨l.connection.silence, {} :: l.hearings⟩
  | .arrive time arrival =>
      match l.hearings with
      | ⟨arrivals, orders, .listen⟩ :: past =>
          let answer := l.connection.onArrival time arrival
          ⟨answer.next, Hearing.answered ⟨arrivals, orders, .listen⟩ [arrival] answer :: past⟩
      | _ => l
  | .silence time =>
      match l.hearings with
      | ⟨arrivals, orders, .listen⟩ :: past =>
          if l.connection.heartbeat.due.any (· ≤ time) then
            let answer := l.connection.onSilence
            ⟨answer.next, Hearing.answered ⟨arrivals, orders, .listen⟩ [] answer :: past⟩
          else l
      | _ => l
  | .cancel =>
      match l.hearings with
      | ⟨_, _, .over _⟩ :: _ | [] => l
      | ⟨arrivals, orders, _⟩ :: past =>
          ⟨l.connection.silence, ⟨arrivals, orders, .over .cancelled⟩ :: past⟩
  | .retry =>
      match l.hearings with
      | ⟨arrivals, orders, .retryIn delay⟩ :: past =>
          let answer := l.connection.onRetry
          ⟨answer.next, Hearing.answered ⟨arrivals, orders, .retryIn delay⟩ [] answer :: past⟩
      | _ => l

/-- The listener after a course of things. -/
def run (l : Listener) (course : List Occurrence) : Listener := course.foldl after l

theorem run_append (l : Listener) (course more : List Occurrence) :
    l.run (course ++ more) = (l.run course).run more := List.foldl_append

/-- What an occurrence leads to, where it can happen. -/
inductive Happens : Listener → Occurrence → Listener → Prop
  | connect (c : Connection) (past : List Hearing) :
      Happens ⟨c, past⟩ .connect ⟨c.silence, {} :: past⟩
  | arrive (c : Connection) (h : Hearing) (past : List Hearing) (time : Nat) (arrival : Arrival)
      (hturn : h.turn = .listen) :
      Happens ⟨c, h :: past⟩ (.arrive time arrival)
        ⟨(c.onArrival time arrival).next, h.answered [arrival] (c.onArrival time arrival) :: past⟩
  | silence (c : Connection) (h : Hearing) (past : List Hearing) (time : Nat)
      (hturn : h.turn = .listen) (hlate : c.heartbeat.due.any (· ≤ time) = true) :
      Happens ⟨c, h :: past⟩ (.silence time) ⟨c.onSilence.next, h.answered [] c.onSilence :: past⟩
  | cancel (c : Connection) (h : Hearing) (past : List Hearing)
      (hturn : ∀ why, h.turn ≠ .over why) :
      Happens ⟨c, h :: past⟩ .cancel ⟨c.silence, { h with turn := .over .cancelled } :: past⟩
  | retry (c : Connection) (h : Hearing) (past : List Hearing) (delay : Nat)
      (hturn : h.turn = .retryIn delay) :
      Happens ⟨c, h :: past⟩ .retry ⟨c.onRetry.next, h.answered [] c.onRetry :: past⟩
  | nothing (l : Listener) (o : Occurrence) : Happens l o l

/-- **An occurrence leads where it can, or nowhere.** -/
theorem happens_after (l : Listener) (o : Occurrence) : Happens l o (l.after o) := by
  obtain ⟨c, hearings⟩ := l
  cases o with
  | connect => exact .connect c hearings
  | arrive time arrival =>
      match hearings with
      | ⟨arrivals, orders, .listen⟩ :: past => exact .arrive c _ past time arrival rfl
      | ⟨_, _, .over _⟩ :: _ | ⟨_, _, .retryIn _⟩ :: _ | [] => exact .nothing _ _
  | silence time =>
      match hearings with
      | ⟨arrivals, orders, .listen⟩ :: past =>
          unfold after
          dsimp only
          split
          · next hlate => exact .silence c ⟨arrivals, orders, .listen⟩ past time rfl hlate
          · exact .nothing _ _
      | ⟨_, _, .over _⟩ :: _ | ⟨_, _, .retryIn _⟩ :: _ | [] => exact .nothing _ _
  | cancel =>
      match hearings with
      | ⟨arrivals, orders, .listen⟩ :: past => exact .cancel c ⟨arrivals, orders, _⟩ past nofun
      | ⟨arrivals, orders, .retryIn delay⟩ :: past =>
          exact .cancel c ⟨arrivals, orders, _⟩ past nofun
      | ⟨_, _, .over _⟩ :: _ | [] => exact .nothing _ _
  | retry =>
      match hearings with
      | ⟨arrivals, orders, .retryIn delay⟩ :: past => exact .retry c _ past delay rfl
      | ⟨_, _, .over _⟩ :: _ | ⟨_, _, .listen⟩ :: _ | [] => exact .nothing _ _

/-- What no occurrence breaks holds throughout a course. -/
theorem run_keeps {P : Listener → Prop} (hstep : ∀ l o l', Happens l o l' → P l → P l')
    {l : Listener} (h : P l) (course : List Occurrence) : P (l.run course) := by
  induction course generalizing l with
  | nil => exact h
  | cons o rest ih => exact ih (hstep _ _ _ (l.happens_after o) h)

end Listener

/-! ## What is done about a connection -/

/-- The action that an order dispatches. -/
def ConnectionOrder.action? : ConnectionOrder → Option Action
  | .dispatch a => some a
  | .reconnect | .logError _ => none

/-- The messages that an arrival brings, if it brings some. -/
def broughtBy : Arrival → Option (List Message)
  | .ok (.messages (m :: rest)) => some (m :: rest)
  | _ => none

namespace Hearing

/-- The actions that were dispatched about a connection. -/
def dispatched (h : Hearing) : List Action := h.orders.filterMap ConnectionOrder.action?

/-- How often it was asked to open the channel again. -/
def reconnects (h : Hearing) : Nat := h.orders.count .reconnect

/-- The lists of messages that a connection has brought, those without messages left out. -/
def lists (h : Hearing) : List (List Message) := h.arrivals.filterMap broughtBy

/-- The connection has failed. -/
def failed (h : Hearing) : Bool := h.arrivals.any fun
  | .error _ => true
  | .ok _ => false

/-- **What is done about a connection.** -/
structure Sound (h : Hearing) : Prop where
  /-- The lists it brings are queued, each once and in their order; then realtime updates are
  switched off, if that is how it ended, and nothing else is dispatched. -/
  dispatched : h.dispatched = h.lists.map Action.processQueue ++
    if h.turn = .over .fellBack then [.setRealtime false] else []
  /-- The channel is opened again once, if that is how it ended. -/
  reconnects : h.reconnects = if h.turn = .over .reconnecting then 1 else 0
  /-- A connection that is still listened to has not failed. -/
  listening : h.turn = .listen → h.failed = false
  /-- One that is tried again after a while has. -/
  waiting : ∀ delay, h.turn = .retryIn delay → h.failed = true

/-- A connection that has just begun. -/
theorem sound_new : ({} : Hearing).Sound := ⟨rfl, rfl, fun _ => rfl, nofun⟩

variable {h : Hearing} {arrivals : List Arrival} {answer : ConnectionAnswer}

/-- **An answer that is sound by itself keeps a connection sound** that was not over. -/
theorem Sound.answered (hsound : h.Sound) (hturn : ∀ why, h.turn ≠ .over why)
    (hanswer : (({} : Hearing).answered arrivals answer).Sound)
    (hfailed : answer.turn = .listen → h.failed = false) :
    (h.answered arrivals answer).Sound := by
  have hdispatched : (h.answered arrivals answer).dispatched =
      h.dispatched ++ (({} : Hearing).answered arrivals answer).dispatched :=
    List.filterMap_append
  have hlists : (h.answered arrivals answer).lists =
      h.lists ++ (({} : Hearing).answered arrivals answer).lists := List.filterMap_append
  have hreconnects : (h.answered arrivals answer).reconnects =
      h.reconnects + (({} : Hearing).answered arrivals answer).reconnects := List.count_append
  have hfails : (h.answered arrivals answer).failed =
      (h.failed || (({} : Hearing).answered arrivals answer).failed) := List.any_append
  refine ⟨?_, ?_, fun hlisten => ?_, fun delay hwait => ?_⟩
  · have hbefore := hsound.dispatched
    rw [if_neg (hturn _), List.append_nil] at hbefore
    rw [hdispatched, hlists, hbefore, hanswer.dispatched, List.map_append, List.append_assoc]
    rfl
  · have hbefore := hsound.reconnects
    rw [if_neg (hturn _)] at hbefore
    rw [hreconnects, hbefore, Nat.zero_add, hanswer.reconnects]
    rfl
  · rw [hfails, hfailed hlisten, hanswer.listening hlisten]
    rfl
  · rw [hfails, hanswer.waiting delay hwait, Bool.or_true]

end Hearing

/-! ## The answers one by one -/

namespace Connection

variable {c : Connection} {f : ChannelFailure}

/-- The connection once another attempt is counted. -/
def spend (c : Connection) : Connection :=
  { c with budget := { c.budget with attempts := c.budget.attempts + 1 } }

/-- **A failure that is not worth another attempt, or for which none is left, switches realtime
updates off**; it uses up no attempt. -/
theorem onFailure_of_final
    (h : f.retryable = false ∨ c.budget.settings.maxAttempts ≤ c.budget.attempts) :
    ∃ logged : List String, c.onFailure f =
      { orders := logged.map ConnectionOrder.logError ++ [.dispatch (.setRealtime false)]
        turn := .over .fellBack
        next := c.silence } := by
  unfold onFailure RetryBudget.onFailure
  by_cases hretryable : f.retryable = true
  · have hused := h.resolve_left (by rw [hretryable]; exact Bool.noConfusion)
    rw [hretryable, if_neg (by exact Bool.false_ne_true), if_pos hused]
    exact ⟨[_], rfl⟩
  · rw [Bool.eq_false_iff.mpr hretryable, if_pos (by rfl)]
    exact ⟨[], rfl⟩

/-- **Another failure uses up an attempt**: the channel is opened again, at once or after a
while. -/
theorem onFailure_of_retry (hretryable : f.retryable = true)
    (hleft : c.budget.attempts < c.budget.settings.maxAttempts) :
    c.onFailure f =
        { orders := [.reconnect], turn := .over .reconnecting, next := c.spend.silence } ∨
      ∃ delay, c.onFailure f = { turn := .retryIn delay, next := c.spend.silence } := by
  unfold onFailure RetryBudget.onFailure
  rw [hretryable, if_neg (by exact Bool.false_ne_true), if_neg (Nat.not_le.mpr hleft)]
  dsimp only
  unfold reaction
  generalize (if c.budget.attempts = 0 then 0 else c.budget.settings.delay) = delay
  dsimp only
  split
  · exact Or.inl rfl
  · exact Or.inr ⟨delay, rfl⟩

/-- A failure is final, or another attempt is left for it. -/
theorem final_or_retry (c : Connection) (f : ChannelFailure) :
    (f.retryable = false ∨ c.budget.settings.maxAttempts ≤ c.budget.attempts) ∨
      (f.retryable = true ∧ c.budget.attempts < c.budget.settings.maxAttempts) := by
  cases hretryable : f.retryable with
  | false => exact Or.inl (Or.inl rfl)
  | true =>
      rcases Nat.lt_or_ge c.budget.attempts c.budget.settings.maxAttempts with hleft | hused
      · exact Or.inr ⟨rfl, hleft⟩
      · exact Or.inl (Or.inr hused)

end Connection

namespace Hearing

/-- What is done about an arrival, by itself. -/
theorem sound_onArrival (c : Connection) (time : Nat) (arrival : Arrival) :
    (({} : Hearing).answered [arrival] (c.onArrival time arrival)).Sound := by
  cases arrival with
  | ok event =>
      cases event with
      | messages ms => cases ms <;> exact ⟨rfl, rfl, fun _ => rfl, nofun⟩
      | _ => exact ⟨rfl, rfl, fun _ => rfl, nofun⟩
  | error f =>
      show (({} : Hearing).answered [.error f] (c.onFailure f)).Sound
      rcases c.final_or_retry f with hfinal | ⟨hretryable, hleft⟩
      · obtain ⟨logged, hanswer⟩ := Connection.onFailure_of_final hfinal
        rw [hanswer]
        have hactions : (logged.map ConnectionOrder.logError).filterMap
            ConnectionOrder.action? = [] := by
          rw [List.filterMap_map]
          exact List.filterMap_eq_nil_iff.mpr fun _ _ => rfl
        have hreconnects : (logged.map ConnectionOrder.logError).count .reconnect = 0 :=
          List.count_eq_zero.mpr (by simp)
        refine ⟨?_, ?_, nofun, nofun⟩
        · show (logged.map ConnectionOrder.logError ++
              [ConnectionOrder.dispatch (.setRealtime false)]).filterMap
                ConnectionOrder.action? = [.setRealtime false]
          rw [List.filterMap_append, hactions]
          rfl
        · show (logged.map ConnectionOrder.logError ++
              [ConnectionOrder.dispatch (.setRealtime false)]).count .reconnect = 0
          rw [List.count_append, hreconnects]
          rfl
      · rcases Connection.onFailure_of_retry hretryable hleft with hanswer | ⟨delay, hanswer⟩
        · rw [hanswer]
          exact ⟨rfl, rfl, nofun, nofun⟩
        · rw [hanswer]
          exact ⟨rfl, rfl, nofun, fun _ _ => rfl⟩

/-- What is done when another connection is asked for. -/
theorem sound_reconnect (next : Connection) : (({} : Hearing).answered []
    { orders := [.reconnect], turn := .over .reconnecting, next }).Sound :=
  ⟨rfl, rfl, nofun, nofun⟩

end Hearing

namespace Listener

variable {l l' : Listener} {o : Occurrence}

/-- Everything that was done about connections was sound. -/
def IsSound (l : Listener) : Prop := ∀ h ∈ l.hearings, h.Sound

/-- **No occurrence makes a listener do anything else.** -/
theorem Happens.isSound (h : Happens l o l') (hsound : l.IsSound) : l'.IsSound := by
  cases h with
  | connect c past => exact List.forall_mem_cons.mpr ⟨Hearing.sound_new, hsound⟩
  | arrive c heard past time arrival hturn =>
      obtain ⟨hheard, hpast⟩ := List.forall_mem_cons.mp hsound
      refine List.forall_mem_cons.mpr ⟨hheard.answered ?_ ?_ fun _ => hheard.listening hturn, hpast⟩
      · rw [hturn]
        exact nofun
      · exact Hearing.sound_onArrival c time arrival
  | silence c heard past time hturn hlate =>
      obtain ⟨hheard, hpast⟩ := List.forall_mem_cons.mp hsound
      refine List.forall_mem_cons.mpr ⟨hheard.answered ?_ ?_ nofun, hpast⟩
      · rw [hturn]
        exact nofun
      · exact Hearing.sound_reconnect _
  | cancel c heard past hturn =>
      obtain ⟨hheard, hpast⟩ := List.forall_mem_cons.mp hsound
      refine List.forall_mem_cons.mpr ⟨⟨?_, ?_, nofun, nofun⟩, hpast⟩
      · have hbefore := hheard.dispatched
        rw [if_neg (hturn _)] at hbefore
        exact hbefore
      · have hbefore := hheard.reconnects
        rw [if_neg (hturn _)] at hbefore
        exact hbefore
  | retry c heard past delay hturn =>
      obtain ⟨hheard, hpast⟩ := List.forall_mem_cons.mp hsound
      refine List.forall_mem_cons.mpr ⟨hheard.answered ?_ ?_ nofun, hpast⟩
      · rw [hturn]
        exact nofun
      · exact Hearing.sound_reconnect _
  | nothing => exact hsound

/-- **What a listener does about connections is sound**, whatever the course of things. -/
theorem sound_run (s : RealtimeSettings) (course : List Occurrence) :
    ((ofSettings s).run course).IsSound :=
  run_keeps (P := IsSound) (fun _ _ _ h => h.isSound) (fun _ h => absurd h List.not_mem_nil) course

end Listener

/-! ## Attempts -/

/-- It is waited before another attempt. -/
def Hearing.waits (h : Hearing) : Bool :=
  match h.turn with
  | .retryIn _ => true
  | .listen | .over _ => false

/-- The connection failed, and the channel was opened again. -/
def Hearing.retried (h : Hearing) : Bool := h.failed && h.turn = .over .reconnecting

/-- The attempts in use. -/
def Listener.attempts (l : Listener) : Nat := l.connection.budget.attempts

namespace Listener

variable {l l' : Listener} {o : Occurrence} {limit : Nat}

/-- How many connections failed and had the channel opened again. -/
def retries (l : Listener) : Nat := l.hearings.countP Hearing.retried

/-- Whether another attempt is to be made after a while. -/
def waits (l : Listener) : Bool := l.hearings.head?.any Hearing.waits

/-- The reconnections after failures, those that were made and the one to come. -/
def dues (l : Listener) : Nat := l.retries + l.waits.toNat

theorem dues_cons (c : Connection) (h : Hearing) (past : List Hearing) :
    dues ⟨c, h :: past⟩ = past.countP Hearing.retried + h.retried.toNat + h.waits.toNat := by
  unfold dues retries
  rw [List.countP_cons]
  cases h.retried <;> rfl

/-- The attempts in use do not exceed their limit, and one is in use while it is waited. -/
structure Frugal (limit : Nat) (l : Listener) : Prop where
  settings : l.connection.budget.settings.maxAttempts = limit
  attempts : l.attempts ≤ limit
  waiting : l.waits.toNat ≤ l.attempts

/-- Attempts were used up for all reconnections after failures that have become due. -/
def Spends (l l' : Listener) : Prop := l'.dues + l.attempts ≤ l.dues + l'.attempts

/-- A connection that is listened to owes nothing. -/
theorem dues_of_listen {c : Connection} {h : Hearing} {past : List Hearing}
    (hturn : h.turn = .listen) : dues ⟨c, h :: past⟩ = past.countP Hearing.retried := by
  rw [dues_cons, Hearing.retried, Hearing.waits, hturn, Bool.and_comm]
  rfl

/-- **An event uses up no attempt**, and gives all of them back if it is an acceptance. -/
theorem accounts_event {c : Connection} {h : Hearing} {past : List Hearing} (time : Nat)
    (event : RealtimeEvent) (hturn : h.turn = .listen) (hsound : h.Sound)
    (hfrugal : Frugal limit ⟨c, h :: past⟩) :
    let next : Listener := ⟨(c.onEvent time event).next,
      h.answered [.ok event] (c.onEvent time event) :: past⟩
    next.Frugal limit ∧ (event ≠ .connected → Spends ⟨c, h :: past⟩ next) := by
  intro next
  have hfailed : (h.answered [.ok event] (c.onEvent time event)).failed = false := by
    unfold Hearing.failed Hearing.answered
    rw [List.any_append]
    exact Bool.or_eq_false_iff.mpr ⟨hsound.listening hturn, rfl⟩
  have hwaits : (h.answered [.ok event] (c.onEvent time event)).waits = false := by
    cases event with
    | messages ms => cases ms <;> rfl
    | _ => rfl
  have hdues : next.dues = past.countP Hearing.retried := by
    rw [dues_cons, hwaits, Hearing.retried, hfailed]
    rfl
  have hsettings : next.connection.budget.settings = c.budget.settings := by
    cases event with
    | messages ms => cases ms <;> rfl
    | _ => rfl
  have hattempts : event ≠ .connected → next.attempts = c.budget.attempts := by
    intro hevent
    cases event with
    | connected => exact absurd rfl hevent
    | messages ms => cases ms <;> rfl
    | _ => rfl
  have hle : next.attempts ≤ c.budget.attempts := c.attempts_onEvent_le time event
  refine ⟨⟨?_, Nat.le_trans hle hfrugal.attempts, ?_⟩, fun hevent => ?_⟩
  · rw [hsettings]
    exact hfrugal.settings
  · show (h.answered [.ok event] (c.onEvent time event)).waits.toNat ≤ _
    rw [hwaits]
    exact Nat.zero_le _
  · unfold Spends
    rw [hdues, dues_of_listen hturn, hattempts hevent]
    exact Nat.le_refl _

/-- **A failure uses up an attempt if the channel is to be opened again**, and none otherwise. -/
theorem accounts_failure {c : Connection} {h : Hearing} {past : List Hearing} (f : ChannelFailure)
    (hturn : h.turn = .listen) (hfrugal : Frugal limit ⟨c, h :: past⟩) :
    let next : Listener := ⟨(c.onFailure f).next, h.answered [.error f] (c.onFailure f) :: past⟩
    next.Frugal limit ∧ Spends ⟨c, h :: past⟩ next := by
  intro next
  have hfailed : (h.answered [.error f] (c.onFailure f)).failed = true := by
    unfold Hearing.failed Hearing.answered
    rw [List.any_append]
    exact Bool.or_eq_true_iff.mpr (Or.inr rfl)
  have hdues : next.dues = past.countP Hearing.retried +
      (h.answered [.error f] (c.onFailure f)).retried.toNat +
        (h.answered [.error f] (c.onFailure f)).waits.toNat := dues_cons _ _ _
  have hattempts : c.budget.attempts ≤ limit := hfrugal.attempts
  unfold Spends
  rw [hdues, dues_of_listen hturn, Hearing.retried, hfailed, Bool.true_and]
  rcases c.final_or_retry f with hfinal | ⟨hretryable, hleft⟩
  · obtain ⟨logged, hanswer⟩ := Connection.onFailure_of_final hfinal
    subst next
    rw [hanswer]
    exact ⟨⟨hfrugal.settings, hattempts, Nat.zero_le _⟩, Nat.le_refl _⟩
  · have hmore : c.budget.attempts + 1 ≤ limit := hfrugal.settings ▸ hleft
    subst next
    rcases Connection.onFailure_of_retry hretryable hleft with hanswer | ⟨delay, hanswer⟩
    · rw [hanswer]
      refine ⟨⟨hfrugal.settings, hmore, Nat.zero_le _⟩, ?_⟩
      show past.countP _ + 1 + 0 + c.budget.attempts ≤ past.countP _ + (c.budget.attempts + 1)
      omega
    · rw [hanswer]
      refine ⟨⟨hfrugal.settings, hmore, Nat.le_add_left 1 _⟩, ?_⟩
      show past.countP _ + 0 + 1 + c.budget.attempts ≤ past.countP _ + (c.budget.attempts + 1)
      omega

/-- **No occurrence but the acceptance of a connection gives attempts back**, and none exceeds
the limit. -/
theorem Happens.accounts (h : Happens l o l') (hsound : l.IsSound) (hfrugal : l.Frugal limit) :
    l'.Frugal limit ∧ ((∀ time, o ≠ .arrive time (.ok .connected)) → Spends l l') := by
  have hattempts : l.attempts ≤ limit := hfrugal.attempts
  cases h with
  | connect c past =>
      refine ⟨⟨hfrugal.settings, hattempts, Nat.zero_le _⟩, fun _ => ?_⟩
      exact Nat.add_le_add_right (Nat.le_add_right _ _) _
  | arrive c heard past time arrival hturn =>
      cases arrival with
      | ok event =>
          have haccount := accounts_event time event hturn (hsound heard List.mem_cons_self) hfrugal
          exact ⟨haccount.1, fun ho => haccount.2 fun hevent => ho time (hevent ▸ rfl)⟩
      | error f =>
          have haccount := accounts_failure f hturn hfrugal
          exact ⟨haccount.1, fun _ => haccount.2⟩
  | silence c heard past time hturn hlate =>
      refine ⟨⟨hfrugal.settings, hattempts, Nat.zero_le _⟩, fun _ => ?_⟩
      have hfailed : (heard.answered [] c.onSilence).failed = false := by
        unfold Hearing.failed Hearing.answered
        rw [List.append_nil]
        exact (hsound heard List.mem_cons_self).listening hturn
      unfold Spends
      rw [dues_of_listen hturn, dues_cons, Hearing.retried, hfailed]
      exact Nat.le_refl _
  | cancel c heard past hturn =>
      refine ⟨⟨hfrugal.settings, hattempts, Nat.zero_le _⟩, fun _ => ?_⟩
      unfold Spends
      have hretried : ({ heard with turn := .over .cancelled } : Hearing).retried = false :=
        Bool.and_false _
      rw [dues_cons, dues_cons, hretried]
      exact Nat.add_le_add_right (Nat.le_trans (Nat.le_add_right _ _) (Nat.le_add_right _ _)) _
  | retry c heard past delay hturn =>
      have hwaits : heard.waits = true := by
        unfold Hearing.waits
        rw [hturn]
      have hretried : (heard.answered [] c.onRetry).retried.toNat ≤ 1 := Bool.toNat_le _
      refine ⟨⟨hfrugal.settings, hattempts, Nat.zero_le _⟩, fun _ => ?_⟩
      unfold Spends
      rw [dues_cons, dues_cons, hwaits]
      show past.countP _ + _ + 0 + c.budget.attempts ≤ past.countP _ + _ + 1 + c.budget.attempts
      omega
  | nothing => exact ⟨hfrugal, fun _ => Nat.le_refl _⟩

/-- A listener that starts is frugal. -/
theorem frugal_ofSettings (s : RealtimeSettings) : (ofSettings s).Frugal s.maxRetries :=
  ⟨rfl, Nat.zero_le _, Nat.zero_le _⟩

/-- **The attempts in use never exceed their limit.** -/
theorem frugal_run (hsound : l.IsSound) (hfrugal : l.Frugal limit) (course : List Occurrence) :
    (l.run course).Frugal limit :=
  (run_keeps (P := fun l => l.IsSound ∧ l.Frugal limit)
    (fun _ _ _ h hl => ⟨h.isSound hl.1, (h.accounts hl.1 hl.2).1⟩) ⟨hsound, hfrugal⟩ course).2

/-- **As long as no connection is accepted, attempts are used up** for all reconnections that
have become due after failures. -/
theorem spends_run (hsound : l.IsSound) (hfrugal : l.Frugal limit) {course : List Occurrence}
    (hcourse : ∀ time, .arrive time (.ok .connected) ∉ course) : Spends l (l.run course) := by
  induction course generalizing l with
  | nil => exact Nat.le_refl _
  | cons o rest ih =>
      have hstep := l.happens_after o
      have hnext := hstep.accounts hsound hfrugal
      have hfirst : Spends l (l.after o) :=
        hnext.2 fun time ho => hcourse time (ho ▸ List.mem_cons_self)
      have hrest : Spends (l.after o) ((l.after o).run rest) :=
        ih (hstep.isSound hsound) hnext.1 fun time hmem => hcourse time (List.mem_cons_of_mem _ hmem)
      unfold Spends at hfirst hrest ⊢
      show ((l.after o).run rest).dues + _ ≤ _ + ((l.after o).run rest).attempts
      omega

end Listener

end InAppMessaging
