import InAppMessaging.Proofs.Engine.Course
import InAppMessaging.Proofs.Realtime.Listener

/-!
# The deadline of the heartbeat

A connection that has promised a heartbeat and falls silent is opened again.  Going by the events
alone, the moment is that of the last promise, with the promised time and the buffer on top
(`RealtimeSettings.deadline?`).  Going by the connection, it is whatever its heartbeat was armed
with, by this connection or by an earlier one.

Timers are never late here: of an arrival, the heartbeat and a stop from outside the earliest comes
first, and of several at the same moment any (`Surroundings.Attends`, `Surroundings.Ends`).

* `Surroundings.Attends.due_eq` — **the heartbeat is armed with the deadline**, whatever it was
  armed with before;
* `Surroundings.Attends.heard_in_time` — every event is heard by the deadline that those before it
  have set;
* `Surroundings.Attends.finishes` — a connection with only so many arrivals is listened to up to an
  end, unless nothing is promised and nobody stops;
* `Engine.listen_comesTo` — an engine that listens comes to an end that there can be;
* `Listener.heartbeat_deadline` — **the deadline**, after any course of earlier connections.
-/

namespace InAppMessaging

/-! ## The deadline -/

/-- What was heard over a connection, each event with its time. -/
abbrev Heard := List (Nat × RealtimeEvent)

/-- Within what time an event promises another heartbeat, if it does. -/
def RealtimeEvent.promise? (default : Nat) : RealtimeEvent → Option Nat
  | .connected => some default
  | .heartbeat timeout => some timeout
  | .messages _ | .lifetimeOver | .unknown _ => none

namespace RealtimeSettings

/-- The moment by which the promise of an event is to be kept. -/
def dueAfter? (s : RealtimeSettings) (time : Nat) (event : RealtimeEvent) : Option Nat :=
  (event.promise? s.heartbeatTimeout).map fun timeout => time + timeout + s.heartbeatBuffer

/-- The deadline that the last promise has set. -/
def deadline? (s : RealtimeSettings) (heard : Heard) : Option Nat :=
  (heard.filterMap fun x => s.dueAfter? x.1 x.2).getLast?

variable {s : RealtimeSettings} {heard : Heard} {time : Nat} {event : RealtimeEvent}

/-- Another promise replaces the deadline, and nothing else does. -/
theorem deadline?_append :
    s.deadline? (heard ++ [(time, event)]) =
      (s.dueAfter? time event).or (s.deadline? heard) := by
  unfold deadline?
  rw [List.filterMap_append, List.getLast?_append, List.filterMap_cons]
  cases s.dueAfter? time event <;> rfl

/-- **An event that promises nothing leaves the deadline where it is.** -/
theorem deadline?_append_of_promise?_eq_none (h : event.promise? s.heartbeatTimeout = none) :
    s.deadline? (heard ++ [(time, event)]) = s.deadline? heard := by
  rw [deadline?_append, dueAfter?, h]
  rfl

/-- **There is no deadline before the first promise.** -/
theorem deadline?_eq_none_iff :
    s.deadline? heard = none ↔ ∀ x ∈ heard, x.2.promise? s.heartbeatTimeout = none := by
  unfold deadline? dueAfter?
  rw [List.getLast?_eq_none_iff, List.filterMap_eq_nil_iff]
  exact forall₂_congr fun x _ => Option.map_eq_none_iff

end RealtimeSettings

/-! ## How a connection can be listened to -/

/-- What goes on around somebody who listens to one connection: what arrives, one after the other
with its time and possibly without end, and when the listening is stopped from outside, if it is. -/
structure Surroundings where
  arrival? : Nat → Option (Nat × Arrival)
  stop? : Option Nat

/-- What the listening to a connection ends with. -/
inductive Ending where
  | silence
  | arrival (a : Arrival)
  | stopped

theorem Ending.arrival_ne_stopped (a : Arrival) : arrival a ≠ .stopped := by
  intro hstopped
  cases hstopped

namespace Surroundings

variable (w : Surroundings)

/-- The moments of what may happen next, once so many events were heard. -/
def moments (n : Nat) (c : Connection) : List Nat :=
  c.heartbeat.due.toList ++ ((w.arrival? n).map (·.1)).toList ++ w.stop?.toList

/-- Nothing happens before a moment, once so many events were heard. -/
def NothingBefore (n : Nat) (c : Connection) (moment : Nat) : Prop :=
  ∀ m ∈ w.moments n c, moment ≤ m

/-- What can be heard of a connection before the listening ends, and what has become of the
connection by then.  It begins without a heartbeat that is due. -/
inductive Attends (c : Connection) : Heard → Connection → Prop
  | start : Attends c [] c.silence
  | hear {heard : Heard} {current : Connection} {time : Nat} {event : RealtimeEvent}
      (h : Attends c heard current) (hnext : w.arrival? heard.length = some (time, .ok event))
      (hfirst : w.NothingBefore heard.length current time)
      (hturn : (current.onEvent time event).turn = .listen) :
      Attends c (heard ++ [(time, event)]) (current.onEvent time event).next

/-- After which events, when and how the listening to a connection can end, and what is done about
that. -/
inductive Ends (c : Connection) : Heard → Nat → Ending → ConnectionAnswer → Prop
  | silence {heard : Heard} {current : Connection} {time : Nat} (h : Attends w c heard current)
      (hdue : current.heartbeat.due = some time)
      (hfirst : w.NothingBefore heard.length current time) :
      Ends c heard time .silence current.onSilence
  | arrival {heard : Heard} {current : Connection} {time : Nat} {a : Arrival}
      (h : Attends w c heard current) (hnext : w.arrival? heard.length = some (time, a))
      (hfirst : w.NothingBefore heard.length current time)
      (hturn : (current.onArrival time a).turn ≠ .listen) :
      Ends c heard time (.arrival a) (current.onArrival time a)
  | stopped {heard : Heard} {current : Connection} {time : Nat} (h : Attends w c heard current)
      (hstop : w.stop? = some time) (hfirst : w.NothingBefore heard.length current time) :
      Ends c heard time .stopped { turn := .over .cancelled, next := current.silence }

/-- Nobody stops, and nothing arrives that ends the listening. -/
def Undisturbed : Prop :=
  w.stop? = none ∧ ∀ n x, w.arrival? n = some x → ∃ event, x.2 = .ok event ∧ event ≠ .lifetimeOver

variable {w} {n moment : Nat} {c : Connection}

instance : Decidable (w.NothingBefore n c moment) :=
  inferInstanceAs (Decidable (∀ m ∈ w.moments n c, moment ≤ m))

theorem nothingBefore_iff :
    w.NothingBefore n c moment ↔
      (∀ due ∈ c.heartbeat.due, moment ≤ due) ∧ (∀ x ∈ w.arrival? n, moment ≤ x.1) ∧
        ∀ stop ∈ w.stop?, moment ≤ stop := by
  unfold NothingBefore moments
  rw [List.forall_mem_append, List.forall_mem_append, and_assoc]
  simp only [Option.mem_toList, Option.mem_def, Option.map_eq_some_iff, forall_exists_index,
    and_imp, forall_apply_eq_imp_iff₂]

theorem moments_eq_nil_iff :
    w.moments n c = [] ↔
      c.heartbeat.due = none ∧ w.arrival? n = none ∧ w.stop? = none := by
  simp [moments]

/-- Unless nothing is to happen at all, something is the first. -/
theorem exists_first (w : Surroundings) (n : Nat) (c : Connection) :
    w.moments n c = [] ∨ ∃ moment ∈ w.moments n c, w.NothingBefore n c moment := by
  cases hmin : (w.moments n c).min? with
  | none => exact Or.inl (List.min?_eq_none_iff.mp hmin)
  | some moment => exact Or.inr ⟨moment, List.min?_eq_some_iff.mp hmin⟩

end Surroundings

/-! ## What a connection does about the heartbeat -/

namespace Connection

/-- The connection has the timings of a configuration. -/
structure Timed (s : RealtimeSettings) (c : Connection) : Prop where
  buffer : c.heartbeat.buffer = s.heartbeatBuffer
  timeout : c.defaultTimeout = s.heartbeatTimeout

variable {s : RealtimeSettings} {c : Connection} {time : Nat} {event : RealtimeEvent}

theorem Timed.silence (h : c.Timed s) : c.silence.Timed s := ⟨h.buffer, h.timeout⟩

/-- Nothing that arrives changes the timings. -/
theorem Timed.onArrival (h : c.Timed s) (time : Nat) (a : Arrival) :
    (c.onArrival time a).next.Timed s := by
  cases a with
  | error f => exact ⟨h.buffer, h.timeout⟩
  | ok event =>
      cases event with
      | messages ms => cases ms <;> exact ⟨h.buffer, h.timeout⟩
      | _ => exact ⟨h.buffer, h.timeout⟩

/-- **An event sets the deadline that it promises**, and no other event touches it as long as the
connection is listened to. -/
theorem Timed.due_onEvent (h : c.Timed s) (hturn : (c.onEvent time event).turn = .listen) :
    (c.onEvent time event).next.heartbeat.due =
      (s.dueAfter? time event).or c.heartbeat.due := by
  have hpromise : ∀ timeout, (c.heartbeat.arm time timeout).due =
      some (time + timeout + s.heartbeatBuffer) :=
    fun timeout => h.buffer ▸ rfl
  cases event with
  | connected => exact (hpromise c.defaultTimeout).trans (h.timeout ▸ rfl)
  | heartbeat timeout => exact hpromise timeout
  | messages ms => cases ms <;> rfl
  | lifetimeOver => cases hturn
  | unknown name => rfl

/-- What an event promises is due no earlier than the event. -/
theorem le_due_onEvent (hdue : ∀ due ∈ c.heartbeat.due, time ≤ due) (event : RealtimeEvent) :
    ∀ due ∈ (c.onEvent time event).next.heartbeat.due, time ≤ due := by
  have harmed : ∀ timeout, ∀ due ∈ (c.heartbeat.arm time timeout).due, time ≤ due := by
    rintro timeout due hmem
    cases hmem
    exact Nat.le_trans (Nat.le_add_right time timeout) (Nat.le_add_right _ _)
  cases event with
  | connected => exact harmed c.defaultTimeout
  | heartbeat timeout => exact harmed timeout
  | messages ms => cases ms <;> exact hdue
  | lifetimeOver => exact nofun
  | unknown name => exact hdue

/-- A failure ends the listening. -/
theorem onFailure_ne_listen (c : Connection) (f : ChannelFailure) :
    (c.onFailure f).turn ≠ .listen := by
  rcases c.final_or_retry f with hfinal | ⟨hretryable, hleft⟩
  · obtain ⟨logged, hanswer⟩ := onFailure_of_final hfinal
    rw [hanswer]
    exact nofun
  · rcases onFailure_of_retry hretryable hleft with hanswer | ⟨delay, hanswer⟩ <;>
      · rw [hanswer]
        exact nofun

/-- **Only a lifetime that is over and failures end the listening**; the end of a stream is one of
these. -/
theorem onArrival_ne_listen {a : Arrival} :
    (c.onArrival time a).turn ≠ .listen ↔ a = .ok .lifetimeOver ∨ ∃ f, a = .error f := by
  cases a with
  | error f => exact ⟨fun _ => Or.inr ⟨f, rfl⟩, fun _ => c.onFailure_ne_listen f⟩
  | ok event =>
      cases event with
      | lifetimeOver => exact ⟨fun _ => Or.inl rfl, fun _ => nofun⟩
      | messages ms => cases ms <;> exact ⟨fun h => absurd rfl h, nofun⟩
      | _ => exact ⟨fun h => absurd rfl h, nofun⟩

end Connection

/-- **The timings outlive all connections.** -/
theorem Listener.timed_run (s : RealtimeSettings) (course : List Occurrence) :
    ((ofSettings s).run course).connection.Timed s := by
  refine run_keeps (P := fun l => l.connection.Timed s) ?_ ⟨rfl, rfl⟩ course
  intro l o l' h htimed
  cases h with
  | connect | silence | cancel => exact htimed.silence
  | arrive _ _ _ time arrival _ => exact htimed.onArrival time arrival
  | retry | nothing => exact htimed

/-! ## What is heard, and by when -/

namespace Surroundings

variable {s : RealtimeSettings} {w : Surroundings} {c current : Connection} {heard : Heard}
  {time : Nat}

namespace Attends

theorem timed (h : w.Attends c heard current) (hc : c.Timed s) : current.Timed s := by
  induction h with
  | start => exact hc.silence
  | hear h hnext hfirst hturn ih => exact ih.onArrival _ (.ok _)

/-- **The heartbeat is armed with the deadline**, whatever it was armed with before. -/
theorem due_eq (h : w.Attends c heard current) (hc : c.Timed s) :
    current.heartbeat.due = s.deadline? heard := by
  induction h with
  | start => rfl
  | hear h hnext hfirst hturn ih =>
      rw [RealtimeSettings.deadline?_append, ← ih]
      exact (h.timed hc).due_onEvent hturn

/-- What comes first comes by the deadline. -/
theorem le_deadline (h : w.Attends c heard current) (hc : c.Timed s)
    (hfirst : w.NothingBefore heard.length current time) :
    ∀ due ∈ s.deadline? heard, time ≤ due := by
  rw [← h.due_eq hc]
  exact (nothingBefore_iff.mp hfirst).1

/-- **Every event is heard by the deadline that those before it have set**, and is the one that
arrives next. -/
theorem heard_in_time (h : w.Attends c heard current) (hc : c.Timed s) {before : Heard}
    {event : RealtimeEvent} (hpart : before ++ [(time, event)] <+: heard) :
    w.arrival? before.length = some (time, .ok event) ∧
      ∀ due ∈ s.deadline? before, time ≤ due := by
  induction h with
  | start => simp at hpart
  | @hear heard current moment other h hnext hfirst hturn ih =>
      rcases List.prefix_concat_iff.mp hpart with heq | hearlier
      · obtain ⟨rfl, hlast⟩ := List.append_inj' heq rfl
        cases hlast
        exact ⟨hnext, h.le_deadline hc hfirst⟩
      · exact ih hearlier

/-- An arrival that comes first is heard, or it ends the listening. -/
theorem meets {a : Arrival} (h : w.Attends c heard current)
    (hnext : w.arrival? heard.length = some (time, a))
    (hfirst : w.NothingBefore heard.length current time) :
    (∃ event after, a = .ok event ∧ w.Attends c (heard ++ [(time, event)]) after) ∨
      ∃ answer, w.Ends c heard time (.arrival a) answer := by
  by_cases hturn : (current.onArrival time a).turn = .listen
  · cases a with
    | ok event => exact Or.inl ⟨event, _, rfl, .hear h hnext hfirst hturn⟩
    | error f => exact absurd hturn (current.onFailure_ne_listen f)
  · exact Or.inr ⟨_, .arrival h hnext hfirst hturn⟩

/-- **Listening goes on or comes to an end**, unless nothing is to happen at all. -/
theorem proceeds (h : w.Attends c heard current) :
    (∃ x after, w.Attends c (heard ++ [x]) after) ∨
      (∃ time how answer, w.Ends c heard time how answer) ∨ w.moments heard.length current = [] := by
  rcases w.exists_first heard.length current with hnone | ⟨moment, hmem, hfirst⟩
  · exact Or.inr (Or.inr hnone)
  · rcases List.mem_append.mp hmem with hmem | hstop
    · rcases List.mem_append.mp hmem with hdue | harrival
      · exact Or.inr (Or.inl ⟨moment, _, _, .silence h (Option.mem_toList.mp hdue) hfirst⟩)
      · obtain ⟨⟨_, a⟩, hnext, rfl⟩ := Option.map_eq_some_iff.mp (Option.mem_toList.mp harrival)
        rcases h.meets hnext hfirst with ⟨event, after, -, hheard⟩ | ⟨answer, hends⟩
        · exact Or.inl ⟨_, after, hheard⟩
        · exact Or.inr (Or.inl ⟨_, _, answer, hends⟩)
    · exact Or.inr (Or.inl ⟨moment, _, _, .stopped h (Option.mem_toList.mp hstop) hfirst⟩)

/-- **A connection with only so many arrivals is listened to up to an end**, unless nothing is
promised when all of them are heard, and nobody stops. -/
theorem finishes {n : Nat} (hfinite : ∀ m, n ≤ m → w.arrival? m = none) (hc : c.Timed s)
    {heard : Heard} {current : Connection} (h : w.Attends c heard current) :
    ∃ more, (∃ time how answer, w.Ends c (heard ++ more) time how answer) ∨
      (∃ after, w.Attends c (heard ++ more) after) ∧ s.deadline? (heard ++ more) = none ∧
        w.arrival? (heard ++ more).length = none ∧ w.stop? = none := by
  rcases h.proceeds with ⟨⟨time, event⟩, after, hheard⟩ | hends | hnone
  · -- what is heard leaves fewer arrivals
    have hnext := (hheard.heard_in_time hc List.prefix_rfl).1
    have hleft : heard.length < n := by
      apply Nat.lt_of_not_le
      intro hmany
      rw [hfinite _ hmany] at hnext
      cases hnext
    obtain ⟨more, hmore⟩ := finishes hfinite hc hheard
    rw [List.append_assoc] at hmore
    exact ⟨_, hmore⟩
  · refine ⟨[], Or.inl ?_⟩
    rw [List.append_nil]
    exact hends
  · refine ⟨[], Or.inr ?_⟩
    rw [List.append_nil, ← h.due_eq hc]
    exact ⟨⟨current, h⟩, moments_eq_nil_iff.mp hnone⟩
termination_by n - heard.length
decreasing_by
  rw [List.length_append, List.length_singleton]
  omega

end Attends

/-- **Listening that keeps the times of a configuration.** -/
structure Punctual (s : RealtimeSettings) (w : Surroundings) (c : Connection) : Prop where
  /-- The events that are heard are those that arrive, in their order, each by the deadline that
  the ones before it have set. -/
  heard : ∀ {heard current}, w.Attends c heard current →
    ∀ {before time event}, before ++ [(time, event)] <+: heard →
      w.arrival? before.length = some (time, .ok event) ∧ ∀ due ∈ s.deadline? before, time ≤ due
  /-- Silence ends the listening at the deadline, and the channel is opened again. -/
  silence : ∀ {heard time answer}, w.Ends c heard time .silence answer →
    s.deadline? heard = some time ∧ answer.orders = [.reconnect] ∧
      answer.turn = .over .reconnecting
  /-- Of what arrives, only a lifetime that is over and failures end it, by the deadline. -/
  arrival : ∀ {heard time a answer}, w.Ends c heard time (.arrival a) answer →
    w.arrival? heard.length = some (time, a) ∧ (a = .ok .lifetimeOver ∨ ∃ f, a = .error f) ∧
      ∀ due ∈ s.deadline? heard, time ≤ due
  /-- Somebody who stops ends it, by the deadline. -/
  stopped : ∀ {heard time answer}, w.Ends c heard time .stopped answer →
    w.stop? = some time ∧ ∀ due ∈ s.deadline? heard, time ≤ due
  /-- Where nothing of that disturbs, only silence ends it. -/
  undisturbed : w.Undisturbed → ∀ {heard time how answer}, w.Ends c heard time how answer →
    how = .silence
  /-- Silence can end it unless something happens before the deadline. -/
  ends : ∀ {heard current due}, w.Attends c heard current → s.deadline? heard = some due →
    (∀ x ∈ w.arrival? heard.length, due ≤ x.1) → (∀ stop ∈ w.stop?, due ≤ stop) →
    ∃ answer, w.Ends c heard due .silence answer
  /-- What arrives can be heard, or end it, unless the deadline or a stop comes before. -/
  meets : ∀ {heard current time a}, w.Attends c heard current →
    w.arrival? heard.length = some (time, a) → (∀ due ∈ s.deadline? heard, time ≤ due) →
    (∀ stop ∈ w.stop?, time ≤ stop) →
    (∃ event after, a = .ok event ∧ w.Attends c (heard ++ [(time, event)]) after) ∨
      ∃ answer, w.Ends c heard time (.arrival a) answer
  /-- When only so many things arrive it comes to an end, unless nothing is promised when all of
  them are heard, and nobody stops. -/
  finishes : ∀ {n heard current}, (∀ m, n ≤ m → w.arrival? m = none) →
    w.Attends c heard current →
    ∃ more, (∃ time how answer, w.Ends c (heard ++ more) time how answer) ∨
      (∃ after, w.Attends c (heard ++ more) after) ∧ s.deadline? (heard ++ more) = none ∧
        w.arrival? (heard ++ more).length = none ∧ w.stop? = none

/-- **Who has the timings of a configuration keeps its times**, whatever an earlier connection has
left armed. -/
theorem punctual_of_timed (hc : c.Timed s) (w : Surroundings) : w.Punctual s c where
  heard h _ _ _ hpart := h.heard_in_time hc hpart
  silence h := by
    cases h with
    | silence h hdue hfirst => exact ⟨(h.due_eq hc).symm.trans hdue, rfl, rfl⟩
  arrival h := by
    cases h with
    | arrival h hnext hfirst hturn =>
        exact ⟨hnext, Connection.onArrival_ne_listen.mp hturn, h.le_deadline hc hfirst⟩
  stopped h := by
    cases h with
    | stopped h hstop hfirst => exact ⟨hstop, h.le_deadline hc hfirst⟩
  undisturbed hundisturbed heard time how answer h := by
    obtain ⟨hnobody, hharmless⟩ := hundisturbed
    cases h with
    | silence h hdue hfirst => rfl
    | arrival h hnext hfirst hturn =>
        obtain ⟨event, rfl, hevent⟩ := hharmless _ _ hnext
        rcases Connection.onArrival_ne_listen.mp hturn with hover | ⟨f, hfailure⟩
        · exact absurd (Except.ok.inj hover) hevent
        · cases hfailure
    | stopped h hstop hfirst => cases hnobody.symm.trans hstop
  ends {heard current due} h hdue harrival hstop := by
    have harmed : current.heartbeat.due = some due := (h.due_eq hc).trans hdue
    refine ⟨_, .silence h harmed (nothingBefore_iff.mpr ⟨?_, harrival, hstop⟩)⟩
    rintro other hother
    rw [harmed] at hother
    exact Nat.le_of_eq (Option.some.inj hother)
  meets {heard current time a} h hnext hdue hstop := by
    refine h.meets hnext (nothingBefore_iff.mpr ⟨?_, ?_, hstop⟩)
    · rw [h.due_eq hc]
      exact hdue
    · intro x hx
      rw [hnext] at hx
      cases hx
      exact Nat.le_refl time
  finishes hfinite h := h.finishes hfinite hc

end Surroundings

/-! ## An engine that listens -/

namespace Listening

variable {l : Listening} {c : Connection} {time : Nat} {what : Interruption}

/-- When somebody stops the listening, be it cancelled or given up. -/
def stopsAt (l : Listening) : Nat := l.cancelAt.elim l.giveUpAt (min l.giveUpAt)

/-- Of several timed things one is the earliest, and none is earlier. -/
theorem exists_earliest {α : Type} {xs : List (Nat × α)} {x : Nat × α} (h : x ∈ xs) :
    ∃ y, earliest xs = some y ∧ y.1 ≤ x.1 := by
  induction xs with
  | nil => exact absurd h List.not_mem_nil
  | cons first rest ih =>
      unfold earliest
      cases hrest : earliest rest with
      | none =>
          rcases List.mem_cons.mp h with rfl | hmem
          · exact ⟨x, rfl, Nat.le_refl _⟩
          · obtain ⟨y, hy, -⟩ := ih hmem
            rw [hrest] at hy
            cases hy
      | some y =>
          dsimp only
          have hle : x ∈ rest → y.1 ≤ x.1 := by
            intro hmem
            obtain ⟨other, hother, hle⟩ := ih hmem
            rw [hrest] at hother
            cases hother
            exact hle
          split
          · next hless =>
              refine ⟨y, rfl, ?_⟩
              rcases List.mem_cons.mp h with rfl | hmem
              · exact Nat.le_of_lt hless
              · exact hle hmem
          · next hmore =>
              refine ⟨first, rfl, ?_⟩
              rcases List.mem_cons.mp h with rfl | hmem
              · exact Nat.le_refl _
              · exact Nat.le_trans (Nat.not_lt.mp hmore) (hle hmem)

theorem earliest_le {α : Type} {xs : List (Nat × α)} {x : Nat × α} (h : earliest xs = some x) :
    ∀ y ∈ xs, x.1 ≤ y.1 := by
  intro y hy
  obtain ⟨first, hfirst, hle⟩ := exists_earliest hy
  rw [h] at hfirst
  cases hfirst
  exact hle

/-- The heartbeat or a stop interrupts the listening. -/
theorem mem_interruptions (h : (time, what) ∈ l.interruptions c) :
    what = .silence ∧ c.heartbeat.due = some time ∨ what ≠ .silence ∧ l.stopsAt ≤ time := by
  rcases List.mem_append.mp h with hmem | hcancelled
  · rcases List.mem_append.mp hmem with hsilence | hgivenUp
    · obtain ⟨due, hdue, heq⟩ := Option.map_eq_some_iff.mp (Option.mem_toList.mp hsilence)
      cases heq
      exact Or.inl ⟨rfl, hdue⟩
    · cases List.mem_singleton.mp hgivenUp
      refine Or.inr ⟨nofun, ?_⟩
      unfold stopsAt
      cases l.cancelAt with
      | none => exact Nat.le_refl _
      | some other => exact Nat.min_le_left _ _
  · obtain ⟨other, hcancel, heq⟩ := Option.map_eq_some_iff.mp (Option.mem_toList.mp hcancelled)
    cases heq
    refine Or.inr ⟨nofun, ?_⟩
    rw [stopsAt, hcancel]
    exact Nat.min_le_right _ _

theorem silence_mem_interruptions (h : c.heartbeat.due = some time) :
    (time, .silence) ∈ l.interruptions c := by
  simp [interruptions, h]

theorem stopsAt_mem_interruptions (l : Listening) (c : Connection) :
    ∃ what, (l.stopsAt, what) ∈ l.interruptions c := by
  unfold stopsAt interruptions
  cases l.cancelAt with
  | none => exact ⟨.givenUp, by simp⟩
  | some other =>
      rcases Nat.le_total l.giveUpAt other with hle | hle
      · exact ⟨.givenUp, by simp [Nat.min_eq_left hle]⟩
      · exact ⟨.cancelled, by simp [Nat.min_eq_right hle]⟩

end Listening

namespace Engine

variable {l : Listening} {w : Surroundings} {c current : Connection} {heard : Heard} {e : Engine}

/-- An engine that listens has come to an end that there can be.  If that ends the listening for
good, the answer is carried out at that time; a stop does not open the channel again. -/
def ComesTo (l : Listening) (w : Surroundings) (c : Connection) (r : Listened) : Prop :=
  ∃ heard time how answer, w.Ends c heard time how answer ∧
    (how = .stopped → r.why ≠ some .reconnecting) ∧
    (how ≠ .stopped → ∀ why, answer.turn = .over why → ∃ e : Engine, e.time = time ∧
      r = ⟨some why, answer.next, e.obeyAnswer l.reconnector answer⟩)

/-- An engine that carries out the answer, if it is final, has come to that end. -/
theorem comesTo_of_answer {time : Nat} {how : Ending} {answer : ConnectionAnswer} {r : Listened}
    (h : w.Ends c heard time how answer) (hhow : how ≠ .stopped) (htime : e.time = time)
    (hr : ∀ why, answer.turn = .over why →
      r = ⟨some why, answer.next, e.obeyAnswer l.reconnector answer⟩) : ComesTo l w c r :=
  ⟨heard, time, how, answer, h, fun hstopped => absurd hstopped hhow,
    fun _ why hwhy => ⟨e, htime, hr why hwhy⟩⟩

theorem endWith_of_over {f : ChannelFailure} {why : ConnectionEnd}
    (h : (c.onFailure f).turn = .over why) :
    endWith l c f e =
      ⟨some why, (c.onFailure f).next, e.obeyAnswer l.reconnector (c.onFailure f)⟩ := by
  unfold endWith
  dsimp only
  rw [h]

/-- What an engine meets first is first among what there can be. -/
theorem nothingBefore {n time : Nat} (hstop : w.stop? = some l.stopsAt)
    (hinterruptions : ∀ x ∈ l.interruptions current, time ≤ x.1)
    (harrival : ∀ x ∈ w.arrival? n, time ≤ x.1) : w.NothingBefore n current time := by
  refine Surroundings.nothingBefore_iff.mpr ⟨fun due hdue => ?_, harrival, fun stop hmem => ?_⟩
  · exact hinterruptions _ (Listening.silence_mem_interruptions hdue)
  · rw [hstop] at hmem
    cases hmem
    obtain ⟨what, hwhat⟩ := l.stopsAt_mem_interruptions current
    exact hinterruptions _ hwhat

/-- The first interruption ends the listening, if nothing arrives before. -/
theorem interrupt_comesTo {time : Nat} {what : Interruption} (h : w.Attends c heard current)
    (hstop : w.stop? = some l.stopsAt)
    (hwhat : Listening.earliest (l.interruptions current) = some (time, what))
    (harrival : ∀ x ∈ w.arrival? heard.length, time ≤ x.1)
    (htime : ∀ due ∈ current.heartbeat.due, e.time ≤ due) :
    ComesTo l w c (interrupt l current (e.waitUntil time) what) := by
  have hfirst := Listening.earliest_le hwhat
  have hbefore : w.NothingBefore heard.length current time := nothingBefore hstop hfirst harrival
  rcases Listening.mem_interruptions (Listening.earliest_mem hwhat) with
    ⟨rfl, hdue⟩ | ⟨hnotSilence, hle⟩
  · refine comesTo_of_answer (.silence h hdue hbefore) nofun (time_waitUntil (htime time hdue)) ?_
    intro why hwhy
    cases hwhy
    rfl
  · obtain ⟨other, hother⟩ := l.stopsAt_mem_interruptions current
    have hstops : l.stopsAt = time := Nat.le_antisymm hle (hfirst _ hother)
    refine ⟨heard, time, .stopped, _, .stopped h (hstops ▸ hstop) hbefore, fun _ => ?_,
      fun hnotStopped => absurd rfl hnotStopped⟩
    cases what with
    | silence => exact absurd rfl hnotSilence
    | cancelled => exact nofun
    | givenUp => exact nofun

/-- **An engine that listens comes to an end that there can be**: of what is to happen at the same
moment arrivals come first. -/
theorem listen_comesTo {feed : List (Nat × Arrival)} (h : w.Attends c heard current)
    (hstop : w.stop? = some l.stopsAt) (hfeed : ∀ n, w.arrival? (heard.length + n) = feed[n]?)
    (hchronological : (e.time :: feed.map (·.1)).Pairwise (· ≤ ·))
    (hdue : ∀ due ∈ current.heartbeat.due, e.time ≤ due) :
    ComesTo l w c (e.listen l feed current) := by
  induction feed generalizing heard current e with
  | nil =>
      obtain ⟨other, hother⟩ := l.stopsAt_mem_interruptions current
      obtain ⟨⟨time, what⟩, hwhat, -⟩ := Listening.exists_earliest hother
      have hnone : w.arrival? heard.length = none := hfeed 0
      unfold listen
      rw [hwhat]
      refine interrupt_comesTo h hstop hwhat (fun x hx => ?_) hdue
      rw [hnone] at hx
      cases hx
  | cons x rest ih =>
      obtain ⟨moment, arrival⟩ := x
      have hnext : w.arrival? heard.length = some (moment, arrival) := hfeed 0
      have hlast : ∀ x ∈ w.arrival? heard.length, x.1 = moment := by
        rw [hnext]
        rintro x hx
        cases hx
        rfl
      obtain ⟨hlater, hrest⟩ := List.pairwise_cons.mp hchronological
      have hwaited : (e.waitUntil moment).time = moment :=
        time_waitUntil (hlater moment List.mem_cons_self)
      unfold listen
      split
      · next time what hfilter =>
          obtain ⟨hwhat, hless⟩ := Option.mem_filter_iff.mp hfilter
          have htime : time ≤ moment := Nat.le_of_lt (of_decide_eq_true hless)
          exact interrupt_comesTo h hstop hwhat (fun x hx => hlast x hx ▸ htime) hdue
      · next hfilter =>
          have hinterruptions : ∀ x ∈ l.interruptions current, moment ≤ x.1 := by
            intro x hx
            obtain ⟨first, hfirst, hle⟩ := Listening.exists_earliest hx
            rw [hfirst] at hfilter
            have hmore : moment ≤ first.1 := by simpa using hfilter
            exact Nat.le_trans hmore hle
          have hbefore : w.NothingBefore heard.length current moment :=
            nothingBefore hstop hinterruptions fun x hx => Nat.le_of_eq (hlast x hx).symm
          cases arrival with
          | error f =>
              exact comesTo_of_answer (.arrival h hnext hbefore (current.onFailure_ne_listen f))
                (Ending.arrival_ne_stopped _) hwaited fun why => endWith_of_over
          | ok event =>
              dsimp only
              rw [hwaited]
              split
              · next why hwhy =>
                  have hturn : (current.onArrival moment (.ok event)).turn ≠ .listen := by
                    intro hlisten
                    exact ConnectionTurn.noConfusion (hwhy.symm.trans hlisten)
                  refine comesTo_of_answer (.arrival h hnext hbefore hturn)
                    (Ending.arrival_ne_stopped _) hwaited ?_
                  intro other hother
                  cases hwhy.symm.trans hother
                  rfl
              · next hgoes =>
                  have hturn : (current.onEvent moment event).turn = .listen := by
                    cases event with
                    | lifetimeOver => exact absurd rfl (hgoes _)
                    | messages ms => cases ms <;> rfl
                    | _ => rfl
                  have hnow := (time_obeyAnswer l.reconnector (current.onEvent moment event)
                    (e.waitUntil moment)).trans hwaited
                  refine ih (.hear h hnext hbefore hturn) (fun n => ?_) ?_ ?_
                  · rw [List.length_append, List.length_singleton, Nat.add_assoc, Nat.add_comm 1]
                    exact hfeed (n + 1)
                  · rw [hnow]
                    exact hrest
                  · rw [hnow]
                    have hlate := (Surroundings.nothingBefore_iff.mp hbefore).1
                    exact Connection.le_due_onEvent hlate event

end Engine

/-- What an engine meets that listens while a feed arrives. -/
def Surroundings.ofFeed (l : Listening) (feed : List (Nat × Arrival)) : Surroundings where
  arrival? n := feed[n]?
  stop? := some l.stopsAt

/-- An engine that listens to another connection meets what the feed brings. -/
theorem Engine.consume_comesTo (l : Listening) {feed : List (Nat × Arrival)} (c : Connection)
    {e : Engine} (hchronological : (e.time :: feed.map (·.1)).Pairwise (· ≤ ·)) :
    ComesTo l (.ofFeed l feed) c (e.consume l feed c) :=
  listen_comesTo .start rfl (fun n => congrArg (feed[·]?) (Nat.zero_add n)) hchronological nofun

/-- **The deadline of the heartbeat**, after any course of earlier connections.  Whoever listens to
another one keeps the times of the configuration, whatever arrives.  Messages and unknown events
leave the deadline where it is, and there is none before an event that promises a heartbeat.  An
engine that listens while a feed arrives comes to an end that there can be. -/
theorem Listener.heartbeat_deadline (s : RealtimeSettings) (earlier : List Occurrence) :
    let c := ((ofSettings s).run earlier).connection
    (∀ w : Surroundings, w.Punctual s c) ∧
      (∀ heard time event, (∃ ms, event = .messages ms) ∨ (∃ name, event = .unknown name) →
        s.deadline? (heard ++ [(time, event)]) = s.deadline? heard) ∧
      (∀ heard, s.deadline? heard = none ↔
        ∀ x ∈ heard, x.2 ≠ .connected ∧ ∀ timeout, x.2 ≠ .heartbeat timeout) ∧
      ∀ (how : Listening) (feed : List (Nat × Arrival)) (e : Engine),
        (e.time :: feed.map (·.1)).Pairwise (· ≤ ·) →
          Engine.ComesTo how (.ofFeed how feed) c (e.consume how feed c) := by
  intro c
  refine ⟨Surroundings.punctual_of_timed (timed_run s earlier), ?_, ?_, ?_⟩
  · rintro heard time event (⟨ms, rfl⟩ | ⟨name, rfl⟩)
    · exact RealtimeSettings.deadline?_append_of_promise?_eq_none rfl
    · exact RealtimeSettings.deadline?_append_of_promise?_eq_none rfl
  · intro heard
    rw [RealtimeSettings.deadline?_eq_none_iff]
    refine forall₂_congr fun x _ => ?_
    cases x.2 <;> simp [RealtimeEvent.promise?]
  · intro how feed e hchronological
    exact e.consume_comesTo how c hchronological

/-- An earlier connection has left the heartbeat armed, and a message is heard after that time all
the same.  Then a shorter promise comes before a longer one is due; at its deadline something else
arrives, and may be heard or not. -/
theorem Listener.heartbeat_deadline_at_tie :
    let s : RealtimeSettings := { heartbeatTimeout := 100, heartbeatBuffer := 10 }
    let c := ((ofSettings s).run [.connect, .arrive 0 (.ok .connected)]).connection
    let heard : Heard := [(150, .messages []), (200, .connected), (230, .heartbeat 20)]
    let feed : Heard := heard ++ [(260, .unknown "tip")]
    let w : Surroundings := ⟨fun n => (feed[n]?).map fun x => (x.1, .ok x.2), none⟩
    c.heartbeat.due = some 110 ∧ (∃ answer, w.Ends c heard 260 .silence answer) ∧
      ∃ answer, w.Ends c feed 260 .silence answer := by
  intro s c heard feed w
  have hpunctual := (heartbeat_deadline s [.connect, .arrive 0 (.ok .connected)]).1 w
  have hheard : w.Attends c heard _ :=
    .hear (.hear (.hear .start rfl (by decide) rfl) rfl (by decide) rfl) rfl (by decide) rfl
  have hfeed : w.Attends c feed _ := .hear hheard rfl (by decide) rfl
  exact ⟨rfl, hpunctual.ends hheard rfl (by decide) nofun, hpunctual.ends hfeed rfl nofun nofun⟩

end InAppMessaging
