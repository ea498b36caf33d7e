import InAppMessaging.Pipeline.Standard
import InAppMessaging.Proofs.Engine.Interleaving
import InAppMessaging.Proofs.Realtime.Steering
import InAppMessaging.Proofs.Realtime.Watching

/-!
# The realtime channel converges

A store whose conditions are watched for the channel, a main thread that takes posted work in
its order, and an app that calls whatever it likes, in any interleaving.  A handler reads the
session when it runs, and the store may change it before, meanwhile and after; still the channel
comes out right whenever everything has come to rest.

What is kept at every moment is that nobody else meddles with the channel (`Moment.IsTame`),
that each condition has a subscriber who knows how it stands or is about to be told
(`Moment.Tracks`), and that the channel is under control while those who are about to be told
owe it news (`Moment.Owes`).

* `Controlled.stepStore`, `Controlled.stepPoster`, `Controlled.after` — every move keeps the
  channel under control;
* `Moment.channel_converges` — **every interleaving keeps the calls alternating and the channel
  closed in the background, and leaves it as it should be when it comes to rest.**
-/

namespace InAppMessaging

/-! ## What is kept at every moment -/

/-- A command leaves the channel alone and those who watch for it, or adds one of them. -/
def Command.IsTame (w : ChannelWatch) : Command Observed Host → Prop
  | .run _ => True
  | .subscribe id watch => watch.Keeps Host.channelView ∨
      ∃ x : Condition, id = x.id w ∧ watch = x.watch
  | .unsubscribe id => ∀ x : Condition, id ≠ x.id w
  | .barrier reached => ∀ h, (reached h).channelView = h.channelView

/-- A move is the app's own, or leaves the channel alone and those who watch for it. -/
def Move.Fits (w : ChannelWatch) : Move → Prop
  | .subscribe watch => ∀ id, (watch id).Keeps Host.channelView
  | .unsubscribe id => ∀ x : Condition, id ≠ x.id w
  | .barrier reached => ∀ h, (reached h).channelView = h.channelView
  | .elsewhere change => ∀ h, (change h).channelView = h.channelView
  | _ => True

/-- Where a move leaves the app, as the app itself knows it. -/
def Move.toward (front : Bool) : Move → Bool
  | .foreground => true
  | .background => false
  | _ => front

namespace Moment

/-- What concerns the channel. -/
def view (m : Moment) : ChannelView := m.engine.host.channelView

/-- Nobody but the main thread changes the channel, and nobody stops the store or removes those
who watch for the channel. -/
structure IsTame (w : ChannelWatch) (m : Moment) : Prop where
  running : m.engine.running = true
  later : m.view.later = true
  stages : ∀ stage ∈ m.engine.stages, stage.Keeps Host.channelView
  inbox : ∀ c ∈ m.engine.inbox, c.IsTame w
  agenda : ∀ d ∈ m.agenda, d.Keeps Host.channelView
  waiting : ∀ u ∈ m.waiting, u.watch.IsTame
  subscribers : ∀ u ∈ m.engine.store.subscribers, u.watch.IsTame

/-- A condition has a subscriber that is about to be added, about to be told, or told of the
present session. -/
def Tracks (w : ChannelWatch) (m : Moment) (x : Condition) : Prop :=
  .subscribe (x.id w) x.watch ∈ m.engine.inbox ∨
    (∃ u ∈ m.waiting, u.id = x.id w ∧ u.watch = x.watch) ∨
    ∃ u ∈ m.engine.store.subscribers, u.id = x.id w ∧ u.watch = x.watch ∧
      u.told = some (.flag (x.holds m.session))

/-- A condition has a subscriber that will post news of it. -/
def Owes (w : ChannelWatch) (m : Moment) (x : Condition) : Prop :=
  .subscribe (x.id w) x.watch ∈ m.engine.inbox ∨
    ∃ u ∈ m.waiting, u.watch = x.watch ∧ u.told ≠ some (.flag (x.holds m.session))

end Moment

/-- The channel is under control at a moment; `front` is where the app is. -/
structure Controlled (front : Bool) (w : ChannelWatch) (m : Moment) : Prop where
  tame : m.IsTame w
  tracks : ∀ x, m.Tracks w x
  steered : Steered front m.session (m.Owes w) m.atWork m.view

namespace Controlled

variable {front : Bool} {w : ChannelWatch} {m : Moment}

/-- The host changes, and what the main thread is busy with. -/
theorem onHost (h : Controlled front w m) {front' : Bool} {busy : Option (Work × Session)}
    {change : Host → Host} (hlater : (change m.engine.host).channelView.later = true)
    (hsteered : Steered front' m.session (m.Owes w) busy (change m.engine.host).channelView) :
    Controlled front' w { m with engine := m.engine.onHost change, atWork := busy } :=
  ⟨⟨h.tame.running, hlater, h.tame.stages, h.tame.inbox, h.tame.agenda, h.tame.waiting,
    h.tame.subscribers⟩, h.tracks, hsteered⟩

/-- The host changes, but nothing that concerns the channel. -/
theorem onHost_of_eq (h : Controlled front w m) {change : Host → Host}
    (hchange : (change m.engine.host).channelView = m.view) :
    Controlled front w { m with engine := m.engine.onHost change } := by
  refine h.onHost ?_ ?_
  · rw [hchange]
    exact h.tame.later
  · rw [hchange]
    exact h.steered

/-! ## Moves of the store -/

/-- A subscriber is told. -/
theorem tell (h : Controlled front w m) {u : Subscriber Observed Host}
    {rest : List (Subscriber Observed Host)} (hwaiting : m.waiting = u :: rest) :
    Controlled front w (m.tell u rest) := by
  have htame := h.tame.waiting
  rw [hwaiting] at htame
  obtain ⟨hu, hrest⟩ := List.forall_mem_cons.mp htame
  obtain ⟨works, hview, hnews, hcovers⟩ := Subscriber.notify_tame hu m.session h.tame.later
  have hview : (m.tell u rest).view = m.view.await works := hview
  refine ⟨⟨h.tame.running, ?_, h.tame.stages, h.tame.inbox, h.tame.agenda, hrest, ?_⟩, ?_, ?_⟩
  · rw [hview]
    exact h.tame.later
  · refine List.forall_mem_append.mpr ⟨h.tame.subscribers, fun v hv => ?_⟩
    obtain rfl := List.mem_singleton.mp hv
    rw [Subscriber.notify_watch]
    exact hu
  · intro x
    rcases h.tracks x with hinbox | ⟨v, hv, hid, hwatch⟩ | ⟨v, hv, hknows⟩
    · exact Or.inl hinbox
    · rw [hwaiting] at hv
      rcases List.mem_cons.mp hv with rfl | hv
      · refine Or.inr (Or.inr ⟨_, List.mem_append_right _ List.mem_cons_self, ?_, ?_, ?_⟩)
        · exact (Subscriber.notify_id v m.session m.engine.host).trans hid
        · exact (Subscriber.notify_watch v m.session m.engine.host).trans hwatch
        · exact Condition.told_notify hwatch m.session m.engine.host
      · exact Or.inr (Or.inl ⟨v, hv, hid, hwatch⟩)
    · exact Or.inr (Or.inr ⟨v, List.mem_append_left _ hv, hknows⟩)
  · have howed : ∀ x, m.Owes w x →
        (m.tell u rest).Owes w x ∨ x.work (x.holds m.session) ∈ works := by
      rintro x (hinbox | ⟨v, hv, hwatch, hignorant⟩)
      · exact Or.inl (Or.inl hinbox)
      · rw [hwaiting] at hv
        rcases List.mem_cons.mp hv with rfl | hv
        · exact Or.inr ((hcovers x hwatch).resolve_left hignorant)
        · exact Or.inl (Or.inr ⟨v, hv, hwatch, hignorant⟩)
    have hsteered := h.steered.await works howed
    rw [Condition.foldl_toward hnews] at hsteered
    rw [hview]
    exact hsteered

/-- An action is committed: those whose condition changed are about to be told. -/
theorem commit (h : Controlled front w m) (hwaiting : m.waiting = []) {a : Action}
    {rest : List (Deed Host)} (hrest : ∀ d ∈ rest, d.Keeps Host.channelView) :
    Controlled front w (m.commit a rest) := by
  have hnone : ∀ u ∈ m.waiting, False := by
    rw [hwaiting]
    exact fun u hu => absurd hu List.not_mem_nil
  refine ⟨⟨h.tame.running, h.tame.later, h.tame.stages, h.tame.inbox, hrest,
    h.tame.subscribers, fun u hu => absurd hu List.not_mem_nil⟩, ?_, ?_⟩
  · intro x
    rcases h.tracks x with hinbox | ⟨u, hu, -⟩ | ⟨u, hu, hid, hwatch, -⟩
    -- nobody waits to be told of an earlier commit, so all are told of this one
    · exact Or.inl hinbox
    · exact absurd hu (hnone u)
    · exact Or.inr (Or.inl ⟨u, hu, hid, hwatch⟩)
  · refine h.steered.changed ?_ ?_
    · rintro x (hinbox | ⟨u, hu, -⟩)
      · exact Or.inl hinbox
      · exact absurd hu (hnone u)
    · intro x hchange
      rcases h.tracks x with hinbox | ⟨u, hu, -⟩ | ⟨u, hu, -, hwatch, htold⟩
      · exact Or.inl hinbox
      · exact absurd hu (hnone u)
      -- it was told how the condition stood before, so it has something to post
      · refine Or.inr ⟨u, hu, hwatch, fun hknows => hchange ?_⟩
        rw [htold] at hknows
        exact Observed.flag.inj (Option.some.inj hknows)

/-- Another deed is done. -/
theorem perform (h : Controlled front w m) {d : Deed Host} {rest : List (Deed Host)}
    (hd : d.Keeps Host.channelView) (hrest : ∀ d ∈ rest, d.Keeps Host.channelView)
    (hcommit : ∀ a, d ≠ .commit a) :
    Controlled front w { m with engine.store := m.engine.store.perform d, agenda := rest } := by
  cases d with
  | commit a => exact absurd rfl (hcommit a)
  | act effect =>
      have hacted := h.onHost_of_eq (hd m.session m.engine.host)
      exact ⟨⟨hacted.tame.running, hacted.tame.later, hacted.tame.stages, hacted.tame.inbox, hrest,
        hacted.tame.waiting, hacted.tame.subscribers⟩, hacted.tracks, hacted.steered⟩
  | failed =>
      exact ⟨⟨h.tame.running, h.tame.later, h.tame.stages, h.tame.inbox, hrest, h.tame.waiting,
        h.tame.subscribers⟩, h.tracks, h.steered⟩

/-- A command that adds nobody is taken from the inbox. -/
theorem dequeue (h : Controlled front w m) {c : Command Observed Host}
    {rest : List (Command Observed Host)} (hinbox : m.engine.inbox = c :: rest)
    (hc : ∀ id watch, c ≠ .subscribe id watch) :
    c.IsTame w ∧ Controlled front w { m with engine.inbox := rest } := by
  obtain ⟨tame, tracks, steered⟩ := h
  have hcommands := tame.inbox
  rw [hinbox] at hcommands
  obtain ⟨hfirst, hrest⟩ := List.forall_mem_cons.mp hcommands
  have hlater : ∀ x : Condition, .subscribe (x.id w) x.watch ∈ m.engine.inbox →
      .subscribe (x.id w) x.watch ∈ rest := by
    intro x hx
    rw [hinbox] at hx
    exact List.mem_of_ne_of_mem (hc _ _).symm hx
  exact ⟨hfirst, ⟨tame.running, tame.later, tame.stages, hrest, tame.agenda, tame.waiting,
    tame.subscribers⟩, fun x => (tracks x).imp_left (hlater x),
    steered.owing fun x howe => howe.imp_left (hlater x)⟩

/-- An action is taken up: its deeds are those of stages that leave the channel alone. -/
theorem takeUp (h : Controlled front w m) (a : Action) :
    Controlled front w
      { m with agenda := deeds m.engine.stages maxDispatchDepth a m.session } :=
  ⟨⟨h.tame.running, h.tame.later, h.tame.stages, h.tame.inbox,
    deeds_keep channelView_logError h.tame.stages maxDispatchDepth a m.session, h.tame.waiting,
    h.tame.subscribers⟩, h.tracks, h.steered⟩

/-- A subscriber that is none of the channel's is removed. -/
theorem remove (h : Controlled front w m) {id : Nat} (hid : ∀ x : Condition, id ≠ x.id w) :
    Controlled front w { m with
      engine.store.subscribers := m.engine.store.subscribers.filter fun u => u.id ≠ id } := by
  refine ⟨⟨h.tame.running, h.tame.later, h.tame.stages, h.tame.inbox, h.tame.agenda,
    h.tame.waiting, fun u hu => h.tame.subscribers u (List.mem_filter.mp hu).1⟩, fun x => ?_,
    h.steered⟩
  refine (h.tracks x).imp_right (Or.imp_right ?_)
  rintro ⟨u, hu, hown, hknows⟩
  refine ⟨u, List.mem_filter.mpr ⟨hu, decide_eq_true fun heq => hid x ?_⟩, hown, hknows⟩
  rw [← heq, hown]

/-- A subscriber is added that has been told of its condition, if it watches one. -/
theorem add (h : Controlled front w m) {u : Subscriber Observed Host} {host : Host}
    {rest : List (Command Observed Host)} {works : List Work}
    (hinbox : m.engine.inbox = .subscribe u.id u.watch :: rest)
    (hknows : ∀ x : Condition, u.watch = x.watch → u.told = some (.flag (x.holds m.session)))
    (hview : host.channelView = m.view.await works)
    (hnews : ∀ w ∈ works, ∃ (x : Condition) (b : Bool), w = x.work b)
    (hcovers : ∀ x : Condition, u.watch = x.watch → x.work (x.holds m.session) ∈ works) :
    Controlled front w { m with
      engine.inbox := rest
      engine.store.subscribers := m.engine.store.subscribers ++ [u]
      engine.store.host := host } := by
  have hcommands := h.tame.inbox
  rw [hinbox] at hcommands
  obtain ⟨hc, hrest⟩ := List.forall_mem_cons.mp hcommands
  have htame : u.watch.IsTame := hc.imp_right fun ⟨x, _, hwatch⟩ => ⟨x, hwatch⟩
  have hnext : ∀ x : Condition, .subscribe (x.id w) x.watch ∈ m.engine.inbox →
      (x.id w = u.id ∧ x.watch = u.watch) ∨ .subscribe (x.id w) x.watch ∈ rest := by
    intro x hx
    rw [hinbox] at hx
    exact (List.mem_cons.mp hx).imp_left fun heq => Command.subscribe.inj heq
  refine ⟨⟨h.tame.running, ?_, h.tame.stages, hrest, h.tame.agenda, h.tame.waiting, ?_⟩, ?_, ?_⟩
  · show host.channelView.later = true
    rw [hview]
    exact h.tame.later
  · refine List.forall_mem_append.mpr ⟨h.tame.subscribers, fun v hv => ?_⟩
    obtain rfl := List.mem_singleton.mp hv
    exact htame
  · intro x
    rcases h.tracks x with hlater | hwaits | ⟨v, hv, hknown⟩
    · rcases hnext x hlater with ⟨hid, hwatch⟩ | hlater
      · exact Or.inr (Or.inr ⟨u, List.mem_append_right _ List.mem_cons_self, hid.symm,
          hwatch.symm, hknows x hwatch.symm⟩)
      · exact Or.inl hlater
    · exact Or.inr (Or.inl hwaits)
    · exact Or.inr (Or.inr ⟨v, List.mem_append_left _ hv, hknown⟩)
  · have howed : ∀ x, m.Owes w x → Moment.Owes w { m with engine.inbox := rest } x ∨
        x.work (x.holds m.session) ∈ works := by
      rintro x (hlater | hwaits)
      · rcases hnext x hlater with ⟨-, hwatch⟩ | hlater
        · exact Or.inr (hcovers x hwatch.symm)
        · exact Or.inl (Or.inl hlater)
      · exact Or.inl (Or.inr hwaits)
    have hsteered := h.steered.await works howed
    rw [Condition.foldl_toward hnews, ← hview] at hsteered
    exact hsteered

/-- A subscriber is registered. -/
theorem subscribe (h : Controlled front w m) {id : Nat} {watch : Watch Observed Host}
    {rest : List (Command Observed Host)}
    (hinbox : m.engine.inbox = .subscribe id watch :: rest) :
    Controlled front w { m with
      engine.inbox := rest
      engine.store := m.engine.store.obey m.engine.stages (.subscribe id watch) } := by
  have hc := h.tame.inbox (.subscribe id watch) (by rw [hinbox]; exact List.mem_cons_self)
  have htame : watch.IsTame := hc.imp_right fun ⟨x, _, hwatch⟩ => ⟨x, hwatch⟩
  obtain ⟨works, hview, hnews, hcovers⟩ :=
    Subscriber.register_tame htame id m.session h.tame.later
  have hknows : ∀ x : Condition, watch = x.watch →
      (Subscriber.register id watch m.session m.engine.host).1.told =
        some (.flag (x.holds m.session)) := by
    rintro x rfl
    rw [Condition.register_eq]
    exact Condition.told_notify rfl m.session m.engine.host
  have hid := Subscriber.register_id id watch m.session m.engine.host
  have hwatch := Subscriber.register_watch id watch m.session m.engine.host
  have hobeyed : m.engine.store.obey m.engine.stages (.subscribe id watch) =
      { m.engine.store with
        subscribers := m.engine.store.subscribers ++
          [(Subscriber.register id watch m.session m.engine.host).1]
        host := (Subscriber.register id watch m.session m.engine.host).2 } := rfl
  obtain ⟨u, host, hregister⟩ :
      ∃ u host, Subscriber.register id watch m.session m.engine.host = (u, host) := ⟨_, _, rfl⟩
  rw [hregister] at hview hknows hid hwatch hobeyed
  obtain rfl : u.id = id := hid
  obtain rfl : u.watch = watch := hwatch
  rw [hobeyed]
  exact h.add hinbox hknows hview hnews hcovers

/-- **The store goes on.** -/
theorem stepStore (h : Controlled front w m) : Controlled front w m.stepStore := by
  have hagenda := h.tame.agenda
  unfold Moment.stepStore
  split
  · next u rest _ _ hwaiting => exact h.tell hwaiting
  · next a rest _ hwaiting hdeeds =>
      rw [hdeeds] at hagenda
      exact h.commit hwaiting (List.forall_mem_cons.mp hagenda).2
  · next d rest _ hcommit hwaiting hdeeds =>
      rw [hdeeds] at hagenda
      obtain ⟨hd, hrest⟩ := List.forall_mem_cons.mp hagenda
      exact h.perform hd hrest hcommit
  · next a rest hwaiting hdeeds hinbox => exact (h.dequeue hinbox nofun).2.takeUp a
  · next c rest hrun hwaiting hdeeds hinbox =>
      cases c with
      | run a => exact absurd rfl (hrun a)
      | subscribe id watch => exact h.subscribe hinbox
      | unsubscribe id =>
          obtain ⟨hid, hnext⟩ := h.dequeue hinbox nofun
          exact hnext.remove hid
      | barrier reached =>
          obtain ⟨hreached, hnext⟩ := h.dequeue hinbox nofun
          exact hnext.onHost_of_eq (hreached _)
  · exact h

/-! ## Moves of the main thread -/

/-- **The main thread goes on.** -/
theorem stepPoster (h : Controlled front w m) : Controlled front w m.stepPoster := by
  have hsteered := h.steered
  unfold Moment.stepPoster
  split
  · next work read hbusy =>
      rw [hbusy] at hsteered
      have hview := Host.channelView_perform read m.engine.host work
      refine h.onHost ?_ ?_
      · rw [hview]
        exact h.tame.later
      · rw [hview]
        exact hsteered.finished
  · next work rest hbusy hposted =>
      rw [hbusy] at hsteered
      exact h.onHost h.tame.later (hsteered.taken (Host.channelView_take hposted))
  · exact h

/-! ## Calls of the app -/

/-- **Work is posted for the channel.** -/
theorem post (h : Controlled front w m) (work : Work) :
    Controlled (work.toward front) w (m.onEngine fun e => e.post work) := by
  have hview := Host.channelView_post h.tame.later work m.engine.session
  refine h.onHost ?_ ?_
  · rw [hview]
    exact h.tame.later
  · rw [hview]
    exact h.steered.await [work] fun x howe => Or.inl howe

/-- **A command is sent** that leaves the channel alone. -/
theorem send (h : Controlled front w m) {c : Command Observed Host} (hc : c.IsTame w) :
    Controlled front w (m.onEngine fun e => e.send c) := by
  have hqueued : Controlled front w { m with engine.inbox := m.engine.inbox ++ [c] } := by
    obtain ⟨tame, tracks, steered⟩ := h
    refine ⟨⟨tame.running, tame.later, tame.stages, ?_, tame.agenda, tame.waiting,
      tame.subscribers⟩, fun x => (tracks x).imp_left (List.mem_append_left _),
      steered.owing fun x howe => howe.imp_left (List.mem_append_left _)⟩
    refine List.forall_mem_append.mpr ⟨tame.inbox, fun c' hc' => ?_⟩
    obtain rfl := List.mem_singleton.mp hc'
    exact hc
  unfold Moment.onEngine Engine.send
  dsimp only
  rw [if_pos h.tame.running]
  exact hqueued.onHost_of_eq (Host.channelView_wake .store _)

/-- **Every move keeps the channel under control.** -/
theorem after (h : Controlled front w m) {move : Move} (hfits : move.Fits w) :
    Controlled (move.toward front) w (m.after move) := by
  cases move with
  | store => exact h.stepStore
  | poster => exact h.stepPoster
  | foreground => exact h.post .foreground
  | background => exact h.post .background
  | restart => exact h.post .restart
  | dispatch a => exact h.send (c := .run a) trivial
  | subscribe watch =>
      have hcounted : Controlled front w
          { m with engine.subscriptions := m.engine.subscriptions + 1 } :=
        ⟨⟨h.tame.running, h.tame.later, h.tame.stages, h.tame.inbox, h.tame.agenda,
          h.tame.waiting, h.tame.subscribers⟩, h.tracks, h.steered⟩
      exact hcounted.send (Or.inl (hfits (m.engine.subscriptions + 1)))
  | unsubscribe id => exact h.send (c := .unsubscribe id) hfits
  | barrier reached => exact h.send (c := .barrier reached) hfits
  | elsewhere change => exact h.onHost_of_eq (hfits _)

/-- Moves keep it under control. -/
theorem run (h : Controlled front w m) {moves : List Move} (hfits : ∀ move ∈ moves, move.Fits w) :
    Controlled (moves.foldl Move.toward front) w (m.run moves) := by
  induction moves generalizing front m with
  | nil => exact h
  | cons move rest ih =>
      obtain ⟨hfirst, hrest⟩ := List.forall_mem_cons.mp hfits
      exact ih (h.after hfirst) hrest

/-- So do the steps of an engine, which are made of moves. -/
theorem step {e : Engine} (h : Controlled front w ⟨e, [], [], none⟩) :
    Controlled front w ⟨e.stepStore, [], [], none⟩ ∧
      Controlled front w ⟨e.stepPoster, [], [], none⟩ := by
  constructor
  · obtain ⟨n, hn⟩ := Moment.run_store e none
    have hmoves : ∀ move ∈ List.replicate n Move.store, move = .store := fun move hmove =>
      (List.mem_replicate.mp hmove).2
    have hfront : (List.replicate n Move.store).foldl Move.toward front = front := by
      clear hn hmoves
      induction n with
      | zero => rfl
      | succ n ih => exact ih
    have hfits : ∀ move ∈ List.replicate n Move.store, move.Fits w := fun move hmove => by
      rw [hmoves move hmove]
      trivial
    have hrun := h.run hfits
    rw [hn, hfront] at hrun
    exact hrun
  · have hrun := h.stepPoster.stepPoster
    have hstep := Moment.run_poster e [] []
    rw [← hstep]
    exact hrun

end Controlled

/-! ## Every interleaving -/

/-- An engine whose channel nobody watches yet, in any session: the app is in the background,
the channel is closed, work for the main thread waits for its turn, and nobody meddles. -/
structure Engine.IsFresh (e : Engine) : Prop where
  running : e.running = true
  view : e.host.channelView = ⟨{}, [], [], true⟩
  stages : ∀ stage ∈ e.stages, stage.Keeps Host.channelView
  subscribers : e.store.Keeps Host.channelView
  inbox : ∀ c ∈ e.inbox, c.IsTame e.watchChannel.1

/-- Watching the channel sends two commands. -/
theorem Engine.watchChannel_eq {e : Engine} (h : e.running = true) :
    ∃ host : Host, host.channelView = e.host.channelView ∧
      e.watchChannel = (⟨e.subscriptions + 1, e.subscriptions + 2⟩,
        { e with
          subscriptions := e.subscriptions + 2
          inbox := e.inbox ++ [.subscribe (e.subscriptions + 1) Condition.realtime.watch,
            .subscribe (e.subscriptions + 2) Condition.identity.watch]
          store.host := host }) := by
  refine ⟨(e.host.wake .store).wake .store, ?_, ?_⟩
  · rw [Host.channelView_wake, Host.channelView_wake]
  · simp only [watchChannel, subscribe, send, h, if_true, onHost, List.append_assoc]
    rfl

/-- The moment at which an engine begins to watch its channel. -/
def Moment.watching (e : Engine) : Moment := { engine := e.watchChannel.2 }

/-- At that moment the channel is under control. -/
theorem Controlled.start {e : Engine} (h : e.IsFresh) :
    Controlled false e.watchChannel.1 (Moment.watching e) := by
  obtain ⟨host, hview, hwatch⟩ := Engine.watchChannel_eq h.running
  have hinbox := h.inbox
  unfold Moment.watching
  rw [hwatch] at hinbox ⊢
  have hstart : host.channelView = ⟨{}, [], [], true⟩ := hview.trans h.view
  refine ⟨⟨h.running, congrArg ChannelView.later hstart, h.stages, ?_, ?_, ?_, ?_⟩, ?_, ?_⟩
  · refine List.forall_mem_append.mpr ⟨hinbox, ?_⟩
    refine List.forall_mem_cons.mpr ⟨Or.inr ⟨.realtime, rfl, rfl⟩, ?_⟩
    refine List.forall_mem_cons.mpr ⟨Or.inr ⟨.identity, rfl, rfl⟩, ?_⟩
    exact fun c hc => absurd hc List.not_mem_nil
  · exact fun d hd => absurd hd List.not_mem_nil
  · exact fun u hu => absurd hu List.not_mem_nil
  · exact fun u hu => Or.inl (h.subscribers u hu)
  · intro x
    refine Or.inl (List.mem_append_right _ ?_)
    cases x with
    | realtime => exact List.mem_cons_self
    | identity => exact List.mem_cons_of_mem _ List.mem_cons_self
  · show Steered false e.session _ none host.channelView
    rw [hstart]
    exact Steered.start _ _

/-- What holds of the channel at a moment; `front` is where the app is. -/
structure ChannelOutcome (front : Bool) (m : Moment) : Prop where
  /-- The transport is told to start, to stop, to start, and so on. -/
  calls : ∀ (i : Nat) (call : ChannelCall), m.view.calls[i]? = some call →
    call = if i % 2 = 0 then .start else .stop
  /-- The channel is open if the last call was a start. -/
  last : m.view.channel.isOpen = true ↔ m.view.calls.getLast? = some .start
  /-- In the background, as the main thread sees it, the channel is closed. -/
  background : m.view.channel.foregrounded = false → m.view.channel.isOpen = false
  /-- At rest the main thread sees the app where it is. -/
  arrived : m.IsQuiet → m.view.channel.foregrounded = front
  /-- At rest the channel is open if the app is in the foreground, realtime updates are switched
  on and a named user is known. -/
  settled : m.IsQuiet → (m.view.channel.isOpen = true ↔
    front = true ∧ m.session.realtime = true ∧ m.session.isIdentified = true)

/-- A channel that is under control is as it should be. -/
theorem Controlled.outcome {front : Bool} {w : ChannelWatch} {m : Moment}
    (h : Controlled front w m) : ChannelOutcome front m := by
  have hrest : m.IsQuiet → m.view.channel.foregrounded = front ∧
      (m.view.channel.isOpen = true ↔ front = true ∧ m.session.usesRealtime = true) := by
    rintro ⟨hinbox, -, hwaiting, hposted, hidle⟩
    have hsteered := h.steered
    rw [hidle] at hsteered
    refine hsteered.isOpen_iff ?_ ?_
    · rintro x (hlater | ⟨u, hu, -⟩)
      · rw [hinbox] at hlater
        exact absurd hlater List.not_mem_nil
      · rw [hwaiting] at hu
        exact absurd hu List.not_mem_nil
    · show m.engine.host.posted.filter Work.isForChannel = []
      rw [hposted, List.filter_nil]
  refine ⟨fun i call hcall => ?_, ?_, h.steered.sound, fun hquiet => (hrest hquiet).1, ?_⟩
  · have hturn := h.steered.alternating.call_eq hcall
    simp only [iff_true] at hturn
    exact hturn
  · rw [h.steered.alternating.isOpen_eq]
    cases m.view.calls.getLast? with
    | none => exact ⟨fun hopen => Bool.noConfusion hopen, nofun⟩
    | some call => exact decide_eq_true_iff.trans Option.some_inj.symm
  · intro hquiet
    have hopen := (hrest hquiet).2
    unfold Session.usesRealtime at hopen
    rw [Bool.and_eq_true] at hopen
    exact hopen

/-- **Every interleaving** keeps the calls of the transport alternating and the channel closed in
the background, and leaves the channel as it should be when everything has come to rest. -/
theorem Moment.channel_converges {e : Engine} (h : e.IsFresh) {moves : List Move}
    (hfits : ∀ move ∈ moves, move.Fits e.watchChannel.1) :
    ChannelOutcome (moves.foldl Move.toward false) ((Moment.watching e).run moves) :=
  ((Controlled.start h).run hfits).outcome

/-- An engine whose main thread takes its work in turns. -/
def quietEngine : Engine := { store := { session := {}, host := { postsLater := true } } }

/-- A user is named, realtime updates are switched on and the app comes to the foreground,
while the store and the main thread are at work. -/
def openingMoves : List Move :=
  [.dispatch (.setUser "ada"), .foreground, .dispatch (.setRealtime true)] ++
    List.replicate 8 .store ++ List.replicate 3 .poster ++ List.replicate 8 .store ++
      List.replicate 7 .poster

/-- The opening moves come to rest, with an open channel. -/
theorem openingMoves_converge :
    ChannelOutcome true ((Moment.watching quietEngine).run openingMoves) ∧
      ((Moment.watching quietEngine).run openingMoves).IsQuiet ∧
        ((Moment.watching quietEngine).run openingMoves).view.channel.isOpen = true := by
  have hfresh : quietEngine.IsFresh :=
    ⟨rfl, rfl, Pipeline.standard_keeps, fun u hu => absurd hu List.not_mem_nil,
      fun c hc => absurd hc List.not_mem_nil⟩
  have hfits : ∀ move ∈ openingMoves, move.Fits quietEngine.watchChannel.1 := by
    intro move hmove
    simp only [openingMoves, List.mem_append, List.mem_cons, List.mem_replicate,
      List.not_mem_nil] at hmove
    rcases hmove with ((((rfl | rfl | rfl | hnone) | ⟨-, rfl⟩) | ⟨-, rfl⟩) | ⟨-, rfl⟩) | ⟨-, rfl⟩
    all_goals trivial
  exact ⟨Moment.channel_converges hfresh hfits, ⟨rfl, rfl, rfl, rfl, rfl⟩, rfl⟩

end InAppMessaging
