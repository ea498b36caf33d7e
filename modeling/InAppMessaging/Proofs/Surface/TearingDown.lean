import InAppMessaging.Proofs.Engine.Scene
import InAppMessaging.Proofs.Pipeline.Front
import InAppMessaging.Proofs.Pipeline.Modal
import InAppMessaging.Proofs.Realtime.Convergence
import InAppMessaging.Proofs.Session.Reduce

/-!
# Which teardown is done when

A teardown names no message: it closes whatever is open.  It is posted when the surface of a message
is told that its message has left, and done when its turn comes on the main thread, while the store
goes on.  Teardowns are done in the order in which they were posted, so they are told apart by their
number.

* `Host.closings` — what concerns the teardowns, and who leaves that alone;
* `Moment.Informed.goes` — **surfaces know what was in the session** before the last commit;
* `Moment.IsAttended.posts_iff` — **the one cause of a teardown**;
* `Moment.tearDown_follows` — **the commits since a message left settle what its teardown finds on
  the modal surface**.
-/

namespace InAppMessaging

/-! ## What concerns the teardowns -/

/-- What concerns the teardowns: how many were done, how many wait, and whether work waits at
all. -/
structure Closings where
  done : Nat
  due : Nat
  later : Bool

namespace Host

/-- What concerns the teardowns. -/
def closings (h : Host) : Closings where
  done := h.journal.count .tornDown
  due := h.posted.count .tearDown
  later := h.postsLater

theorem closings_record {e : Event} (he : e ≠ .tornDown) (h : Host) :
    (h.record e).closings = h.closings := by
  unfold closings record
  rw [List.count_cons_of_ne he]

theorem closings_wake (t : Task) (h : Host) : (h.wake t).closings = h.closings := by
  unfold wake
  split <;> rfl

/-- **Work that is done** is one more teardown that was done, or no teardown. -/
theorem closings_perform (s : Session) (h : Host) (w : Work) :
    (h.perform s w).closings =
      { h.closings with done := h.closings.done + [w].count .tearDown } := by
  have hchannel : ∀ next, (h.setChannel next).closings = h.closings :=
    setChannel_keeps (fun _ => closings_record Event.noConfusion) (fun _ _ => rfl) h
  cases w with
  | tearDown =>
      unfold perform closings record
      rw [List.count_cons_self]
      rfl
  | follow place state =>
      show (h.followView place state).closings = h.closings
      unfold followView
      cases h.views[place]? with
      | none => rfl
      | some view =>
          refine recordAll_keeps (fun e he => ?_) _
          obtain ⟨call, -, rfl⟩ := List.mem_map.mp he
          exact closings_record Event.noConfusion
  | _ => exact hchannel _

/-- **Work that is posted** is one more teardown that waits, or no teardown. -/
theorem closings_post {h : Host} (hlater : h.closings.later = true) (w : Work) (s : Session) :
    (h.post w s).closings =
      { h.closings with due := h.closings.due + [w].count .tearDown } := by
  have hlater : h.postsLater = true := hlater
  unfold post
  rw [if_pos hlater, closings_wake]
  unfold closings
  rw [List.count_append]

/-- Other work does not concern the teardowns, whether it waits or not. -/
theorem closings_post_other {w : Work} (hw : [w].count .tearDown = 0) (h : Host) (s : Session) :
    (h.post w s).closings = h.closings := by
  by_cases hlater : h.closings.later = true
  · rw [closings_post hlater, hw]
    rfl
  · have hlater : ¬ h.postsLater = true := hlater
    unfold post
    rw [if_neg hlater, closings_perform, hw]
    rfl

/-- The next piece of work is the first that waits. -/
theorem closings_take {h : Host} {w : Work} {rest : List Work} (hposted : h.posted = w :: rest) :
    h.closings.due = [w].count .tearDown + { h with posted := rest }.closings.due := by
  show h.posted.count _ = _
  rw [hposted, ← List.singleton_append, List.count_append]
  rfl

end Host

namespace Pipeline

/-- Nothing that the stages in front of the listener do concerns the teardowns. -/
theorem unmoved_closings : Unmoved Host.closings where
  errorLogged _ h := h.closings_record Event.noConfusion
  viewLogged _ _ h := h.closings_record Event.noConfusion
  presented _ _ h := h.closings_record Event.noConfusion
  stored _ _ := rfl
  refreshed := Host.requestRefresh_keeps Host.closings_wake fun _ _ => rfl

/-- **The standard stages tear nothing down.** -/
theorem standard_keeps_closings : ∀ stage ∈ standard, stage.Keeps Host.closings :=
  unmoved_closings.standard_keeps fun _ h => h.closings_record Event.noConfusion

end Pipeline

/-- **The surface of a message is told of a session**: it has a teardown posted if its message has
left. -/
theorem Subscriber.notify_stillShown {u : Subscriber Observed Host} {a : Message}
    (hu : u.watch = .stillShown a) (s : Session) (h : Host) :
    (u.notify s h).2 =
      if u.told = some (.flag true) ∧ s.modal.active? ≠ some a then h.post .tearDown s else h := by
  rw [notify_distinct hu]
  by_cases hknows : u.told = some (.flag (s.modal.active? = some a))
  -- what it was told last is still so, so its message cannot have left
  · rw [if_pos hknows]
    refine (if_neg ?_).symm
    rintro ⟨htold, hleft⟩
    rw [htold] at hknows
    exact hleft (of_decide_eq_true (Observed.flag.inj (Option.some.inj hknows)).symm)
  · rw [if_neg hknows]
    show tellModal u.told (.flag (s.modal.active? = some a)) s h = _
    unfold tellModal
    simp only [Observed.flag.injEq, decide_eq_false_iff_not, ne_eq]

/-- The modal surfaces as they are seen from outside the session: the teardowns, and all who have
them done. -/
def Scene.modals : Scene Closings where
  view := Host.closings
  crew _ watch := ∃ a, watch = .stillShown a
  stays _ := False
  logged _ h := h.closings_record Event.noConfusion
  woken := Host.closings_wake

/-- **All surfaces of an engine are admitted**: only those of messages have anything torn down. -/
theorem Watch.IsOwn.admitted {watch : Watch Observed Host} (h : watch.IsOwn) (id : Nat) :
    Scene.modals.Admits id watch := by
  cases h with
  | condition x =>
      refine Or.inl ?_
      cases x with
      | realtime => exact fun last value s h => h.closings_post_other rfl s
      | identity => exact fun last value s h => h.closings_post_other rfl s
  | modal m => exact Or.inr ⟨m, rfl⟩
  | inline elementId place =>
      refine Or.inl fun last value s h => ?_
      show (tellInline elementId place s h).closings = h.closings
      unfold tellInline
      split
      · exact h.closings_post_other rfl s
      · rfl

namespace Moment

variable {m m' m'' : Moment} {a : Message} {d : Action}

/-- How many teardowns were done. -/
def tornDown (m : Moment) : Nat := m.engine.host.closings.done

/-- How many teardowns were posted: those that were done, the one that the main thread is about to
do, and those that wait. -/
def tearDowns (m : Moment) : Nat :=
  m.tornDown + (m.atWork.map Prod.fst).toList.count .tearDown + m.engine.host.closings.due

/-! ## What surfaces know -/

/-- The surfaces of messages know whether their messages are in the session, or were there before the
last commit if they have yet to be told of it. -/
structure Informed (m : Moment) : Prop where
  known : ∀ u ∈ m.engine.store.subscribers, ∀ a, u.watch = .stillShown a →
    u.told = some (.flag (m.session.modal.active? = some a))
  waiting : ∀ u ∈ m.waiting, ∀ a, u.watch = .stillShown a →
    ∃ (s : Session) (d : Action), m.session = s.reduce d ∧ m.log.head? = some d ∧
      u.told = some (.flag (s.modal.active? = some a))

/-- **Every move keeps them informed.** -/
theorem Informed.goes (h : m.Informed) (hgoes : Scene.modals.Goes m m') : m'.Informed := by
  cases hgoes with
  | aside hside =>
      refine ⟨fun u hu => ?_, fun u hu => ?_⟩
      · rw [hside.session]
        exact h.known u (hside.known u hu)
      · rw [hside.session, hside.log]
        rw [hside.waiting] at hu
        exact h.waiting u hu
  | tell u rest hwaiting =>
      refine ⟨fun u' hu' => ?_, fun u' hu' => ?_⟩
      · rcases List.mem_append.mp hu' with hbefore | htold
        · exact h.known u' hbefore
        · obtain rfl := List.mem_singleton.mp htold
          intro a ha
          rw [Subscriber.notify_watch] at ha
          exact Subscriber.told_notify_distinct ha m.session m.engine.host
      · exact h.waiting u' (by rw [hwaiting]; exact List.mem_cons_of_mem u hu')
  | commit d rest hwaiting =>
      exact ⟨fun u hu => absurd hu List.not_mem_nil,
        fun u hu a ha => ⟨m.session, d, rfl, rfl, h.known u hu a ha⟩⟩
  | register id watch rest hwaiting hinbox =>
      refine ⟨fun u hu => ?_, h.waiting⟩
      rcases List.mem_append.mp hu with hbefore | hadded
      · exact h.known u hbefore
      · obtain rfl := List.mem_singleton.mp hadded
        intro a ha
        rw [Subscriber.register_watch] at ha
        subst ha
        exact Subscriber.told_notify_distinct (u := ⟨id, .stillShown a, none⟩) rfl _ _
  | take w rest hidle hposted => exact ⟨h.known, h.waiting⟩
  | finish w s hbusy => exact ⟨h.known, h.waiting⟩
  | call w hw => exact ⟨h.known, h.waiting⟩

/-! ## Where teardowns come from -/

/-- From one moment to the next the surface of a message is told that its message has left, by the
last commit. -/
structure LetsGo (m m' : Moment) (a : Message) (d : Action) : Prop where
  told : ∃ u rest, m.waiting = u :: rest ∧ u.watch = .stillShown a ∧ u.told = some (.flag true) ∧
    m' = m.tell u rest
  committed : ∃ s : Session,
    s.modal.active? = some a ∧ m.session = s.reduce d ∧ m.log.head? = some d
  left : m.session.modal.active? ≠ some a

/-- **It has a teardown posted then.** -/
theorem LetsGo.closings (h : m.LetsGo m' a d) (hlater : m.engine.host.closings.later = true) :
    m'.engine.host.closings =
      { m.engine.host.closings with due := m.engine.host.closings.due + 1 } := by
  obtain ⟨u, rest, -, hwatch, htold, rfl⟩ := h.told
  have hhost := Subscriber.notify_stillShown hwatch m.session m.engine.host
  rw [if_pos ⟨htold, h.left⟩] at hhost
  exact (congrArg Host.closings hhost).trans (Host.closings_post hlater .tearDown m.session)

theorem LetsGo.tornDown (h : m.LetsGo m' a d) (hlater : m.engine.host.closings.later = true) :
    m'.tornDown = m.tornDown := by
  unfold Moment.tornDown
  rw [h.closings hlater]

theorem LetsGo.tearDowns (h : m.LetsGo m' a d) (hlater : m.engine.host.closings.later = true) :
    m'.tearDowns = m.tearDowns + 1 := by
  have hwork : m'.atWork = m.atWork := by
    obtain ⟨u, rest, -, -, -, rfl⟩ := h.told
    rfl
  unfold Moment.tearDowns
  rw [h.tornDown hlater, hwork, h.closings hlater]
  rfl

/-- From one moment to the next work goes on waiting for its turn, what was torn down stays so, and at
most one teardown is posted, because a message had left. -/
structure Tallies (m m' : Moment) : Prop where
  later : m'.engine.host.closings.later = true
  done : m.tornDown ≤ m'.tornDown
  posted : m'.tearDowns = m.tearDowns ∨ ∃ a d, m.LetsGo m' a d

/-- It is so if nothing happens that concerns the teardowns. -/
theorem Tallies.of_eq (hlater : m.engine.host.closings.later = true)
    (hclosings : m'.engine.host.closings = m.engine.host.closings)
    (hwork : m'.atWork = m.atWork) : m.Tallies m' := by
  have hdone : m'.tornDown = m.tornDown := by
    unfold tornDown
    rw [hclosings]
  refine ⟨hclosings ▸ hlater, Nat.le_of_eq hdone.symm, Or.inl ?_⟩
  unfold tearDowns
  rw [hdone, hclosings, hwork]

/-- A subscriber is told. -/
theorem Tallies.tell (h : Scene.modals.IsTame m) (hinformed : m.Informed)
    (hlater : m.engine.host.closings.later = true) {u : Subscriber Observed Host}
    {rest : List (Subscriber Observed Host)} (hwaiting : m.waiting = u :: rest) :
    m.Tallies (m.tell u rest) := by
  have hmem : u ∈ m.waiting := by
    rw [hwaiting]
    exact List.mem_cons_self
  rcases h.waiting u hmem with hkeeps | ⟨a, ha⟩
  · exact .of_eq hlater (Subscriber.notify_keeps hkeeps m.session m.engine.host) rfl
  · by_cases hleft : u.told = some (.flag true) ∧ m.session.modal.active? ≠ some a
    · obtain ⟨s, d, hsession, hlog, htold⟩ := hinformed.waiting u hmem a ha
      have hbefore : s.modal.active? = some a := by
        rw [hleft.1] at htold
        exact of_decide_eq_true (Observed.flag.inj (Option.some.inj htold)).symm
      have hlets : m.LetsGo (m.tell u rest) a d :=
        ⟨⟨u, rest, hwaiting, ha, hleft.1, rfl⟩, ⟨s, hbefore, hsession, hlog⟩, hleft.2⟩
      exact ⟨hlets.closings hlater ▸ hlater, Nat.le_of_eq (hlets.tornDown hlater).symm,
        Or.inr ⟨a, d, hlets⟩⟩
    · have hhost := Subscriber.notify_stillShown ha m.session m.engine.host
      rw [if_neg hleft] at hhost
      exact .of_eq hlater (congrArg Host.closings hhost) rfl

/-- A subscriber is registered: it knows of no session yet, so there is none that its message could
have left. -/
theorem Tallies.register (h : Scene.modals.IsTame m) (hlater : m.engine.host.closings.later = true)
    {id : Nat} {watch : Watch Observed Host} {rest : List (Command Observed Host)}
    (hinbox : m.engine.inbox = .subscribe id watch :: rest) :
    m.Tallies (m.register id watch rest) := by
  refine .of_eq hlater ?_ rfl
  show (Subscriber.register id watch m.session m.engine.host).2.closings = _
  rcases h.inbox (.subscribe id watch) (by rw [hinbox]; exact List.mem_cons_self) with
    hkeeps | ⟨a, rfl⟩
  · exact Subscriber.register_keeps hkeeps id m.session m.engine.host
  · have hhost := Subscriber.notify_stillShown (u := ⟨id, .stillShown a, none⟩) rfl m.session
      m.engine.host
    rw [if_neg fun hleft => absurd hleft.1.symm (Option.some_ne_none _)] at hhost
    exact congrArg Host.closings hhost

/-- The main thread takes a piece of work. -/
theorem Tallies.take (hlater : m.engine.host.closings.later = true) {w : Work} {rest : List Work}
    (hidle : m.atWork = none) (hposted : m.engine.host.posted = w :: rest) :
    m.Tallies { m with
      engine := m.engine.onHost fun h => { h with posted := rest }
      atWork := some (w, m.session) } := by
  refine ⟨hlater, Nat.le_refl _, Or.inl ?_⟩
  unfold tearDowns
  rw [hidle, Host.closings_take hposted]
  show _ + [w].count .tearDown + _ = _ + 0 + _
  rw [Nat.add_zero, Nat.add_assoc]
  rfl

/-- The main thread finishes a piece of work. -/
theorem Tallies.finish (hlater : m.engine.host.closings.later = true) {w : Work} {s : Session}
    (hbusy : m.atWork = some (w, s)) :
    m.Tallies { m with engine := m.engine.onHost fun h => h.perform s w, atWork := none } := by
  have hclosings := Host.closings_perform s m.engine.host w
  refine ⟨?_, ?_, Or.inl ?_⟩
  · show (m.engine.host.perform s w).closings.later = true
    rw [hclosings]
    exact hlater
  · show m.engine.host.closings.done ≤ (m.engine.host.perform s w).closings.done
    rw [hclosings]
    exact Nat.le_add_right _ _
  · unfold tearDowns tornDown
    rw [hbusy]
    show (m.engine.host.perform s w).closings.done + 0 +
      (m.engine.host.perform s w).closings.due = _
    rw [hclosings]
    rfl

/-- **A teardown is posted for one reason only**: the surface of a message is told that its message
has left. -/
theorem Tallies.goes (h : Scene.modals.IsTame m) (hinformed : m.Informed)
    (hlater : m.engine.host.closings.later = true) (hgoes : Scene.modals.Goes m m') :
    m.Tallies m' := by
  cases hgoes with
  | aside hside => exact .of_eq hlater hside.view hside.atWork
  | tell u rest hwaiting => exact .tell h hinformed hlater hwaiting
  | commit d rest hwaiting => exact .of_eq hlater rfl rfl
  | register id watch rest hwaiting hinbox => exact .register h hlater hinbox
  | take w rest hidle hposted => exact .take hlater hidle hposted
  | finish w s hbusy => exact .finish hlater hbusy
  | call w hw =>
      refine .of_eq hlater (Host.closings_post_other ?_ m.engine.host m.session) rfl
      rcases hw with rfl | rfl | rfl <;> rfl

/-! ## Which teardown is done -/

/-- Surfaces learn of what happens, and the main thread does what it is told to do later. -/
structure IsAttended (m : Moment) : Prop where
  tame : Scene.modals.IsTame m
  informed : m.Informed
  later : m.engine.host.postsLater = true

/-- **Every move keeps it so**, and posts a teardown for one reason only. -/
theorem IsAttended.after (h : m.IsAttended) {move : Move} (hfits : Scene.modals.Fits m move) :
    m.Tallies (m.after move) ∧ (m.after move).IsAttended := by
  obtain ⟨hgoes, htame⟩ := h.tame.after hfits
  have htallies := Tallies.goes h.tame h.informed h.later hgoes
  exact ⟨htallies, htame, h.informed.goes hgoes, htallies.later⟩

theorem IsAttended.run (h : m.IsAttended) {moves : List Move}
    (hfits : Scene.modals.FitAll m moves) : (m.run moves).IsAttended := by
  induction moves generalizing m with
  | nil => exact h
  | cons move rest ih => exact ih (h.after hfits.1).2 hfits.2

/-- **A move posts a teardown** exactly if it tells the surface of a message that its message has
left. -/
theorem IsAttended.posts_iff (h : m.IsAttended) {move : Move} (hfits : Scene.modals.Fits m move) :
    (m.after move).tearDowns = m.tearDowns + 1 ↔ ∃ a d, m.LetsGo (m.after move) a d := by
  constructor
  · intro hmore
    exact (h.after hfits).1.posted.resolve_left fun hsame => by omega
  · rintro ⟨a, d, hlets⟩
    exact hlets.tearDowns h.later

/-- What was done stays done. -/
theorem IsAttended.tornDown_run (h : m.IsAttended) {moves : List Move}
    (hfits : Scene.modals.FitAll m moves) : m.tornDown ≤ (m.run moves).tornDown := by
  induction moves generalizing m with
  | nil => exact Nat.le_refl _
  | cons move rest ih =>
      obtain ⟨htallies, hnext⟩ := h.after hfits.1
      exact Nat.le_trans htallies.done (ih hnext hfits.2)

/-- In an interleaving a teardown was posted after `count` others, because a message had left by an
action; `later` was committed since. -/
def HasPosted (m : Moment) (moves : List Move) (count : Nat) (a : Message) (d : Action)
    (later : List Action) : Prop :=
  ∃ before move between, moves = before ++ move :: between ∧
    (m.run before).LetsGo ((m.run before).after move) a d ∧ (m.run before).tearDowns = count ∧
      (m.run before).Continues (m.run moves) later

/-- **Every teardown of an interleaving was posted at some point of it.** -/
theorem IsAttended.hasPosted (h : m.IsAttended) {moves : List Move}
    (hfits : Scene.modals.FitAll m moves) {count : Nat} (hfrom : m.tearDowns ≤ count)
    (hcount : count < (m.run moves).tearDowns) :
    ∃ a d later, m.HasPosted moves count a d later := by
  induction moves generalizing m with
  | nil => exact absurd hcount (Nat.not_lt.mpr hfrom)
  | cons move rest ih =>
      obtain ⟨htallies, hnext⟩ := h.after hfits.1
      by_cases hreached : (m.after move).tearDowns ≤ count
      · obtain ⟨a, d, later, before, other, between, rfl, hlets, hnumber, hsince⟩ :=
          ih hnext hfits.2 hreached hcount
        exact ⟨a, d, later, move :: before, other, between, rfl, hlets, hnumber, hsince⟩
      -- the first move is the one that posts it
      · obtain ⟨a, d, hlets⟩ := htallies.posted.resolve_left fun hsame =>
          hreached (hsame ▸ hfrom)
        have hnumber : m.tearDowns = count := by
          have hmore := hlets.tearDowns h.later
          omega
        obtain ⟨later, hlater⟩ := h.tame.continues hfits
        exact ⟨a, d, later, [], move, rest, rfl, hlets, hnumber, hlater⟩

/-- A teardown that the main thread is about to do finds on the modal surface what was put there since
its message left. -/
theorem IsAttended.finds (h : m.IsAttended) (hclear : m.tearDowns = m.tornDown)
    {moves : List Move} (hfits : Scene.modals.FitAll m moves) {s : Session}
    (hwork : (m.run moves).atWork = some (.tearDown, s)) :
    ∃ a d later, m.HasPosted moves (m.run moves).tornDown a d later ∧
      (m.run moves).session.modal.active? = Action.occupant? (d :: later) := by
  have hdone := h.tornDown_run hfits
  have hwaits : (m.run moves).tornDown < (m.run moves).tearDowns := by
    unfold tearDowns
    rw [hwork]
    show _ < _ + 1 + _
    omega
  obtain ⟨a, d, later, hposted⟩ := h.hasPosted hfits (hclear ▸ hdone) hwaits
  refine ⟨a, d, later, hposted, ?_⟩
  obtain ⟨before, move, between, -, hlets, -, hsince⟩ := hposted
  obtain ⟨s, hactive, hsession, -⟩ := hlets.committed
  have hleft := hlets.left
  rw [hsession] at hleft
  rw [hsince.session, hsession]
  exact Session.active_reduceAll hactive hleft later

/-- **The commits since a message left settle what its teardown finds on the modal surface.**  In any
interleaving a teardown is posted exactly when the surface of a message is told that its message has
left.  They are done in that order, and when the main thread is about to do one, what is on the
surface is what the actions put there that were committed since, the one that took the message off
included. -/
theorem tearDown_follows (h : m.IsAttended) (hclear : m.tearDowns = m.tornDown)
    {moves : List Move} (hfits : Scene.modals.FitAll m moves) :
    (∀ before move between, moves = before ++ move :: between →
      (((m.run before).after move).tearDowns = (m.run before).tearDowns + 1 ↔
        ∃ a d, (m.run before).LetsGo ((m.run before).after move) a d)) ∧
    ∀ s, (m.run moves).atWork = some (.tearDown, s) →
      ∃ a d later, m.HasPosted moves (m.run moves).tornDown a d later ∧
        (m.run moves).session.modal.active? = Action.occupant? (d :: later) := by
  refine ⟨fun before move between hsplit => ?_, fun s hwork => h.finds hclear hfits hwork⟩
  rw [hsplit] at hfits
  obtain ⟨hbefore, hmove, -⟩ := (Scene.fitAll_append _).mp hfits
  exact (h.run hbefore).posts_iff hmove

/-- With realtime updates a banner is displayed while a coupon waits in the queue.  The user closes
the banner, and the coupon takes its place before the main thread comes to the teardown. -/
def replacingMoves : List Move :=
  [.dispatch (.setUser "ada"), .dispatch (.setRealtime true),
      .dispatch (.processQueue [Runner.banner])] ++ List.replicate 12 .store ++
    [.subscribe fun _ => .stillShown Runner.banner, .dispatch (.display Runner.banner),
      .dispatch (.processQueue [Runner.coupon]), .dispatch (.close Runner.banner)] ++
    List.replicate 30 .store ++ [.poster]

/-- **The teardown of the banner closes the coupon**: it was posted when the banner had left, and by
the time it is done the coupon has been presented and is being loaded. -/
theorem tearDown_follows_replacement :
    let m : Moment := { engine := quietEngine }
    let m' := m.run replacingMoves
    (∃ a d later, m.HasPosted replacingMoves m'.tornDown a d later ∧
        m'.session.modal.active? = Action.occupant? (d :: later)) ∧
      m'.atWork.map Prod.fst = some .tearDown ∧ m'.session.modal = .loading Runner.coupon ∧
        .presented Runner.coupon Runner.coupon.position ∈ m'.engine.host.journal ∧
          .tornDown ∉ m'.engine.host.journal := by
  intro m m'
  have hattended : m.IsAttended :=
    ⟨⟨rfl, Pipeline.standard_keeps_closings, fun _ hc => absurd hc List.not_mem_nil,
      fun _ hd => absurd hd List.not_mem_nil, fun _ hu => absurd hu List.not_mem_nil,
      fun _ hu => absurd hu List.not_mem_nil⟩,
      ⟨fun _ hu => absurd hu List.not_mem_nil, fun _ hu => absurd hu List.not_mem_nil⟩, rfl⟩
  have hfits : Scene.modals.FitAll m replacingMoves := by
    refine Scene.fitAll_of_forall _ (fun move hmove n => ?_) _
    simp only [replacingMoves, List.mem_append, List.mem_cons, List.mem_replicate,
      List.not_mem_nil, or_false] at hmove
    rcases hmove with
      ((((rfl | rfl | rfl) | ⟨-, rfl⟩) | (rfl | rfl | rfl | rfl)) | ⟨-, rfl⟩) | rfl
    case inl.inl.inr.inl => exact Watch.IsOwn.admitted (.modal _) _
    all_goals trivial
  have hwork : m'.atWork.map Prod.fst = some .tearDown := by decide +kernel
  obtain ⟨⟨_, s⟩, hbusy, rfl⟩ := Option.map_eq_some_iff.mp hwork
  exact ⟨(tearDown_follows hattended rfl hfits).2 s hbusy, hwork, by decide +kernel,
    by decide +kernel, by decide +kernel⟩

end Moment

end InAppMessaging
