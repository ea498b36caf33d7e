import InAppMessaging.Proofs.Engine.Provenance
import InAppMessaging.Proofs.Store.Keeping

/-!
# What goes on around a surface

A surface is tied to the store by a few subscribers, its crew; what concerns it outside the session
is a view of the host, and as long as the other subscribers and the stages leave that alone, little
can happen to it.  Somebody is told of the session, an action is committed, a subscriber is added,
the main thread takes or finishes a piece of work, or the app calls; everything else happens aside
(`Scene.Goes`).

* `Scene.IsTame.after` — **what a move comes to**, as far as the surface is concerned;
* `Scene.IsTame.run` — what none of this breaks holds throughout an interleaving.
-/

namespace InAppMessaging

/-- A surface as it is seen from outside the session: what concerns it, which subscribers are its
crew, and which ones are not to be removed.  Neither the error log nor the waking of a task
concerns it. -/
structure Scene (α : Type) where
  view : Host → α
  crew : Nat → Watch Observed Host → Prop
  stays : Nat → Prop
  logged : ∀ text h, view (ErrorLog.logError text h) = view h
  woken : ∀ t h, view (h.wake t) = view h

namespace Moment

variable {m : Moment} {u u' : Subscriber Observed Host}

/-- A subscriber is registered. -/
def register (m : Moment) (id : Nat) (watch : Watch Observed Host)
    (rest : List (Command Observed Host)) : Moment :=
  let added := Subscriber.register id watch m.session m.engine.host
  { m with
    engine.inbox := rest
    engine.store.subscribers := m.engine.store.subscribers ++ [added.1]
    engine.store.host := added.2 }

/-- Whoever was told of a session was there before. -/
theorem mem_tell {rest : List (Subscriber Observed Host)}
    (h : u' ∈ (m.tell u rest).engine.store.subscribers) :
    u' ∈ m.engine.store.subscribers ∨ u'.id = u.id ∧ u'.watch = u.watch := by
  refine (List.mem_append.mp h).imp_right fun hthis => ?_
  obtain rfl := List.mem_singleton.mp hthis
  exact ⟨Subscriber.notify_id _ _ _, Subscriber.notify_watch _ _ _⟩

/-- Only the one that is registered is new. -/
theorem mem_register {id : Nat} {watch : Watch Observed Host} {rest : List (Command Observed Host)}
    (h : u ∈ (m.register id watch rest).engine.store.subscribers) :
    u ∈ m.engine.store.subscribers ∨ u.id = id ∧ u.watch = watch := by
  refine (List.mem_append.mp h).imp_right fun hthis => ?_
  obtain rfl := List.mem_singleton.mp hthis
  exact ⟨Subscriber.register_id _ _ _ _, Subscriber.register_watch _ _ _ _⟩

/-- Some actions were committed between two moments, and no others. -/
structure Continues (m m' : Moment) (new : List Action) : Prop where
  session : m'.session = m.session.reduceAll new
  log : m'.log = new.reverse ++ m.log

theorem Continues.refl (m : Moment) : m.Continues m [] := ⟨rfl, rfl⟩

/-- One stretch after the other. -/
theorem Continues.trans {m' m'' : Moment} {new more : List Action} (h : m.Continues m' new)
    (h' : m'.Continues m'' more) : m.Continues m'' (new ++ more) := by
  refine ⟨?_, ?_⟩
  · rw [h'.session, h.session, Session.reduceAll_append]
  · rw [h'.log, h.log, List.reverse_append, List.append_assoc]

end Moment

namespace Scene

variable {α : Type} (S : Scene α)

/-- A subscriber leaves the surface alone, or is one of its crew. -/
def Admits (id : Nat) (watch : Watch Observed Host) : Prop :=
  watch.Keeps S.view ∨ S.crew id watch

/-- A command leaves the surface alone, or adds somebody to its crew. -/
def Allows : Command Observed Host → Prop
  | .run _ => True
  | .subscribe id watch => S.Admits id watch
  | .unsubscribe id => ¬ S.stays id
  | .barrier reached => ∀ h, S.view (reached h) = S.view h

/-- A move leaves the surface alone at a moment, or adds somebody to its crew. -/
def Fits (m : Moment) : Move → Prop
  | .subscribe watch => S.Admits (m.engine.subscriptions + 1) (watch (m.engine.subscriptions + 1))
  | .unsubscribe id => ¬ S.stays id
  | .barrier reached => ∀ h, S.view (reached h) = S.view h
  | .elsewhere change => S.view (change m.engine.host) = S.view m.engine.host
  | _ => True

/-- Every move fits the moment at which it is made. -/
def FitAll : Moment → List Move → Prop
  | _, [] => True
  | m, move :: rest => S.Fits m move ∧ FitAll (m.after move) rest

/-- What fits every moment fits. -/
theorem fitAll_of_forall {moves : List Move} (h : ∀ move ∈ moves, ∀ m, S.Fits m move) (m : Moment) :
    S.FitAll m moves := by
  induction moves generalizing m with
  | nil => trivial
  | cons move rest ih =>
      obtain ⟨hfirst, hrest⟩ := List.forall_mem_cons.mp h
      exact ⟨hfirst m, ih hrest _⟩

theorem fitAll_append {moves more : List Move} {m : Moment} :
    S.FitAll m (moves ++ more) ↔ S.FitAll m moves ∧ S.FitAll (m.run moves) more := by
  induction moves generalizing m with
  | nil => exact ⟨fun h => ⟨trivial, h⟩, And.right⟩
  | cons move rest ih => exact (and_congr_right fun _ => ih).trans and_assoc.symm

/-- Nobody but the main thread and its crew changes the surface, and nobody stops the store or
removes those who are to stay. -/
structure IsTame (m : Moment) : Prop where
  running : m.engine.running = true
  stages : ∀ stage ∈ m.engine.stages, stage.Keeps S.view
  inbox : ∀ c ∈ m.engine.inbox, S.Allows c
  agenda : ∀ d ∈ m.agenda, d.Keeps S.view
  waiting : ∀ u ∈ m.waiting, S.Admits u.id u.watch
  subscribers : ∀ u ∈ m.engine.store.subscribers, S.Admits u.id u.watch

/-! ## What can happen -/

/-- One moment follows another, and the surface has no part in it. -/
structure Aside (m m' : Moment) : Prop where
  session : m'.session = m.session
  log : m'.log = m.log
  view : S.view m'.engine.host = S.view m.engine.host
  atWork : m'.atWork = m.atWork
  waiting : m'.waiting = m.waiting
  /-- Those who are about to join the crew still are. -/
  joining : ∀ id watch, S.crew id watch →
    .subscribe id watch ∈ m.engine.inbox → .subscribe id watch ∈ m'.engine.inbox
  /-- Who is to stay stays. -/
  staying : ∀ u ∈ m.engine.store.subscribers, S.stays u.id → u ∈ m'.engine.store.subscribers
  /-- Nobody is new. -/
  known : ∀ u ∈ m'.engine.store.subscribers, u ∈ m.engine.store.subscribers

/-- What one moment can lead to. -/
inductive Goes (m : Moment) : Moment → Prop
  | aside {m' : Moment} (h : S.Aside m m') : Goes m m'
  | tell (u : Subscriber Observed Host) (rest : List (Subscriber Observed Host))
      (hwaiting : m.waiting = u :: rest) : Goes m (m.tell u rest)
  | commit (a : Action) (rest : List (Deed Host)) (hwaiting : m.waiting = []) :
      Goes m (m.commit a rest)
  | register (id : Nat) (watch : Watch Observed Host) (rest : List (Command Observed Host))
      (hwaiting : m.waiting = []) (hinbox : m.engine.inbox = .subscribe id watch :: rest) :
      Goes m (m.register id watch rest)
  | take (w : Work) (rest : List Work) (hidle : m.atWork = none)
      (hposted : m.engine.host.posted = w :: rest) :
      Goes m { m with
        engine := m.engine.onHost fun h => { h with posted := rest }
        atWork := some (w, m.session) }
  | finish (w : Work) (s : Session) (hbusy : m.atWork = some (w, s)) :
      Goes m { m with engine := m.engine.onHost fun h => h.perform s w, atWork := none }
  | call (w : Work) (hw : w = .foreground ∨ w = .background ∨ w = .restart) :
      Goes m (m.onEngine fun e => e.post w)

theorem Aside.refl (m : Moment) : S.Aside m m :=
  ⟨rfl, rfl, rfl, rfl, rfl, fun _ _ _ h => h, fun _ h _ => h, fun _ h => h⟩

variable {S} {m : Moment}

/-- Whatever happens, some actions are committed, or none. -/
theorem Goes.continues {m' : Moment} (h : S.Goes m m') : ∃ new, m.Continues m' new := by
  cases h with
  | aside hside => exact ⟨[], hside.session, hside.log⟩
  | commit a rest hwaiting => exact ⟨[a], rfl, rfl⟩
  | tell | register | take | finish | call => exact ⟨[], rfl, rfl⟩

namespace IsTame

/-! ## Moves of the store -/

theorem tell (h : S.IsTame m) {u : Subscriber Observed Host}
    {rest : List (Subscriber Observed Host)} (hwaiting : m.waiting = u :: rest) :
    S.IsTame (m.tell u rest) := by
  have hadmitted := h.waiting
  rw [hwaiting] at hadmitted
  obtain ⟨hu, hrest⟩ := List.forall_mem_cons.mp hadmitted
  refine ⟨h.running, h.stages, h.inbox, h.agenda, hrest, fun u' hu' => ?_⟩
  rcases Moment.mem_tell hu' with hbefore | ⟨hid, hwatch⟩
  · exact h.subscribers u' hbefore
  · rw [hid, hwatch]
    exact hu

theorem commit (h : S.IsTame m) (a : Action) {rest : List (Deed Host)}
    (hrest : ∀ d ∈ rest, d.Keeps S.view) : S.IsTame (m.commit a rest) :=
  ⟨h.running, h.stages, h.inbox, hrest, h.subscribers, fun _ hu => absurd hu List.not_mem_nil⟩

/-- Another deed is done aside. -/
theorem perform (h : S.IsTame m) {d : Deed Host} {rest : List (Deed Host)} (hd : d.Keeps S.view)
    (hrest : ∀ d ∈ rest, d.Keeps S.view) (hcommit : ∀ a, d ≠ .commit a) :
    let m' := { m with engine.store := m.engine.store.perform d, agenda := rest }
    S.Aside m m' ∧ S.IsTame m' := by
  cases d with
  | commit a => exact absurd rfl (hcommit a)
  | act effect =>
      exact ⟨⟨rfl, rfl, hd _ _, rfl, rfl, fun _ _ _ h => h, fun _ h _ => h, fun _ h => h⟩,
        ⟨h.running, h.stages, h.inbox, hrest, h.waiting, h.subscribers⟩⟩
  | failed =>
      exact ⟨⟨rfl, rfl, rfl, rfl, rfl, fun _ _ _ h => h, fun _ h _ => h, fun _ h => h⟩,
        ⟨h.running, h.stages, h.inbox, hrest, h.waiting, h.subscribers⟩⟩

/-- A command that adds nobody is taken from the inbox. -/
theorem dequeue (h : S.IsTame m) {c : Command Observed Host}
    {rest : List (Command Observed Host)} (hinbox : m.engine.inbox = c :: rest) :
    S.Allows c ∧ S.IsTame { m with engine.inbox := rest } ∧
      ((∀ id watch, c ≠ .subscribe id watch) → ∀ id watch,
        .subscribe id watch ∈ m.engine.inbox → .subscribe id watch ∈ rest) := by
  have hcommands := h.inbox
  rw [hinbox] at hcommands
  obtain ⟨hc, hrest⟩ := List.forall_mem_cons.mp hcommands
  refine ⟨hc, ⟨h.running, h.stages, hrest, h.agenda, h.waiting, h.subscribers⟩, ?_⟩
  intro hnone id watch hmem
  rw [hinbox] at hmem
  exact List.mem_of_ne_of_mem (hnone id watch).symm hmem

/-- A subscriber is added. -/
theorem register (h : S.IsTame m) {id : Nat} {watch : Watch Observed Host}
    {rest : List (Command Observed Host)}
    (hinbox : m.engine.inbox = .subscribe id watch :: rest) :
    S.IsTame (m.register id watch rest) := by
  obtain ⟨hadmitted, hnext, -⟩ := h.dequeue hinbox
  refine ⟨h.running, h.stages, hnext.inbox, h.agenda, h.waiting, fun u hu => ?_⟩
  rcases Moment.mem_register hu with hbefore | ⟨hid, hwatch⟩
  · exact h.subscribers u hbefore
  · rw [hid, hwatch]
    exact hadmitted

/-- **What the store comes to.** -/
theorem stepStore (h : S.IsTame m) : S.Goes m m.stepStore ∧ S.IsTame m.stepStore := by
  have hagenda := h.agenda
  unfold Moment.stepStore
  split
  · next _ _ u rest hwaiting => exact ⟨.tell u rest hwaiting, h.tell hwaiting⟩
  · next _ a rest hwaiting hdeeds =>
      rw [hdeeds] at hagenda
      exact ⟨.commit a rest hwaiting, h.commit a (List.forall_mem_cons.mp hagenda).2⟩
  · next d rest _ hcommit hwaiting hdeeds =>
      rw [hdeeds] at hagenda
      obtain ⟨hd, hrest⟩ := List.forall_mem_cons.mp hagenda
      exact (h.perform hd hrest hcommit).imp_left .aside
  · next a rest hwaiting hdeeds hinbox =>
      obtain ⟨-, hnext, hjoining⟩ := h.dequeue hinbox
      refine ⟨.aside ⟨rfl, rfl, rfl, rfl, rfl, fun id watch _ => hjoining nofun id watch,
        fun _ h _ => h, fun _ h => h⟩, ?_⟩
      exact ⟨h.running, h.stages, hnext.inbox,
        deeds_keep S.logged h.stages maxDispatchDepth a m.session, h.waiting, h.subscribers⟩
  · next c rest hrun hwaiting hdeeds hinbox =>
      obtain ⟨hc, hnext, hjoining⟩ := h.dequeue hinbox
      cases c with
      | run a => exact absurd rfl (hrun a)
      | subscribe id watch => exact ⟨.register id watch rest hwaiting hinbox, h.register hinbox⟩
      | unsubscribe id =>
          refine ⟨.aside ⟨rfl, rfl, rfl, rfl, rfl, fun id watch _ => hjoining nofun id watch, ?_,
            fun u hu => (List.mem_filter.mp hu).1⟩, ?_⟩
          · intro u hu hstays
            refine List.mem_filter.mpr ⟨hu, decide_eq_true fun hid => hc ?_⟩
            rw [← hid]
            exact hstays
          · exact ⟨h.running, h.stages, hnext.inbox, h.agenda, h.waiting,
              fun u hu => h.subscribers u (List.mem_filter.mp hu).1⟩
      | barrier reached =>
          refine ⟨.aside ⟨rfl, rfl, hc _, rfl, rfl, fun id watch _ => hjoining nofun id watch,
            fun _ h _ => h, fun _ h => h⟩, ?_⟩
          exact ⟨h.running, h.stages, hnext.inbox, h.agenda, h.waiting, h.subscribers⟩
  · exact ⟨.aside (.refl S m), h⟩

/-! ## Other moves -/

/-- The host changes, and what the main thread is busy with. -/
theorem onHost (h : S.IsTame m) (change : Host → Host) (atWork : Option (Work × Session)) :
    S.IsTame { m with engine := m.engine.onHost change, atWork } :=
  ⟨h.running, h.stages, h.inbox, h.agenda, h.waiting, h.subscribers⟩

/-- **What the main thread comes to.** -/
theorem stepPoster (h : S.IsTame m) : S.Goes m m.stepPoster ∧ S.IsTame m.stepPoster := by
  unfold Moment.stepPoster
  split
  · next _ w s hbusy => exact ⟨.finish w s hbusy, h.onHost _ _⟩
  · next w rest hidle hposted => exact ⟨.take w rest hidle hposted, h.onHost _ _⟩
  · exact ⟨.aside (.refl S m), h⟩

/-- A command is sent aside. -/
theorem send (h : S.IsTame m) {c : Command Observed Host} (hc : S.Allows c) (n : Nat) :
    let m' := m.onEngine fun e => { e with subscriptions := n }.send c
    S.Aside m m' ∧ S.IsTame m' := by
  have hallowed : ∀ c' ∈ m.engine.inbox ++ [c], S.Allows c' :=
    List.forall_mem_append.mpr ⟨h.inbox, List.forall_mem_singleton.mpr hc⟩
  unfold Moment.onEngine Engine.send
  dsimp only
  rw [if_pos h.running]
  exact ⟨⟨rfl, rfl, S.woken .store _, rfl, rfl, fun _ _ _ hc => List.mem_append_left _ hc,
    fun _ h _ => h, fun _ h => h⟩,
    ⟨h.running, h.stages, hallowed, h.agenda, h.waiting, h.subscribers⟩⟩

/-- **What a move comes to**, as far as the surface is concerned. -/
theorem after (h : S.IsTame m) {move : Move} (hfits : S.Fits m move) :
    S.Goes m (m.after move) ∧ S.IsTame (m.after move) := by
  have hsend : ∀ {c : Command Observed Host}, S.Allows c →
      S.Goes m (m.onEngine fun e => e.send c) ∧ S.IsTame (m.onEngine fun e => e.send c) :=
    fun hc => (h.send hc m.engine.subscriptions).imp_left .aside
  cases move with
  | store => exact h.stepStore
  | poster => exact h.stepPoster
  | foreground => exact ⟨.call .foreground (Or.inl rfl), h.onHost _ _⟩
  | background => exact ⟨.call .background (Or.inr (Or.inl rfl)), h.onHost _ _⟩
  | restart => exact ⟨.call .restart (Or.inr (Or.inr rfl)), h.onHost _ _⟩
  | dispatch a => exact hsend (c := .run a) trivial
  | subscribe watch =>
      exact (h.send (c := .subscribe _ _) hfits (m.engine.subscriptions + 1)).imp_left .aside
  | unsubscribe id => exact hsend (c := .unsubscribe id) hfits
  | barrier reached => exact hsend (c := .barrier reached) hfits
  | elsewhere change =>
      exact ⟨.aside ⟨rfl, rfl, hfits, rfl, rfl, fun _ _ _ h => h, fun _ h _ => h, fun _ h => h⟩,
        h.onHost change m.atWork⟩

/-- **What nothing of this breaks holds throughout an interleaving.** -/
theorem run {I : Moment → Prop} (hstep : ∀ m m', S.IsTame m → S.Goes m m' → I m → I m')
    (h : S.IsTame m) (hm : I m) {moves : List Move} (hfits : S.FitAll m moves) :
    S.IsTame (m.run moves) ∧ I (m.run moves) := by
  induction moves generalizing m with
  | nil => exact ⟨h, hm⟩
  | cons move rest ih =>
      obtain ⟨hfirst, hrest⟩ := hfits
      obtain ⟨hgoes, hnext⟩ := h.after hfirst
      exact ih hnext (hstep m _ h hgoes hm) hrest

/-- Some actions are committed in an interleaving, or none. -/
theorem continues (h : S.IsTame m) {moves : List Move} (hfits : S.FitAll m moves) :
    ∃ new, m.Continues (m.run moves) new := by
  refine (h.run (I := fun n => ∃ new, m.Continues n new) ?_ ⟨[], .refl m⟩ hfits).2
  rintro n n' - hgoes ⟨new, hnew⟩
  obtain ⟨more, hmore⟩ := hgoes.continues
  exact ⟨new ++ more, hnew.trans hmore⟩

end IsTame

end Scene

end InAppMessaging
