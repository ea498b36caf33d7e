import InAppMessaging.Proofs.Realtime.Convergence
import InAppMessaging.Proofs.Surface.InlineView

/-!
# An inline view follows its element

A view that was tied to an inline element at some moment, and everything that may happen from then
on, in any interleaving.  Its subscriber has yet to be registered (`Moment.Awaits`), or the view is
or will be told of every session since (`Moment.Follows`); what it comes to show is what comes of
following all of them.

* `Moment.Awaits.goes`, `Moment.Follows.goes` — every move keeps it so;
* `Moment.inline_view_follows` — **a view at rest shows what comes of following its element**, which
  is what it should show unless a commit has parted the two.
-/

namespace InAppMessaging

/-- An inline element as it is seen from outside the session: its view, and the one subscriber that
has it follow the element. -/
def InlineSurface.scene (w : InlineSurface) : Scene Sight where
  view := Host.sight w.place
  crew id watch := id = w.subscription ∧ watch = .element w.elementId w.place
  stays id := id = w.subscription
  logged := sight_logError w.place
  woken := Host.sight_wake

namespace Moment

/-- What concerns a view. -/
def sight (m : Moment) (w : InlineSurface) : Sight := m.engine.host.sight w.place

/-- The state that the main thread is about to have a view follow. -/
def following? (m : Moment) (w : InlineSurface) : Option InlineState :=
  m.atWork.bind fun busy => busy.1.followed? w.place

/-- What an element holds. -/
def held? (m : Moment) (w : InlineSurface) : Option InlineState :=
  m.session.inline.find? w.elementId

/-- What the main thread is about to have a view follow depends on its work alone. -/
theorem following?_of_eq {m m' : Moment} (hwork : m'.atWork = m.atWork) (w : InlineSurface) :
    m'.following? w = m.following? w := by
  unfold following?
  rw [hwork]

/-- What will become of a view once the main thread has done its work. -/
structure Promises (m : Moment) (w : InlineSurface) (t : ViewTrail) : Prop where
  prompt : (m.sight w).IsPrompt (m.following? w)
  prospect : (m.sight w).prospect? (m.following? w) = some t

namespace Promises

variable {m m' : Moment} {w : InlineSurface} {t : ViewTrail}

theorem of_eq (h : m.Promises w t) (hsight : m'.sight w = m.sight w)
    (hwork : m'.atWork = m.atWork) : m'.Promises w t := by
  have hfollowing := following?_of_eq hwork w
  exact ⟨by rw [hsight, hfollowing]; exact h.prompt, by rw [hsight, hfollowing]; exact h.prospect⟩

/-- The view is to be told what its element holds. -/
theorem heed (h : m.Promises w t) {state? : Option InlineState}
    (hsight : m'.sight w = (m.sight w).heed state?) (hwork : m'.atWork = m.atWork) :
    m'.Promises w (t.heed state?) := by
  have hfollowing := following?_of_eq hwork w
  obtain ⟨hprompt, hprospect⟩ := h.prompt.heed state?
  rw [h.prospect] at hprospect
  exact ⟨by rw [hsight, hfollowing]; exact hprompt, by rw [hsight, hfollowing]; exact hprospect⟩

/-- The main thread takes a piece of work. -/
theorem take (h : m.Promises w t) {work : Work} {rest : List Work} (hidle : m.atWork = none)
    (hposted : m.engine.host.posted = work :: rest) :
    Promises { m with
      engine := m.engine.onHost fun h => { h with posted := rest }
      atWork := some (work, m.session) } w t := by
  have hworks : (m.sight w).works = (work.followed? w.place).toList ++
      ({ m.engine.host with posted := rest }.sight w.place).works := Host.sight_take hposted
  have hnone : m.following? w = none := by
    unfold following?
    rw [hidle]
    rfl
  have hprompt := h.prompt
  have hprospect := h.prospect
  rw [hnone] at hprompt hprospect
  refine ⟨fun hnow => ?_, ?_⟩
  · have hempty := (hprompt hnow).2
    rw [hworks] at hempty
    obtain ⟨hfirst, hrest⟩ := List.append_eq_nil_iff.mp hempty
    exact ⟨Option.toList_eq_nil_iff.mp hfirst, hrest⟩
  · unfold Sight.prospect? at hprospect
    rw [hworks] at hprospect
    exact hprospect

/-- The main thread finishes a piece of work. -/
theorem finish (h : m.Promises w t) {work : Work} {s : Session} (hbusy : m.atWork = some (work, s)) :
    Promises { m with engine := m.engine.onHost fun h => h.perform s work, atWork := none } w t := by
  have hsight : (m.engine.host.perform s work).sight w.place =
      (work.followed? w.place).elim (m.sight w) (m.sight w).follow :=
    Host.sight_perform s m.engine.host work
  have hfollowing : m.following? w = work.followed? w.place := by
    unfold following?
    rw [hbusy]
    rfl
  have hprompt := h.prompt
  have hprospect := h.prospect
  rw [hfollowing] at hprompt hprospect
  refine ⟨?_, ?_⟩
  · show ((m.engine.host.perform s work).sight w.place).IsPrompt none
    rw [hsight]
    cases hstate : work.followed? w.place with
    | none => exact fun hnow => ⟨rfl, (hprompt hnow).2⟩
    | some state => exact fun hnow => ⟨rfl, (hprompt hnow).2⟩
  · show ((m.engine.host.perform s work).sight w.place).prospect? none = some t
    rw [hsight]
    cases hstate : work.followed? w.place with
    | none =>
        rw [hstate] at hprospect
        exact hprospect
    | some state =>
        rw [hstate] at hprospect
        show ((m.sight w).follow state).prospect? none = some t
        unfold Sight.prospect? Sight.follow
        rw [Option.map_map]
        exact hprospect

/-- The app calls. -/
theorem call (h : m.Promises w t) {work : Work}
    (hwork : work = .foreground ∨ work = .background ∨ work = .restart) :
    (m.onEngine fun e => e.post work).Promises w t := by
  refine h.of_eq ?_ rfl
  rcases hwork with rfl | rfl | rfl <;> exact Host.sight_post _ m.session m.engine.host

/-- **A view at rest is as was promised.** -/
theorem at_rest (h : m.Promises w t) (hidle : m.atWork = none) (hposted : m.engine.host.posted = []) :
    (m.sight w).trail? = some t := by
  have hprospect := h.prospect
  unfold Sight.prospect? following? sight Host.sight at hprospect
  rw [hidle, hposted] at hprospect
  exact (Option.map_id' (x := (m.sight w).trail?)).symm.trans hprospect

end Promises

/-! ## Before and after the subscriber is registered -/

/-- The subscriber of a view has yet to be registered. -/
structure Awaits (m : Moment) (w : InlineSurface) : Prop where
  joining : .subscribe w.subscription (.element w.elementId w.place) ∈ m.engine.inbox
  alone : ∀ u ∈ m.waiting ++ m.engine.store.subscribers, ¬ w.scene.crew u.id u.watch
  promises : m.Promises w {}

/-- A view was told of the sessions, or will be; `v` is what comes of following them all. -/
structure Follows (m : Moment) (w : InlineSurface) (v : InlineView) : Prop where
  /-- If what is promised is not all, then it is about to be told of the session at hand. -/
  promises : ∃ t, m.Promises w t ∧ t.IsHonest ∧ t.view.heed (m.held? w) = v ∧
    (t.view = v ∨ ∃ u ∈ m.waiting, w.scene.crew u.id u.watch ∧ u.told ≠ some (.surface (m.held? w)))
  /-- Its subscriber is about to be told, or was told of the session at hand. -/
  present : (∃ u ∈ m.waiting, w.scene.crew u.id u.watch) ∨
    ∃ u ∈ m.engine.store.subscribers, w.scene.crew u.id u.watch ∧
      u.told = some (.surface (m.held? w))

variable {m m' : Moment} {w : InlineSurface} {v : InlineView}

/-- The subscriber of a view is told what its element holds. -/
theorem notify_crew {u : Subscriber Observed Host} (hu : w.scene.crew u.id u.watch) (s : Session)
    (h : Host) :
    (u.notify s h).1.told = some (.surface (s.inline.find? w.elementId)) ∧
      (u.notify s h).2.sight w.place =
        if u.told = some (.surface (s.inline.find? w.elementId)) then h.sight w.place
        else (h.sight w.place).heed (s.inline.find? w.elementId) := by
  refine ⟨Subscriber.told_notify_distinct hu.2 s h, ?_⟩
  rw [Subscriber.notify_distinct hu.2]
  split
  · rfl
  · exact sight_tellInline w.place w.elementId s h

/-- The subscriber of a view is registered, and told what its element holds. -/
theorem register_crew {id : Nat} {watch : Watch Observed Host} (hcrew : w.scene.crew id watch)
    (m : Moment) (rest : List (Command Observed Host)) :
    (m.register id watch rest).sight w = (m.sight w).heed (m.held? w) ∧
      ∃ u ∈ (m.register id watch rest).engine.store.subscribers,
        w.scene.crew u.id u.watch ∧ u.told = some (.surface (m.held? w)) := by
  obtain ⟨rfl, rfl⟩ := hcrew
  obtain ⟨htold, hsight⟩ := notify_crew (w := w)
    (u := ⟨w.subscription, .element w.elementId w.place, none⟩) ⟨rfl, rfl⟩ m.session m.engine.host
  rw [if_neg (Option.some_ne_none _).symm] at hsight
  refine ⟨hsight, _, List.mem_append_right _ List.mem_cons_self, ?_, htold⟩
  exact ⟨Subscriber.register_id _ _ _ _, Subscriber.register_watch _ _ _ _⟩

/-- The next subscriber is told: it is not the one of the view. -/
theorem Awaits.tell (h : m.Awaits w) (htame : w.scene.IsTame m) {u : Subscriber Observed Host}
    {rest : List (Subscriber Observed Host)} (hwaiting : m.waiting = u :: rest) :
    (m.tell u rest).Awaits w := by
  have halone := h.alone
  rw [hwaiting] at halone
  have hu : ¬ w.scene.crew u.id u.watch := halone u List.mem_cons_self
  have hkeeps := (htame.waiting u (by rw [hwaiting]; exact List.mem_cons_self)).resolve_right hu
  refine ⟨h.joining, fun u' hu' => ?_,
    h.promises.of_eq (Subscriber.notify_keeps hkeeps m.session m.engine.host) rfl⟩
  rcases List.mem_append.mp hu' with hrest | htold
  · exact halone u' (List.mem_append_left _ (List.mem_cons_of_mem u hrest))
  · rcases mem_tell htold with hbefore | ⟨hid, hwatch⟩
    · exact halone u' (List.mem_append_right _ hbefore)
    · rw [hid, hwatch]
      exact hu

/-- Somebody else is registered. -/
theorem Awaits.register (h : m.Awaits w) (htame : w.scene.IsTame m) {id : Nat}
    {watch : Watch Observed Host} {rest : List (Command Observed Host)}
    (hinbox : m.engine.inbox = .subscribe id watch :: rest) (hother : ¬ w.scene.crew id watch) :
    (m.register id watch rest).Awaits w := by
  have hc := htame.inbox (.subscribe id watch) (by rw [hinbox]; exact List.mem_cons_self)
  have hkeeps := Subscriber.register_keeps (hc.resolve_right hother) id m.session m.engine.host
  have hjoining := h.joining
  rw [hinbox] at hjoining
  refine ⟨List.mem_of_ne_of_mem (fun heq => hother ?_) hjoining, fun u hu => ?_,
    h.promises.of_eq hkeeps rfl⟩
  · obtain ⟨rfl, rfl⟩ := Command.subscribe.inj heq
    exact ⟨rfl, rfl⟩
  · rcases List.mem_append.mp hu with hbefore | hafter
    · exact h.alone u (List.mem_append_left _ hbefore)
    · rcases mem_register hafter with hbefore | ⟨hid, hwatch⟩
      · exact h.alone u (List.mem_append_right _ hbefore)
      · rw [hid, hwatch]
        exact hother

/-- The subscriber of the view is registered: from now on the view follows its element. -/
theorem Awaits.joined (h : m.Awaits w) {id : Nat} {watch : Watch Observed Host}
    (hcrew : w.scene.crew id watch) (rest : List (Command Observed Host)) :
    (m.register id watch rest).Follows w (({} : InlineView).heed (m.held? w)) := by
  obtain ⟨hsight, hpresent⟩ := register_crew hcrew m rest
  refine ⟨⟨_, h.promises.heed hsight rfl, ?_, ?_, Or.inl (ViewTrail.view_heed _ _)⟩,
    Or.inr hpresent⟩
  · exact ViewTrail.IsHonest.heed (t := {}) (Or.inl rfl) _
  · rw [ViewTrail.view_heed]
    exact InlineView.heed_heed _ _

/-- **Nothing happens to a view until its subscriber is registered**; from then on it follows its
element. -/
theorem Awaits.goes (h : m.Awaits w) (htame : w.scene.IsTame m) (hgoes : w.scene.Goes m m') :
    (∃ new, m.Continues m' new ∧ m'.Awaits w) ∨
      m.Continues m' [] ∧ m'.Follows w (({} : InlineView).heed (m'.held? w)) := by
  cases hgoes with
  | aside hside =>
      refine Or.inl ⟨[], ⟨hside.session, hside.log⟩, hside.joining _ _ ⟨rfl, rfl⟩ h.joining,
        fun u hu => h.alone u ?_, h.promises.of_eq hside.view hside.atWork⟩
      rw [hside.waiting] at hu
      exact List.mem_append.mpr ((List.mem_append.mp hu).imp_right (hside.known u))
  | tell u rest hwaiting => exact Or.inl ⟨[], ⟨rfl, rfl⟩, h.tell htame hwaiting⟩
  | commit a rest hwaiting =>
      refine Or.inl ⟨[a], ⟨rfl, rfl⟩, h.joining, fun u hu => h.alone u ?_,
        h.promises.of_eq rfl rfl⟩
      exact List.mem_append_right _ ((List.append_nil m.engine.store.subscribers) ▸ hu)
  | register id watch rest hwaiting hinbox =>
      by_cases hcrew : w.scene.crew id watch
      · exact Or.inr ⟨⟨rfl, rfl⟩, h.joined hcrew rest⟩
      · exact Or.inl ⟨[], ⟨rfl, rfl⟩, h.register htame hinbox hcrew⟩
  | take work rest hidle hposted =>
      exact Or.inl ⟨[], ⟨rfl, rfl⟩, h.joining, h.alone, h.promises.take hidle hposted⟩
  | finish work s hbusy =>
      exact Or.inl ⟨[], ⟨rfl, rfl⟩, h.joining, h.alone, h.promises.finish hbusy⟩
  | call work hwork => exact Or.inl ⟨[], ⟨rfl, rfl⟩, h.joining, h.alone, h.promises.call hwork⟩

/-- Only the promise changes, and it stays the same. -/
theorem Follows.of_promises (h : m.Follows w v) (hsession : m'.session = m.session)
    (hwaiting : m'.waiting = m.waiting)
    (hstaying : ∀ u ∈ m.engine.store.subscribers, w.scene.crew u.id u.watch →
      u ∈ m'.engine.store.subscribers)
    (hpromises : ∀ t, m.Promises w t → m'.Promises w t) : m'.Follows w v := by
  have hheld : m'.held? w = m.held? w := by
    unfold held?
    rw [hsession]
  obtain ⟨⟨t, ht, hhonest, hview, howed⟩, hpresent⟩ := h
  rw [← hheld] at hview howed hpresent
  rw [← hwaiting] at howed hpresent
  exact ⟨⟨t, hpromises t ht, hhonest, hview, howed⟩,
    hpresent.imp_right fun ⟨u, hu, hcrew, htold⟩ => ⟨u, hstaying u hu hcrew, hcrew, htold⟩⟩

/-- The next subscriber is told. -/
theorem Follows.tell (h : m.Follows w v) (htame : w.scene.IsTame m) {u : Subscriber Observed Host}
    {rest : List (Subscriber Observed Host)} (hwaiting : m.waiting = u :: rest) :
    (m.tell u rest).Follows w v := by
  obtain ⟨⟨t, ht, hhonest, hview, howed⟩, hpresent⟩ := h
  rw [hwaiting] at howed hpresent
  by_cases hcrew : w.scene.crew u.id u.watch
  · obtain ⟨htold, hsight⟩ := notify_crew hcrew m.session m.engine.host
    have hpresent : ∃ u' ∈ (m.tell u rest).engine.store.subscribers,
        w.scene.crew u'.id u'.watch ∧ u'.told = some (.surface (m.held? w)) := by
      refine ⟨_, List.mem_append_right _ List.mem_cons_self, ?_, htold⟩
      rw [Subscriber.notify_id, Subscriber.notify_watch]
      exact hcrew
    refine ⟨?_, Or.inr hpresent⟩
    by_cases hknows : u.told = some (.surface (m.held? w))
    -- it has nothing new to tell, so it is not the one that owes the view something
    · refine ⟨t, ht.of_eq (hsight.trans (if_pos hknows)) rfl, hhonest, hview, howed.imp_right ?_⟩
      rintro ⟨u', hu', hown, hignorant⟩
      rcases List.mem_cons.mp hu' with rfl | hrest
      · exact absurd hknows hignorant
      · exact ⟨u', hrest, hown, hignorant⟩
    · refine ⟨_, ht.heed (hsight.trans (if_neg hknows)) rfl, hhonest.heed _, ?_, Or.inl ?_⟩
      · rw [ViewTrail.view_heed, ← hview]
        exact InlineView.heed_heed _ _
      · rw [ViewTrail.view_heed]
        exact hview
  · have hkeeps := (htame.waiting u (by rw [hwaiting]; exact List.mem_cons_self)).resolve_right hcrew
    have hothers : ∀ u' ∈ u :: rest, w.scene.crew u'.id u'.watch → u' ∈ rest := by
      intro u' hu' hown
      rcases List.mem_cons.mp hu' with rfl | hrest
      · exact absurd hown hcrew
      · exact hrest
    refine ⟨⟨t, ht.of_eq (Subscriber.notify_keeps hkeeps m.session m.engine.host) rfl, hhonest,
      hview, howed.imp_right ?_⟩, ?_⟩
    · exact fun ⟨u', hu', hown, hignorant⟩ => ⟨u', hothers u' hu' hown, hown, hignorant⟩
    · rcases hpresent with ⟨u', hu', hown⟩ | ⟨u', hu', hown, htold⟩
      · exact Or.inl ⟨u', hothers u' hu' hown, hown⟩
      · exact Or.inr ⟨u', List.mem_append_left _ hu', hown, htold⟩

/-- An action is committed: the view will be told of the new session. -/
theorem Follows.commit (h : m.Follows w v) (hwaiting : m.waiting = []) (a : Action)
    (rest : List (Deed Host)) :
    (m.commit a rest).Follows w (v.heed ((m.commit a rest).held? w)) := by
  obtain ⟨⟨t, ht, hhonest, hview, howed⟩, hpresent⟩ := h
  rw [hwaiting] at howed hpresent
  obtain ⟨u, hu, hcrew, htold⟩ := hpresent.resolve_left fun ⟨_, hnone, _⟩ =>
    absurd hnone List.not_mem_nil
  have ht' : t.view = v := howed.resolve_right fun ⟨_, hnone, _⟩ => absurd hnone List.not_mem_nil
  refine ⟨⟨t, ht.of_eq rfl rfl, hhonest, by rw [ht'], ?_⟩, Or.inl ⟨u, hu, hcrew⟩⟩
  by_cases hsame : (m.commit a rest).held? w = m.held? w
  · refine Or.inl ?_
    rw [hsame, ← hview, InlineView.heed_heed, hview]
    exact ht'
  · refine Or.inr ⟨u, hu, hcrew, fun hknows => hsame ?_⟩
    rw [htold] at hknows
    exact (Observed.surface.inj (Option.some.inj hknows)).symm

/-- A subscriber is registered. -/
theorem Follows.register (h : m.Follows w v) (htame : w.scene.IsTame m)
    {id : Nat} {watch : Watch Observed Host} {rest : List (Command Observed Host)}
    (hinbox : m.engine.inbox = .subscribe id watch :: rest) :
    (m.register id watch rest).Follows w v := by
  by_cases hcrew : w.scene.crew id watch
  · obtain ⟨hsight, hpresent⟩ := register_crew hcrew m rest
    obtain ⟨t, ht, hhonest, hview, -⟩ := h.promises
    refine ⟨⟨_, ht.heed hsight rfl, hhonest.heed _, ?_, Or.inl ?_⟩, Or.inr hpresent⟩
    · rw [ViewTrail.view_heed, ← hview]
      exact InlineView.heed_heed _ _
    · rw [ViewTrail.view_heed]
      exact hview
  · have hc := htame.inbox (.subscribe id watch) (by rw [hinbox]; exact List.mem_cons_self)
    have hkeeps := Subscriber.register_keeps (hc.resolve_right hcrew) id m.session m.engine.host
    exact h.of_promises rfl rfl (fun u hu _ => List.mem_append_left _ hu) fun t ht =>
      ht.of_eq hkeeps rfl

/-- **A view goes on following its element**, whatever happens. -/
theorem Follows.goes (h : m.Follows w v) (htame : w.scene.IsTame m) (hgoes : w.scene.Goes m m') :
    ∃ new, m.Continues m' new ∧
      m'.Follows w (Session.viewAlong w.elementId m.session v new) := by
  cases hgoes with
  | aside hside =>
      refine ⟨[], ⟨hside.session, hside.log⟩, h.of_promises hside.session hside.waiting ?_ ?_⟩
      · exact fun u hu hcrew => hside.staying u hu hcrew.1
      · exact fun t ht => ht.of_eq hside.view hside.atWork
  | tell u rest hwaiting => exact ⟨[], ⟨rfl, rfl⟩, h.tell htame hwaiting⟩
  | commit a rest hwaiting => exact ⟨[a], ⟨rfl, rfl⟩, h.commit hwaiting a rest⟩
  | register id watch rest hwaiting hinbox => exact ⟨[], ⟨rfl, rfl⟩, h.register htame hinbox⟩
  | take work rest hidle hposted =>
      exact ⟨[], ⟨rfl, rfl⟩, h.of_promises rfl rfl (fun _ hu _ => hu) fun t ht =>
        ht.take hidle hposted⟩
  | finish work s hbusy =>
      exact ⟨[], ⟨rfl, rfl⟩, h.of_promises rfl rfl (fun _ hu _ => hu) fun t ht => ht.finish hbusy⟩
  | call work hwork =>
      exact ⟨[], ⟨rfl, rfl⟩, h.of_promises rfl rfl (fun _ hu _ => hu) fun t ht => ht.call hwork⟩

/-! ## A view that is tied to an element -/

/-- A new view is tied to an element. -/
def attachInline (m : Moment) (elementId : String) : Moment :=
  m.onEngine fun e => (e.attachInline elementId).2

/-- The view that would be tied to an element next. -/
def nextInline (m : Moment) (elementId : String) : InlineSurface :=
  (m.engine.attachInline elementId).1

/-- A view can be tied to an element: nobody meddles with views, and nothing has to do with the place
of the new one yet. -/
structure CanAttach (m : Moment) (elementId : String) : Prop where
  tame : (m.nextInline elementId).scene.IsTame m
  alone : ∀ u ∈ m.waiting ++ m.engine.store.subscribers,
    ¬ (m.nextInline elementId).scene.crew u.id u.watch
  untold : m.engine.host.journal.filterMap (Event.viewCall? (m.nextInline elementId).place) = []
  unposted : (m.sight (m.nextInline elementId)).works = []
  idle : m.following? (m.nextInline elementId) = none

/-- Tying a view to an element sends one command. -/
theorem CanAttach.awaits {elementId : String} (h : m.CanAttach elementId) :
    let w := m.nextInline elementId
    let m' := m.attachInline elementId
    m.Continues m' [] ∧ w.scene.IsTame m' ∧ m'.Awaits w := by
  intro w m'
  have hattached : m' = { m with
      engine := { m.engine with
        inbox := m.engine.inbox ++ [.subscribe w.subscription (.element w.elementId w.place)]
        subscriptions := m.engine.subscriptions + 1
        store.host := { m.engine.host with
          views := m.engine.host.views ++ [({} : InlineView)] }.wake .store } } := by
    show m.onEngine _ = _
    unfold Moment.onEngine Engine.attachInline Engine.subscribe Engine.send
    dsimp only [Engine.onHost]
    rw [if_pos h.tame.running]
    rfl
  have hsight : m'.sight w = { m.sight w with trail? := some {} } := by
    rw [hattached]
    refine (Host.sight_wake .store _).trans ?_
    have hplace : (m.engine.host.views ++ [({} : InlineView)])[w.place]? = some {} :=
      List.getElem?_concat_length
    unfold Moment.sight Host.sight
    dsimp only
    rw [h.untold, hplace]
    rfl
  have hfollowing : m'.following? w = none := by
    rw [hattached]
    exact h.idle
  have hpromises : m'.Promises w {} := by
    refine ⟨fun _ => ⟨hfollowing, ?_⟩, ?_⟩
    · rw [hsight]
      exact h.unposted
    · have hworks : (m.sight w).works = [] := h.unposted
      rw [hsight, hfollowing]
      unfold Sight.prospect?
      rw [hworks]
      rfl
  rw [hattached] at hpromises ⊢
  have hallowed : w.scene.Allows (.subscribe w.subscription (.element w.elementId w.place)) :=
    Or.inr ⟨rfl, rfl⟩
  refine ⟨⟨rfl, rfl⟩, ⟨h.tame.running, h.tame.stages, ?_, h.tame.agenda, h.tame.waiting,
    h.tame.subscribers⟩, ⟨List.mem_append_right _ List.mem_cons_self, h.alone, hpromises⟩⟩
  exact List.forall_mem_append.mpr ⟨h.tame.inbox, List.forall_mem_singleton.mpr hallowed⟩

/-- A view was tied to an element at a moment.  By now its subscriber is yet to be registered, or it
was registered in one of the sessions since, and the view follows its element. -/
def FollowsSince (m : Moment) (w : InlineSurface) (m' : Moment) : Prop :=
  (∃ new, m.Continues m' new ∧ m'.Awaits w) ∨
    ∃ before later, m.Continues m' (before ++ later) ∧
      m'.Follows w ((m.session.reduceAll before).viewSince w.elementId later)

/-- **Whatever happens, the view follows its element** from the session on in which its subscriber
was registered. -/
theorem CanAttach.run {elementId : String} (h : m.CanAttach elementId) {moves : List Move}
    (hfits : (m.nextInline elementId).scene.FitAll (m.attachInline elementId) moves) :
    m.FollowsSince (m.nextInline elementId) ((m.attachInline elementId).run moves) := by
  obtain ⟨hbegun, htame, hawaits⟩ := h.awaits
  have hstart : m.FollowsSince (m.nextInline elementId) (m.attachInline elementId) :=
    Or.inl ⟨[], hbegun, hawaits⟩
  refine (htame.run ?_ hstart hfits).2
  rintro n n' htame hgoes (⟨new, hnew, hawaits⟩ | ⟨before, later, hnew, hfollows⟩)
  · rcases hawaits.goes htame hgoes with ⟨more, hmore, hawaits⟩ | ⟨hsame, hfollows⟩
    · exact Or.inl ⟨new ++ more, hnew.trans hmore, hawaits⟩
    · have hnow : m.Continues n' (new ++ []) := hnew.trans hsame
      rw [held?, hnow.session, List.append_nil] at hfollows
      exact Or.inr ⟨new, [], hnow, hfollows⟩
  · obtain ⟨more, hmore, hfollows⟩ := hfollows.goes htame hgoes
    refine Or.inr ⟨before, later ++ more, ?_, ?_⟩
    · rw [← List.append_assoc]
      exact hnew.trans hmore
    · rw [hnew.session, Session.reduceAll_append] at hfollows
      rw [Session.viewSince_append]
      exact hfollows

/-! ## At rest -/

/-- What a view was told so far. -/
def viewCalls (m : Moment) (place : Nat) : List ViewCall :=
  (m.engine.host.journal.filterMap (Event.viewCall? place)).reverse

/-- A view shows a message, or nothing, and was told so last. -/
structure Shows (m : Moment) (w : InlineSurface) (shown? : Option Message) : Prop where
  attached : m.engine.attached? w = shown?
  told : ViewCall.EndWith (m.viewCalls w.place) shown?

/-- A view at rest that follows its element shows what comes of that. -/
theorem Follows.shows (h : m.Follows w v) (hquiet : m.IsQuiet) : m.Shows w v.attached := by
  obtain ⟨-, -, hwaiting, hposted, hidle⟩ := hquiet
  obtain ⟨t, ht, hhonest, -, howed⟩ := h.promises
  have hview : t.view = v := howed.resolve_right fun ⟨_, hu, _⟩ => by
    rw [hwaiting] at hu
    exact List.not_mem_nil hu
  have htrail := ht.at_rest hidle hposted
  obtain ⟨view, hplace, rfl⟩ := Option.map_eq_some_iff.mp htrail
  obtain rfl : view = v := hview
  refine ⟨?_, hhonest⟩
  unfold Engine.attached?
  rw [hplace]
  rfl

/-- What a view at rest shows; `s` is the session in which its subscriber was registered, and `later`
are the commits since. -/
structure InlineOutcome (m : Moment) (w : InlineSurface) (s : Session) (later : List Action) :
    Prop where
  /-- It shows what comes of following its element through all sessions. -/
  follows : m.Shows w (s.viewSince w.elementId later).attached
  /-- That is what it should show, in all of them, exactly if no commit parts it from its
  element. -/
  agrees : (∀ part, part <+: later →
      (s.viewSince w.elementId part).attached = (s.reduceAll part).shownAt? w.elementId) ↔
    s.Along (fun s a => ¬ s.Parts w.elementId a) later
  /-- So it shows what it should unless a commit has parted them. -/
  unparted : s.Along (fun s a => ¬ s.Parts w.elementId a) later →
    m.Shows w (m.session.shownAt? w.elementId)
  /-- Anyway it shows a message that is ready, and none that was dismissed. -/
  settled : ∀ state, m.held? w = some state → state.isEmbedded = false → m.Shows w state.shown?

/-- **A view at rest shows what comes of following its element** since its subscriber was registered;
this is what it should show unless a commit has parted the two. -/
theorem inline_view_follows {elementId : String} (h : m.CanAttach elementId) {moves : List Move}
    (hfits : (m.nextInline elementId).scene.FitAll (m.attachInline elementId) moves) :
    let m' := (m.attachInline elementId).run moves
    m'.IsQuiet → ∃ before later, m.Continues m' (before ++ later) ∧
      m'.InlineOutcome (m.nextInline elementId) (m.session.reduceAll before) later := by
  intro m' hquiet
  rcases h.run hfits with ⟨_, _, hawaits⟩ | ⟨before, later, hnew, hfollows⟩
  · have hjoining := hawaits.joining
    rw [show ((m.attachInline elementId).run moves).engine.inbox = [] from hquiet.1] at hjoining
    exact absurd hjoining List.not_mem_nil
  · have hshows := hfollows.shows hquiet
    have hsession : m'.session = (m.session.reduceAll before).reduceAll later := by
      rw [← Session.reduceAll_append]
      exact hnew.session
    refine ⟨before, later, hnew, hshows, Session.viewSince_iff _ _ _, fun halong => ?_, ?_⟩
    · have hagrees := (Session.viewSince_iff _ _ later).mpr halong later List.prefix_rfl
      rw [hsession, ← hagrees]
      exact hshows
    · intro state hheld hstate
      have hfound : ((m.session.reduceAll before).reduceAll later).inline.find? elementId =
          some state := hsession ▸ hheld
      rw [← Session.attached_viewSince _ hfound hstate]
      exact hshows

/-- A tip for the element on the left. -/
def leftTip : Message :=
  { id := "tip", queueId := some "t", delivery := { elementId := some "left" } }

/-- A user is named and the tip is queued; once it is on screen the session is reset. -/
def forgettingMoves : List Move :=
  [.dispatch (.setUser "ada"), .dispatch (.processQueue [leftTip])] ++
    List.replicate 20 .store ++ List.replicate 2 .poster ++ [.dispatch (.reset "next")] ++
      List.replicate 10 .store

/-- **A reset leaves the view as it is**: it goes on showing the tip although its element has nothing
to show any more. -/
theorem inline_view_follows_reset :
    let m : Moment := { engine := quietEngine }
    let m' := (m.attachInline "left").run forgettingMoves
    (∃ before later, m.Continues m' (before ++ later) ∧
        m'.InlineOutcome (m.nextInline "left") (m.session.reduceAll before) later) ∧
      m'.IsQuiet ∧ m'.session.shownAt? "left" = none ∧
        m'.engine.attached? (m.nextInline "left") = some leftTip ∧
          m'.viewCalls (m.nextInline "left").place = [.embed leftTip] := by
  intro m m'
  have hattach : m.CanAttach "left" :=
    ⟨⟨rfl, Pipeline.standard_keeps_sight _, fun _ hc => absurd hc List.not_mem_nil,
      fun _ hd => absurd hd List.not_mem_nil, fun _ hu => absurd hu List.not_mem_nil,
      fun _ hu => absurd hu List.not_mem_nil⟩, fun _ hu => absurd hu List.not_mem_nil, rfl, rfl, rfl⟩
  have hfits : (m.nextInline "left").scene.FitAll (m.attachInline "left") forgettingMoves := by
    refine Scene.fitAll_of_forall _ (fun move hmove _ => ?_) _
    simp only [forgettingMoves, List.mem_append, List.mem_cons, List.mem_replicate,
      List.not_mem_nil, or_false] at hmove
    rcases hmove with ((((rfl | rfl) | ⟨-, rfl⟩) | ⟨-, rfl⟩) | rfl) | ⟨-, rfl⟩
    all_goals trivial
  have hquiet : m'.IsQuiet := by decide +kernel
  exact ⟨inline_view_follows hattach hfits hquiet, hquiet, by decide +kernel, by decide +kernel,
    by decide +kernel⟩

end Moment

end InAppMessaging
