import InAppMessaging.Proofs.Store.Deeds
import InAppMessaging.Store.Command

/-!
# What subscribers and stages leave alone

A subscriber may do anything to the host when it is told, and so may a stage when it acts.  A
view of the host that none of the subscribers changes (`Watch.Keeps`) changes with the deeds of
the pipeline alone, and one that no stage changes (`Stage.Keeps`) is kept by every deed.

* `Subscriber.notifyAll_keeps` — telling subscribers that keep a view;
* `Runner.commit_keeps` — a commit leaves such a view, and its subscribers keep it still;
* `deeds_respect`, `deeds_keep` — the deeds of stages that respect a relation between hosts, or
  keep a view;
* `Runner.performAll_respects`, `Runner.performAll_keeps` — performing them respects it too.
-/

namespace InAppMessaging

variable {V H α : Type}

/-- A subscriber changes nothing about a view of the host, whatever it is told. -/
def Watch.Keeps (view : H → α) : Watch V H → Prop
  | .session tell => ∀ s h, view (tell s h) = view h
  | .attribute _ _ tell => ∀ last value s h, view (tell last value s h) = view h

/-- All subscribers of a runner keep a view of the host. -/
def Runner.Keeps (view : H → α) (r : Runner V H) : Prop :=
  ∀ u ∈ r.subscribers, u.watch.Keeps view

/-- Whoever keeps a view keeps what it determines. -/
theorem Watch.Keeps.mono {β : Type} {view : H → α} {part : H → β} {watch : Watch V H}
    (hpart : ∀ h h', view h' = view h → part h' = part h) (h : watch.Keeps view) :
    watch.Keeps part := by
  cases watch with
  | session tell => exact fun s host => hpart _ _ (h s host)
  | «attribute» select same tell =>
      exact fun last value s host => hpart _ _ (h last value s host)

theorem Runner.Keeps.mono {β : Type} {view : H → α} {part : H → β} {r : Runner V H}
    (hpart : ∀ h h', view h' = view h → part h' = part h) (h : r.Keeps view) :
    r.Keeps part :=
  fun u hu => (h u hu).mono hpart

namespace Subscriber

variable {view : H → α}

/-- Being told leaves a subscriber's watch alone. -/
theorem notify_watch (u : Subscriber V H) (s : Session) (host : H) :
    (u.notify s host).1.watch = u.watch := by
  unfold notify
  split
  · rfl
  · split <;> rfl

/-- A subscriber that is told what differs is told a value, unless it was told the same last. -/
theorem notify_distinct [DecidableEq V] {u : Subscriber V H} {select : Session → V}
    {tell : Option V → V → Session → H → H}
    (hu : u.watch = .attribute select (fun a b => a = b) tell) (s : Session) (host : H) :
    u.notify s host =
      if u.told = some (select s) then (u, host)
      else ({ u with told := some (select s) }, tell u.told (select s) s host) := by
  have hsame : (u.told.any fun last => decide (last = select s)) =
      decide (u.told = some (select s)) := by
    cases u.told with
    | none => rfl
    | some last => exact decide_eq_decide.mpr Option.some_inj.symm
  unfold notify
  rw [hu]
  dsimp only
  rw [hsame]
  simp only [decide_eq_true_eq]

/-- Whoever is told what differs knows it then. -/
theorem told_notify_distinct [DecidableEq V] {u : Subscriber V H} {select : Session → V}
    {tell : Option V → V → Session → H → H}
    (hu : u.watch = .attribute select (fun a b => a = b) tell) (s : Session) (host : H) :
    (u.notify s host).1.told = some (select s) := by
  rw [notify_distinct hu]
  split
  · next htold => exact htold
  · rfl

/-- Telling one subscriber that keeps a view. -/
theorem notify_keeps {u : Subscriber V H} (h : u.watch.Keeps view) (s : Session) (host : H) :
    view (u.notify s host).2 = view host := by
  unfold notify
  match hwatch : u.watch with
  | .session tell =>
      rw [hwatch] at h
      exact h s host
  | .attribute select same tell =>
      rw [hwatch] at h
      dsimp only
      split
      · rfl
      · exact h u.told (select s) s host

/-- Telling keeps the watches and their order. -/
theorem notifyAll_watches (us : List (Subscriber V H)) (s : Session) (host : H) :
    (notifyAll us s host).1.map (·.watch) = us.map (·.watch) := by
  induction us generalizing host with
  | nil => rfl
  | cons u rest ih =>
      simp only [notifyAll, List.map_cons, notify_watch, ih]

/-- **Telling subscribers that keep a view leaves it alone.** -/
theorem notifyAll_keeps {us : List (Subscriber V H)} (h : ∀ u ∈ us, u.watch.Keeps view)
    (s : Session) (host : H) : view (notifyAll us s host).2 = view host := by
  induction us generalizing host with
  | nil => rfl
  | cons u rest ih =>
      obtain ⟨hu, hrest⟩ := List.forall_mem_cons.mp h
      show view (notifyAll rest s (u.notify s host).2).2 = view host
      rw [ih hrest, notify_keeps hu]

/-- Registering a subscriber gives it its id. -/
theorem register_id (id : Nat) (watch : Watch V H) (s : Session) (host : H) :
    (register id watch s host).1.id = id := by
  cases watch with
  | session tell => rfl
  | «attribute» select same tell => exact notify_id _ s host

/-- Registering a subscriber gives it its watch. -/
theorem register_watch (id : Nat) (watch : Watch V H) (s : Session) (host : H) :
    (register id watch s host).1.watch = watch := by
  cases watch with
  | session tell => rfl
  | «attribute» select same tell => exact notify_watch _ s host

/-- Registering a subscriber that keeps a view leaves it alone. -/
theorem register_keeps {watch : Watch V H} (h : watch.Keeps view) (id : Nat) (s : Session)
    (host : H) : view (register id watch s host).2 = view host := by
  cases watch with
  | session tell => rfl
  | «attribute» select same tell => exact notify_keeps h s host

end Subscriber

namespace Runner

variable {view : H → α} {r : Runner V H}

theorem commit_keeps (h : r.Keeps view) (a : Action) :
    view (r.commit a).host = view r.host :=
  Subscriber.notifyAll_keeps h _ r.host

/-- The subscribers keep it after a commit as well. -/
theorem keeps_commit (h : r.Keeps view) (a : Action) : (r.commit a).Keeps view := by
  have hwatches := Subscriber.notifyAll_watches r.subscribers (r.session.reduce a) r.host
  intro u hu
  have hmem : u.watch ∈ (r.commit a).subscribers.map (·.watch) := List.mem_map_of_mem hu
  have hsame : (r.commit a).subscribers.map (·.watch) = r.subscribers.map (·.watch) := hwatches
  rw [hsame] at hmem
  obtain ⟨old, hold, hwatch⟩ := List.mem_map.mp hmem
  rw [← hwatch]
  exact h old hold

end Runner

/-! ## Stages -/

/-- A deed by itself takes every host to a related one. -/
def Deed.Respects (R : H → H → Prop) : Deed H → Prop
  | .act effect => ∀ s h, R h (effect s h)
  | .commit _ => True
  | .failed => True

/-- A program by itself takes every host to related ones, whatever it reads. -/
def Program.Respects (R : H → H → Prop) : Program H → Prop
  | .done => True
  | .fail _ => True
  | .read next => ∀ s, (next s).Respects R
  | .act effect next => (∀ s h, R h (effect s h)) ∧ next.Respects R
  | .dispatch _ next => next.Respects R
  | .forward _ next => next.Respects R

/-- A stage by itself takes every host to related ones, whatever the action. -/
def Stage.Respects (R : H → H → Prop) (stage : Stage H) : Prop :=
  ∀ a, (stage.handle a).Respects R

section Stages

variable {R : H → H → Prop} {dispatch forward : Action → Session → List (Deed H)}

/-- The deeds of a program respect a relation, if those of dispatches and forwards do. -/
theorem Program.deeds_respect (hdispatch : ∀ a s, ∀ d ∈ dispatch a s, d.Respects R)
    (hforward : ∀ a s, ∀ d ∈ forward a s, d.Respects R) {p : Program H} (hp : p.Respects R)
    (s : Session) : ∀ d ∈ (p.deeds dispatch forward s).1, d.Respects R := by
  induction p generalizing s with
  | done => exact fun d hd => absurd hd List.not_mem_nil
  | fail causes => exact fun d hd => absurd hd List.not_mem_nil
  | read next ih => exact ih s (hp s) s
  | act effect next ih => exact List.forall_mem_cons.mpr ⟨hp.1, ih hp.2 s⟩
  | dispatch a next ih => exact List.forall_mem_append.mpr ⟨hdispatch a s, ih hp _⟩
  | forward a next ih => exact List.forall_mem_append.mpr ⟨hforward a s, ih hp _⟩

variable [ErrorLog H]

/-- The deeds that follow a failure respect what the error log and dispatches respect. -/
theorem failureDeeds_respect (hlog : ∀ text h, R h (ErrorLog.logError text h))
    (hdispatch : ∀ a s, ∀ d ∈ dispatch a s, d.Respects R) (stage : String) (a : Action)
    (s : Session) (causes : Option (List String)) :
    ∀ d ∈ failureDeeds dispatch stage a s causes, d.Respects R := by
  cases causes with
  | none => exact fun d hd => absurd hd List.not_mem_nil
  | some causes =>
      refine List.forall_mem_cons.mpr ⟨trivial, ?_⟩
      split
      · exact List.forall_mem_cons.mpr ⟨fun _ h => hlog _ h, fun d hd => absurd hd List.not_mem_nil⟩
      · exact hdispatch _ s

/-- The deeds of stages that respect a relation respect it, if dispatches do. -/
theorem deedsThrough_respect (hlog : ∀ text h, R h (ErrorLog.logError text h))
    (hdispatch : ∀ a s, ∀ d ∈ dispatch a s, d.Respects R) {stages : List (Stage H)}
    (hstages : ∀ stage ∈ stages, stage.Respects R) (a : Action) (s : Session) :
    ∀ d ∈ deedsThrough dispatch stages a s, d.Respects R := by
  induction stages generalizing a s with
  | nil => exact List.forall_mem_cons.mpr ⟨trivial, fun d hd => absurd hd List.not_mem_nil⟩
  | cons stage rest ih =>
      obtain ⟨hstage, hrest⟩ := List.forall_mem_cons.mp hstages
      exact List.forall_mem_append.mpr
        ⟨Program.deeds_respect hdispatch (fun a s => ih hrest a s) (hstage a) s,
          failureDeeds_respect hlog hdispatch stage.name a _ _⟩

/-- **The deeds of stages that respect a relation respect it.** -/
theorem deeds_respect (hlog : ∀ text h, R h (ErrorLog.logError text h))
    {stages : List (Stage H)} (hstages : ∀ stage ∈ stages, stage.Respects R) (levels : Nat)
    (a : Action) (s : Session) : ∀ d ∈ deeds stages levels a s, d.Respects R := by
  induction levels generalizing a s with
  | zero =>
      exact List.forall_mem_cons.mpr ⟨fun _ h => hlog _ h, fun d hd => absurd hd List.not_mem_nil⟩
  | succ levels ih => exact deedsThrough_respect hlog ih hstages a s

end Stages

/-! ## Keeping a view -/

/-- A deed changes nothing about a view of the host by itself. -/
def Deed.Keeps (view : H → α) : Deed H → Prop
  | .act effect => ∀ s h, view (effect s h) = view h
  | .commit _ => True
  | .failed => True

/-- A program changes nothing about a view of the host, whatever it reads. -/
def Program.Keeps (view : H → α) : Program H → Prop
  | .done => True
  | .fail _ => True
  | .read next => ∀ s, (next s).Keeps view
  | .act effect next => (∀ s h, view (effect s h) = view h) ∧ next.Keeps view
  | .dispatch _ next => next.Keeps view
  | .forward _ next => next.Keeps view

/-- A stage changes nothing about a view of the host, whatever the action. -/
def Stage.Keeps (view : H → α) (stage : Stage H) : Prop := ∀ a, (stage.handle a).Keeps view

/-- A program that keeps a view takes every host to those with the same view. -/
theorem Program.Keeps.respects {view : H → α} {p : Program H} (hp : p.Keeps view) :
    p.Respects fun h h' => view h' = view h := by
  induction p with
  | done => trivial
  | fail causes => trivial
  | read next ih => exact fun s => ih s (hp s)
  | act effect next ih => exact ⟨hp.1, ih hp.2⟩
  | dispatch a next ih => exact ih hp
  | forward a next ih => exact ih hp

/-- **The deeds of stages that keep a view keep it.** -/
theorem deeds_keep [ErrorLog H] {view : H → α}
    (hlog : ∀ text h, view (ErrorLog.logError text h) = view h)
    {stages : List (Stage H)} (hstages : ∀ stage ∈ stages, stage.Keeps view) (levels : Nat)
    (a : Action) (s : Session) : ∀ d ∈ deeds stages levels a s, d.Keeps view := by
  intro d hd
  have hrespect :=
    deeds_respect hlog (fun stage h a => (hstages stage h a).respects) levels a s d hd
  cases d with
  | act effect => exact hrespect
  | commit a => trivial
  | failed => trivial

/-! ## Performing -/

namespace Runner

variable {R : H → H → Prop} {view : H → α} {r : Runner V H}

/-- The subscribers keep a view after a deed as well. -/
theorem keeps_perform (h : r.Keeps view) (d : Deed H) : (r.perform d).Keeps view := by
  cases d with
  | commit a => exact keeps_commit h a
  | act effect => exact h
  | failed => exact h

/-- The subscribers keep a view after deeds as well. -/
theorem keeps_performAll (h : r.Keeps view) (ds : List (Deed H)) :
    (r.performAll ds).Keeps view := by
  induction ds generalizing r with
  | nil => exact h
  | cons d ds ih => exact ih (keeps_perform h d)

/-- **Performing deeds respects what the deeds and the subscribers respect.** -/
theorem performAll_respects (hkeeps : r.Keeps view) (hview : ∀ h h', view h' = view h → R h h')
    (htrans : ∀ h h' h'', R h h' → R h' h'' → R h h'') {ds : List (Deed H)}
    (hds : ∀ d ∈ ds, d.Respects R) : R r.host (r.performAll ds).host := by
  induction ds generalizing r with
  | nil => exact hview _ _ rfl
  | cons d ds ih =>
      obtain ⟨hd, hrest⟩ := List.forall_mem_cons.mp hds
      have hfirst : R r.host (r.perform d).host := by
        cases d with
        | commit a => exact hview _ _ (commit_keeps hkeeps a)
        | act effect => exact hd r.session r.host
        | failed => exact hview _ _ rfl
      exact htrans _ _ _ hfirst (ih (keeps_perform hkeeps d) hrest)

/-- **Performing deeds that keep a view leaves it alone**, if the subscribers keep it. -/
theorem performAll_keeps (hkeeps : r.Keeps view) {ds : List (Deed H)}
    (hds : ∀ d ∈ ds, d.Keeps view) : view (r.performAll ds).host = view r.host := by
  refine performAll_respects hkeeps (fun _ _ h => h) (fun _ _ _ h h' => h'.trans h) ?_
  intro d hd
  have hview := hds d hd
  cases d with
  | act effect => exact hview
  | commit a => trivial
  | failed => trivial

end Runner

end InAppMessaging
