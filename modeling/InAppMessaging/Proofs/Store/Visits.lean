import InAppMessaging.Proofs.Store.Deeds

/-!
# Where every action meets the pipeline

An action may be dispatched by a stage that is handling another one, which was dispatched in
its turn.  A *visit* is one such action as it enters the first stage, with the session it meets
and the levels of dispatches it has left.  `visits` lists those of an action from outside and
of everything that is dispatched on its behalf, in the order in which they begin.

* `visits_within` — **the deeds of a visit are a stretch of all deeds**, and the session it
  meets is the one the deeds before it left behind;
* `visits_sends` — what stages only pass on to their dispatches holds of every visit;
* `visits_rank_le` — where dispatches go down in some rank, so does every visit.
-/

namespace InAppMessaging

variable {V H : Type}

/-! ## Commits -/

/-- The action a deed commits. -/
def Deed.commit? : Deed H → Option Action
  | .commit a => some a
  | _ => none

/-- The actions that deeds commit. -/
def commits (ds : List (Deed H)) : List Action := ds.filterMap Deed.commit?

theorem commits_append (ds es : List (Deed H)) : commits (ds ++ es) = commits ds ++ commits es :=
  List.filterMap_append

/-- What is committed is committed by a deed. -/
theorem mem_commits {ds : List (Deed H)} {a : Action} : a ∈ commits ds ↔ .commit a ∈ ds := by
  constructor
  · intro ha
    obtain ⟨d, hd, hcommit⟩ := List.mem_filterMap.mp ha
    cases d with
    | commit b =>
        obtain rfl := Option.some.inj hcommit
        exact hd
    | act effect => exact nomatch hcommit
    | failed => exact nomatch hcommit
  · exact fun hd => List.mem_filterMap.mpr ⟨.commit a, hd, rfl⟩

/-- The session changes by what is committed, and by nothing else. -/
theorem Session.afterDeeds_eq (s : Session) (ds : List (Deed H)) :
    s.afterDeeds ds = s.reduceAll (commits ds) := by
  induction ds generalizing s with
  | nil => rfl
  | cons d ds ih =>
      cases d with
      | commit a => exact ih (s.reduce a)
      | act effect => exact ih s
      | failed => exact ih s

/-- What deeds commit is added to the log of commits. -/
theorem Runner.performAll_committed (r : Runner V H) (ds : List (Deed H)) :
    (r.performAll ds).committed.reverse = r.committed.reverse ++ commits ds := by
  induction ds generalizing r with
  | nil => exact (List.append_nil _).symm
  | cons d ds ih =>
      rw [performAll_cons, ih]
      cases d with
      | commit a =>
          show (a :: r.committed).reverse ++ commits ds = _
          rw [List.reverse_cons, List.append_assoc]
          rfl
      | act effect => rfl
      | failed => rfl

/-! ## Stretches of deeds -/

/-- Some deeds are a stretch of others that start from a session, and start from the session
reached there. -/
def Within (s : Session) (ds : List (Deed H)) (s' : Session) (es : List (Deed H)) : Prop :=
  ∃ before after, ds = before ++ es ++ after ∧ s' = s.afterDeeds before

namespace Within

variable {s s' s'' : Session} {ds es fs : List (Deed H)}

theorem refl (s : Session) (ds : List (Deed H)) : Within s ds s ds :=
  ⟨[], [], (List.append_nil ds).symm, rfl⟩

theorem trans (h : Within s ds s' es) (h' : Within s' es s'' fs) : Within s ds s'' fs := by
  obtain ⟨before, after, rfl, rfl⟩ := h
  obtain ⟨early, late, rfl, rfl⟩ := h'
  refine ⟨before ++ early, late ++ after, ?_, (s.afterDeeds_append before early).symm⟩
  simp only [List.append_assoc]

theorem append_right (h : Within s ds s' es) (later : List (Deed H)) :
    Within s (ds ++ later) s' es := by
  obtain ⟨before, after, rfl, hsession⟩ := h
  exact ⟨before, after ++ later, List.append_assoc _ _ _, hsession⟩

theorem append_left (earlier : List (Deed H)) (h : Within (s.afterDeeds earlier) ds s' es) :
    Within s (earlier ++ ds) s' es := by
  obtain ⟨before, after, rfl, rfl⟩ := h
  refine ⟨earlier ++ before, after, ?_, (s.afterDeeds_append earlier before).symm⟩
  simp only [List.append_assoc]

end Within

/-! ## Dispatches -/

/-- An action that is dispatched, with the session it meets. -/
abbrev Dispatched := Action × Session

/-- What a program dispatches, given the deeds of dispatching and of forwarding and what is
dispatched on behalf of what is forwarded. -/
def Program.dispatches (dispatch forward : Action → Session → List (Deed H))
    (behind : Action → Session → List Dispatched) : Program H → Session → List Dispatched
  | .done, _ => []
  | .fail _, _ => []
  | .read next, s => dispatches dispatch forward behind (next s) s
  | .act _ next, s => dispatches dispatch forward behind next s
  | .dispatch a next, s =>
      (a, s) :: dispatches dispatch forward behind next (s.afterDeeds (dispatch a s))
  | .forward a next, s =>
      behind a s ++ dispatches dispatch forward behind next (s.afterDeeds (forward a s))

/-- What is dispatched after a stage failed: the report, unless it was handling one. -/
def failureDispatches (stage : String) (a : Action) (s : Session) :
    Option (List String) → List Dispatched
  | none => []
  | some causes =>
      if a.isErrorReport then [] else [(.reportError (stage ++ ": " ++ failureText causes), s)]

variable [ErrorLog H]

/-- What is dispatched while an action is on its way through stages. -/
def dispatchesThrough (dispatch : Action → Session → List (Deed H)) :
    List (Stage H) → Action → Session → List Dispatched
  | [], _, _ => []
  | stage :: rest, a, s =>
      let own := (stage.handle a).deeds dispatch (deedsThrough dispatch rest) s
      (stage.handle a).dispatches dispatch (deedsThrough dispatch rest)
          (dispatchesThrough dispatch rest) s ++
        failureDispatches stage.name a (s.afterDeeds own.1) own.2

section Dispatches

variable {dispatch forward : Action → Session → List (Deed H)}
  {behind : Action → Session → List Dispatched}

omit [ErrorLog H] in
/-- The deeds of what a program dispatches are among its own. -/
theorem Program.dispatches_within
    (hbehind : ∀ a s, ∀ c ∈ behind a s, Within s (forward a s) c.2 (dispatch c.1 c.2))
    (p : Program H) (s : Session) :
    ∀ c ∈ p.dispatches dispatch forward behind s,
      Within s (p.deeds dispatch forward s).1 c.2 (dispatch c.1 c.2) := by
  induction p generalizing s with
  | done => exact fun c hc => absurd hc List.not_mem_nil
  | fail causes => exact fun c hc => absurd hc List.not_mem_nil
  | read next ih => exact ih s s
  | act effect next ih =>
      intro c hc
      have hlater := ih s c hc
      exact hlater.append_left [.act effect]
  | dispatch a next ih =>
      intro c hc
      rcases List.mem_cons.mp hc with rfl | hc
      · exact (Within.refl s (dispatch a s)).append_right _
      · exact (ih _ c hc).append_left _
  | forward a next ih =>
      intro c hc
      rcases List.mem_append.mp hc with hc | hc
      · exact (hbehind a s c hc).append_right _
      · exact (ih _ c hc).append_left _

/-- The deeds of reporting a failure are among those that follow it. -/
theorem failureDispatches_within (stage : String) (a : Action) (s : Session)
    (causes : Option (List String)) :
    ∀ c ∈ failureDispatches stage a s causes,
      Within s (failureDeeds dispatch stage a s causes) c.2 (dispatch c.1 c.2) := by
  intro c hc
  cases causes with
  | none => exact absurd hc List.not_mem_nil
  | some causes =>
      unfold failureDispatches at hc
      unfold failureDeeds
      cases hreport : a.isErrorReport with
      | true =>
          simp only [hreport, if_true] at hc
          exact absurd hc List.not_mem_nil
      | false =>
          simp only [hreport] at hc ⊢
          obtain rfl := List.mem_singleton.mp hc
          exact (Within.refl _ _).append_left [.failed]

/-- The deeds of what is dispatched on an action's way are among the deeds of the way. -/
theorem dispatchesThrough_within (stages : List (Stage H)) (a : Action) (s : Session) :
    ∀ c ∈ dispatchesThrough dispatch stages a s,
      Within s (deedsThrough dispatch stages a s) c.2 (dispatch c.1 c.2) := by
  induction stages generalizing a s with
  | nil => exact fun c hc => absurd hc List.not_mem_nil
  | cons stage rest ih =>
      intro c hc
      rcases List.mem_append.mp hc with hc | hc
      · exact ((stage.handle a).dispatches_within ih s c hc).append_right _
      · exact (failureDispatches_within stage.name a _ _ c hc).append_left _

end Dispatches

/-! ## Visits -/

/-- An action as it enters the first stage. -/
structure Visit where
  levels : Nat
  action : Action
  session : Session

/-- An action's visit and those of all that is dispatched on its behalf. -/
def visits (stages : List (Stage H)) : Nat → Action → Session → List Visit
  | 0, a, s => [⟨0, a, s⟩]
  | levels + 1, a, s =>
      ⟨levels + 1, a, s⟩ ::
        (dispatchesThrough (deeds stages levels) stages a s).flatMap fun c =>
          visits stages levels c.1 c.2

/-- An action's own visit comes first. -/
theorem mem_visits_self (stages : List (Stage H)) (levels : Nat) (a : Action) (s : Session) :
    ⟨levels, a, s⟩ ∈ visits stages levels a s := by
  cases levels <;> exact List.mem_cons_self

/-- The deeds of a visit. -/
def Visit.deeds (stages : List (Stage H)) (v : Visit) : List (Deed H) :=
  InAppMessaging.deeds stages v.levels v.action v.session

/-- The visits of what is dispatched on behalf of a visit. -/
def Visit.nested (stages : List (Stage H)) (v : Visit) : List Visit :=
  (visits stages v.levels v.action v.session).tail

/-- **The deeds of a visit are a stretch of all deeds.** -/
theorem visits_within (stages : List (Stage H)) (levels : Nat) (a : Action) (s : Session) :
    ∀ v ∈ visits stages levels a s,
      Within s (deeds stages levels a s) v.session (v.deeds stages) := by
  induction levels generalizing a s with
  | zero =>
      intro v hv
      obtain rfl := List.mem_singleton.mp hv
      exact Within.refl s _
  | succ levels ih =>
      intro v hv
      rcases List.mem_cons.mp hv with rfl | hv
      · exact Within.refl s _
      · obtain ⟨c, hc, hv⟩ := List.mem_flatMap.mp hv
        exact (dispatchesThrough_within stages a s c hc).trans (ih c.1 c.2 v hv)

/-! ## Dispatches that go down -/

/-- Whatever a program reads, it dispatches and forwards actions with given properties only,
and a report of its failure would have the property of what is dispatched. -/
def Program.Sends (dispatched forwarded : Action → Prop) : Program H → Prop
  | .done => True
  | .fail _ => ∀ text, dispatched (.reportError text)
  | .read next => ∀ s, (next s).Sends dispatched forwarded
  | .act _ next => next.Sends dispatched forwarded
  | .dispatch a next => dispatched a ∧ next.Sends dispatched forwarded
  | .forward a next => forwarded a ∧ next.Sends dispatched forwarded

section Descent

variable {dispatch : Action → Session → List (Deed H)}
  {behind : Action → Session → List Dispatched} {dispatched forwarded : Action → Prop}

omit [ErrorLog H] in
/-- What a program dispatches has the property, and so has the report of its failure. -/
theorem Program.Sends.dispatches (dispatch forward : Action → Session → List (Deed H))
    {p : Program H} (hp : p.Sends dispatched forwarded)
    (hbehind : ∀ a s, forwarded a → ∀ c ∈ behind a s, dispatched c.1) (s : Session) :
    (∀ c ∈ p.dispatches dispatch forward behind s, dispatched c.1) ∧
      ∀ causes, (p.deeds dispatch forward s).2 = some causes →
        ∀ text, dispatched (.reportError text) := by
  induction p generalizing s with
  | done => exact ⟨fun c hc => absurd hc List.not_mem_nil, nofun⟩
  | fail causes => exact ⟨fun c hc => absurd hc List.not_mem_nil, fun _ _ => hp⟩
  | read next ih => exact ih s (hp s) s
  | act effect next ih => exact ih hp s
  | dispatch a next ih =>
      obtain ⟨hlater, hfail⟩ := ih hp.2 (s.afterDeeds (dispatch a s))
      exact ⟨List.forall_mem_cons.mpr ⟨hp.1, hlater⟩, hfail⟩
  | forward a next ih =>
      obtain ⟨hlater, hfail⟩ := ih hp.2 (s.afterDeeds (forward a s))
      exact ⟨List.forall_mem_append.mpr ⟨hbehind a s hp.1, hlater⟩, hfail⟩

omit [ErrorLog H] in
/-- Properties may be weakened. -/
theorem Program.Sends.mono {dispatched' forwarded' : Action → Prop} {p : Program H}
    (hp : p.Sends dispatched forwarded) (hdispatched : ∀ a, dispatched a → dispatched' a)
    (hforwarded : ∀ a, forwarded a → forwarded' a) : p.Sends dispatched' forwarded' := by
  induction p with
  | done => trivial
  | fail causes => exact fun text => hdispatched _ (hp text)
  | read next ih => exact fun s => ih s (hp s)
  | act effect next ih => exact ih hp
  | dispatch a next ih => exact ⟨hdispatched a hp.1, ih hp.2⟩
  | forward a next ih => exact ⟨hforwarded a hp.1, ih hp.2⟩

/-- What is dispatched from one stage on has the property, if the stage sees to it at the
session it reads and the stages behind it see to it too. -/
theorem dispatchesThrough_stage {stage : Stage H} {rest : List (Stage H)} {a : Action}
    {s : Session} {p : Program H} (hp : p.Sends dispatched forwarded)
    (hdeeds : (stage.handle a).deeds dispatch (deedsThrough dispatch rest) s =
      p.deeds dispatch (deedsThrough dispatch rest) s)
    (hdispatches : (stage.handle a).dispatches dispatch (deedsThrough dispatch rest)
        (dispatchesThrough dispatch rest) s =
      p.dispatches dispatch (deedsThrough dispatch rest) (dispatchesThrough dispatch rest) s)
    (hrest : ∀ a s, forwarded a → ∀ c ∈ dispatchesThrough dispatch rest a s, dispatched c.1) :
    ∀ c ∈ dispatchesThrough dispatch (stage :: rest) a s, dispatched c.1 := by
  obtain ⟨hown, hfail⟩ := hp.dispatches dispatch (deedsThrough dispatch rest) hrest s
  unfold dispatchesThrough
  rw [hdeeds, hdispatches]
  refine List.forall_mem_append.mpr ⟨hown, ?_⟩
  cases hcauses : (p.deeds dispatch (deedsThrough dispatch rest) s).2 with
  | none => exact fun c hc => absurd hc List.not_mem_nil
  | some causes =>
      intro c hc
      unfold failureDispatches at hc
      by_cases hreport : a.isErrorReport = true
      · simp only [hreport, if_true] at hc
        exact absurd hc List.not_mem_nil
      · simp only [hreport] at hc
        obtain rfl := List.mem_singleton.mp hc
        exact hfail causes hcauses _

/-- What is dispatched on an action's way has the property, if every stage sees to it. -/
theorem dispatchesThrough_sends {stages : List (Stage H)}
    (hstages : ∀ stage ∈ stages, ∀ a, forwarded a →
      (stage.handle a).Sends dispatched forwarded)
    (a : Action) (ha : forwarded a) (s : Session) :
    ∀ c ∈ dispatchesThrough dispatch stages a s, dispatched c.1 := by
  induction stages generalizing a s with
  | nil => exact fun c hc => absurd hc List.not_mem_nil
  | cons stage rest ih =>
      obtain ⟨hstage, hrest⟩ := List.forall_mem_cons.mp hstages
      exact dispatchesThrough_stage (hstage a ha) rfl rfl fun a s ha => ih hrest a ha s

/-- What is dispatched on behalf of an action has a property that stages pass on. -/
theorem visits_sends {stages : List (Stage H)}
    (hstages : ∀ stage ∈ stages, ∀ a, dispatched a → (stage.handle a).Sends dispatched dispatched)
    (levels : Nat) (a : Action) (s : Session) (ha : dispatched a) :
    ∀ v ∈ visits stages levels a s, dispatched v.action := by
  induction levels generalizing a s with
  | zero =>
      intro v hv
      obtain rfl := List.mem_singleton.mp hv
      exact ha
  | succ levels ih =>
      intro v hv
      rcases List.mem_cons.mp hv with rfl | hv
      · exact ha
      · obtain ⟨c, hc, hv⟩ := List.mem_flatMap.mp hv
        exact ih c.1 c.2 (dispatchesThrough_sends hstages a ha s c hc) v hv

/-- **Where dispatches go down in a rank, every visit has the levels left that its rank lost.** -/
theorem visits_rank_le (stages : List (Stage H)) (rank : Action → Session → Nat)
    (hdown : ∀ levels a s, ∀ c ∈ dispatchesThrough (deeds stages levels) stages a s,
      rank c.1 c.2 < rank a s)
    (levels : Nat) (a : Action) (s : Session) :
    ∀ v ∈ visits stages levels a s, levels + rank v.action v.session ≤ v.levels + rank a s := by
  induction levels generalizing a s with
  | zero =>
      intro v hv
      obtain rfl := List.mem_singleton.mp hv
      exact Nat.le_refl _
  | succ levels ih =>
      intro v hv
      rcases List.mem_cons.mp hv with rfl | hv
      · exact Nat.le_refl _
      · obtain ⟨c, hc, hv⟩ := List.mem_flatMap.mp hv
        have hbelow := ih c.1 c.2 v hv
        have hstep := hdown levels a s c hc
        omega

end Descent

end InAppMessaging
