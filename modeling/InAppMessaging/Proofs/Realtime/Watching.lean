import InAppMessaging.Proofs.Realtime.View

/-!
# Who watches for the channel

Each condition has a subscriber that posts news of it, unless it was told the same last.  A
subscriber that leaves the channel alone or is one of these is tame (`Watch.IsTame`): all it can
do to the channel is to have it hear some news.

* `Condition.notify_eq`, `Condition.watch_injective` — the subscribers of the conditions;
* `Subscriber.notify_tame`, `Subscriber.register_tame` — **what a tame subscriber posts** when it
  is told of a session, and when it is added.
-/

namespace InAppMessaging

namespace Condition

variable {x y : Condition} {u : Subscriber Observed Host}

/-- The two conditions are watched differently. -/
theorem watch_injective (h : x.watch = y.watch) : x = y := by
  have hne : Watch.realtimeFlag ≠ Watch.identification := by
    intro heq
    have hselect := congrFun (Watch.attribute.inj heq).1 { realtime := true }
    exact absurd hselect (by decide)
  cases x <;> cases y
  · rfl
  · exact absurd h hne
  · exact absurd h.symm hne
  · rfl

/-- A subscriber of a condition posts news of it, unless it was told the same last. -/
theorem notify_eq (hu : u.watch = x.watch) (s : Session) (h : Host) :
    u.notify s h =
      if u.told = some (.flag (x.holds s)) then (u, h)
      else ({ u with told := some (.flag (x.holds s)) }, h.post (x.work (x.holds s)) s) := by
  cases x <;> exact Subscriber.notify_distinct hu s h

/-- A subscriber of a condition that is told knows how it stands. -/
theorem told_notify (hu : u.watch = x.watch) (s : Session) (h : Host) :
    (u.notify s h).1.told = some (.flag (x.holds s)) := by
  cases x <;> exact Subscriber.told_notify_distinct hu s h

end Condition

/-- A subscriber leaves the channel alone, or is one of the channel's own. -/
def Watch.IsTame (watch : Watch Observed Host) : Prop :=
  watch.Keeps Host.channelView ∨ ∃ x : Condition, watch = x.watch

/-- The subscribers of an engine's own surfaces are tame. -/
theorem Watch.IsOwn.isTame {watch : Watch Observed Host} (h : watch.IsOwn) : watch.IsTame := by
  cases h with
  | condition x => exact Or.inr ⟨x, rfl⟩
  | modal m => exact Or.inl (stillShown_keeps m)
  | inline elementId place => exact Or.inl (element_keeps elementId place)

/-- **A subscriber that is told posts news at most**, and a condition it did not know of is
among the news. -/
theorem Subscriber.notify_tame {u : Subscriber Observed Host} (hu : u.watch.IsTame) (s : Session)
    {h : Host} (hlater : h.channelView.later = true) :
    ∃ works : List Work, (u.notify s h).2.channelView = h.channelView.await works ∧
      (∀ w ∈ works, ∃ (x : Condition) (b : Bool), w = x.work b) ∧
      ∀ x : Condition, u.watch = x.watch →
        u.told = some (.flag (x.holds s)) ∨ x.work (x.holds s) ∈ works := by
  -- a subscriber of the channel's own is no subscriber of the other condition
  by_cases hown : ∃ x : Condition, u.watch = x.watch
  · obtain ⟨x, hx⟩ := hown
    have hothers : ∀ y : Condition, u.watch = y.watch → y = x := fun y hy =>
      Condition.watch_injective (hy.symm.trans hx)
    rw [Condition.notify_eq hx]
    by_cases htold : u.told = some (.flag (x.holds s))
    · rw [if_pos htold]
      refine ⟨[], (ChannelView.await_nil _).symm, fun w hw => absurd hw List.not_mem_nil, ?_⟩
      intro y hy
      obtain rfl := hothers y hy
      exact Or.inl htold
    · rw [if_neg htold]
      refine ⟨[x.work (x.holds s)], Host.channelView_post hlater _ s, ?_, ?_⟩
      · intro w hw
        exact ⟨x, x.holds s, List.mem_singleton.mp hw⟩
      · intro y hy
        obtain rfl := hothers y hy
        exact Or.inr List.mem_cons_self
  · have hkeeps : u.watch.Keeps Host.channelView := hu.resolve_right hown
    refine ⟨[], ?_, fun w hw => absurd hw List.not_mem_nil, fun x hx => absurd ⟨x, hx⟩ hown⟩
    rw [Subscriber.notify_keeps hkeeps, ChannelView.await_nil]

theorem Condition.register_eq (x : Condition) (id : Nat) (s : Session) (h : Host) :
    Subscriber.register id x.watch s h =
      (⟨id, x.watch, none⟩ : Subscriber Observed Host).notify s h := by
  cases x <;> rfl

/-- **A subscriber that is registered posts news at most**, and its condition is among the
news. -/
theorem Subscriber.register_tame {watch : Watch Observed Host} (hwatch : watch.IsTame) (id : Nat)
    (s : Session) {h : Host} (hlater : h.channelView.later = true) :
    ∃ works : List Work, (register id watch s h).2.channelView = h.channelView.await works ∧
      (∀ w ∈ works, ∃ (x : Condition) (b : Bool), w = x.work b) ∧
      ∀ x : Condition, watch = x.watch → x.work (x.holds s) ∈ works := by
  match watch with
  | .session tell =>
      refine ⟨[], (ChannelView.await_nil _).symm, fun w hw => absurd hw List.not_mem_nil, ?_⟩
      intro x hx
      cases x <;> cases hx
  | .attribute select same tell =>
      have hnotified := notify_tame (u := ⟨id, .attribute select same tell, none⟩) hwatch s hlater
      obtain ⟨works, hview, hnews, hcovers⟩ := hnotified
      exact ⟨works, hview, hnews, fun x hx => (hcovers x hx).resolve_left nofun⟩

end InAppMessaging
