import InAppMessaging.Engine.Surfaces

/-!
# Controlling the realtime channel

The channel as the main thread drives it, one piece of work after the other, apart from the
store.  Realtime updates depend on two conditions of the session, and each has a subscriber
that posts work when it changes.  A handler asks for the session as it is when it runs, so it
may find that its own condition has changed again; what keeps the channel right in the end is
that *somebody* will still be heard (`Settling`): while the channel is open although a condition
fails, the news of that condition is still to come, and while it is closed although it should be
open, some news is.

* `Channel.answer_alternating`, `Channel.answer_sound` — one piece of work;
* `Settling.covered` — news that is posted is still to come;
* `Settling.changed` — a change of session owes news of the conditions that changed;
* `Settling.answered` — **a piece of work that is done was the last to be needed.**
-/

namespace InAppMessaging

/-! ## Conditions -/

/-- What realtime updates depend on: the switch, and a named user. -/
inductive Condition where
  | realtime
  | identity
deriving DecidableEq

namespace Condition

/-- A condition holds in a session. -/
def holds : Condition → Session → Bool
  | realtime, s => s.realtime
  | identity, s => s.isIdentified

/-- The work that is posted when a condition came or went. -/
def work : Condition → Bool → Work
  | realtime => .realtimeChanged
  | identity => .identityChanged

/-- The subscriber that watches a condition. -/
def watch : Condition → Watch Observed Host
  | realtime => .realtimeFlag
  | identity => .identification

/-- The id under which the subscriber of a condition is registered. -/
def id (w : ChannelWatch) : Condition → Nat
  | realtime => w.realtime
  | identity => w.identity

/-- Realtime updates are in use while both conditions hold. -/
theorem usesRealtime_iff (s : Session) :
    s.usesRealtime = true ↔ ∀ x : Condition, x.holds s = true := by
  unfold Session.usesRealtime
  rw [Bool.and_eq_true]
  constructor
  · rintro ⟨hrealtime, hidentity⟩ x
    cases x with
    | realtime => exact hrealtime
    | identity => exact hidentity
  · exact fun h => ⟨h .realtime, h .identity⟩

end Condition

/-- The subscribers that an engine itself ties to its surfaces. -/
inductive Watch.IsOwn : Watch Observed Host → Prop
  | condition (x : Condition) : IsOwn x.watch
  | modal (m : Message) : IsOwn (.stillShown m)
  | inline (elementId : String) (place : Nat) : IsOwn (.element elementId place)

/-! ## One piece of work -/

namespace Channel

/-- What a channel makes of a piece of work while realtime updates are in use or not. -/
def answer (uses : Bool) (c : Channel) : Work → Channel × List ChannelCall
  | .foreground => c.enterForeground uses
  | .background => c.enterBackground
  | .restart => c.restart uses
  | .realtimeChanged holds => c.conditionChanged uses holds
  | .identityChanged holds => c.conditionChanged uses holds
  | .tearDown => c.keep
  | .follow _ _ => c.keep

/-- The channel is closed in the background. -/
def Sound (c : Channel) : Prop := c.foregrounded = false → c.isOpen = false

/-- Calls that follow each other. -/
theorem Alternating.append {a b c : Bool} {xs ys : List ChannelCall} (hx : Alternating a xs b)
    (hy : Alternating b ys c) : Alternating a (xs ++ ys) c := by
  induction hx with
  | nil b => exact hy
  | start _ ih => exact .start (ih hy)
  | stop _ ih => exact .stop (ih hy)

/-- Calls are starts and stops in turn. -/
theorem Alternating.call_eq {a b : Bool} {calls : List ChannelCall} (h : Alternating a calls b)
    {i : Nat} {call : ChannelCall} (hi : calls[i]? = some call) :
    call = if (i % 2 = 0 ↔ a = false) then .start else .stop := by
  induction h generalizing i with
  | nil b => exact absurd hi (by simp)
  | start h ih =>
      cases i with
      | zero => exact (Option.some.inj hi).symm
      | succ i =>
          have hparity : (i + 1) % 2 = 0 ↔ ¬i % 2 = 0 := by omega
          rw [ih hi]
          simp only [hparity, Bool.true_eq_false, iff_false, iff_true]
  | stop h ih =>
      cases i with
      | zero => exact (Option.some.inj hi).symm
      | succ i =>
          have hparity : (i + 1) % 2 = 0 ↔ ¬i % 2 = 0 := by omega
          rw [ih hi]
          simp only [hparity, Bool.true_eq_false, iff_false, iff_true, Classical.not_not]

/-- The last call tells whether the channel is open; without calls it is as it was. -/
theorem Alternating.isOpen_eq {a b : Bool} {calls : List ChannelCall} (h : Alternating a calls b) :
    b = (calls.getLast?.map fun call => decide (call = .start)).getD a := by
  induction h with
  | nil b => rfl
  | @start calls b h ih =>
      rw [List.getLast?_cons, ih]
      cases calls.getLast? <;> rfl
  | @stop calls b h ih =>
      rw [List.getLast?_cons, ih]
      cases calls.getLast? <;> rfl

theorem openUp_alternating (c : Channel) :
    Alternating c.isOpen c.openUp.2 c.openUp.1.isOpen := c.calls_alternate.1

theorem closeDown_alternating (c : Channel) :
    Alternating c.isOpen c.closeDown.2 c.closeDown.1.isOpen := c.calls_alternate.2

theorem keep_alternating (c : Channel) : Alternating c.isOpen c.keep.2 c.keep.1.isOpen := .nil _

/-- The calls of a change of a condition continue the alternation. -/
theorem conditionChanged_alternating (uses holds : Bool) (c : Channel) :
    Alternating c.isOpen (c.conditionChanged uses holds).2
      (c.conditionChanged uses holds).1.isOpen := by
  unfold conditionChanged
  split
  · exact c.keep_alternating
  · split
    · exact c.openUp_alternating
    · split
      · exact c.keep_alternating
      · exact c.closeDown_alternating

/-- **The calls of a piece of work continue the alternation.** -/
theorem answer_alternating (uses : Bool) (c : Channel) (w : Work) :
    Alternating c.isOpen (c.answer uses w).2 (c.answer uses w).1.isOpen := by
  cases w with
  | foreground =>
      show Alternating c.isOpen (c.enterForeground uses).2 (c.enterForeground uses).1.isOpen
      unfold enterForeground
      split
      · exact c.keep_alternating
      · cases uses with
        | true => exact openUp_alternating { c with foregrounded := true }
        | false => exact keep_alternating { c with foregrounded := true }
  | background =>
      show Alternating c.isOpen c.enterBackground.2 c.enterBackground.1.isOpen
      unfold enterBackground
      split
      · exact closeDown_alternating { c with foregrounded := false }
      · exact c.keep_alternating
  | restart =>
      show Alternating c.isOpen (c.restart uses).2 (c.restart uses).1.isOpen
      unfold restart
      split
      · exact c.keep_alternating
      · cases uses with
        | true => exact c.closeDown_alternating.append (openUp_alternating c.closeDown.1)
        | false => exact c.closeDown_alternating.append (keep_alternating c.closeDown.1)
  | realtimeChanged holds => exact c.conditionChanged_alternating uses holds
  | identityChanged holds => exact c.conditionChanged_alternating uses holds
  | tearDown => exact c.keep_alternating
  | follow place state => exact c.keep_alternating

/-- The app comes to the foreground. -/
theorem answer_foreground (uses : Bool) (c : Channel) :
    (c.answer uses .foreground).1 =
      if c.foregrounded then c else ⟨true, uses || c.isOpen⟩ := by
  obtain ⟨foregrounded, isOpen⟩ := c
  cases foregrounded <;> cases uses <;> rfl

theorem answer_background (uses : Bool) (c : Channel) :
    (c.answer uses .background).1 = if c.foregrounded then ⟨false, false⟩ else c := by
  obtain ⟨foregrounded, isOpen⟩ := c
  cases foregrounded <;> rfl

theorem answer_restart (uses : Bool) (c : Channel) :
    (c.answer uses .restart).1 = if c.foregrounded then ⟨true, uses⟩ else c := by
  obtain ⟨foregrounded, isOpen⟩ := c
  cases foregrounded <;> cases uses <;> rfl

/-- In the foreground news of a condition opens the channel if it is in use, and otherwise
closes it, unless the condition holds. -/
theorem answer_changed (uses : Bool) (c : Channel) (x : Condition) (holds : Bool) :
    (c.answer uses (x.work holds)).1 =
      if c.foregrounded then ⟨true, uses || (holds && c.isOpen)⟩ else c := by
  obtain ⟨foregrounded, isOpen⟩ := c
  cases x <;> cases foregrounded <;> cases uses <;> cases holds <;> rfl

/-- Work for the channel is one of four kinds; other work leaves it alone. -/
theorem answer_cases (w : Work) :
    w = .foreground ∨ w = .background ∨ w = .restart ∨
      (∃ (x : Condition) (b : Bool), w = x.work b) ∨
      ((∀ (x : Condition) (b : Bool), w ≠ x.work b) ∧
        ∀ (uses : Bool) (c : Channel), c.answer uses w = c.keep) := by
  have hnone : ∀ w' : Work, w' = .tearDown ∨ (∃ place state, w' = .follow place state) →
      ∀ (x : Condition) (b : Bool), w' ≠ x.work b := by
    rintro w' (rfl | ⟨place, state, rfl⟩) x b heq <;> cases x <;> cases heq
  cases w with
  | foreground => exact Or.inl rfl
  | background => exact Or.inr (Or.inl rfl)
  | restart => exact Or.inr (Or.inr (Or.inl rfl))
  | realtimeChanged b => exact Or.inr (Or.inr (Or.inr (Or.inl ⟨.realtime, b, rfl⟩)))
  | identityChanged b => exact Or.inr (Or.inr (Or.inr (Or.inl ⟨.identity, b, rfl⟩)))
  | tearDown =>
      exact Or.inr (Or.inr (Or.inr (Or.inr ⟨hnone _ (Or.inl rfl), fun _ _ => rfl⟩)))
  | follow place state =>
      exact Or.inr (Or.inr (Or.inr (Or.inr ⟨hnone _ (Or.inr ⟨place, state, rfl⟩), fun _ _ => rfl⟩)))

/-- **A piece of work leaves the channel closed in the background.** -/
theorem answer_sound (uses : Bool) {c : Channel} (h : c.Sound) (w : Work) :
    (c.answer uses w).1.Sound := by
  rcases answer_cases w with rfl | rfl | rfl | ⟨x, b, rfl⟩ | ⟨hnews, hkeep⟩
  · rw [answer_foreground]
    split
    · exact h
    · exact fun hback => Bool.noConfusion hback
  · rw [answer_background]
    split
    · exact fun _ => rfl
    · exact h
  · rw [answer_restart]
    split
    · exact fun hback => Bool.noConfusion hback
    · exact h
  · rw [answer_changed]
    split
    · exact fun hback => Bool.noConfusion hback
    · exact h
  · rw [hkeep]
    exact h

end Channel

/-! ## News that is still to come -/

/-- The channel is right, or there is news to come.  `owed` are the conditions whose subscriber
has yet to be told, `works` is what waits for the main thread. -/
structure Settling (s : Session) (owed : Condition → Prop) (works : List Work) (c : Channel) :
    Prop where
  /-- An open channel will hear of each condition that fails. -/
  closing : c.isOpen = true → ∀ x : Condition, x.holds s = false →
    owed x ∨ x.work false ∈ works
  /-- A closed channel that should be open will hear of some condition. -/
  opening : c.foregrounded = true → c.isOpen = false → s.usesRealtime = true →
    ∃ x : Condition, owed x ∨ ∃ b, x.work b ∈ works

namespace Settling

variable {s s' : Session} {owed owed' : Condition → Prop} {works works' : List Work}
  {c : Channel}

/-- **News that is posted is still to come.** -/
theorem covered (h : Settling s owed works c)
    (howed : ∀ x, owed x → owed' x ∨ x.work (x.holds s) ∈ works')
    (hworks : ∀ w ∈ works, w ∈ works') : Settling s owed' works' c where
  closing := by
    intro hopen x hx
    rcases h.closing hopen x hx with howe | hposted
    · rcases howed x howe with howe | hposted
      · exact Or.inl howe
      · rw [hx] at hposted
        exact Or.inr hposted
    · exact Or.inr (hworks _ hposted)
  opening := by
    intro hfore hclosed huses
    obtain ⟨x, howe | ⟨b, hposted⟩⟩ := h.opening hfore hclosed huses
    · rcases howed x howe with howe | hposted
      · exact ⟨x, Or.inl howe⟩
      · exact ⟨x, Or.inr ⟨_, hposted⟩⟩
    · exact ⟨x, Or.inr ⟨b, hworks _ hposted⟩⟩

theorem mono (h : Settling s owed works c) (howed : ∀ x, owed x → owed' x)
    (hworks : ∀ w ∈ works, w ∈ works') : Settling s owed' works' c :=
  h.covered (fun x hx => Or.inl (howed x hx)) hworks

/-- **A change of session owes news of the conditions that changed.** -/
theorem changed (h : Settling s owed works c) (howed : ∀ x, owed x → owed' x)
    (hchange : ∀ x : Condition, x.holds s ≠ x.holds s' → owed' x) :
    Settling s' owed' works c where
  closing := by
    intro hopen x hx
    by_cases hbefore : x.holds s = false
    · rcases h.closing hopen x hbefore with howe | hposted
      · exact Or.inl (howed x howe)
      · exact Or.inr hposted
    · refine Or.inl (hchange x ?_)
      rw [hx]
      exact hbefore
  opening := by
    intro hfore hclosed huses
    rw [Condition.usesRealtime_iff] at huses
    -- if the channel should have been open before as well, the news of that still counts;
    -- otherwise a condition came to hold, and its subscriber will say so
    by_cases hbefore : ∀ x : Condition, x.holds s = true
    · obtain ⟨x, howe | hposted⟩ :=
        h.opening hfore hclosed ((Condition.usesRealtime_iff s).mpr hbefore)
      · exact ⟨x, Or.inl (howed x howe)⟩
      · exact ⟨x, Or.inr hposted⟩
    · obtain ⟨x, hx⟩ := Classical.not_forall.mp hbefore
      refine ⟨x, Or.inl (hchange x ?_)⟩
      rw [huses x]
      exact hx

/-- A channel that is as it should be needs no news. -/
theorem of_right (hsound : c.Sound)
    (hright : c.foregrounded = true → c.isOpen = s.usesRealtime) : Settling s owed works c where
  closing := by
    intro hopen x hx
    have hfore : c.foregrounded = true := by
      cases hback : c.foregrounded with
      | true => rfl
      | false =>
          rw [hsound hback] at hopen
          exact Bool.noConfusion hopen
    rw [hright hfore, Condition.usesRealtime_iff] at hopen
    rw [hopen x] at hx
    exact Bool.noConfusion hx
  opening := by
    intro hfore hclosed huses
    rw [hright hfore, huses] at hclosed
    exact Bool.noConfusion hclosed

/-- Work that is no news is not missed. -/
theorem forget {w : Work} (h : Settling s owed (w :: works) c)
    (hnews : ∀ (x : Condition) (b : Bool), w ≠ x.work b) : Settling s owed works c where
  closing := by
    intro hopen x hx
    rcases h.closing hopen x hx with howe | hposted
    · exact Or.inl howe
    · rcases List.mem_cons.mp hposted with heq | hposted
      · exact absurd heq.symm (hnews x false)
      · exact Or.inr hposted
  opening := by
    intro hfore hclosed huses
    obtain ⟨x, howe | ⟨b, hposted⟩⟩ := h.opening hfore hclosed huses
    · exact ⟨x, Or.inl howe⟩
    · rcases List.mem_cons.mp hposted with heq | hposted
      · exact absurd heq.symm (hnews x b)
      · exact ⟨x, Or.inr ⟨b, hposted⟩⟩

/-- News that was heard in the foreground is not missed.  If it closed the channel or opened it,
the channel is as it should be; otherwise it was news of a condition that holds, and what makes
the other one known is still to come. -/
theorem heard {x : Condition} {b : Bool} (h : Settling s owed (x.work b :: works) c) :
    Settling s owed works ⟨true, s.usesRealtime || (b && c.isOpen)⟩ := by
  cases huses : s.usesRealtime with
  | true => exact of_right (fun hback => Bool.noConfusion hback) fun _ => huses.symm
  | false =>
      cases b with
      | false => exact of_right (fun hback => Bool.noConfusion hback) fun _ => huses.symm
      | true =>
          refine ⟨fun hopen y hy => ?_, fun _ _ hnow => ?_⟩
          · rcases h.closing hopen y hy with howe | hposted
            · exact Or.inl howe
            · rcases List.mem_cons.mp hposted with heq | hposted
              -- this was news that a condition holds, not that one fails
              · cases x <;> cases y <;> cases heq
              · exact Or.inr hposted
          · rw [huses] at hnow
            exact Bool.noConfusion hnow

/-- In the background nothing is missed: the channel is closed, and whatever comes to the
foreground looks at the session itself. -/
theorem answered_in_background {w : Work} (hsound : c.Sound) (hback : c.foregrounded = false) :
    Settling s owed works (c.answer s.usesRealtime w).1 := by
  have hclosed : c.isOpen = false := hsound hback
  have hstill : Settling s owed works c := by
    refine of_right hsound fun hfore => ?_
    rw [hback] at hfore
    exact Bool.noConfusion hfore
  rcases Channel.answer_cases w with rfl | rfl | rfl | ⟨x, b, rfl⟩ | ⟨hnews, hkeep⟩
  · rw [Channel.answer_foreground, hback, if_neg Bool.false_ne_true, hclosed, Bool.or_false]
    exact of_right (fun h => Bool.noConfusion h) fun _ => rfl
  · rw [Channel.answer_background, hback]
    exact hstill
  · rw [Channel.answer_restart, hback]
    exact hstill
  · rw [Channel.answer_changed, hback]
    exact hstill
  · rw [hkeep]
    exact hstill

/-- **A piece of work that is done was the last to be needed**: what it was posted for it has
seen to, and other news is still to come. -/
theorem answered {w : Work} (h : Settling s owed (w :: works) c) (hsound : c.Sound) :
    Settling s owed works (c.answer s.usesRealtime w).1 := by
  cases hfore : c.foregrounded with
  | false => exact answered_in_background hsound hfore
  | true =>
      rcases Channel.answer_cases w with rfl | rfl | rfl | ⟨x, b, rfl⟩ | ⟨hnews, hkeep⟩
      · rw [Channel.answer_foreground, if_pos hfore]
        exact h.forget fun x b heq => by cases x <;> cases heq
      · rw [Channel.answer_background, if_pos hfore]
        exact of_right (fun _ => rfl) fun hback => Bool.noConfusion hback
      · rw [Channel.answer_restart, if_pos hfore]
        exact of_right (fun hback => Bool.noConfusion hback) fun _ => rfl
      · rw [Channel.answer_changed, if_pos hfore]
        exact h.heard
      · rw [hkeep]
        exact h.forget hnews

end Settling

end InAppMessaging
