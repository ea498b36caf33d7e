import InAppMessaging.Proofs.Realtime.View

/-!
# The realtime channel under control

The channel with the work that waits for it, while the main thread may be in the middle of a
piece of work for which it has read the session already.  `Steered` says that the calls so far
alternate, that the channel is closed in the background, and that what waits and what is owed
will bring it where it should be.

* `Steered.await`, `Steered.changed`, `Steered.taken`, `Steered.finished` — what can happen to
  the channel keeps it under control;
* `Steered.isOpen_iff` — **a channel that has come to rest is as it should be.**
-/

namespace InAppMessaging

/-! ## Foreground and background -/

/-- Where a piece of work leaves the app: in the foreground or not. -/
def Work.toward (front : Bool) : Work → Bool
  | .foreground => true
  | .background => false
  | _ => front

/-- Work that is none of the channel's does not move the app. -/
theorem Work.foldl_toward_filter (works : List Work) (front : Bool) :
    (works.filter Work.isForChannel).foldl Work.toward front = works.foldl Work.toward front := by
  induction works generalizing front with
  | nil => rfl
  | cons w rest ih => cases w <;> exact ih _

/-- News does not move the app. -/
theorem Condition.foldl_toward {works : List Work}
    (h : ∀ w ∈ works, ∃ (x : Condition) (b : Bool), w = x.work b) (front : Bool) :
    works.foldl Work.toward front = front := by
  induction works with
  | nil => rfl
  | cons w rest ih =>
      obtain ⟨⟨x, b, rfl⟩, hrest⟩ := List.forall_mem_cons.mp h
      cases x <;> exact ih hrest

/-- The channel knows where the app is. -/
theorem Channel.answer_foregrounded (uses : Bool) (c : Channel) (w : Work) :
    (c.answer uses w).1.foregrounded = w.toward c.foregrounded := by
  obtain ⟨foregrounded, isOpen⟩ := c
  cases w with
  | foreground => cases foregrounded <;> cases uses <;> rfl
  | background => cases foregrounded <;> rfl
  | restart => cases foregrounded <;> cases uses <;> rfl
  | realtimeChanged holds => cases foregrounded <;> cases uses <;> cases holds <;> rfl
  | identityChanged holds => cases foregrounded <;> cases uses <;> cases holds <;> rfl
  | tearDown => rfl
  | follow place state => rfl

/-! ## The channel between two steps of the main thread -/

/-- The channel once the main thread has finished what it is busy with. -/
def Channel.prospect (c : Channel) : Option (Work × Session) → Channel
  | none => c
  | some (w, s) => (c.answer s.usesRealtime w).1

/-- A channel that is under control: `front` is where the app is, `owed` are the conditions
whose subscriber has yet to be told, `busy` is what the main thread is doing. -/
structure Steered (front : Bool) (s : Session) (owed : Condition → Prop)
    (busy : Option (Work × Session)) (v : ChannelView) : Prop where
  /-- The calls of the transport alternate. -/
  alternating : Channel.Alternating false v.calls v.channel.isOpen
  /-- The channel is closed in the background. -/
  sound : v.channel.Sound
  /-- What waits and what is owed will see to the channel. -/
  settling : Settling s owed v.works (v.channel.prospect busy)
  /-- The work that waits will bring the channel where the app is. -/
  arriving : v.works.foldl Work.toward (v.channel.prospect busy).foregrounded = front

namespace Steered

variable {front : Bool} {s s' : Session} {owed owed' : Condition → Prop}
  {busy : Option (Work × Session)} {v : ChannelView}

/-- A channel that is closed, in the background. -/
theorem start (s : Session) (owed : Condition → Prop) :
    Steered false s owed none ⟨{}, [], [], true⟩ where
  alternating := .nil false
  sound := fun _ => rfl
  settling := ⟨fun hopen => Bool.noConfusion hopen, fun hfore => Bool.noConfusion hfore⟩
  arriving := rfl

theorem owing (h : Steered front s owed busy v) (howed : ∀ x, owed x → owed' x) :
    Steered front s owed' busy v :=
  ⟨h.alternating, h.sound, h.settling.mono howed fun _ hw => hw, h.arriving⟩

/-- **Work is posted**; the news among it is owed no more. -/
theorem await (h : Steered front s owed busy v) (works : List Work)
    (howed : ∀ x, owed x → owed' x ∨ x.work (x.holds s) ∈ works) :
    Steered (works.foldl Work.toward front) s owed' busy (v.await works) where
  alternating := h.alternating
  sound := h.sound
  settling := by
    refine h.settling.covered (fun x hx => ?_) fun w hw => List.mem_append_left _ hw
    rcases howed x hx with howe | hposted
    · exact Or.inl howe
    · have hnews : (x.work (x.holds s)).isForChannel = true := by cases x <;> rfl
      exact Or.inr (List.mem_append_right _ (List.mem_filter.mpr ⟨hposted, hnews⟩))
  arriving := by
    show (v.works ++ works.filter Work.isForChannel).foldl Work.toward _ = _
    rw [List.foldl_append, Work.foldl_toward_filter]
    exact congrArg (works.foldl Work.toward) h.arriving

/-- **The session changes**; news of the conditions that changed is owed. -/
theorem changed (h : Steered front s owed busy v) (howed : ∀ x, owed x → owed' x)
    (hchange : ∀ x : Condition, x.holds s ≠ x.holds s' → owed' x) :
    Steered front s' owed' busy v :=
  ⟨h.alternating, h.sound, h.settling.changed howed hchange, h.arriving⟩

/-- **The main thread takes a piece of work** and reads the session for it. -/
theorem taken {w : Work} {rest : List Work} (h : Steered front s owed none v)
    (hworks : v.works = [w].filter Work.isForChannel ++ rest) :
    Steered front s owed (some (w, s)) { v with works := rest } where
  alternating := h.alternating
  sound := h.sound
  settling := by
    -- the session was read for this work, so it counts as answered although the channel will
    -- change later; until then only the main thread could change it, and it is busy
    have hmore : Settling s owed (w :: rest) v.channel := by
      refine h.settling.mono (fun _ hx => hx) fun w' hw' => ?_
      rw [hworks] at hw'
      rcases List.mem_append.mp hw' with hfirst | hlater
      · obtain rfl := List.mem_singleton.mp (List.mem_filter.mp hfirst).1
        exact List.mem_cons_self
      · exact List.mem_cons_of_mem w hlater
    exact hmore.answered h.sound
  arriving := by
    have harriving := h.arriving
    rw [hworks, List.foldl_append, Work.foldl_toward_filter] at harriving
    show rest.foldl Work.toward (v.channel.answer s.usesRealtime w).1.foregrounded = front
    rw [Channel.answer_foregrounded]
    exact harriving

/-- **The main thread finishes a piece of work.** -/
theorem finished {w : Work} {read : Session} (h : Steered front s owed (some (w, read)) v) :
    Steered front s owed none (v.heard read.usesRealtime w) where
  alternating := h.alternating.append (v.channel.answer_alternating read.usesRealtime w)
  sound := Channel.answer_sound read.usesRealtime h.sound w
  settling := h.settling
  arriving := h.arriving

/-- **A channel that has come to rest is as it should be.** -/
theorem isOpen_iff (h : Steered front s owed none v) (howed : ∀ x, ¬owed x)
    (hworks : v.works = []) :
    v.channel.foregrounded = front ∧
      (v.channel.isOpen = true ↔ front = true ∧ s.usesRealtime = true) := by
  have harriving := h.arriving
  have hsettling := h.settling
  rw [hworks] at harriving hsettling
  have hfront : v.channel.foregrounded = front := harriving
  refine ⟨hfront, fun hopen => ?_, fun ⟨hfore, huses⟩ => ?_⟩
  · constructor
    · rw [← hfront]
      cases hback : v.channel.foregrounded with
      | true => rfl
      | false =>
          rw [h.sound hback] at hopen
          exact Bool.noConfusion hopen
    · rw [Condition.usesRealtime_iff]
      intro x
      cases hx : x.holds s with
      | true => rfl
      | false =>
          rcases hsettling.closing hopen x hx with howe | hposted
          · exact absurd howe (howed x)
          · exact absurd hposted List.not_mem_nil
  · cases hclosed : v.channel.isOpen with
    | true => rfl
    | false =>
        rw [← hfront] at hfore
        obtain ⟨x, howe | ⟨b, hposted⟩⟩ := hsettling.opening hfore hclosed huses
        · exact absurd howe (howed x)
        · exact absurd hposted List.not_mem_nil

end Steered

end InAppMessaging
