import InAppMessaging.Proofs.Pipeline.Front
import InAppMessaging.Proofs.Realtime.Control

/-!
# What concerns the realtime channel

Of everything outside the session only a little concerns the channel: its state, what the
transport was told, and the work for it that waits for the main thread (`Host.channelView`).
Work for the channel changes that, and nothing else does: none of the standard stages, and
none of the other surfaces.

* `Host.channelView_perform`, `Host.channelView_post` — work that is done, and work that is
  posted;
* `Host.channelView_post_other` — work that is none of the channel's;
* `Pipeline.standard_keeps` — **the standard stages leave the channel alone**;
* `Watch.stillShown_keeps`, `Watch.element_keeps` — so do the other surfaces.
-/

namespace InAppMessaging

/-! ## The view -/

/-- Work that the channel answers. -/
def Work.isForChannel : Work → Bool
  | .tearDown => false
  | .follow _ _ => false
  | _ => true

/-- What the transport was told, if an event tells of that. -/
def Event.channelCall? : Event → Option ChannelCall
  | .channel call => some call
  | _ => none

/-- What concerns the channel: its state, the calls of the transport in their order, the work
that waits for it, and whether work waits at all. -/
structure ChannelView where
  channel : Channel
  calls : List ChannelCall
  works : List Work
  later : Bool

/-- A channel that heard of a piece of work. -/
def ChannelView.heard (v : ChannelView) (uses : Bool) (w : Work) : ChannelView :=
  { v with
    channel := (v.channel.answer uses w).1
    calls := v.calls ++ (v.channel.answer uses w).2 }

/-- More work that waits. -/
def ChannelView.await (v : ChannelView) (works : List Work) : ChannelView :=
  { v with works := v.works ++ works.filter Work.isForChannel }

theorem ChannelView.await_nil (v : ChannelView) : v.await [] = v := by
  unfold await
  rw [List.filter_nil, List.append_nil]

namespace Host

/-- What concerns the channel. -/
def channelView (h : Host) : ChannelView where
  channel := h.channel
  calls := (h.journal.filterMap Event.channelCall?).reverse
  works := h.posted.filter Work.isForChannel
  later := h.postsLater

theorem channelView_record {e : Event} (he : e.channelCall? = none) (h : Host) :
    (h.record e).channelView = h.channelView := by
  unfold channelView record
  rw [List.filterMap_cons_none he]

theorem channelView_wake (t : Task) (h : Host) : (h.wake t).channelView = h.channelView := by
  unfold wake
  split <;> rfl

/-- The channel is taken over with its calls. -/
theorem channelView_setChannel (h : Host) (next : Channel × List ChannelCall) :
    (h.setChannel next).channelView =
      { h.channelView with channel := next.1, calls := h.channelView.calls ++ next.2 } := by
  obtain ⟨c, calls⟩ := next
  unfold setChannel recordAll
  dsimp only
  induction calls generalizing h with
  | nil =>
      rw [List.append_nil]
      rfl
  | cons call calls ih =>
      have htold := ih (h.record (.channel call))
      have hfirst : (h.record (.channel call)).channelView.calls =
          h.channelView.calls ++ [call] := List.reverse_cons
      rw [hfirst, List.append_assoc] at htold
      exact htold

/-- A view that follows its element does not concern the channel. -/
theorem channelView_followView (place : Nat) (state : InlineState) (h : Host) :
    (h.followView place state).channelView = h.channelView := by
  unfold followView
  cases h.views[place]? with
  | none => rfl
  | some v =>
      have htold : ∀ e ∈ (v.follow state).2.map (Event.view place), e.channelCall? = none := by
        intro e he
        obtain ⟨call, -, rfl⟩ := List.mem_map.mp he
        rfl
      exact recordAll_keeps (fun e he => channelView_record (htold e he)) _

/-- **The channel hears of the work that is done.** -/
theorem channelView_perform (s : Session) (h : Host) (w : Work) :
    (h.perform s w).channelView = h.channelView.heard s.usesRealtime w := by
  have hkept : h.channelView = { h.channelView with calls := h.channelView.calls ++ [] } := by
    rw [List.append_nil]
  cases w with
  | tearDown => exact (channelView_record rfl h).trans hkept
  | follow place state => exact (h.channelView_followView place state).trans hkept
  | _ => exact h.channelView_setChannel _

/-- **Work that is posted waits for the channel**, if it is the channel's and work waits. -/
theorem channelView_post {h : Host} (hlater : h.channelView.later = true) (w : Work)
    (s : Session) : (h.post w s).channelView = h.channelView.await [w] := by
  have hlater : h.postsLater = true := hlater
  unfold post
  rw [if_pos hlater, channelView_wake]
  unfold channelView ChannelView.await
  rw [List.filter_append]

/-- Work that is none of the channel's does not concern it, waiting or not. -/
theorem channelView_post_other {w : Work} (hw : w.isForChannel = false) (h : Host)
    (s : Session) : (h.post w s).channelView = h.channelView := by
  unfold post
  split
  · rw [channelView_wake]
    unfold channelView
    rw [List.filter_append, List.filter_cons_of_neg (by rw [hw]; exact Bool.false_ne_true),
      List.filter_nil, List.append_nil]
  · cases w with
    | tearDown => exact channelView_record rfl h
    | follow place state => exact h.channelView_followView place state
    | _ => exact Bool.noConfusion hw

/-- The next piece of work is the first that waits, if it is the channel's. -/
theorem channelView_take {h : Host} {w : Work} {rest : List Work} (hposted : h.posted = w :: rest) :
    h.channelView.works =
      [w].filter Work.isForChannel ++ { h with posted := rest }.channelView.works := by
  show h.posted.filter Work.isForChannel = _
  rw [hposted, ← List.singleton_append, List.filter_append]
  rfl

end Host

/-! ## Stages -/

theorem channelView_logError (text : String) (h : Host) :
    (ErrorLog.logError text h).channelView = h.channelView := h.channelView_record rfl

namespace Pipeline

/-- Nothing that the stages in front of the listener do concerns the channel. -/
theorem unmoved_channelView : Unmoved Host.channelView where
  errorLogged _ h := h.channelView_record rfl
  viewLogged _ _ h := h.channelView_record rfl
  presented _ _ h := h.channelView_record rfl
  stored _ _ := rfl
  refreshed := Host.requestRefresh_keeps Host.channelView_wake fun _ _ => rfl

/-- **The standard stages leave the channel alone.** -/
theorem standard_keeps : ∀ stage ∈ standard, stage.Keeps Host.channelView :=
  unmoved_channelView.standard_keeps fun _ h => h.channelView_record rfl

end Pipeline

/-! ## Other surfaces -/

/-- A modal surface leaves the channel alone. -/
theorem Watch.stillShown_keeps (m : Message) : (Watch.stillShown m).Keeps Host.channelView := by
  intro last value s h
  unfold tellModal
  split
  · exact h.channelView_post_other rfl s
  · rfl

/-- An inline element leaves the channel alone. -/
theorem Watch.element_keeps (elementId : String) (place : Nat) :
    (Watch.element elementId place).Keeps Host.channelView := by
  intro last value s h
  show (tellInline elementId place s h).channelView = h.channelView
  unfold tellInline
  split
  · exact h.channelView_post_other rfl s
  · rfl

end InAppMessaging
