import InAppMessaging.Pipeline.Standard
import InAppMessaging.Proofs.Engine.Scene
import InAppMessaging.Proofs.Pipeline.Front
import InAppMessaging.Proofs.Realtime.Control
import InAppMessaging.Proofs.Session.Showing

/-!
# What concerns an inline view

Of everything outside the session only a little concerns the view at a place: what it shows, what it
was told, and the states that wait for it on the main thread (`Host.sight`).  Work for the view
changes that, and nothing else does: none of the standard stages, and none of the other surfaces.

* `ViewTrail.IsHonest.follow` — **the last call of a view is about what it shows**;
* `Host.sight_perform`, `Host.sight_post` — work that is done, and work that is posted;
* `Pipeline.standard_keeps_sight` — **the standard stages leave views alone**;
* `Watch.IsOwn.keeps_sight` — so do the other surfaces.
-/

namespace InAppMessaging

/-! ## A view and its calls -/

/-- The last call was to embed a message; if there is none, there was no call or the last one was to
clear the view. -/
def ViewCall.EndWith (calls : List ViewCall) : Option Message → Prop
  | none => calls.getLast? = none ∨ calls.getLast? = some .clear
  | some m => calls.getLast? = some (.embed m)

/-- What a view shows, and what it was told so far. -/
structure ViewTrail where
  view : InlineView := {}
  calls : List ViewCall := []

namespace ViewTrail

/-- The view follows a state of its element. -/
def follow (t : ViewTrail) (state : InlineState) : ViewTrail where
  view := (t.view.follow state).1
  calls := t.calls ++ (t.view.follow state).2

/-- The last call is about what the view shows. -/
def IsHonest (t : ViewTrail) : Prop := ViewCall.EndWith t.calls t.view.attached

/-- **A view that follows a state is told what it comes to show.** -/
theorem IsHonest.follow {t : ViewTrail} (h : t.IsHonest) (state : InlineState) :
    (t.follow state).IsHonest := by
  obtain ⟨⟨attached⟩, calls⟩ := t
  cases state with
  | readyToEmbed m elementId => exact List.getLast?_concat
  | dismissed m => exact Or.inr List.getLast?_concat
  | embedded m elementId =>
      cases attached with
      | none => exact List.getLast?_concat
      | some shown =>
          show (calls ++ []).getLast? = some (.embed shown)
          rw [List.append_nil]
          exact h

/-- The view is told what its element holds. -/
def heed (t : ViewTrail) : Option InlineState → ViewTrail
  | some state => t.follow state
  | none => t

theorem view_heed (t : ViewTrail) (state? : Option InlineState) :
    (t.heed state?).view = t.view.heed state? := by
  cases state? <;> rfl

theorem IsHonest.heed {t : ViewTrail} (h : t.IsHonest) (state? : Option InlineState) :
    (t.heed state?).IsHonest := by
  cases state? with
  | none => exact h
  | some state => exact h.follow state

end ViewTrail

/-! ## What concerns a view -/

/-- The state that a piece of work has the view at a place follow, if it does. -/
def Work.followed? (place : Nat) : Work → Option InlineState
  | .follow other state => if other = place then some state else none
  | _ => none

/-- What the view at a place was told, if an event tells of that. -/
def Event.viewCall? (place : Nat) : Event → Option ViewCall
  | .view other call => if other = place then some call else none
  | _ => none

/-- What concerns a view: what it shows and was told, the states it has yet to follow, and whether
work waits at all. -/
structure Sight where
  trail? : Option ViewTrail
  works : List InlineState
  later : Bool

namespace Sight

variable {v : Sight} {state : InlineState} {busy : Option InlineState}

/-- The view follows a state. -/
def follow (v : Sight) (state : InlineState) : Sight :=
  { v with trail? := v.trail?.map (·.follow state) }

/-- The view is to follow a state, later or at once. -/
def post (v : Sight) (state : InlineState) : Sight :=
  if v.later then { v with works := v.works ++ [state] } else v.follow state

/-- The view once it has followed the state the main thread is busy with, and all that wait. -/
def prospect? (v : Sight) (busy : Option InlineState) : Option ViewTrail :=
  v.trail?.map fun t => (busy.toList ++ v.works).foldl ViewTrail.follow t

/-- Work that is done at once never waits. -/
def IsPrompt (v : Sight) (busy : Option InlineState) : Prop :=
  v.later = false → busy = none ∧ v.works = []

/-- **A state that is posted is the last to be followed**, and work that is done at once still never
waits. -/
theorem IsPrompt.post (h : v.IsPrompt busy) (state : InlineState) :
    (v.post state).IsPrompt busy ∧
      (v.post state).prospect? busy = (v.prospect? busy).map (·.follow state) := by
  unfold Sight.post prospect?
  cases hlater : v.later with
  | true =>
      rw [if_pos rfl, Option.map_map]
      refine ⟨fun hnow => Bool.noConfusion (show true = false from hnow), ?_⟩
      refine congrArg (fun f => v.trail?.map f) (funext fun t => ?_)
      show (busy.toList ++ (v.works ++ [state])).foldl ViewTrail.follow t = _
      rw [← List.append_assoc, List.foldl_append]
      rfl
  | false =>
      obtain ⟨rfl, hnone⟩ := h hlater
      rw [if_neg Bool.false_ne_true, follow, hnone, Option.map_map, Option.map_map]
      exact ⟨fun _ => ⟨rfl, rfl⟩, rfl⟩

/-- The view is to be told what its element holds. -/
def heed (v : Sight) : Option InlineState → Sight
  | some state => v.post state
  | none => v

/-- What the element holds is the last to be followed. -/
theorem IsPrompt.heed (h : v.IsPrompt busy) (state? : Option InlineState) :
    (v.heed state?).IsPrompt busy ∧
      (v.heed state?).prospect? busy = (v.prospect? busy).map (·.heed state?) := by
  cases state? with
  | none => exact ⟨h, (Option.map_id' (x := v.prospect? busy)).symm⟩
  | some state => exact h.post state

end Sight

namespace Host

variable {place : Nat}

/-- What concerns the view at a place. -/
def sight (place : Nat) (h : Host) : Sight where
  trail? := h.views[place]?.map fun view =>
    ⟨view, (h.journal.filterMap (Event.viewCall? place)).reverse⟩
  works := h.posted.filterMap (Work.followed? place)
  later := h.postsLater

theorem sight_record {e : Event} (he : e.viewCall? place = none) (h : Host) :
    (h.record e).sight place = h.sight place := by
  unfold sight record
  rw [List.filterMap_cons_none he]

theorem sight_wake (t : Task) (h : Host) : (h.wake t).sight place = h.sight place := by
  unfold wake
  split <;> rfl

/-- The channel does not concern a view. -/
theorem sight_setChannel (h : Host) (next : Channel × List ChannelCall) :
    (h.setChannel next).sight place = h.sight place :=
  setChannel_keeps (fun _ => sight_record rfl) (fun _ _ => rfl) h next

/-- A view is told something. -/
theorem sight_told (calls : List ViewCall) (h : Host) :
    (h.recordAll (calls.map (.view place))).sight place =
      { h.sight place with
        trail? := (h.sight place).trail?.map fun t => { t with calls := t.calls ++ calls } } := by
  unfold recordAll
  induction calls generalizing h with
  | nil =>
      unfold sight
      rw [Option.map_map]
      simp only [List.map_nil, List.foldl_nil, Function.comp_def, List.append_nil]
  | cons call rest ih =>
      have hcall : Event.viewCall? place (.view place call) = some call := if_pos rfl
      have hfirst : ((h.record (.view place call)).sight place).trail? =
          (h.sight place).trail?.map fun t => { t with calls := t.calls ++ [call] } := by
        unfold sight record
        rw [List.filterMap_cons_some hcall, List.reverse_cons, Option.map_map]
        rfl
      rw [List.map_cons, List.foldl_cons, ih, hfirst, Option.map_map]
      simp only [Function.comp_def, List.append_assoc, List.singleton_append]
      rfl

/-- **The view at a place follows a state.** -/
theorem sight_followView (state : InlineState) (h : Host) :
    (h.followView place state).sight place = (h.sight place).follow state := by
  unfold followView
  cases hview : h.views[place]? with
  | none =>
      unfold Sight.follow sight
      rw [hview]
      rfl
  | some view =>
      have hlength : place < h.views.length := (List.getElem?_eq_some_iff.mp hview).1
      dsimp only
      rw [sight_told]
      unfold Sight.follow sight
      dsimp only
      rw [List.getElem?_set_self hlength, hview]
      rfl

/-- Another view does not concern it. -/
theorem sight_followView_ne {other : Nat} (hother : other ≠ place) (state : InlineState) (h : Host) :
    (h.followView other state).sight place = h.sight place := by
  unfold followView
  cases h.views[other]? with
  | none => rfl
  | some view =>
      dsimp only
      refine (recordAll_keeps (fun e he => ?_) _).trans ?_
      · obtain ⟨call, -, rfl⟩ := List.mem_map.mp he
        exact sight_record (if_neg hother)
      · unfold sight
        dsimp only
        rw [List.getElem?_set_ne hother]

/-- **Work that is done** has the view follow a state, or does not concern it. -/
theorem sight_perform (s : Session) (h : Host) (w : Work) :
    (h.perform s w).sight place =
      (w.followed? place).elim (h.sight place) (h.sight place).follow := by
  cases w with
  | follow other state =>
      by_cases hother : other = place
      · subst hother
        rw [Work.followed?, if_pos rfl]
        exact h.sight_followView state
      · rw [Work.followed?, if_neg hother]
        exact h.sight_followView_ne hother state
  | tearDown => exact sight_record rfl h
  | _ => exact h.sight_setChannel _

/-- **Work that is posted** has the view follow a state, later or at once, or does not concern
it. -/
theorem sight_post (w : Work) (s : Session) (h : Host) :
    (h.post w s).sight place = (h.sight place).heed (w.followed? place) := by
  unfold post
  cases hstate : w.followed? place with
  | none =>
      show _ = h.sight place
      by_cases hlater : h.postsLater = true
      · rw [if_pos hlater, sight_wake]
        unfold sight
        rw [List.filterMap_append, List.filterMap_cons_none hstate, List.filterMap_nil,
          List.append_nil]
      · rw [if_neg hlater, sight_perform, hstate, Option.elim_none]
  | some state =>
      show _ = (h.sight place).post state
      by_cases hlater : h.postsLater = true
      · have hsight : (h.sight place).later = true := hlater
        rw [if_pos hlater, sight_wake, Sight.post, if_pos hsight]
        unfold sight
        rw [List.filterMap_append, List.filterMap_cons_some hstate, List.filterMap_nil]
      · have hsight : ¬ (h.sight place).later = true := hlater
        rw [if_neg hlater, sight_perform, hstate, Sight.post, if_neg hsight, Option.elim_some]

/-- The next piece of work is taken. -/
theorem sight_take {h : Host} {w : Work} {rest : List Work} (hposted : h.posted = w :: rest) :
    (h.sight place).works =
      (w.followed? place).toList ++ ({ h with posted := rest }.sight place).works := by
  show h.posted.filterMap _ = _
  rw [hposted]
  cases hstate : w.followed? place with
  | some state => exact List.filterMap_cons_some hstate
  | none => exact List.filterMap_cons_none hstate

end Host

/-! ## Stages and other surfaces -/

section Keeping

variable (place : Nat)

theorem sight_logError (text : String) (h : Host) :
    (ErrorLog.logError text h).sight place = h.sight place := Host.sight_record rfl h

namespace Pipeline

/-- Nothing that the stages in front of the listener do concerns a view. -/
theorem unmoved_sight : Unmoved (Host.sight place) where
  errorLogged _ h := Host.sight_record rfl h
  viewLogged _ _ h := Host.sight_record rfl h
  presented _ _ h := Host.sight_record rfl h
  stored _ _ := rfl
  refreshed := Host.requestRefresh_keeps Host.sight_wake fun _ _ => rfl

/-- **The standard stages leave views alone.** -/
theorem standard_keeps_sight : ∀ stage ∈ standard, stage.Keeps (Host.sight place) :=
  (unmoved_sight place).standard_keeps fun _ h => Host.sight_record rfl h

end Pipeline

/-- An inline element has its own view told what it holds. -/
theorem sight_tellInline (elementId : String) (s : Session) (h : Host) :
    (tellInline elementId place s h).sight place =
      (h.sight place).heed (s.inline.find? elementId) := by
  unfold tellInline
  cases s.inline.find? elementId with
  | none => rfl
  | some state =>
      dsimp only
      rw [Host.sight_post, Work.followed?, if_pos rfl]

/-- **All surfaces of an engine leave a view alone**, but for the elements that feed it. -/
theorem Watch.IsOwn.keeps_sight {watch : Watch Observed Host} (h : watch.IsOwn)
    (hother : ∀ elementId, watch ≠ .element elementId place) : watch.Keeps (Host.sight place) := by
  cases h with
  | condition x =>
      cases x with
      | realtime => exact fun last value s h => Host.sight_post (.realtimeChanged _) s h
      | identity => exact fun last value s h => Host.sight_post (.identityChanged _) s h
  | modal m =>
      intro last value s h
      unfold tellModal
      split
      · exact Host.sight_post .tearDown s h
      · rfl
  | inline elementId other =>
      have hne : other ≠ place := by
        rintro rfl
        exact hother elementId rfl
      intro last value s h
      show (tellInline elementId other s h).sight place = h.sight place
      unfold tellInline
      split
      · rw [Host.sight_post, Work.followed?, if_neg hne]
        rfl
      · rfl

end Keeping

end InAppMessaging
