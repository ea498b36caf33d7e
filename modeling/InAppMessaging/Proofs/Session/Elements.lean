import InAppMessaging.Proofs.Session.Along
import InAppMessaging.Proofs.Session.Reduce

/-!
# Messages and their elements

A message for an element is put under the id of its element.  When it is displayed, goes away
or fails to load, its entry is looked up by its queue id, and it is the first one under which
any message with the queue id is found that is replaced.  As long as a queue id stays with one
element the two agree; when a catalog moves it, what is looked up may belong to another element
(`Session.Strays`).

* `InlineSurfaces.sited_update_iff` — an update keeps messages under their elements exactly if
  the holder of the queue id is the element of the message;
* `Session.reduce_of_settled` — what an action that settles a message does to each part of the
  session;
* `Session.find?_reduce_of_settled` — which element is changed when a message is settled;
* `Session.sited_reduce_iff` — **an action keeps messages under their elements exactly if it
  does not stray**;
* `Session.sited_reduceAll_iff` — so do the commits of a log.
-/

namespace InAppMessaging

/-! ## Elements -/

/-- The element a state names, while it has a message. -/
def InlineState.elementId? : InlineState → Option String
  | readyToEmbed _ elementId | embedded _ elementId => some elementId
  | dismissed _ => none

/-- A state is about a message for an element, and names no other element. -/
structure InlineState.MeantFor (state : InlineState) (elementId : String) : Prop where
  message : state.message.delivery.elementId = some elementId
  named : ∀ other, state.elementId? = some other → other = elementId

namespace InlineSurfaces

variable {surfaces : InlineSurfaces} {m : Message} {elementId queueId : String}
  {state : InlineState}

/-- Every entry is as it should be for its element. -/
def Every (surfaces : InlineSurfaces) (P : String → InlineState → Prop) : Prop :=
  ∀ elementId state, surfaces.find? elementId = some state → P elementId state

variable {P : String → InlineState → Prop}

theorem every_empty (P : String → InlineState → Prop) : ({} : InlineSurfaces).Every P :=
  fun _ state h => absurd h.symm (Option.some_ne_none state)

/-- Adding a message changes the entry of its element. -/
theorem Every.add (h : surfaces.Every P) (hm : P elementId (.readyToEmbed m elementId)) :
    (surfaces.add m elementId).Every P := by
  intro other state hfound
  by_cases hother : other = elementId
  · subst hother
    rw [surfaces.find?_add m other] at hfound
    obtain rfl := Option.some.inj hfound
    exact hm
  · rw [surfaces.find?_add_ne m hother] at hfound
    exact h other state hfound

/-- An update changes the entry of the holder of its queue id. -/
theorem Every.update (h : surfaces.Every P)
    (hholder : ∀ holder, surfaces.holder? queueId = some holder → P holder state) :
    (surfaces.update queueId state).Every P := by
  intro other found hfound
  rw [find?_update] at hfound
  by_cases hother : surfaces.holder? queueId = some other
  · rw [if_pos hother] at hfound
    obtain rfl := Option.some.inj hfound
    exact hholder other hother
  · rw [if_neg hother] at hfound
    exact h other found hfound

/-- Every entry is under the id of its own element. -/
def Sited (surfaces : InlineSurfaces) : Prop :=
  surfaces.Every fun elementId state => state.MeantFor elementId

/-- **An update keeps messages under their elements** exactly if the holder of the queue id is
the element the new state is meant for. -/
theorem sited_update_iff (h : surfaces.Sited) (hstate : state.MeantFor elementId) :
    (surfaces.update queueId state).Sited ↔
      ∀ holder, surfaces.holder? queueId = some holder → holder = elementId := by
  constructor
  · intro hsited holder hholder
    have hfound : (surfaces.update queueId state).find? holder = some state := by
      rw [find?_update, if_pos hholder]
    have hmessage := (hsited holder state hfound).message
    exact Option.some.inj (hmessage.symm.trans hstate.message)
  · intro hholder
    refine Every.update h fun holder hfirst => ?_
    rw [hholder holder hfirst]
    exact hstate

end InlineSurfaces

/-! ## Settling a message -/

/-- The message an action settles, with what becomes of its element. -/
def Action.settled? : Action → Option (Message × (String → InlineState))
  | .display m => some (m, .embedded m)
  | .dismiss m _ _ | .loadingFailed m => some (m, fun _ => .dismissed m)
  | _ => none

/-- A message is settled by a display, a dismissal or a failure to load. -/
theorem Action.settled_cases {a : Action} {m : Message} {state : String → InlineState}
    (h : a.settled? = some (m, state)) :
    (a = .display m ∧ state = .embedded m) ∨
      ((∃ log viaClose, a = .dismiss m log viaClose) ∨ a = .loadingFailed m) ∧
        state = fun _ => .dismissed m := by
  cases a with
  | display other =>
      obtain ⟨rfl, rfl⟩ := Prod.mk.inj (Option.some.inj h)
      exact Or.inl ⟨rfl, rfl⟩
  | dismiss other log viaClose =>
      obtain ⟨rfl, rfl⟩ := Prod.mk.inj (Option.some.inj h)
      exact Or.inr ⟨Or.inl ⟨log, viaClose, rfl⟩, rfl⟩
  | loadingFailed other =>
      obtain ⟨rfl, rfl⟩ := Prod.mk.inj (Option.some.inj h)
      exact Or.inr ⟨Or.inr rfl, rfl⟩
  | _ => exact absurd h.symm (Option.some_ne_none _)

/-- An action that settles a message is about it, and so is what becomes of its element. -/
theorem Action.message?_of_settled {a : Action} {m : Message} {state : String → InlineState}
    (h : a.settled? = some (m, state)) : a.message? = some m ∧
      ∀ elementId, (state elementId).message = m := by
  rcases settled_cases h with ⟨rfl, rfl⟩ | ⟨⟨log, viaClose, rfl⟩ | rfl, rfl⟩
  · exact ⟨rfl, fun _ => rfl⟩
  · exact ⟨rfl, fun _ => rfl⟩
  · exact ⟨rfl, fun _ => rfl⟩

/-- What becomes of the element of a message is meant for it. -/
theorem Action.meantFor_of_settled {a : Action} {m : Message} {state : String → InlineState}
    (h : a.settled? = some (m, state)) {elementId : String}
    (hm : m.delivery.elementId = some elementId) : (state elementId).MeantFor elementId := by
  rcases settled_cases h with ⟨-, rfl⟩ | ⟨-, rfl⟩
  · exact ⟨hm, fun _ hnamed => (Option.some.inj hnamed).symm⟩
  · exact ⟨hm, fun _ hnamed => absurd hnamed.symm (Option.some_ne_none _)⟩

namespace Action

/-- The queue ids that are shown once an action has settled a message. -/
def shownAfter (a : Action) (m : Message) (shown : TextSet) : TextSet :=
  match m.queueId with
  | some queueId => if a.marksShown then shown.add queueId else shown
  | none => shown

/-- The queue once an action has settled a message: only a display takes it out. -/
def queueAfter (a : Action) (m : Message) (queue : MessageQueue) : MessageQueue :=
  match a, m.queueId with
  | .display _, some queueId => queue.without queueId
  | _, _ => queue

/-- The elements once a message is settled. -/
def elementsAfter (m : Message) (state : String → InlineState) (surfaces : InlineSurfaces) :
    InlineSurfaces :=
  match m.delivery.elementId, m.queueId with
  | some elementId, some queueId => surfaces.update queueId (state elementId)
  | _, _ => surfaces

end Action

namespace Session

variable {s : Session} {m : Message} {a : Action} {state : String → InlineState}

theorem markViewed_eq_shownAfter (s : Session) (a : Action) (m : Message) :
    s.markViewed a m = { s with shown := a.shownAfter m s.shown } := by
  unfold markViewed Action.shownAfter
  cases m.queueId with
  | none => rfl
  | some queueId => cases a.marksShown <;> rfl

theorem dequeue_eq_queueAfter (s : Session) (m : Message) :
    s.dequeue m = { s with queue := (Action.display m).queueAfter m s.queue } := by
  unfold dequeue Action.queueAfter
  cases m.queueId <;> rfl

theorem settle_eq_elementsAfter (s : Session) (m : Message) (state : String → InlineState)
    (modal : ModalState) :
    s.settle m state modal =
      { s with
        inline := Action.elementsAfter m state s.inline
        modal := (if m.isEmbedded then none else some modal).getD s.modal } := by
  unfold settle Action.elementsAfter Message.isEmbedded
  cases m.delivery.elementId with
  | none => rfl
  | some elementId => cases m.queueId <;> rfl

/-- **What an action that settles a message does to each part of the session.** -/
theorem reduce_of_settled (s : Session) (h : a.settled? = some (m, state)) :
    s.reduce a =
      { s with
        shown := a.shownAfter m s.shown
        queue := a.queueAfter m s.queue
        inline := Action.elementsAfter m state s.inline
        modal := a.modal?.getD s.modal } := by
  have hdismissed : ∀ (a : Action) (m : Message), s.dismissed a m =
      { s with
        shown := a.shownAfter m s.shown
        inline := Action.elementsAfter m (fun _ => .dismissed m) s.inline
        modal := (if m.isEmbedded then none else some (.dismissed m)).getD s.modal } := by
    intro a m
    unfold dismissed
    rw [markViewed_eq_shownAfter, settle_eq_elementsAfter]
  rcases Action.settled_cases h with ⟨rfl, rfl⟩ | ⟨⟨log, viaClose, rfl⟩ | rfl, rfl⟩
  · show s.displayed (.display m) m = _
    unfold displayed
    rw [markViewed_eq_shownAfter, dequeue_eq_queueAfter, settle_eq_elementsAfter]
    rfl
  · exact hdismissed _ m
  · exact hdismissed _ m

/-- What an action that settles a message does to the elements. -/
theorem inline_reduce_of_settled (s : Session) (h : a.settled? = some (m, state)) :
    (s.reduce a).inline =
      match m.delivery.elementId, m.queueId with
      | some elementId, some queueId => s.inline.update queueId (state elementId)
      | _, _ => s.inline := by
  rw [reduce_of_settled s h]
  rfl

/-- **Which element changes when a message is settled**: the holder of its queue id, and no
other. -/
theorem find?_reduce_of_settled (s : Session) (h : a.settled? = some (m, state))
    {elementId queueId : String} (helement : m.delivery.elementId = some elementId)
    (hid : m.queueId = some queueId) (other : String) :
    (s.reduce a).inline.find? other =
      if s.inline.holder? queueId = some other then some (state elementId)
      else s.inline.find? other := by
  rw [s.inline_reduce_of_settled h, helement, hid]
  exact s.inline.find?_update queueId (state elementId) other

/-- An action settles a message for an element, and the first holder of its queue id is another
element. -/
def Strays (s : Session) (a : Action) : Prop :=
  ∃ m state elementId queueId holder, a.settled? = some (m, state) ∧
    m.delivery.elementId = some elementId ∧ m.queueId = some queueId ∧
    s.inline.holder? queueId = some holder ∧ holder ≠ elementId

/-- Whether an action strays is a matter of the message it settles. -/
theorem strays_iff_of_settled (h : a.settled? = some (m, state)) :
    s.Strays a ↔ ∃ elementId queueId holder, m.delivery.elementId = some elementId ∧
      m.queueId = some queueId ∧ s.inline.holder? queueId = some holder ∧
      holder ≠ elementId := by
  constructor
  · rintro ⟨other, _, elementId, queueId, holder, hother, hplace⟩
    obtain ⟨rfl, -⟩ := Prod.mk.inj (Option.some.inj (h.symm.trans hother))
    exact ⟨elementId, queueId, holder, hplace⟩
  · rintro ⟨elementId, queueId, holder, hplace⟩
    exact ⟨m, state, elementId, queueId, holder, h, hplace⟩

/-- An action that settles a message keeps messages under their elements exactly if it does not
stray. -/
theorem sited_reduce_iff_of_settled (h : s.inline.Sited) (hsettled : a.settled? = some (m, state)) :
    (s.reduce a).inline.Sited ↔ ¬ s.Strays a := by
  rw [strays_iff_of_settled hsettled, s.inline_reduce_of_settled hsettled]
  cases helement : m.delivery.elementId with
  | none => simp [h]
  | some elementId =>
      cases hid : m.queueId with
      | none => simp [h]
      | some queueId =>
          have hmeant := Action.meantFor_of_settled hsettled helement
          dsimp only
          rw [InlineSurfaces.sited_update_iff h hmeant]
          constructor
          · rintro hholder ⟨_, _, holder, hits, hcarries, hfirst, hne⟩
            obtain rfl := Option.some.inj hits
            obtain rfl := Option.some.inj hcarries
            exact hne (hholder holder hfirst)
          · intro hstays holder hfirst
            refine Decidable.byContradiction fun hne => hstays ?_
            exact ⟨elementId, queueId, holder, rfl, rfl, hfirst, hne⟩

/-- Embedding adds each message to its element. -/
theorem every_embed {P : String → InlineState → Prop} (h : s.inline.Every P)
    {messages : List Message}
    (hmessages : ∀ m ∈ messages, ∀ elementId, m.delivery.elementId = some elementId →
      P elementId (.readyToEmbed m elementId)) :
    (s.embed messages).inline.Every P := by
  induction messages generalizing s with
  | nil => exact h
  | cons m rest ih =>
      obtain ⟨hm, hrest⟩ := List.forall_mem_cons.mp hmessages
      rw [embed_cons]
      cases helement : m.delivery.elementId with
      | none =>
          rw [s.embed_singleton_of_none helement]
          exact ih h hrest
      | some elementId =>
          have hadded := InlineSurfaces.Every.add h (hm elementId helement)
          rw [s.embed_singleton helement]
          exact ih (s := { s with inline := s.inline.add m elementId }) hadded hrest

/-- **An action keeps messages under their elements exactly if it does not stray.** -/
theorem sited_reduce_iff (h : s.inline.Sited) (a : Action) :
    (s.reduce a).inline.Sited ↔ ¬ s.Strays a := by
  cases hsettled : a.settled? with
  | some settled => exact sited_reduce_iff_of_settled h hsettled
  | none =>
      have hstays : ¬ s.Strays a := by
        rintro ⟨m, state, _, _, _, hneeds, -⟩
        exact absurd (hsettled.symm.trans hneeds).symm (Option.some_ne_none (m, state))
      refine ⟨fun _ => hstays, fun _ => ?_⟩
      cases a with
      | display m => exact absurd hsettled (Option.some_ne_none _)
      | dismiss m log viaClose => exact absurd hsettled (Option.some_ne_none _)
      | loadingFailed m => exact absurd hsettled (Option.some_ne_none _)
      | embed messages =>
          refine every_embed h fun m _ elementId helement => ?_
          exact ⟨helement, fun _ hnamed => (Option.some.inj hnamed).symm⟩
      | reset sessionId => exact InlineSurfaces.every_empty _
      | _ => exact h

/-! ## Logs of commits -/

/-- **Every session of a log has its messages under their elements** exactly if no commit
strays in the session that those before it made. -/
theorem sited_reduceAll_iff (h : s.inline.Sited) (log : List Action) :
    (∀ before, before <+: log → (s.reduceAll before).inline.Sited) ↔
      ∀ before a, before ++ [a] <+: log → ¬ (s.reduceAll before).Strays a := by
  constructor
  · intro hsited before a hpart
    have hbefore := hsited before ((List.prefix_append before [a]).trans hpart)
    have hafter := hsited (before ++ [a]) hpart
    rw [reduceAll_append] at hafter
    exact (sited_reduce_iff hbefore a).mp hafter
  · intro hstays before hpart
    have halong : s.Along (fun s a => ¬ s.Strays a) log := along_iff.mpr hstays
    exact halong.keeps (I := fun s => s.inline.Sited)
      (fun s a hs ha => (sited_reduce_iff hs a).mpr ha) h hpart

end Session

end InAppMessaging
