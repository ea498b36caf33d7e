import InAppMessaging.Session.Reduce

/-!
# What a reduction leaves alone

* `Session.identity_settle`, `Session.modal_settle` — settling a message changes one surface;
* `Session.hasIdentity_reduce` — only a reset can take an identity away;
* `Session.shown_reduce` — what was shown stays shown until a reset;
* `Session.modal_displayed`, `Session.modal_dismissed` — what becomes of the modal surface;
* `Session.modal_reduce`, `Session.active_reduceAll` — the last action that writes to the modal
  surface settles what is there;
* `Session.reduce_dismiss_of_modal` — all that becomes of a session whose modal surface a message
  leaves;
* `Session.find?_embed`, `Session.find?_embed_ne`, `Session.embed_of_ready` — what becomes of the
  elements.
-/

namespace InAppMessaging

namespace Action

/-- What an action writes to the modal surface, if it writes to it at all. -/
def modal? : Action → Option ModalState
  | load m _ => some (.loading m)
  | display m => if m.isEmbedded then none else some (.displayed m)
  | dismiss m _ _ | loadingFailed m => if m.isEmbedded then none else some (.dismissed m)
  | reset _ => some .initial
  | _ => none

/-- The message that the last one of several actions that writes to the modal surface puts there, if
it puts one there. -/
def occupant? (actions : List Action) : Option Message :=
  (actions.filterMap modal?).getLast?.bind ModalState.active?

end Action

namespace Session

variable {s : Session} {m : Message}

/-- Two sessions know the same user under the same anonymous id. -/
def SameIdentity (s s' : Session) : Prop :=
  s'.userId = s.userId ∧ s'.anonymousId = s.anonymousId

theorem SameIdentity.hasIdentity_eq {s' : Session} (h : SameIdentity s s') :
    s'.hasIdentity = s.hasIdentity := by
  unfold hasIdentity
  rw [h.1, h.2]

/-- The surface a message is settled on is the modal one if it has no element. -/
theorem modal_settle (s : Session) (m : Message) (inlineState : String → InlineState)
    (modalState : ModalState) :
    (s.settle m inlineState modalState).modal = if m.isEmbedded then s.modal else modalState := by
  unfold settle Message.isEmbedded
  cases m.delivery.elementId with
  | none => rfl
  | some elementId => cases m.queueId <;> rfl

/-- Settling a message leaves the identity alone. -/
theorem identity_settle (s : Session) (m : Message) (inlineState : String → InlineState)
    (modalState : ModalState) : SameIdentity s (s.settle m inlineState modalState) := by
  unfold settle
  cases m.delivery.elementId with
  | none => exact ⟨rfl, rfl⟩
  | some elementId => cases m.queueId <;> exact ⟨rfl, rfl⟩

/-- Counting a view leaves identity and modal surface alone. -/
theorem markViewed_eq (s : Session) (a : Action) (m : Message) :
    ∃ shown, s.markViewed a m = { s with shown } := by
  unfold markViewed
  cases m.queueId with
  | none => exact ⟨s.shown, rfl⟩
  | some queueId =>
      cases a.marksShown with
      | true => exact ⟨s.shown.add queueId, rfl⟩
      | false => exact ⟨s.shown, rfl⟩

/-- Taking a message out of the queue leaves the rest alone. -/
theorem dequeue_eq (s : Session) (m : Message) : ∃ queue, s.dequeue m = { s with queue } := by
  unfold dequeue
  cases m.queueId with
  | none => exact ⟨s.queue, rfl⟩
  | some queueId => exact ⟨s.queue.without queueId, rfl⟩

/-- A displayed message is on the modal surface, unless it is meant for an element. -/
theorem modal_displayed (s : Session) (a : Action) (m : Message) :
    (s.displayed a m).modal = if m.isEmbedded then s.modal else .displayed m := by
  obtain ⟨shown, hviewed⟩ := s.markViewed_eq a m
  obtain ⟨queue, hqueue⟩ := dequeue_eq { s with shown } m
  unfold displayed
  rw [modal_settle, hviewed, hqueue]

/-- A message that is gone has left the modal surface, unless it was meant for an element. -/
theorem modal_dismissed (s : Session) (a : Action) (m : Message) :
    (s.dismissed a m).modal = if m.isEmbedded then s.modal else .dismissed m := by
  obtain ⟨shown, hviewed⟩ := s.markViewed_eq a m
  unfold dismissed
  rw [modal_settle, hviewed]

/-- **An action writes to the modal surface, or leaves it as it is.** -/
theorem modal_reduce (s : Session) (a : Action) : (s.reduce a).modal = a.modal?.getD s.modal := by
  have hunless : ∀ (m : Message) (state : ModalState), (if m.isEmbedded then s.modal else state) =
      (if m.isEmbedded then none else some state).getD s.modal := by
    intro m state
    split <;> rfl
  cases a with
  | display m => exact (s.modal_displayed _ m).trans (hunless m _)
  | dismiss m log viaClose => exact (s.modal_dismissed _ m).trans (hunless m _)
  | loadingFailed m => exact (s.modal_dismissed _ m).trans (hunless m _)
  | _ => rfl

/-- After several actions the surface is as the last one that wrote to it left it. -/
theorem modal_reduceAll (s : Session) (actions : List Action) :
    (s.reduceAll actions).modal = (actions.filterMap Action.modal?).getLast?.getD s.modal := by
  induction actions generalizing s with
  | nil => rfl
  | cons a rest ih =>
      refine (ih (s.reduce a)).trans ?_
      rw [modal_reduce]
      cases hstate : a.modal? with
      | none => rw [List.filterMap_cons_none hstate, Option.getD_none]
      | some state =>
          rw [List.filterMap_cons_some hstate, List.getLast?_cons, Option.getD_some,
            Option.getD_some]

/-- **Once a message has left the modal surface, the actions since settle what is there.** -/
theorem active_reduceAll {a : Action} (hm : s.modal.active? = some m)
    (hleft : (s.reduce a).modal.active? ≠ some m) (later : List Action) :
    (s.reduceAll (a :: later)).modal.active? = Action.occupant? (a :: later) := by
  obtain ⟨state, hstate⟩ : ∃ state, a.modal? = some state := by
    refine Option.isSome_iff_exists.mp (Option.isSome_iff_ne_none.mpr fun hnone => hleft ?_)
    rw [modal_reduce, hnone]
    exact hm
  rw [modal_reduceAll]
  unfold Action.occupant?
  rw [List.filterMap_cons_some hstate, List.getLast?_cons]
  rfl

/-- A surface that is occupied after a message went away is as it was. -/
theorem modal_of_active_dismissed {a : Action}
    (h : (s.dismissed a m).modal.isActive = true) : (s.dismissed a m).modal = s.modal := by
  rw [modal_dismissed] at h ⊢
  by_cases hm : m.isEmbedded = true
  · rw [if_pos hm]
  · rw [if_neg hm] at h
    exact absurd h Bool.false_ne_true

/-- Displaying a message leaves the identity alone. -/
theorem identity_displayed (s : Session) (a : Action) (m : Message) :
    SameIdentity s (s.displayed a m) := by
  obtain ⟨shown, hviewed⟩ := s.markViewed_eq a m
  obtain ⟨queue, hqueue⟩ := dequeue_eq { s with shown } m
  unfold displayed
  rw [hviewed, hqueue]
  exact identity_settle { s with shown, queue } m _ _

/-- Dismissing a message leaves the identity alone. -/
theorem identity_dismissed (s : Session) (a : Action) (m : Message) :
    SameIdentity s (s.dismissed a m) := by
  obtain ⟨shown, hviewed⟩ := s.markViewed_eq a m
  unfold dismissed
  rw [hviewed]
  exact identity_settle { s with shown } m _ _

/-- Settling a message shows nothing that was not shown. -/
theorem shown_settle (s : Session) (m : Message) (inlineState : String → InlineState)
    (modalState : ModalState) : (s.settle m inlineState modalState).shown = s.shown := by
  unfold settle
  split <;> rfl

/-- What a display leaves shown is what its view left shown. -/
theorem shown_displayed (s : Session) (a : Action) (m : Message) :
    (s.displayed a m).shown = (s.markViewed a m).shown := by
  obtain ⟨queue, hqueue⟩ := (s.markViewed a m).dequeue_eq m
  unfold displayed
  rw [shown_settle, hqueue]

/-- The view that counts makes a queue id shown. -/
theorem shown_marked {q : String} {a : Action} (hid : m.queueId = some q)
    (ha : a.marksShown = true) : (s.markViewed a m).shown.contains q = true := by
  unfold markViewed
  rw [hid]
  dsimp only
  rw [if_pos ha]
  unfold Keyed.contains
  rw [s.markShown_find? q]
  rfl

/-- A dismissal empties the modal surface, unless its message is meant for an element. -/
theorem reduce_dismiss_of_modal (s : Session) (hm : m.isEmbedded = false) (log viaClose : Bool) :
    s.reduce (.dismiss m log viaClose) =
      { s with
        shown := (s.markViewed (.dismiss m log viaClose) m).shown
        modal := .dismissed m } := by
  have helement : m.delivery.elementId = none := by
    unfold Message.isEmbedded at hm
    exact Option.isNone_iff_eq_none.mp (Option.isSome_eq_false_iff.mp hm)
  obtain ⟨shown, hviewed⟩ := s.markViewed_eq (.dismiss m log viaClose) m
  show s.dismissed (.dismiss m log viaClose) m = _
  unfold dismissed settle
  rw [hviewed, helement]

/-- A queue id that was shown is still shown after a view. -/
theorem shown_markViewed {q : String} (h : s.shown.contains q = true) (a : Action)
    (m : Message) : (s.markViewed a m).shown.contains q = true := by
  unfold markViewed
  cases m.queueId with
  | none => exact h
  | some r =>
      cases a.marksShown with
      | false => exact h
      | true => exact TextSet.contains_add h r

/-- **What was shown stays shown until a reset.** -/
theorem shown_reduce {q : String} (h : s.shown.contains q = true) {a : Action}
    (ha : ∀ sessionId, a ≠ .reset sessionId) : (s.reduce a).shown.contains q = true := by
  cases a with
  | reset sessionId => exact absurd rfl (ha sessionId)
  | display m =>
      show (s.displayed (.display m) m).shown.contains q = true
      rw [shown_displayed]
      exact shown_markViewed h _ m
  | dismiss m log viaClose =>
      show (s.dismissed _ m).shown.contains q = true
      unfold dismissed
      rw [shown_settle]
      exact shown_markViewed h _ m
  | loadingFailed m =>
      show (s.dismissed _ m).shown.contains q = true
      unfold dismissed
      rw [shown_settle]
      exact shown_markViewed h _ m
  | _ => exact h

/-- Displaying a message takes it out of the queue. -/
theorem queue_displayed (s : Session) (a : Action) (m : Message) :
    (s.displayed a m).queue = (s.dequeue m).queue := by
  obtain ⟨shown, hviewed⟩ := s.markViewed_eq a m
  unfold displayed
  rw [settle_queue, hviewed]
  unfold dequeue
  cases m.queueId <;> rfl

/-- Dismissing a message leaves the queue alone. -/
theorem queue_dismissed (s : Session) (a : Action) (m : Message) :
    (s.dismissed a m).queue = s.queue := by
  obtain ⟨shown, hviewed⟩ := s.markViewed_eq a m
  unfold dismissed
  rw [settle_queue, hviewed]

/-- **Only a reset can take an identity away.** -/
theorem hasIdentity_reduce {a : Action} (ha : ∀ sessionId, a ≠ .reset sessionId)
    (h : s.hasIdentity = true) : (s.reduce a).hasIdentity = true := by
  cases a with
  | reset sessionId => exact absurd rfl (ha sessionId)
  | setUser userId => rfl
  | setAnonymous anonymousId => exact Bool.or_true _
  | display m => exact (s.identity_displayed _ m).hasIdentity_eq.trans h
  | dismiss m log viaClose => exact (s.identity_dismissed _ m).hasIdentity_eq.trans h
  | loadingFailed m => exact (s.identity_dismissed _ m).hasIdentity_eq.trans h
  | _ => exact h

/-! ## Embedding -/

variable {messages : List Message} {elementId : String}

theorem embed_cons (s : Session) (m : Message) (rest : List Message) :
    s.embed (m :: rest) = (s.embed [m]).embed rest := rfl

theorem embed_singleton (s : Session) (h : m.delivery.elementId = some elementId) :
    s.embed [m] = { s with inline := s.inline.add m elementId } := by
  unfold embed
  simp only [List.foldl_cons, List.foldl_nil, h]

theorem embed_singleton_of_none (s : Session) (h : m.delivery.elementId = none) :
    s.embed [m] = s := by
  unfold embed
  simp only [List.foldl_cons, List.foldl_nil, h]

/-- An element for which there is no message keeps what it holds. -/
theorem find?_embed_ne (s : Session)
    (h : ∀ m ∈ messages, m.delivery.elementId ≠ some elementId) :
    (s.embed messages).inline.find? elementId = s.inline.find? elementId := by
  induction messages generalizing s with
  | nil => rfl
  | cons m rest ih =>
      rw [embed_cons, ih _ fun other hother => h other (List.mem_cons_of_mem m hother)]
      cases helement : m.delivery.elementId with
      | none => rw [embed_singleton_of_none s helement]
      | some other =>
          have hne : elementId ≠ other := by
            rintro rfl
            exact h m List.mem_cons_self helement
          rw [embed_singleton s helement]
          exact s.inline.find?_add_ne m hne

/-- **An element for which there is one message gets it.** -/
theorem find?_embed (s : Session)
    (hpairwise : messages.Pairwise fun a b => a.delivery.elementId ≠ b.delivery.elementId)
    (hm : m ∈ messages) (helement : m.delivery.elementId = some elementId) :
    (s.embed messages).inline.find? elementId = some (.readyToEmbed m elementId) := by
  induction messages generalizing s with
  | nil => exact absurd hm List.not_mem_nil
  | cons first rest ih =>
      obtain ⟨hfirst, hrest⟩ := List.pairwise_cons.mp hpairwise
      rw [embed_cons]
      rcases List.mem_cons.mp hm with rfl | hm
      · have hother : ∀ other ∈ rest, other.delivery.elementId ≠ some elementId :=
          fun other hmem heq => hfirst other hmem (helement.trans heq.symm)
        rw [find?_embed_ne _ hother, embed_singleton s helement]
        exact s.inline.find?_add m elementId
      · exact ih (s.embed [first]) hrest hm

/-- Messages that their elements have ready are not given to them again. -/
theorem embed_of_ready
    (h : ∀ m ∈ messages, ∀ elementId, m.delivery.elementId = some elementId →
      s.inline.find? elementId = some (.readyToEmbed m elementId)) : s.embed messages = s := by
  induction messages with
  | nil => rfl
  | cons m rest ih =>
      obtain ⟨hm, hrest⟩ := List.forall_mem_cons.mp h
      have hfirst : s.embed [m] = s := by
        cases helement : m.delivery.elementId with
        | none => exact embed_singleton_of_none s helement
        | some elementId =>
            rw [embed_singleton s helement, InlineSurfaces.add_of_find? (hm elementId helement)]
      rw [embed_cons, hfirst]
      exact ih hrest

end Session

end InAppMessaging
