import InAppMessaging.Proofs.Keyed
import InAppMessaging.Proofs.Session.Elements

/-!
# Successive actions

An action that settles a message puts the same queue id back where it has found it, so it leaves
alone which element holds any queue id (`InlineSurfaces.holder?_update`).  Settling the message
again therefore changes nothing, and two messages with different queue ids may be settled in
either order, however often an element holds their queue ids and whatever it is called.

* `Session.find?_embed_eq` — an element gets the last message for it, or keeps what it holds;
* `Session.reduce_reduce_self` — **the same action again changes nothing**;
* `Session.reduce_comm_of_embedded` — **inline elements are independent of each other**.
-/

namespace InAppMessaging

/-! ## Elements and queue ids -/

namespace InlineSurfaces

variable {surfaces other : InlineSurfaces} {first second : InlineState} {p q : String}

/-- Surfaces whose elements hold the same are equal. -/
theorem ext_find? (h : ∀ elementId, surfaces.find? elementId = other.find? elementId) :
    surfaces = other := by
  cases surfaces
  cases other
  exact congrArg InlineSurfaces.mk (Keyed.ext_find? h)

/-- **An update leaves alone which element holds a queue id**, its own or another one. -/
theorem holder?_update (surfaces : InlineSurfaces) (hfirst : first.message.queueId = some p)
    (q : String) : (surfaces.update p first).holder? q = surfaces.holder? q := by
  unfold update
  cases hholder : surfaces.holder? p with
  | none => rfl
  | some elementId =>
      obtain ⟨old, hold, hid⟩ := find?_of_holder? hholder
      have hsame : decide (first.message.queueId = some q) =
          decide (old.message.queueId = some q) := by
        rw [hfirst, hid]
      exact Keyed.findKey?_insert hold hsame

/-- Of two updates of a queue id the later stays. -/
theorem update_update (surfaces : InlineSurfaces) (hfirst : first.message.queueId = some p)
    (second : InlineState) :
    (surfaces.update p first).update p second = surfaces.update p second := by
  apply ext_find?
  intro elementId
  rw [find?_update, find?_update, find?_update, surfaces.holder?_update hfirst]
  split <;> rfl

/-- **Updates of two queue ids may come in either order**: no element is the first to hold both. -/
theorem update_comm (surfaces : InlineSurfaces) (hfirst : first.message.queueId = some p)
    (hsecond : second.message.queueId = some q) (hne : p ≠ q) :
    (surfaces.update p first).update q second = (surfaces.update q second).update p first := by
  apply ext_find?
  intro elementId
  rw [find?_update, find?_update, find?_update, find?_update, surfaces.holder?_update hfirst,
    surfaces.holder?_update hsecond]
  by_cases hp : surfaces.holder? p = some elementId
  · have hq : ¬ surfaces.holder? q = some elementId := by
      intro hq
      obtain ⟨state, hstate, hcarries⟩ := find?_of_holder? hp
      obtain ⟨same, hsame, hcarries'⟩ := find?_of_holder? hq
      obtain rfl := Option.some.inj (hstate.symm.trans hsame)
      exact hne (Option.some.inj (hcarries.symm.trans hcarries'))
    rw [if_neg hq, if_pos hp, if_pos hp]
  · rw [if_neg hp, if_neg hp]

end InlineSurfaces

namespace MessageQueue

/-- A queue without the messages of a queue id has none of them to take out. -/
theorem without_without (queue : MessageQueue) (p : String) :
    (queue.without p).without p = queue.without p := by
  cases queue with
  | mk messages nodup =>
      unfold without
      congr 1
      rw [List.filter_filter]
      simp only [Bool.and_self]

/-- The messages of two queue ids may be taken out in either order. -/
theorem without_comm (queue : MessageQueue) (p q : String) :
    (queue.without p).without q = (queue.without q).without p := by
  cases queue with
  | mk messages nodup =>
      unfold without
      congr 1
      rw [List.filter_filter, List.filter_filter]
      simp only [Bool.and_comm]

end MessageQueue

/-! ## Settling a message -/

namespace Action

variable {a b : Action} {m n : Message} {state state' : String → InlineState}

theorem shownAfter_self (a : Action) (m : Message) (shown : TextSet) :
    a.shownAfter m (a.shownAfter m shown) = a.shownAfter m shown := by
  unfold shownAfter
  cases m.queueId with
  | none => rfl
  | some queueId =>
      cases a.marksShown with
      | true => exact shown.add_add queueId
      | false => rfl

theorem shownAfter_comm (a b : Action) (m n : Message) (shown : TextSet) :
    b.shownAfter n (a.shownAfter m shown) = a.shownAfter m (b.shownAfter n shown) := by
  unfold shownAfter
  cases m.queueId with
  | none => rfl
  | some p =>
      cases n.queueId with
      | none => rfl
      | some q =>
          cases a.marksShown with
          | false => rfl
          | true =>
              cases b.marksShown with
              | false => rfl
              | true => exact shown.add_comm p q

theorem queueAfter_self (a : Action) (m : Message) (queue : MessageQueue) :
    a.queueAfter m (a.queueAfter m queue) = a.queueAfter m queue := by
  unfold queueAfter
  cases a with
  | display other =>
      cases m.queueId with
      | none => rfl
      | some queueId => exact queue.without_without queueId
  | _ => rfl

theorem queueAfter_comm (a b : Action) (m n : Message) (queue : MessageQueue) :
    b.queueAfter n (a.queueAfter m queue) = a.queueAfter m (b.queueAfter n queue) := by
  unfold queueAfter
  cases a with
  | display first =>
      cases b with
      | display second =>
          cases m.queueId with
          | none => rfl
          | some p =>
              cases n.queueId with
              | none => rfl
              | some q => exact queue.without_comm p q
      | _ => rfl
  | _ => rfl

/-- Settling a message again leaves the elements alone. -/
theorem elementsAfter_self (h : a.settled? = some (m, state)) (surfaces : InlineSurfaces) :
    elementsAfter m state (elementsAfter m state surfaces) = elementsAfter m state surfaces := by
  unfold elementsAfter
  cases m.delivery.elementId with
  | none => rfl
  | some elementId =>
      cases hid : m.queueId with
      | none => rfl
      | some queueId =>
          have hcarries : (state elementId).message.queueId = some queueId := by
            rw [(message?_of_settled h).2, hid]
          exact surfaces.update_update hcarries (state elementId)

/-- **Messages with different queue ids may be settled in either order** for their elements. -/
theorem elementsAfter_comm (ha : a.settled? = some (m, state)) (hb : b.settled? = some (n, state'))
    (hids : ∀ queueId, m.queueId = some queueId → n.queueId ≠ some queueId)
    (surfaces : InlineSurfaces) :
    elementsAfter n state' (elementsAfter m state surfaces) =
      elementsAfter m state (elementsAfter n state' surfaces) := by
  unfold elementsAfter
  cases m.delivery.elementId with
  | none => rfl
  | some first =>
      cases n.delivery.elementId with
      | none => rfl
      | some second =>
          cases hp : m.queueId with
          | none => rfl
          | some p =>
              cases hq : n.queueId with
              | none => rfl
              | some q =>
                  have hfirst : (state first).message.queueId = some p := by
                    rw [(message?_of_settled ha).2, hp]
                  have hsecond : (state' second).message.queueId = some q := by
                    rw [(message?_of_settled hb).2, hq]
                  have hne : p ≠ q := by
                    rintro rfl
                    exact hids p hp hq
                  exact surfaces.update_comm hfirst hsecond hne

/-- An action that settles a message for an element leaves the modal surface alone. -/
theorem modal?_of_settled (h : a.settled? = some (m, state)) (hm : m.isEmbedded = true) :
    a.modal? = none := by
  rcases settled_cases h with ⟨rfl, -⟩ | ⟨⟨log, viaClose, rfl⟩ | rfl, -⟩
  · exact if_pos hm
  · exact if_pos hm
  · exact if_pos hm

end Action

/-! ## The same action again -/

namespace Session

variable {s : Session} {a b : Action} {m n : Message} {state state' : String → InlineState}

/-- An element gets the last message for it, or keeps what it holds. -/
theorem find?_embed_eq (s : Session) (messages : List Message) (elementId : String) :
    (s.embed messages).inline.find? elementId =
      ((messages.filter fun m => m.delivery.elementId = some elementId).getLast?.map
        fun m => .readyToEmbed m elementId).or (s.inline.find? elementId) := by
  induction messages generalizing s with
  | nil => rfl
  | cons m rest ih =>
      rw [embed_cons, ih]
      by_cases helement : m.delivery.elementId = some elementId
      · have hadded : (s.embed [m]).inline.find? elementId = some (.readyToEmbed m elementId) := by
          rw [s.embed_singleton helement]
          exact s.inline.find?_add m elementId
        rw [hadded, List.filter_cons, if_pos (decide_eq_true helement), List.getLast?_cons]
        cases (rest.filter fun m => m.delivery.elementId = some elementId).getLast? <;> rfl
      · have hkept : (s.embed [m]).inline.find? elementId = s.inline.find? elementId := by
          apply s.find?_embed_ne
          intro other hother
          rw [List.mem_singleton.mp hother]
          exact helement
        rw [hkept, List.filter_cons, if_neg (by simpa using helement)]

/-- Giving the same messages to their elements again changes nothing. -/
theorem embed_embed_self (s : Session) (messages : List Message) :
    (s.embed messages).embed messages = s.embed messages := by
  have hinline : ((s.embed messages).embed messages).inline = (s.embed messages).inline := by
    apply InlineSurfaces.ext_find?
    intro elementId
    rw [find?_embed_eq, find?_embed_eq, ← Option.or_assoc, Option.or_self]
  show { s.embed messages with inline := ((s.embed messages).embed messages).inline } =
    s.embed messages
  rw [hinline]

/-- **The same action again changes nothing**, whichever elements hold a queue id in a session and
however often. -/
theorem reduce_reduce_self (s : Session) (a : Action) : (s.reduce a).reduce a = s.reduce a := by
  cases hsettled : a.settled? with
  | some settled =>
      obtain ⟨m, state⟩ := settled
      rw [reduce_of_settled _ hsettled, reduce_of_settled _ hsettled]
      dsimp only
      rw [a.shownAfter_self, a.queueAfter_self, Action.elementsAfter_self hsettled]
      cases a.modal? <;> rfl
  | none =>
      cases a with
      | display m => exact absurd hsettled (Option.some_ne_none _)
      | dismiss m log viaClose => exact absurd hsettled (Option.some_ne_none _)
      | loadingFailed m => exact absurd hsettled (Option.some_ne_none _)
      | embed messages => exact s.embed_embed_self messages
      | _ => rfl

/-! ## Two actions in either order -/

/-- **Inline elements are independent of each other.**  Two messages for elements that do not carry
the same queue id may be settled in either order, and the modal surface stays as it is. -/
theorem reduce_comm_of_embedded (s : Session) (hm : m.isEmbedded = true)
    (hn : n.isEmbedded = true)
    (hids : ∀ queueId, m.queueId = some queueId → n.queueId ≠ some queueId)
    (ha : a.settled? = some (m, state)) (hb : b.settled? = some (n, state')) :
    (s.reduce a).reduce b = (s.reduce b).reduce a ∧
      (s.reduce a).modal = s.modal ∧ (s.reduce b).modal = s.modal := by
  have hfirst := Action.modal?_of_settled ha hm
  have hsecond := Action.modal?_of_settled hb hn
  refine ⟨?_, ?_, ?_⟩
  · rw [reduce_of_settled _ ha, reduce_of_settled _ hb, reduce_of_settled _ hb,
      reduce_of_settled _ ha]
    dsimp only
    rw [Action.shownAfter_comm a b, Action.queueAfter_comm a b,
      Action.elementsAfter_comm ha hb hids, hfirst, hsecond]
  · rw [modal_reduce, hfirst, Option.getD_none]
  · rw [modal_reduce, hsecond, Option.getD_none]

/-- The tip is displayed and the hint closed.  Two elements hold the tip, the first of them one that it
is not meant for, and another such element holds the hint. -/
theorem tip_and_hint_commute :
    let tip : Message := { queueId := some "t", delivery := { elementId := some "banner" } }
    let hint : Message :=
      { queueId := some "h", delivery := { elementId := some "banner", persistent := some true } }
    let elements := ((({} : InlineSurfaces).add tip "banner").add tip "aside").add hint "footer"
    let s : Session := { inline := elements, queue := .ofList [tip, hint] }
    ((s.reduce (.display tip)).reduce (.close hint) = (s.reduce (.close hint)).reduce (.display tip) ∧
      (s.reduce (.display tip)).modal = s.modal ∧ (s.reduce (.close hint)).modal = s.modal) ∧
      s.inline.holder? "t" = some "aside" ∧
      ((s.reduce (.close hint)).reduce (.display tip)).inline.find? "footer" = some (.dismissed hint) ∧
      ((s.reduce (.close hint)).reduce (.display tip)).queue.messages = [hint] := by
  intro tip hint elements s
  refine ⟨s.reduce_comm_of_embedded rfl rfl ?_ rfl rfl, by decide, by decide, by decide⟩
  intro queueId htip hhint
  obtain rfl := Option.some.inj htip
  exact absurd (Option.some.inj hhint) (by decide)

end Session

end InAppMessaging
