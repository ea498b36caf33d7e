import InAppMessaging.Proofs.Session.Elements
import InAppMessaging.Surface.Inline

/-!
# What an element is to show, and what its view shows

By its state an element is to show a message that is ready or embedded, and nothing if its message
was dismissed or it has none.  A view that is told of each session follows the state of its element,
if there is one; so it goes on showing a message whose element is gone, and one in whose place
another was embedded behind its back (`Session.Parts`).  Nothing else parts the two.

* `InlineView.heed_attached_iff` — when a view that follows a state comes to show what it should;
* `Session.heed_reduce_iff` — **after an action a view shows what it should exactly if the action
  does not part it from its element**;
* `Session.viewAlong_iff`, `Session.viewSince_iff` — so it is with the commits of a log.
-/

namespace InAppMessaging

/-- The message that an element is to show. -/
def InlineState.shown? : InlineState → Option Message
  | readyToEmbed m _ | embedded m _ => some m
  | dismissed _ => none

/-- What an element is to show in a session. -/
def Session.shownAt? (s : Session) (elementId : String) : Option Message :=
  (s.inline.find? elementId).bind InlineState.shown?

/-! ## One state -/

namespace InlineView

variable {v : InlineView} {state? : Option InlineState}

/-- The view once it was told what its element holds. -/
def heed (v : InlineView) : Option InlineState → InlineView
  | some state => (v.follow state).1
  | none => v

/-- A view shows a message, and its element is gone or has another one embedded. -/
def Misses (v : InlineView) (state? : Option InlineState) : Prop :=
  ∃ m, v.attached = some m ∧
    (state? = none ∨ ∃ other elementId, state? = some (.embedded other elementId) ∧ other ≠ m)

/-- A view that is told the same twice has followed it already. -/
theorem heed_heed (v : InlineView) (state? : Option InlineState) :
    (v.heed state?).heed state? = v.heed state? := by
  obtain ⟨attached⟩ := v
  cases state? with
  | none => rfl
  | some state => cases state <;> cases attached <;> rfl

/-- What is ready or gone is not missed. -/
theorem not_misses_of_not_embedded {state : InlineState} (h : state.isEmbedded = false) :
    ¬ v.Misses (some state) := by
  rintro ⟨m, -, hnone | ⟨other, elementId, hstate, -⟩⟩
  · exact Option.some_ne_none state hnone
  · obtain rfl := Option.some.inj hstate
    exact Bool.noConfusion h

/-- **A view comes to show what it should**, unless it misses it. -/
theorem heed_attached_iff :
    (v.heed state?).attached = state?.bind InlineState.shown? ↔ ¬ v.Misses state? := by
  obtain ⟨attached⟩ := v
  cases attached with
  | none =>
      refine ⟨fun _ ⟨_, hattached, _⟩ => absurd hattached.symm (Option.some_ne_none _), fun _ => ?_⟩
      cases state? with
      | none => rfl
      | some state => cases state <;> rfl
  | some m =>
      match state? with
      | none => exact iff_of_false (Option.some_ne_none m) fun h => h ⟨m, rfl, Or.inl rfl⟩
      | some (.readyToEmbed other elementId) =>
          exact iff_of_true rfl (not_misses_of_not_embedded rfl)
      | some (.dismissed other) => exact iff_of_true rfl (not_misses_of_not_embedded rfl)
      | some (.embedded other elementId) =>
          show some m = some other ↔ _
          constructor
          · rintro hm ⟨_, hattached, hnone | ⟨_, _, hstate, hne⟩⟩
            · exact absurd hnone (Option.some_ne_none _)
            · obtain ⟨rfl, -⟩ := InlineState.embedded.inj (Option.some.inj hstate)
              exact hne (Option.some.inj (hm.symm.trans hattached))
          · intro hmisses
            refine Decidable.byContradiction fun hne => hmisses ⟨m, rfl, Or.inr ?_⟩
            exact ⟨other, elementId, rfl, fun heq => hne (congrArg some heq.symm)⟩

/-- What it shows already it does not miss. -/
theorem not_misses_of_attached (h : v.attached = state?.bind InlineState.shown?) :
    ¬ v.Misses state? := by
  rintro ⟨m, hattached, hmiss⟩
  rw [hattached] at h
  rcases hmiss with rfl | ⟨other, elementId, rfl, hne⟩
  · exact absurd h (Option.some_ne_none m)
  · exact hne (Option.some.inj h).symm

end InlineView

/-! ## One action -/

namespace Session

variable {s : Session} {v : InlineView} {elementId : String}

/-- An action parts a view from its element: with a reset the element is gone while it has something
to show, and a display may embed another message than it has to show. -/
def Parts (s : Session) (elementId : String) (a : Action) : Prop :=
  ∃ m, s.shownAt? elementId = some m ∧
    ((∃ sessionId, a = .reset sessionId) ∨
      ∃ other queueId, a = .display other ∧ other.isEmbedded = true ∧
        other.queueId = some queueId ∧ s.inline.holder? queueId = some elementId ∧ other ≠ m)

/-- An action that leaves an element alone does not make its view miss anything. -/
theorem not_misses_of_eq {s' : Session} (h : v.attached = s.shownAt? elementId)
    (hsame : s'.inline.find? elementId = s.inline.find? elementId) :
    ¬ v.Misses (s'.inline.find? elementId) := by
  rw [hsame]
  exact InlineView.not_misses_of_attached h

/-- A message that is settled leaves an element alone, or it is put there since the element holds its
queue id. -/
theorem find?_reduce_settled {a : Action} {m : Message} {state : String → InlineState} (s : Session)
    (h : a.settled? = some (m, state)) (elementId : String) :
    (s.reduce a).inline.find? elementId = s.inline.find? elementId ∨
      ∃ target queueId, m.delivery.elementId = some target ∧ m.queueId = some queueId ∧
        s.inline.holder? queueId = some elementId ∧
          (s.reduce a).inline.find? elementId = some (state target) := by
  have hinline := s.inline_reduce_of_settled h
  cases htarget : m.delivery.elementId with
  | none => exact Or.inl (by rw [hinline, htarget])
  | some target =>
      cases hid : m.queueId with
      | none => exact Or.inl (by rw [hinline, htarget, hid])
      | some queueId =>
          have hfound := s.find?_reduce_of_settled h htarget hid elementId
          by_cases hholder : s.inline.holder? queueId = some elementId
          · rw [if_pos hholder] at hfound
            exact Or.inr ⟨target, queueId, rfl, rfl, hholder, hfound⟩
          · rw [if_neg hholder] at hfound
            exact Or.inl hfound

/-- A display parts a view from its element exactly if it makes it miss another message. -/
theorem misses_reduce_display (h : v.attached = s.shownAt? elementId) (other : Message) :
    v.Misses ((s.reduce (.display other)).inline.find? elementId) ↔
      s.Parts elementId (.display other) := by
  have hsettled : (Action.display other).settled? = some (other, .embedded other) := rfl
  constructor
  · intro hmisses
    rcases s.find?_reduce_settled hsettled elementId with
      hsame | ⟨target, queueId, htarget, hid, hholder, hfound⟩
    · exact absurd hmisses (not_misses_of_eq h hsame)
    · obtain ⟨m, hattached, hmiss⟩ := hmisses
      rw [hfound] at hmiss
      obtain ⟨_, _, hstate, hne⟩ := hmiss.resolve_left (Option.some_ne_none _)
      obtain ⟨rfl, -⟩ := InlineState.embedded.inj (Option.some.inj hstate)
      have hembedded : other.isEmbedded = true := by
        unfold Message.isEmbedded
        rw [htarget]
        rfl
      exact ⟨m, h.symm.trans hattached, Or.inr ⟨other, queueId, rfl, hembedded, hid, hholder, hne⟩⟩
  · rintro ⟨m, hshown, ⟨_, hreset⟩ | ⟨_, queueId, hdisplay, hembedded, hid, hholder, hne⟩⟩
    · cases hreset
    · obtain rfl := Action.display.inj hdisplay
      obtain ⟨target, htarget⟩ := Option.isSome_iff_exists.mp hembedded
      have hfound := s.find?_reduce_of_settled hsettled htarget hid elementId
      rw [if_pos hholder] at hfound
      exact ⟨m, h.trans hshown, Or.inr ⟨other, target, hfound, hne⟩⟩

/-- A message that goes away does not make a view miss anything. -/
theorem not_misses_reduce_gone {a : Action} {m : Message}
    (hsettled : a.settled? = some (m, fun _ => .dismissed m))
    (h : v.attached = s.shownAt? elementId) :
    ¬ v.Misses ((s.reduce a).inline.find? elementId) := by
  rcases s.find?_reduce_settled hsettled elementId with hsame | ⟨_, _, _, _, _, hfound⟩
  · exact not_misses_of_eq h hsame
  · rw [hfound]
    exact InlineView.not_misses_of_not_embedded rfl

/-- Messages that become ready do not make a view miss anything. -/
theorem not_misses_embed (h : v.attached = s.shownAt? elementId) (messages : List Message) :
    ¬ v.Misses ((s.embed messages).inline.find? elementId) := by
  have hready : (s.embed messages).inline.find? elementId = s.inline.find? elementId ∨
      ∃ m, (s.embed messages).inline.find? elementId = some (.readyToEmbed m elementId) := by
    clear h
    induction messages generalizing s with
    | nil => exact Or.inl rfl
    | cons m rest ih =>
        rw [embed_cons]
        rcases ih (s := s.embed [m]) with hsame | hready
        · rw [hsame]
          cases helement : m.delivery.elementId with
          | none => exact Or.inl (by rw [s.embed_singleton_of_none helement])
          | some target =>
              rw [s.embed_singleton helement]
              by_cases htarget : elementId = target
              · subst htarget
                exact Or.inr ⟨m, s.inline.find?_add m elementId⟩
              · exact Or.inl (s.inline.find?_add_ne m htarget)
        · exact Or.inr hready
  rcases hready with hsame | ⟨m, hready⟩
  · exact not_misses_of_eq h hsame
  · rw [hready]
    exact InlineView.not_misses_of_not_embedded rfl

/-- **After an action a view shows what it should** exactly if the action does not part it from its
element. -/
theorem heed_reduce_iff (h : v.attached = s.shownAt? elementId) (a : Action) :
    (v.heed ((s.reduce a).inline.find? elementId)).attached = (s.reduce a).shownAt? elementId ↔
      ¬ s.Parts elementId a := by
  refine InlineView.heed_attached_iff.trans (not_congr ?_)
  have hstays : ¬ v.Misses ((s.reduce a).inline.find? elementId) →
      (∀ sessionId, a ≠ .reset sessionId) → (∀ m, a ≠ .display m) →
        (v.Misses ((s.reduce a).inline.find? elementId) ↔ s.Parts elementId a) := by
    rintro hmisses hreset hdisplay
    refine iff_of_false hmisses ?_
    rintro ⟨m, -, ⟨sessionId, heq⟩ | ⟨other, _, heq, -⟩⟩
    · exact hreset sessionId heq
    · exact hdisplay other heq
  cases a with
  | display other => exact misses_reduce_display h other
  | reset sessionId =>
      constructor
      · rintro ⟨m, hattached, -⟩
        exact ⟨m, h.symm.trans hattached, Or.inl ⟨sessionId, rfl⟩⟩
      · rintro ⟨m, hshown, -⟩
        exact ⟨m, h.trans hshown, Or.inl rfl⟩
  | dismiss m log viaClose =>
      exact hstays (not_misses_reduce_gone rfl h) (fun _ => Action.noConfusion)
        fun _ => Action.noConfusion
  | loadingFailed m =>
      exact hstays (not_misses_reduce_gone rfl h) (fun _ => Action.noConfusion)
        fun _ => Action.noConfusion
  | embed messages =>
      exact hstays (not_misses_embed h messages) (fun _ => Action.noConfusion)
        fun _ => Action.noConfusion
  | _ =>
      exact hstays (not_misses_of_eq h rfl) (fun _ => Action.noConfusion)
        fun _ => Action.noConfusion

/-! ## Logs of commits -/

/-- A view of an element that is told of every session of a log. -/
def viewAlong (elementId : String) (s : Session) (v : InlineView) : List Action → InlineView
  | [] => v
  | a :: rest =>
      viewAlong elementId (s.reduce a) (v.heed ((s.reduce a).inline.find? elementId)) rest

/-- More sessions. -/
theorem viewAlong_append (s : Session) (v : InlineView) (log more : List Action) :
    viewAlong elementId s v (log ++ more) =
      viewAlong elementId (s.reduceAll log) (viewAlong elementId s v log) more := by
  induction log generalizing s v with
  | nil => rfl
  | cons first rest ih => exact ih (s.reduce first) _

/-- A view that was told of a session was told of the last one. -/
theorem viewAlong_heed (s : Session) (v : InlineView) (log : List Action) :
    (viewAlong elementId s (v.heed (s.inline.find? elementId)) log).heed
        ((s.reduceAll log).inline.find? elementId) =
      viewAlong elementId s (v.heed (s.inline.find? elementId)) log := by
  induction log generalizing s v with
  | nil => exact InlineView.heed_heed v _
  | cons a rest ih => exact ih (s.reduce a) _

/-- **A view shows what it should in every session of a log** exactly if no commit parts it from its
element in the session that those before it made. -/
theorem viewAlong_iff (h : v.attached = s.shownAt? elementId) (log : List Action) :
    (∀ part, part <+: log →
        (viewAlong elementId s v part).attached = (s.reduceAll part).shownAt? elementId) ↔
      s.Along (fun s a => ¬ s.Parts elementId a) log := by
  induction log generalizing s v with
  | nil =>
      refine iff_of_true (fun part hpart => ?_) trivial
      obtain rfl := List.prefix_nil.mp hpart
      exact h
  | cons a rest ih =>
      constructor
      · intro hshows
        have hnext := hshows [a] ⟨rest, rfl⟩
        refine ⟨(heed_reduce_iff h a).mp hnext, (ih hnext).mp fun part hpart => ?_⟩
        exact hshows (a :: part) (List.cons_prefix_cons.mpr ⟨rfl, hpart⟩)
      · rintro ⟨hfirst, hrest⟩ part hpart
        cases part with
        | nil => exact h
        | cons first part =>
            obtain ⟨rfl, hrestpart⟩ := List.cons_prefix_cons.mp hpart
            exact (ih ((heed_reduce_iff h _).mpr hfirst)).mpr hrest part hrestpart

/-- What a new view shows that follows an element through the sessions of a log, the first one
included. -/
def viewSince (s : Session) (elementId : String) (log : List Action) : InlineView :=
  viewAlong elementId s (({} : InlineView).heed (s.inline.find? elementId)) log

theorem viewSince_append (s : Session) (elementId : String) (log more : List Action) :
    s.viewSince elementId (log ++ more) =
      viewAlong elementId (s.reduceAll log) (s.viewSince elementId log) more :=
  s.viewAlong_append _ log more

/-- It shows something that is ready, and nothing that was dismissed. -/
theorem attached_viewSince (s : Session) {elementId : String} {log : List Action}
    {state : InlineState} (hstate : (s.reduceAll log).inline.find? elementId = some state)
    (hembedded : state.isEmbedded = false) :
    (s.viewSince elementId log).attached = state.shown? := by
  have hlast : (s.viewSince elementId log).heed (some state) = s.viewSince elementId log :=
    hstate ▸ s.viewAlong_heed {} log
  have hattached : ((s.viewSince elementId log).heed (some state)).attached = state.shown? :=
    InlineView.heed_attached_iff.mpr (InlineView.not_misses_of_not_embedded hembedded)
  rw [hlast] at hattached
  exact hattached

/-- **It shows what it should in every session** exactly if no commit parts it from its element. -/
theorem viewSince_iff (s : Session) (elementId : String) (log : List Action) :
    (∀ part, part <+: log →
        (s.viewSince elementId part).attached = (s.reduceAll part).shownAt? elementId) ↔
      s.Along (fun s a => ¬ s.Parts elementId a) log := by
  have hblank : ¬ ({} : InlineView).Misses (s.inline.find? elementId) := fun ⟨_, hattached, _⟩ =>
    Option.some_ne_none _ hattached.symm
  exact viewAlong_iff (InlineView.heed_attached_iff.mpr hblank) log

end Session

end InAppMessaging
