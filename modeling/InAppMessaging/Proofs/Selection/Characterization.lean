import InAppMessaging.Proofs.Selection
import Mathlib.Data.List.Permutation

/-!
# Selection characterised

What is selected of a list of messages, said without the scans and the sort that select it.  The
queue takes the first message with each queue id that was not shown, by priority and, where
priorities are the same, by its place in the list.  The modal surface and each element that shows
nothing get the first message of the queue that is meant for them and fits the route.  Whatever
the list, with ties, repetitions and messages without an id, one selection is like that
(`Session.Selects.unique`), and it is the one that is made.

A queue that is selected from once more, when more messages were shown, gives what the list it
came from would give.

* `candidates_before` — the candidates are in their order, ties as in the list;
* `mem_candidates_iff` — which messages are candidates;
* `Session.select_eq_iff` — **what selection makes of a list, and nothing else does**;
* `filter_candidates` — the candidates that were not shown since are the candidates of now;
* `select_candidates` — **selecting from the candidates is selecting from the list.**
-/

namespace InAppMessaging

variable {messages : List Message} {shown : TextSet} {s : Session} {m : Message}

/-! ## The order of the queue -/

/-- A message goes before another one of a list: it has a priority and the other one none or a
greater one, or the two have the same and it comes first in the list. -/
def Message.Before (messages : List Message) (a b : Message) : Prop :=
  (∃ p, a.priority = some p ∧ ∀ q, b.priority = some q → p < q) ∨
    (a.priority = b.priority ∧ messages.idxOf a < messages.idxOf b)

/-- Of two messages only one goes before the other. -/
theorem Message.Before.asymm {a b : Message} (h : Message.Before messages a b) :
    ¬ Message.Before messages b a := by
  intro h'
  rcases h with ⟨p, hp, hless⟩ | ⟨hsame, hfirst⟩
  · rcases h' with ⟨q, hq, hless'⟩ | ⟨hsame, -⟩
    · exact Int32.lt_asymm (hless q hq) (hless' p hp)
    · exact Int32.lt_irrefl (hless p (hsame.trans hp))
  · rcases h' with ⟨q, hq, hless'⟩ | ⟨-, hfirst'⟩
    · exact Int32.lt_irrefl (hless' q (hsame.trans hq))
    · omega

/-- **Messages are put in that order in one way only.** -/
theorem eq_of_before {xs ys : List Message} (hxs : xs.Pairwise (Message.Before messages))
    (hys : ys.Pairwise (Message.Before messages)) (hmem : ∀ m, m ∈ xs ↔ m ∈ ys) : xs = ys := by
  have hnodup : ∀ {zs : List Message}, zs.Pairwise (Message.Before messages) → zs.Nodup := by
    intro zs hzs
    refine hzs.imp ?_
    rintro a b hbefore rfl
    exact hbefore.asymm hbefore
  have hperm : xs.Perm ys :=
    (List.perm_ext_iff_of_nodup (hnodup hxs) (hnodup hys)).mpr hmem
  exact List.Perm.eq_of_pairwise (fun a b _ _ h h' => absurd h' h.asymm) hxs hys hperm

/-- Of two priorities that differ the one that does not go behind is there, and smaller. -/
theorem lt_of_urgencyLe {p q : Option Int32} (h : urgencyLe p q = true) (hne : p ≠ q) :
    ∃ x, p = some x ∧ ∀ y, q = some y → x < y := by
  cases p with
  | none =>
      cases q with
      | none => exact absurd rfl hne
      | some y => exact absurd h Bool.false_ne_true
  | some x =>
      refine ⟨x, rfl, ?_⟩
      rintro y rfl
      refine Int32.lt_of_le_of_ne (of_decide_eq_true h) ?_
      rintro rfl
      exact hne rfl

/-- Messages of one priority are left in the order in which they are. -/
theorem filter_mergeSort_level (messages : List Message) (p : Option Int32) :
    ((messages.mergeSort moreUrgent).filter fun m => m.priority = p) =
      messages.filter fun m => m.priority = p := by
  have hlevel : (messages.filter fun m => m.priority = p).Pairwise fun a b =>
      moreUrgent a b = true := by
    refine List.pairwise_of_forall_mem_list ?_
    intro a ha b hb
    have hpa : a.priority = p := of_decide_eq_true (List.mem_filter.mp ha).2
    have hpb : b.priority = p := of_decide_eq_true (List.mem_filter.mp hb).2
    unfold moreUrgent
    rw [hpa, hpb]
    exact (Bool.or_self _).symm.trans (urgencyLe_total p p)
  have hkept := List.sublist_mergeSort moreUrgent_trans moreUrgent_total hlevel
    List.filter_sublist
  have hsub := hkept.filter fun m => m.priority = p
  rw [List.filter_filter] at hsub
  simp only [Bool.and_self] at hsub
  have hlength := ((List.mergeSort_perm messages moreUrgent).filter fun m =>
    m.priority = p).length_eq
  exact (hsub.eq_of_length hlength.symm).symm

/-- **The candidates are in their order**, ties as in the list. -/
theorem candidates_before (messages : List Message) (shown : TextSet) :
    (candidates messages shown).Pairwise (Message.Before messages) := by
  refine List.pairwise_iff_forall_sublist.mpr ?_
  intro a b hab
  have hurgent : urgencyLe a.priority b.priority = true :=
    List.pairwise_iff_forall_sublist.mp (candidates_sorted messages shown) hab
  by_cases hlevel : a.priority = b.priority
  · refine Or.inr ⟨hlevel, ?_⟩
    -- Both are of one priority, so they stand as they did before the sort, by first places.
    have hpair := hab.filter fun m => m.priority = b.priority
    have hboth : ([a, b].filter fun m => m.priority = b.priority) = [a, b] := by
      simp [hlevel]
    rw [hboth] at hpair
    unfold candidates at hpair
    rw [filter_mergeSort_level] at hpair
    exact List.pairwise_iff_forall_sublist.mp (firstOfEach_pairwise_idxOf [] messages)
      (hpair.trans List.filter_sublist)
  · exact Or.inl (lt_of_urgencyLe hurgent hlevel)

/-! ## What is picked -/

/-- **Which messages are candidates**: those that are the first with their queue id, where that was
not shown. -/
theorem mem_candidates_iff : m ∈ candidates messages shown ↔
    ∃ queueId, shown.contains queueId = false ∧
      IsFirst (fun other => other.queueId = some queueId) messages m := by
  unfold candidates
  rw [List.mem_mergeSort]
  exact mem_firstOfEach_of_free fun _ _ => freshId_eq_some_iff

/-- A message is meant for an element, or without one for the modal surface, and fits the
route. -/
def Message.FitsAt (m : Message) (place route : Option String) : Prop :=
  m.delivery.elementId = place ∧ m.matchesRoute route = true

/-- An element shows a message. -/
def InlineSurfaces.Shows (surfaces : InlineSurfaces) (elementId : String) : Prop :=
  ∃ m name, surfaces.find? elementId = some (.embedded m name)

/-- Whether an element shows a message is a matter of its state. -/
theorem InlineSurfaces.not_shows_iff {surfaces : InlineSurfaces} {elementId : String} :
    ¬ surfaces.Shows elementId ↔
      (surfaces.find? elementId).any InlineState.isEmbedded = false := by
  unfold Shows
  cases surfaces.find? elementId with
  | none => simp
  | some state => cases state <;> simp [InlineState.isEmbedded]

/-- The pick for the modal surface is the first message that is meant for it and fits. -/
theorem modalCandidate?_eq_some_iff {route : Option String} :
    modalCandidate? messages route = some m ↔
      IsFirst (fun m => m.FitsAt none route) messages m := by
  unfold modalCandidate?
  rw [find?_eq_some_iff_isFirst]
  refine IsFirst.congr ?_
  intro other
  unfold Message.FitsAt Message.isEmbedded
  rw [Bool.and_eq_true, Bool.not_eq_true', Option.isSome_eq_false_iff, Option.isNone_iff_eq_none]

/-- The picks for the elements are the first messages that are meant for each and fit, where the
element shows nothing. -/
theorem mem_inlineCandidates_iff : m ∈ inlineCandidates messages s ↔
    ∃ elementId, ¬ s.inline.Shows elementId ∧
      IsFirst (fun m => m.FitsAt (some elementId) s.route) messages m := by
  refine mem_firstOfEach_of_free ?_
  intro elementId other
  rw [InlineSurfaces.not_shows_iff]
  exact freeElement_eq_some_iff

/-! ## The whole selection -/

/-- What a selection from a list of messages has to be for a session. -/
structure Session.Selects (s : Session) (messages : List Message) (picked : Selection) :
    Prop where
  /-- A message is queued if it is the first with its queue id, and that was not shown. -/
  queued : ∀ m, m ∈ picked.queue ↔ ∃ queueId, s.shown.contains queueId = false ∧
    IsFirst (fun other => other.queueId = some queueId) messages m
  /-- It is queued once. -/
  once : picked.queue.Nodup
  /-- The queue is ordered by priority, those without one last and ties as in the list. -/
  ordered : picked.queue.Pairwise (Message.Before messages)
  /-- The pick for the modal surface is the first of the queue that is meant for it and fits. -/
  modal : ∀ m, picked.modal = some m ↔ IsFirst (fun m => m.FitsAt none s.route) picked.queue m
  /-- There is none exactly if no message of the queue is. -/
  unpicked : picked.modal = none ↔ ∀ m ∈ picked.queue, ¬ m.FitsAt none s.route
  /-- A pick for an element is the first of the queue that is meant for it and fits, and the
  element shows nothing. -/
  inline : ∀ m, m ∈ picked.inline ↔ ∃ elementId, ¬ s.inline.Shows elementId ∧
    IsFirst (fun m => m.FitsAt (some elementId) s.route) picked.queue m
  /-- Each element that shows nothing has a pick if any message of the queue is meant for it and
  fits. -/
  served : ∀ elementId, ¬ s.inline.Shows elementId →
    (∃ m ∈ picked.queue, m.FitsAt (some elementId) s.route) →
      ∃ m ∈ picked.inline, m.delivery.elementId = some elementId
  /-- No element has two. -/
  apart : picked.inline.Pairwise fun a b => a.delivery.elementId ≠ b.delivery.elementId
  /-- The picks are in the order of the queue. -/
  inOrder : picked.inline.Sublist picked.queue

namespace Session

/-- The selection that is made is like that. -/
theorem selects_select (s : Session) (messages : List Message) :
    s.Selects messages (s.select messages) where
  queued := fun m => mem_candidates_iff
  once := nodup_candidates messages s.shown
  ordered := candidates_before messages s.shown
  modal := fun m => modalCandidate?_eq_some_iff
  unpicked := by
    constructor
    · intro hnone m hm hfits
      obtain ⟨first, hfirst⟩ : ∃ first, IsFirst (fun m => m.FitsAt none s.route)
          (s.select messages).queue first := exists_isFirst hm hfits
      have hpicked : (s.select messages).modal = some first :=
        modalCandidate?_eq_some_iff.mpr hfirst
      exact absurd (hnone.symm.trans hpicked).symm (Option.some_ne_none first)
    · intro hnone
      refine Option.eq_none_iff_forall_ne_some.mpr ?_
      intro m hpicked
      have hfirst := modalCandidate?_eq_some_iff.mp hpicked
      exact hnone m hfirst.mem hfirst.passes
  inline := fun m => mem_inlineCandidates_iff
  served := by
    rintro elementId hfree ⟨m, hm, hfits⟩
    obtain ⟨first, hfirst⟩ : ∃ first, IsFirst (fun m => m.FitsAt (some elementId) s.route)
        (s.select messages).queue first := exists_isFirst hm hfits
    exact ⟨first, mem_inlineCandidates_iff.mpr ⟨elementId, hfree, hfirst⟩, hfirst.passes.1⟩
  apart := inlineCandidates_pairwise _ s
  inOrder := firstOfEach_sublist _ _ _

/-- **There is no other one.** -/
theorem Selects.unique {picked other : Selection} (h : s.Selects messages picked)
    (h' : s.Selects messages other) : picked = other := by
  have hqueue : picked.queue = other.queue :=
    eq_of_before h.ordered h'.ordered fun m => (h.queued m).trans (h'.queued m).symm
  have hmodal : picked.modal = other.modal := by
    apply Option.ext
    intro m
    rw [h.modal m, h'.modal m, hqueue]
  have hinline : picked.inline = other.inline := by
    refine eq_of_before (h.ordered.sublist h.inOrder) (h'.ordered.sublist h'.inOrder) ?_
    intro m
    rw [h.inline m, h'.inline m, hqueue]
  cases picked
  cases other
  subst hqueue hmodal hinline
  rfl

/-- **What selection makes of a list of messages, and nothing else does**: the queue, the pick for
the modal surface and the picks for the elements are determined by what they have to be. -/
theorem select_eq_iff (s : Session) (messages : List Message) (picked : Selection) :
    s.select messages = picked ↔ s.Selects messages picked := by
  constructor
  · rintro rfl
    exact s.selects_select messages
  · intro h
    exact (s.selects_select messages).unique h

end Session

/-! ## Selecting again -/

/-- Of candidates those are candidates again that were not shown since. -/
theorem candidates_candidates (messages : List Message) (shown shown' : TextSet) :
    candidates (candidates messages shown) shown' =
      (candidates messages shown).filter fun m => (freshId shown' m).isSome := by
  have hfirst : firstOfEach (freshId shown') [] (candidates messages shown) =
      (candidates messages shown).filter fun m => (freshId shown' m).isSome := by
    refine firstOfEach_of_pairwise ?_ fun _ _ _ hk => absurd hk List.not_mem_nil
    refine (candidates_distinct messages shown).imp ?_
    intro a b hne k ha hb
    exact hne ((freshId_eq_some_iff.mp ha).1.trans (freshId_eq_some_iff.mp hb).1.symm)
  have hsorted := (candidates_sorted messages shown).filter fun m => (freshId shown' m).isSome
  rw [candidates, hfirst, List.mergeSort_of_pairwise hsorted]

/-- **The candidates that were not shown since are the candidates of now.** -/
theorem filter_candidates {shown shown' : TextSet}
    (hshown : ∀ queueId, shown.contains queueId = true → shown'.contains queueId = true)
    (messages : List Message) :
    ((candidates messages shown).filter fun m => (freshId shown' m).isSome) =
      candidates messages shown' := by
  refine eq_of_before ((candidates_before messages shown).filter _)
    (candidates_before messages shown') ?_
  intro m
  rw [List.mem_filter, Option.isSome_iff_exists, mem_candidates_iff, mem_candidates_iff]
  constructor
  · rintro ⟨⟨queueId, -, hfirst⟩, fresh, hfresh⟩
    obtain ⟨hid, hnew⟩ := freshId_eq_some_iff.mp hfresh
    obtain rfl := Option.some.inj (hfirst.passes.symm.trans hid)
    exact ⟨queueId, hnew, hfirst⟩
  · rintro ⟨queueId, hnew, hfirst⟩
    refine ⟨⟨queueId, ?_, hfirst⟩, queueId, freshId_eq_some_iff.mpr ⟨hfirst.passes, hnew⟩⟩
    cases hold : shown.contains queueId with
    | false => rfl
    | true => exact absurd (hnew.symm.trans (hshown queueId hold)) Bool.false_ne_true

/-- A selection is a matter of the candidates. -/
theorem Session.select_congr {given : List Message}
    (h : candidates given s.shown = candidates messages s.shown) :
    s.select given = s.select messages := by
  unfold select
  rw [h]

/-- **Selecting from the candidates is selecting from the list they came from**, also when more
messages were shown meanwhile. -/
theorem select_candidates (messages : List Message) (shown : TextSet) :
    (∀ shown' : TextSet,
      (∀ queueId, shown.contains queueId = true → shown'.contains queueId = true) →
        candidates (candidates messages shown) shown' = candidates messages shown') ∧
    ∀ s : Session,
      (∀ queueId, shown.contains queueId = true → s.shown.contains queueId = true) →
        s.select (candidates messages shown) = s.select messages := by
  have hagain : ∀ shown' : TextSet,
      (∀ queueId, shown.contains queueId = true → shown'.contains queueId = true) →
        candidates (candidates messages shown) shown' = candidates messages shown' := by
    intro shown' hshown
    exact (candidates_candidates messages shown shown').trans (filter_candidates hshown messages)
  refine ⟨hagain, ?_⟩
  intro s hshown
  exact Session.select_congr (hagain s.shown hshown)

/-- A list with a tie, a repetition and a message that cannot be told. -/
def rankedList : List Message :=
  [{ id := "plain", queueId := some "p" },
   { id := "urgent", priority := some 1, queueId := some "u" },
   { id := "untracked", priority := some 0 },
   { id := "twin", priority := some 0, queueId := some "p" },
   { id := "tie", priority := some 1, queueId := some "t" }]

/-- The candidates of the ranked list are selected from once more when the urgent message was
shown. -/
theorem rankedList_again :
    let early := TextSet.add .empty "x"
    let late := early.add "u"
    let s : Session := { shown := late }
    (candidates rankedList early).map (·.id) = ["urgent", "tie", "plain"] ∧
      candidates (candidates rankedList early) late = candidates rankedList late ∧
      s.select (candidates rankedList early) = s.select rankedList ∧
      (s.select rankedList).queue.map (·.id) = ["tie", "plain"] := by
  intro early late s
  have hshown : ∀ queueId, early.contains queueId = true → late.contains queueId = true :=
    fun _ h => TextSet.contains_add h "u"
  obtain ⟨hcandidates, hselect⟩ := select_candidates rankedList early
  exact ⟨by cbv, hcandidates late hshown, hselect s hshown, by cbv⟩

end InAppMessaging
