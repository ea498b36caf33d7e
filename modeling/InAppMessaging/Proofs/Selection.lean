import InAppMessaging.Proofs.Distinct
import InAppMessaging.Selection

/-!
# What selection picks

* `nodup_candidates` — the candidates are distinct, so they are a queue as they stand;
* `candidates_distinct` — no two of them have the same queue id;
* `exists_fresh_of_mem_candidates` — a candidate was not shown;
* `exists_element_of_mem_inlineCandidates` — a message picked for an element fits it, and the
  element shows nothing yet;
* `inlineCandidates_pairwise` — no element gets two messages.
-/

namespace InAppMessaging

variable {messages : List Message} {s : Session} {m : Message}

theorem nodup_candidates (messages : List Message) (shown : TextSet) :
    (candidates messages shown).Nodup :=
  (List.mergeSort_perm _ _).nodup_iff.mpr (nodup_firstOfEach [] messages)

theorem ofList_candidates (messages : List Message) (shown : TextSet) :
    (MessageQueue.ofList (candidates messages shown)).messages = candidates messages shown :=
  distinct_of_nodup (nodup_candidates messages shown)

/-- Of no messages nothing is picked. -/
theorem select_nil (s : Session) : s.select [] = ⟨[], none, []⟩ := by
  have hnone : candidates [] s.shown = [] := List.mergeSort_nil
  unfold Session.select
  rw [hnone]
  rfl

/-- The key by which repetitions are found is the queue id, if it was not shown. -/
theorem freshId_eq_some_iff {shown : TextSet} {q : String} :
    freshId shown m = some q ↔ m.queueId = some q ∧ shown.contains q = false := by
  unfold freshId
  rw [Option.filter_eq_some_iff, Bool.not_eq_true']

/-- A candidate has a queue id that was not shown. -/
theorem exists_fresh_of_mem_candidates {shown : TextSet} (h : m ∈ candidates messages shown) :
    ∃ q, m.queueId = some q ∧ shown.contains q = false := by
  obtain ⟨q, hkey, -⟩ := key_of_mem_firstOfEach (List.mem_mergeSort.mp h)
  exact ⟨q, freshId_eq_some_iff.mp hkey⟩

/-- No two candidates have the same queue id. -/
theorem candidates_distinct (messages : List Message) (shown : TextSet) :
    (candidates messages shown).Pairwise fun a b => a.queueId ≠ b.queueId := by
  have hperm := List.mergeSort_perm (firstOfEach (freshId shown) [] messages) moreUrgent
  have hkeys : (firstOfEach (freshId shown) [] messages).Pairwise fun a b =>
      freshId shown a ≠ freshId shown b := firstOfEach_pairwise [] messages
  have hids : (firstOfEach (freshId shown) [] messages).Pairwise fun a b =>
      a.queueId ≠ b.queueId := by
    refine hkeys.imp_of_mem ?_
    intro a b ha hb hne hsame
    obtain ⟨k, hk, -⟩ := key_of_mem_firstOfEach ha
    obtain ⟨l, hl, -⟩ := key_of_mem_firstOfEach hb
    apply hne
    rw [hk, hl, ← (freshId_eq_some_iff.mp hk).1, ← (freshId_eq_some_iff.mp hl).1, hsame]
  exact hperm.symm.pairwise hids fun hne hsame => hne hsame.symm

/-- The key by which elements are given out is the element a message is meant for, if the message
fits the route and the element shows nothing. -/
theorem freeElement_eq_some_iff {elementId : String} :
    freeElement s m = some elementId ↔
      (m.delivery.elementId = some elementId ∧ m.matchesRoute s.route = true) ∧
        (s.inline.find? elementId).any InlineState.isEmbedded = false := by
  unfold freeElement
  by_cases hroute : m.matchesRoute s.route = true
  · rw [if_pos hroute, Option.filter_eq_some_iff, Bool.not_eq_true']
    exact and_congr_left fun _ => (and_iff_left hroute).symm
  · rw [if_neg hroute]
    constructor
    · intro h
      cases h
    · rintro ⟨⟨-, hmatches⟩, -⟩
      exact absurd hmatches hroute

/-- A message picked for an element has one, and the element shows nothing yet. -/
theorem exists_element_of_mem_inlineCandidates (h : m ∈ inlineCandidates messages s) :
    ∃ elementId, m.delivery.elementId = some elementId ∧
      (s.inline.find? elementId).any InlineState.isEmbedded = false := by
  obtain ⟨elementId, hkey, -⟩ := key_of_mem_firstOfEach h
  obtain ⟨⟨helement, -⟩, hfree⟩ := freeElement_eq_some_iff.mp hkey
  exact ⟨elementId, helement, hfree⟩

/-- No element gets two messages. -/
theorem inlineCandidates_pairwise (messages : List Message) (s : Session) :
    (inlineCandidates messages s).Pairwise fun a b =>
      a.delivery.elementId ≠ b.delivery.elementId := by
  have hkeys : (inlineCandidates messages s).Pairwise fun a b =>
      freeElement s a ≠ freeElement s b := firstOfEach_pairwise [] messages
  refine hkeys.imp_of_mem ?_
  intro a b ha hb hne hsame
  obtain ⟨ka, hka, -⟩ := key_of_mem_firstOfEach ha
  obtain ⟨kb, hkb, -⟩ := key_of_mem_firstOfEach hb
  apply hne
  rw [hka, hkb, ← (freeElement_eq_some_iff.mp hka).1.1, ← (freeElement_eq_some_iff.mp hkb).1.1,
    hsame]

end InAppMessaging
