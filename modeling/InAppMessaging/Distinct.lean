/-!
# Lists without repetitions

`distinct` keeps the first of equal items in its place.  `firstOfEach` keeps the first item
with each key and drops items that have none.

* `mem_distinct` — no item is lost;
* `nodup_distinct` — none is left twice;
* `distinct_of_nodup` — a list without repetitions is left alone;
* `firstOfEach_sublist` — the items kept are in their order.
-/

namespace InAppMessaging

/-- The list without later repetitions of an item. -/
def distinct {α : Type} [DecidableEq α] : List α → List α
  | [] => []
  | a :: rest => a :: (distinct rest).filter (· ≠ a)

/-- Dropping repetitions loses no item. -/
theorem mem_distinct {α : Type} [DecidableEq α] {a : α} :
    ∀ {items : List α}, a ∈ distinct items ↔ a ∈ items
  | [] => by simp [distinct]
  | b :: rest => by
      by_cases h : a = b
      · simp [distinct, h]
      · have ih : a ∈ distinct rest ↔ a ∈ rest := mem_distinct
        simp [distinct, h, ih]

/-- No item is left twice. -/
theorem nodup_distinct {α : Type} [DecidableEq α] :
    ∀ items : List α, (distinct items).Nodup
  | [] => List.Pairwise.nil
  | b :: rest => by
      refine List.pairwise_cons.mpr ⟨?_, (nodup_distinct rest).filter _⟩
      intro a ha
      have := (List.mem_filter.mp ha).2
      simp only [ne_eq, decide_eq_true_eq] at this
      exact Ne.symm this

/-- A list without repetitions is left alone. -/
theorem distinct_of_nodup {α : Type} [DecidableEq α] :
    ∀ {items : List α}, items.Nodup → distinct items = items
  | [], _ => rfl
  | b :: rest, h => by
      obtain ⟨hb, hrest⟩ := List.pairwise_cons.mp h
      rw [distinct, distinct_of_nodup hrest]
      congr 1
      refine List.filter_eq_self.mpr ?_
      intro a ha
      exact decide_eq_true (Ne.symm (hb a ha))

/-- The first item with each key that is not taken yet, in order. -/
def firstOfEach {α κ : Type} [DecidableEq κ] (key : α → Option κ) (taken : List κ) :
    List α → List α
  | [] => []
  | a :: rest =>
      match key a with
      | none => firstOfEach key taken rest
      | some k =>
          if k ∈ taken then firstOfEach key taken rest
          else a :: firstOfEach key (k :: taken) rest

/-- The items kept are in their order. -/
theorem firstOfEach_sublist {α κ : Type} [DecidableEq κ] (key : α → Option κ) :
    ∀ (taken : List κ) (items : List α), (firstOfEach key taken items).Sublist items
  | _, [] => List.Sublist.refl []
  | taken, a :: rest => by
      unfold firstOfEach
      split
      · exact (firstOfEach_sublist key taken rest).cons a
      · split
        · exact (firstOfEach_sublist key taken rest).cons a
        · exact (firstOfEach_sublist key _ rest).cons_cons a

end InAppMessaging
