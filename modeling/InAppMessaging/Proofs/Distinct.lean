import InAppMessaging.Distinct

/-!
# The first item with each key

* `IsFirst` — an item is the first one of a list that passes a test;
* `mem_firstOfEach` — **the items kept are the first ones with their keys**;
* `mem_firstOfEach_of_free` — the same where a key is had by a test and by being free;
* `firstOfEach_pairwise` — no two of them have the same key;
* `firstOfEach_pairwise_idxOf` — each stands where the list has it first;
* `firstOfEach_of_pairwise` — of items with different keys all are kept that have one.
-/

namespace InAppMessaging

variable {α κ : Type}

/-! ## The first item that passes a test -/

/-- An item is the first one of a list that passes a test. -/
inductive IsFirst (test : α → Prop) : List α → α → Prop
  | here {a : α} {rest : List α} (h : test a) : IsFirst test (a :: rest) a
  | later {a b : α} {rest : List α} (hb : ¬ test b) (h : IsFirst test rest a) :
      IsFirst test (b :: rest) a

section IsFirst

variable {test : α → Prop} {items : List α} {a b : α}

theorem IsFirst.mem (h : IsFirst test items a) : a ∈ items := by
  induction h with
  | here h => exact List.mem_cons_self
  | later hb h ih => exact List.mem_cons_of_mem _ ih

theorem IsFirst.passes (h : IsFirst test items a) : test a := by
  induction h with
  | here h => exact h
  | later hb h ih => exact ih

/-- Tests that say the same are first passed by the same item. -/
theorem IsFirst.congr {test' : α → Prop} (h : ∀ b, test b ↔ test' b) :
    IsFirst test items a ↔ IsFirst test' items a := by
  have hsame : test = test' := funext fun b => propext (h b)
  rw [hsame]

/-- If any item passes a test, one is the first to pass it. -/
theorem exists_isFirst (hb : b ∈ items) (hpasses : test b) : ∃ a, IsFirst test items a := by
  induction items with
  | nil => exact absurd hb List.not_mem_nil
  | cons c rest ih =>
      by_cases hc : test c
      · exact ⟨c, .here hc⟩
      · rcases List.mem_cons.mp hb with rfl | hrest
        · exact absurd hpasses hc
        · obtain ⟨a, ha⟩ := ih hrest
          exact ⟨a, .later hc ha⟩

/-- Searching a list finds the first item that passes the test. -/
theorem find?_eq_some_iff_isFirst {test : α → Bool} :
    items.find? test = some a ↔ IsFirst (fun b => test b = true) items a := by
  induction items with
  | nil =>
      constructor
      · intro h
        exact absurd h.symm (Option.some_ne_none a)
      · intro h
        cases h
  | cons b rest ih =>
      by_cases hb : test b = true
      · rw [List.find?_cons_of_pos hb]
        constructor
        · intro h
          obtain rfl := Option.some.inj h
          exact .here hb
        · intro h
          cases h with
          | here _ => rfl
          | later hnot _ => exact absurd hb hnot
      · rw [List.find?_cons_of_neg hb, ih]
        constructor
        · intro h
          exact .later hb h
        · intro h
          cases h with
          | here hpasses => exact absurd hpasses hb
          | later _ h => exact h

end IsFirst

/-! ## Keys -/

variable [DecidableEq κ] {key : α → Option κ}

/-- An item is passed over if it has no key that is not taken, and kept otherwise. -/
theorem firstOfEach_cons (key : α → Option κ) (taken : List κ) (b : α) (rest : List α) :
    ((∀ k, key b = some k → k ∈ taken) ∧
      firstOfEach key taken (b :: rest) = firstOfEach key taken rest) ∨
    ∃ k, key b = some k ∧ k ∉ taken ∧
      firstOfEach key taken (b :: rest) = b :: firstOfEach key (k :: taken) rest := by
  rw [firstOfEach]
  cases hkey : key b with
  | none => exact Or.inl ⟨fun k hk => absurd hk.symm (Option.some_ne_none k), rfl⟩
  | some k =>
      by_cases htaken : k ∈ taken
      · refine Or.inl ⟨?_, if_pos htaken⟩
        intro l hl
        obtain rfl := Option.some.inj hl
        exact htaken
      · exact Or.inr ⟨k, rfl, htaken, if_neg htaken⟩

/-- **The items kept are the first ones with their keys**, where these were not taken. -/
theorem mem_firstOfEach {taken : List κ} {items : List α} {a : α} :
    a ∈ firstOfEach key taken items ↔
      ∃ k, key a = some k ∧ k ∉ taken ∧ IsFirst (fun b => key b = some k) items a := by
  induction items generalizing taken with
  | nil =>
      constructor
      · intro h
        exact absurd h List.not_mem_nil
      · rintro ⟨k, -, -, hfirst⟩
        cases hfirst
  | cons b rest ih =>
      obtain ⟨hskip, hkept⟩ | ⟨l, hl, hnew, hkept⟩ := firstOfEach_cons key taken b rest
      · rw [hkept, ih]
        -- `b` has none of the keys in question, so it comes before the first item with one.
        constructor
        · rintro ⟨k, hk, hfree, hfirst⟩
          exact ⟨k, hk, hfree, .later (fun hb => hfree (hskip k hb)) hfirst⟩
        · rintro ⟨k, hk, hfree, hfirst⟩
          cases hfirst with
          | here _ => exact absurd (hskip k hk) hfree
          | later _ hrest => exact ⟨k, hk, hfree, hrest⟩
      · rw [hkept, List.mem_cons, ih]
        constructor
        · rintro (rfl | ⟨k, hk, hfree, hfirst⟩)
          · exact ⟨l, hl, hnew, .here hl⟩
          · refine ⟨k, hk, fun htaken => hfree (List.mem_cons_of_mem l htaken), .later ?_ hfirst⟩
            intro hb
            obtain rfl := Option.some.inj (hb.symm.trans hl)
            exact hfree List.mem_cons_self
        · rintro ⟨k, hk, hfree, hfirst⟩
          cases hfirst with
          | here h => exact Or.inl rfl
          | later hb hrest =>
              refine Or.inr ⟨k, hk, ?_, hrest⟩
              intro hmem
              rcases List.mem_cons.mp hmem with rfl | htaken
              · exact hb hl
              · exact hfree htaken

/-- Where the key is a matter of a test of the item and of being free, **those are kept that are
the first to pass the test of a free key**. -/
theorem mem_firstOfEach_of_free {test : κ → α → Prop} {free : κ → Prop}
    (hkey : ∀ k b, key b = some k ↔ test k b ∧ free k) {items : List α} {a : α} :
    a ∈ firstOfEach key [] items ↔ ∃ k, free k ∧ IsFirst (test k) items a := by
  have hsame : ∀ k, free k → ∀ b, key b = some k ↔ test k b := by
    intro k hfree b
    rw [hkey]
    exact and_iff_left hfree
  rw [mem_firstOfEach]
  constructor
  · rintro ⟨k, hk, -, hfirst⟩
    obtain ⟨-, hfree⟩ := (hkey k a).mp hk
    exact ⟨k, hfree, (IsFirst.congr (hsame k hfree)).mp hfirst⟩
  · rintro ⟨k, hfree, hfirst⟩
    have hk : key a = some k := (hkey k a).mpr ⟨hfirst.passes, hfree⟩
    exact ⟨k, hk, List.not_mem_nil, (IsFirst.congr (hsame k hfree)).mpr hfirst⟩

/-- An item that is kept has a key that was not taken. -/
theorem key_of_mem_firstOfEach {taken : List κ} {items : List α} {a : α}
    (h : a ∈ firstOfEach key taken items) : ∃ k, key a = some k ∧ k ∉ taken := by
  obtain ⟨k, hk, hfree, -⟩ := mem_firstOfEach.mp h
  exact ⟨k, hk, hfree⟩

/-- **No two items that are kept have the same key.** -/
theorem firstOfEach_pairwise (taken : List κ) (items : List α) :
    (firstOfEach key taken items).Pairwise fun a b => key a ≠ key b := by
  induction items generalizing taken with
  | nil => exact List.Pairwise.nil
  | cons b rest ih =>
      obtain ⟨-, hkept⟩ | ⟨k, hk, -, hkept⟩ := firstOfEach_cons key taken b rest
      · rw [hkept]
        exact ih taken
      · rw [hkept]
        refine List.pairwise_cons.mpr ⟨?_, ih (k :: taken)⟩
        intro a ha hsame
        obtain ⟨l, hl, hnew⟩ := key_of_mem_firstOfEach ha
        rw [hk, hl] at hsame
        obtain rfl := Option.some.inj hsame
        exact hnew List.mem_cons_self

theorem nodup_firstOfEach (taken : List κ) (items : List α) :
    (firstOfEach key taken items).Nodup :=
  (firstOfEach_pairwise taken items).imp fun hkey heq => hkey (congrArg key heq)

/-- **The items kept are in the order of their first places.** -/
theorem firstOfEach_pairwise_idxOf [DecidableEq α] (taken : List κ) (items : List α) :
    (firstOfEach key taken items).Pairwise fun a b => items.idxOf a < items.idxOf b := by
  induction items generalizing taken with
  | nil => exact List.Pairwise.nil
  | cons b rest ih =>
      -- What is kept behind `b` differs from it, so it stands one place further on than in `rest`.
      have hbehind : ∀ taken', (∀ k, key b = some k → k ∈ taken') →
          ∀ a ∈ firstOfEach key taken' rest, (b :: rest).idxOf a = rest.idxOf a + 1 := by
        intro taken' htaken a ha
        obtain ⟨k, hk, hfree⟩ := key_of_mem_firstOfEach ha
        have hne : b ≠ a := by
          rintro rfl
          exact hfree (htaken k hk)
        rw [List.idxOf_cons, beq_eq_false_iff_ne.mpr hne, cond_false]
      have hshift : ∀ taken', (∀ k, key b = some k → k ∈ taken') →
          (firstOfEach key taken' rest).Pairwise fun a c =>
            (b :: rest).idxOf a < (b :: rest).idxOf c := by
        intro taken' htaken
        refine (ih taken').imp_of_mem ?_
        intro a c ha hc hlt
        rw [hbehind taken' htaken a ha, hbehind taken' htaken c hc]
        omega
      obtain ⟨hskip, hkept⟩ | ⟨k, hk, -, hkept⟩ := firstOfEach_cons key taken b rest
      · rw [hkept]
        exact hshift taken hskip
      · have htaken : ∀ l, key b = some l → l ∈ k :: taken := by
          intro l hl
          obtain rfl := Option.some.inj (hk.symm.trans hl)
          exact List.mem_cons_self
        rw [hkept]
        refine List.pairwise_cons.mpr ⟨?_, hshift _ htaken⟩
        intro a ha
        rw [hbehind _ htaken a ha, List.idxOf_cons_self]
        omega

/-- Of items that all have different keys those are kept that have a key which was not taken. -/
theorem firstOfEach_of_pairwise {taken : List κ} {items : List α}
    (hdistinct : items.Pairwise fun a b => ∀ k, key a = some k → key b ≠ some k)
    (hfree : ∀ a ∈ items, ∀ k ∈ taken, key a ≠ some k) :
    firstOfEach key taken items = items.filter fun a => (key a).isSome := by
  induction items generalizing taken with
  | nil => rfl
  | cons b rest ih =>
      obtain ⟨hb, hrest⟩ := List.pairwise_cons.mp hdistinct
      obtain ⟨hnew, hbehind⟩ := List.forall_mem_cons.mp hfree
      obtain ⟨hskip, hkept⟩ | ⟨k, hk, -, hkept⟩ := firstOfEach_cons key taken b rest
      · have hnone : (key b).isSome = false := by
          cases hkey : key b with
          | none => rfl
          | some k => exact absurd hkey (hnew k (hskip k hkey))
        rw [hkept, List.filter_cons_of_neg (by rw [hnone]; exact Bool.false_ne_true)]
        exact ih hrest hbehind
      · rw [hkept, List.filter_cons_of_pos (by rw [hk]; rfl)]
        refine congrArg (b :: ·) (ih hrest ?_)
        intro a ha l hl
        rcases List.mem_cons.mp hl with rfl | htaken
        · exact hb a ha l hk
        · exact hbehind a ha l htaken

end InAppMessaging
