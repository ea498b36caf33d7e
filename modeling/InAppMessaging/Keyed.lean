/-!
# Maps keyed by text

Everything the engine looks up by name (preferences, inline elements, shown queue ids) is a
finite map from texts to values.  `Keyed` keeps the entries in strictly ascending order of
the key, by code point, so a map has one representation: two maps with the same bindings
are equal, and listing a map needs no sorting.

* `insert`, `erase`, `find?` and `filterKeys` keep the order (`insertEntry_ascending`,
  `List.Pairwise.filter`);
* `find?_insert_self`, `find?_insert_ne`, `find?_erase_self`, `find?_erase_ne` say what each
  operation does to each key;
* `insert_of_find?` — binding a key to the value it has changes nothing;
* `ofList_entries` — a map is rebuilt from its entries;
* `exists_of_findKey?` — the first entry that passes a test is what its key is bound to.
-/

namespace InAppMessaging

universe u
variable {β : Type u}

/-- The entries are strictly ascending in their keys. -/
def Ascending (entries : List (String × β)) : Prop :=
  entries.Pairwise fun a b => a.1 < b.1

/-- Puts a binding in its place, replacing the one the key had. -/
def insertEntry (key : String) (value : β) : List (String × β) → List (String × β)
  | [] => [(key, value)]
  | entry :: rest =>
      if key < entry.1 then (key, value) :: entry :: rest
      else if key = entry.1 then (key, value) :: rest
      else entry :: insertEntry key value rest

/-- A key of the result is the new key or was a key before. -/
theorem mem_insertEntry {key : String} {value : β} {e : String × β} :
    ∀ {entries : List (String × β)}, e ∈ insertEntry key value entries →
      e = (key, value) ∨ e ∈ entries
  | [], h => by simpa [insertEntry] using h
  | entry :: rest, h => by
      unfold insertEntry at h
      split at h
      · simpa using h
      · split at h
        · rcases List.mem_cons.mp h with h | h
          · exact Or.inl h
          · exact Or.inr (List.mem_cons_of_mem _ h)
        · rcases List.mem_cons.mp h with h | h
          · exact Or.inr (h ▸ List.mem_cons_self)
          · rcases mem_insertEntry h with h | h
            · exact Or.inl h
            · exact Or.inr (List.mem_cons_of_mem _ h)

theorem lt_of_not_lt_of_ne {a b : String} (h : ¬ a < b) (hne : a ≠ b) : b < a := by
  exact Std.lt_of_le_of_ne (String.not_lt.mp h) (Ne.symm hne)

/-- Inserting keeps the order of the keys. -/
theorem insertEntry_ascending (key : String) (value : β) :
    ∀ {entries : List (String × β)}, Ascending entries → Ascending (insertEntry key value entries)
  | [], _ => by simp [insertEntry, Ascending]
  | entry :: rest, h => by
      obtain ⟨hhead, hrest⟩ := List.pairwise_cons.mp h
      unfold insertEntry
      split
      · next hlt =>
          refine List.pairwise_cons.mpr ⟨?_, h⟩
          intro e he
          rcases List.mem_cons.mp he with rfl | he
          · exact hlt
          · exact String.lt_trans hlt (hhead e he)
      · next hnlt =>
          split
          · next heq =>
              refine List.pairwise_cons.mpr ⟨?_, hrest⟩
              intro e he
              show key < e.1
              rw [heq]
              exact hhead e he
          · next hne =>
              refine List.pairwise_cons.mpr ⟨?_, insertEntry_ascending key value hrest⟩
              intro e he
              rcases mem_insertEntry he with rfl | he
              · exact lt_of_not_lt_of_ne hnlt hne
              · exact hhead e he

/-- A key above all others goes to the end. -/
theorem insertEntry_last {key : String} (value : β) :
    ∀ {entries : List (String × β)}, (∀ e ∈ entries, e.1 < key) →
      insertEntry key value entries = entries ++ [(key, value)]
  | [], _ => rfl
  | entry :: rest, h => by
      have hlt : entry.1 < key := h entry List.mem_cons_self
      have hnot : ¬ key < entry.1 := String.not_lt.mpr (Std.le_of_lt hlt)
      have hne : key ≠ entry.1 := fun heq => String.lt_irrefl key (heq ▸ hlt)
      rw [insertEntry, if_neg hnot, if_neg hne,
        insertEntry_last value fun e he => h e (List.mem_cons_of_mem _ he)]
      rfl

/-- A finite map from texts to values, its entries in ascending order of the key. -/
structure Keyed (β : Type u) where
  entries : List (String × β)
  ascending : Ascending entries
deriving DecidableEq

namespace Keyed

/-- The map without entries. -/
def empty : Keyed β := ⟨[], List.Pairwise.nil⟩

instance : Inhabited (Keyed β) := ⟨empty⟩

theorem ext_entries {a b : Keyed β} (h : a.entries = b.entries) : a = b := by
  cases a; cases b; cases h; rfl

/-- The value bound to a key. -/
def find? (m : Keyed β) (key : String) : Option β :=
  (m.entries.find? fun entry => entry.1 = key).map (·.2)

/-- Whether a key is bound. -/
def contains (m : Keyed β) (key : String) : Bool := (m.find? key).isSome

/-- Binds a key, replacing its earlier value. -/
def insert (m : Keyed β) (key : String) (value : β) : Keyed β :=
  ⟨insertEntry key value m.entries, insertEntry_ascending key value m.ascending⟩

/-- Keeps the bindings whose key passes a test. -/
def filterKeys (m : Keyed β) (keep : String → Bool) : Keyed β :=
  ⟨m.entries.filter fun entry => keep entry.1, m.ascending.filter _⟩

/-- Forgets a key. -/
def erase (m : Keyed β) (key : String) : Keyed β := m.filterKeys fun k => decide (k ≠ key)

/-- The keys in ascending order. -/
def keys (m : Keyed β) : List String := m.entries.map (·.1)

/-- The values in the order of their keys. -/
def values (m : Keyed β) : List β := m.entries.map (·.2)

/-- The number of keys. -/
def size (m : Keyed β) : Nat := m.entries.length

/-- Whether nothing is bound. -/
def isEmpty (m : Keyed β) : Bool := m.entries.isEmpty

/-- The map of a list of bindings, a later binding of a key winning. -/
def ofList (entries : List (String × β)) : Keyed β :=
  entries.foldl (fun m entry => m.insert entry.1 entry.2) empty

/-- The first entry, in key order, whose value passes a test. -/
def findKey? (m : Keyed β) (test : β → Bool) : Option String :=
  (m.entries.find? fun entry => test entry.2).map (·.1)

theorem find?_insertEntry_self (key : String) (value : β) :
    ∀ entries : List (String × β),
      ((insertEntry key value entries).find? fun entry => entry.1 = key) = some (key, value)
  | [] => by simp [insertEntry]
  | entry :: rest => by
      unfold insertEntry
      split
      · simp
      · split
        · simp
        · next hne =>
            have : ¬ entry.1 = key := fun h => hne h.symm
            simp [this, find?_insertEntry_self key value rest]

theorem find?_insertEntry_ne {key other : String} (value : β) (h : other ≠ key) :
    ∀ entries : List (String × β),
      ((insertEntry key value entries).find? fun entry => entry.1 = other) =
        entries.find? fun entry => entry.1 = other
  | [] => by simp [insertEntry, Ne.symm h]
  | entry :: rest => by
      unfold insertEntry
      split
      · simp [Ne.symm h]
      · split
        · next heq =>
            subst heq
            simp [Ne.symm h]
        · simp only [List.find?_cons, find?_insertEntry_ne value h rest]

theorem find?_insert_self (m : Keyed β) (key : String) (value : β) :
    (m.insert key value).find? key = some value := by
  simp [find?, insert, find?_insertEntry_self]

theorem find?_insert_ne (m : Keyed β) {key other : String} (value : β) (h : other ≠ key) :
    (m.insert key value).find? other = m.find? other := by
  simp [find?, insert, find?_insertEntry_ne value h]

/-- Keeping some keys keeps their values. -/
theorem find?_filterKeys (m : Keyed β) (keep : String → Bool) (key : String) :
    (m.filterKeys keep).find? key = if keep key then m.find? key else none := by
  unfold find? filterKeys
  simp only [List.find?_filter]
  by_cases hk : keep key = true
  · rw [if_pos hk]
    congr 2
    funext entry
    by_cases he : entry.1 = key <;> simp [he, hk]
  · rw [if_neg hk, List.find?_eq_none.mpr]
    · rfl
    · intro entry _ h
      simp only [decide_eq_true_eq] at h
      exact hk (h.2 ▸ h.1)

theorem find?_erase_self (m : Keyed β) (key : String) : (m.erase key).find? key = none := by
  simp [find?, erase, filterKeys, List.find?_filter]

/-- Forgetting a key leaves the others alone. -/
theorem find?_erase_ne (m : Keyed β) {key other : String} (h : other ≠ key) :
    (m.erase key).find? other = m.find? other := by
  simp only [find?, erase, filterKeys, List.find?_filter]
  congr 2
  funext entry
  by_cases he : entry.1 = other <;> simp [he, h]

/-- In ascending entries every entry is the first one with its key. -/
theorem find?_of_mem_ascending {key : String} {value : β} :
    ∀ {entries : List (String × β)}, Ascending entries → (key, value) ∈ entries →
      (entries.find? fun entry => entry.1 = key) = some (key, value)
  | [], _, hmem => absurd hmem List.not_mem_nil
  | first :: rest, hascending, hmem => by
      obtain ⟨hfirst, hrest⟩ := List.pairwise_cons.mp hascending
      rcases List.mem_cons.mp hmem with rfl | hmem
      · exact List.find?_cons_of_pos (decide_eq_true rfl)
      · have hne : ¬ first.1 = key := by
          intro heq
          have hlt : first.1 < key := hfirst (key, value) hmem
          rw [heq] at hlt
          exact String.lt_irrefl key hlt
        rw [List.find?_cons_of_neg (by simpa using hne)]
        exact find?_of_mem_ascending hrest hmem

/-- The first entry that passes a test is what its key is bound to. -/
theorem exists_of_findKey? {m : Keyed β} {test : β → Bool} {key : String}
    (h : m.findKey? test = some key) : ∃ value, m.find? key = some value ∧ test value = true := by
  unfold findKey? at h
  obtain ⟨entry, hfound, rfl⟩ := Option.map_eq_some_iff.mp h
  have htest := List.find?_some hfound
  have hentry := find?_of_mem_ascending m.ascending (List.mem_of_find?_eq_some hfound)
  refine ⟨entry.2, ?_, htest⟩
  unfold find?
  rw [hentry]
  rfl

/-- Putting an entry where it is changes nothing. -/
theorem insertEntry_of_mem {key : String} {value : β} :
    ∀ {entries : List (String × β)}, Ascending entries → (key, value) ∈ entries →
      insertEntry key value entries = entries
  | [], _, hmem => absurd hmem List.not_mem_nil
  | first :: rest, hascending, hmem => by
      obtain ⟨hfirst, hrest⟩ := List.pairwise_cons.mp hascending
      unfold insertEntry
      rcases List.mem_cons.mp hmem with rfl | hmem
      · rw [if_neg (String.lt_irrefl key), if_pos rfl]
      · have hlt : first.1 < key := hfirst (key, value) hmem
        have hne : key ≠ first.1 := fun heq => String.lt_irrefl key (heq ▸ hlt)
        rw [if_neg (String.not_lt.mpr (Std.le_of_lt hlt)), if_neg hne,
          insertEntry_of_mem hrest hmem]

/-- Binding a key to the value it has changes nothing. -/
theorem insert_of_find? {m : Keyed β} {key : String} {value : β} (h : m.find? key = some value) :
    m.insert key value = m := by
  unfold find? at h
  obtain ⟨entry, hfound, rfl⟩ := Option.map_eq_some_iff.mp h
  have htest := List.find?_some hfound
  have hkey : entry.1 = key := of_decide_eq_true htest
  have hmem : (key, entry.2) ∈ m.entries := hkey ▸ List.mem_of_find?_eq_some hfound
  exact ext_entries (insertEntry_of_mem m.ascending hmem)

/-- Putting the entries of a map into the beginning of it gives the map. -/
theorem foldl_insert {before after : List (String × β)} (h : Ascending (before ++ after)) :
    ∀ {m : Keyed β}, m.entries = before →
      (after.foldl (fun m entry => m.insert entry.1 entry.2) m).entries = before ++ after := by
  induction after generalizing before with
  | nil =>
      intro m hm
      rw [List.append_nil]
      exact hm
  | cons entry after ih =>
      intro m hm
      have habove : ∀ e ∈ m.entries, e.1 < entry.1 := by
        intro e he
        exact (List.pairwise_append.mp h).2.2 e (hm ▸ he) entry List.mem_cons_self
      have hinsert : (m.insert entry.1 entry.2).entries = before ++ [entry] := by
        rw [← hm]
        exact insertEntry_last entry.2 habove
      rw [List.append_cons] at h ⊢
      exact ih h hinsert

/-- A map is rebuilt from its entries. -/
theorem ofList_entries (m : Keyed β) : ofList m.entries = m := by
  have hascending : Ascending ([] ++ m.entries) := m.ascending
  exact ext_entries (foldl_insert hascending rfl)

/-- Forgetting a key that is not bound changes nothing. -/
theorem erase_of_absent {m : Keyed β} {key : String} (h : m.find? key = none) :
    m.erase key = m := by
  apply ext_entries
  show (m.entries.filter fun entry => decide (entry.1 ≠ key)) = m.entries
  rw [List.filter_eq_self]
  intro entry hentry
  have hnone : (m.entries.find? fun entry => entry.1 = key) = none := by
    simpa [find?] using h
  simpa using List.find?_eq_none.mp hnone entry hentry

/-- Forgetting keys one after the other keeps the keys that are not among them. -/
theorem foldl_erase (keys : List String) (m : Keyed β) :
    keys.foldl erase m = m.filterKeys fun key => decide (key ∉ keys) := by
  induction keys generalizing m with
  | nil =>
      apply ext_entries
      exact (List.filter_eq_self.mpr fun _ _ => decide_eq_true List.not_mem_nil).symm
  | cons first rest ih =>
      rw [List.foldl_cons, ih]
      apply ext_entries
      simp only [erase, filterKeys, List.filter_filter]
      refine List.filter_congr fun entry _ => ?_
      simp [Bool.and_comm]

end Keyed

/-- A finite set of texts. -/
abbrev TextSet := Keyed Unit

/-- Adds a text to a set. -/
def TextSet.add (s : TextSet) (text : String) : TextSet := Keyed.insert s text ()

/-- What is in a set stays there when a text is added. -/
theorem TextSet.contains_add {s : TextSet} {text : String} (h : s.contains text = true)
    (other : String) : (s.add other).contains text = true := by
  unfold add Keyed.contains
  by_cases heq : text = other
  · subst heq
    rw [Keyed.find?_insert_self]
    rfl
  · rw [Keyed.find?_insert_ne _ _ heq]
    exact h

end InAppMessaging
