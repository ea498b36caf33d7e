import InAppMessaging.Keyed

/-!
# Maps by what they bind

The entries of a map are in the order of their keys, so nothing but its bindings tells one map
from another.

* `Keyed.ext_find?` — **maps with the same bindings are equal**;
* `Keyed.keys_eq_iff` — their lists of keys are equal if the same keys are bound;
* `Keyed.insert_insert`, `Keyed.insert_comm` — of two values for one key the later stays, and
  values for two keys may come in either order;
* `Keyed.findKey?_insert` — a value in whose place another is put that fares the same in a test
  leaves alone which key is the first to pass it.
-/

namespace InAppMessaging

universe u
variable {β : Type u}

/-- Ascending entries are all different. -/
theorem Ascending.nodup {entries : List (String × β)} (h : Ascending entries) :
    entries.Nodup := by
  apply h.imp
  intro a b hlt heq
  rw [heq] at hlt
  exact String.lt_irrefl b.1 hlt

/-- Of a test of values, whether the first entry that passes it is at one key or another does not
change when a value is replaced by one that fares the same. -/
theorem findKey_insertEntry {test : β → Bool} {key : String} {old new : β}
    (htest : test new = test old) :
    ∀ {entries : List (String × β)}, Ascending entries → (key, old) ∈ entries →
      ((insertEntry key new entries).find? fun entry => test entry.2).map (·.1) =
        (entries.find? fun entry => test entry.2).map (·.1)
  | [], _, hmem => absurd hmem List.not_mem_nil
  | first :: rest, hascending, hmem => by
      obtain ⟨hfirst, hrest⟩ := List.pairwise_cons.mp hascending
      unfold insertEntry
      rcases List.mem_cons.mp hmem with rfl | hmem
      · rw [if_neg (String.lt_irrefl key), if_pos rfl]
        rw [List.find?_cons, List.find?_cons, htest]
        cases test old <;> rfl
      · have hlt : first.1 < key := hfirst (key, old) hmem
        have hne : key ≠ first.1 := fun heq => String.lt_irrefl key (heq ▸ hlt)
        rw [if_neg (String.not_lt.mpr (Std.le_of_lt hlt)), if_neg hne]
        rw [List.find?_cons, List.find?_cons]
        cases test first.2 with
        | true => rfl
        | false => exact findKey_insertEntry htest hrest hmem

namespace Keyed

variable {m a b : Keyed β} {key other : String} {old new : β}

/-- The entries of a map are its bindings. -/
theorem mem_entries_iff : (key, old) ∈ m.entries ↔ m.find? key = some old := by
  constructor
  · intro hmem
    unfold find?
    rw [find?_of_mem_ascending m.ascending hmem]
    rfl
  · intro hfound
    obtain ⟨entry, hentry, rfl⟩ := Option.map_eq_some_iff.mp hfound
    have htest := List.find?_some hentry
    obtain rfl : entry.1 = key := of_decide_eq_true htest
    exact List.mem_of_find?_eq_some hentry

/-- **Maps with the same bindings are equal.** -/
theorem ext_find? (h : ∀ key, a.find? key = b.find? key) : a = b := by
  have hmem : ∀ entry : String × β, entry ∈ a.entries ↔ entry ∈ b.entries := by
    rintro ⟨key, value⟩
    rw [mem_entries_iff, mem_entries_iff, h]
  have hperm : a.entries.Perm b.entries :=
    (List.perm_ext_iff_of_nodup a.ascending.nodup b.ascending.nodup).mpr hmem
  apply ext_entries
  apply List.Perm.eq_of_pairwise ?_ a.ascending b.ascending hperm
  intro x y _ _ hlt hgt
  exact absurd hgt (String.not_lt.mpr (Std.le_of_lt hlt))

/-- A key is listed exactly if it is bound. -/
theorem mem_keys_iff : key ∈ m.keys ↔ m.contains key = true := by
  unfold keys contains
  rw [List.mem_map, Option.isSome_iff_exists]
  constructor
  · rintro ⟨entry, hentry, rfl⟩
    exact ⟨entry.2, mem_entries_iff.mp hentry⟩
  · rintro ⟨value, hvalue⟩
    exact ⟨(key, value), mem_entries_iff.mpr hvalue, rfl⟩

/-- **Maps list the same keys exactly if they bind the same keys**, since a list of keys is in
the order of the keys and has each of them once. -/
theorem keys_eq_iff : a.keys = b.keys ↔ ∀ key, a.contains key = b.contains key := by
  constructor
  · intro h key
    rw [Bool.eq_iff_iff, ← mem_keys_iff, ← mem_keys_iff, h]
  · intro h
    have hkeys (m : Keyed β) : m.keys.Pairwise (· < ·) := List.pairwise_map.mpr m.ascending
    have hnodup (m : Keyed β) : m.keys.Nodup := (hkeys m).imp String.ne_of_lt
    have hperm : a.keys.Perm b.keys :=
      (List.perm_ext_iff_of_nodup (hnodup a) (hnodup b)).mpr fun key => by
        rw [mem_keys_iff, mem_keys_iff, h]
    apply List.Perm.eq_of_pairwise ?_ (hkeys a) (hkeys b) hperm
    intro x y _ _ hlt hgt
    exact absurd hgt (String.not_lt.mpr (Std.le_of_lt hlt))

/-- What each key is bound to after a key was bound. -/
theorem find?_insert (m : Keyed β) (key : String) (new : β) (other : String) :
    (m.insert key new).find? other = if other = key then some new else m.find? other := by
  by_cases hother : other = key
  · rw [if_pos hother, hother, m.find?_insert_self]
  · rw [if_neg hother, m.find?_insert_ne _ hother]

/-- Of two values for one key the later stays. -/
theorem insert_insert (m : Keyed β) (key : String) (old new : β) :
    (m.insert key old).insert key new = m.insert key new := by
  apply ext_find?
  intro other
  rw [find?_insert, find?_insert, find?_insert]
  split <;> rfl

/-- **Values for two keys may come in either order.** -/
theorem insert_comm (m : Keyed β) (h : key ≠ other) (old new : β) :
    (m.insert key old).insert other new = (m.insert other new).insert key old := by
  apply ext_find?
  intro k
  rw [find?_insert, find?_insert, find?_insert, find?_insert]
  by_cases hk : k = key
  · rw [if_pos hk, if_pos hk, if_neg fun hother => h (hk.symm.trans hother)]
  · rw [if_neg hk, if_neg hk]

/-- **Which key is the first to pass a test** stays the same if a value is replaced by one that
fares the same. -/
theorem findKey?_insert {test : β → Bool} (hold : m.find? key = some old)
    (htest : test new = test old) : (m.insert key new).findKey? test = m.findKey? test :=
  findKey_insertEntry htest m.ascending (mem_entries_iff.mpr hold)

end Keyed

namespace TextSet

/-- Adding a text twice is adding it once. -/
theorem add_add (s : TextSet) (text : String) : (s.add text).add text = s.add text :=
  Keyed.insert_insert s text () ()

/-- Two texts may be added in either order. -/
theorem add_comm (s : TextSet) (text other : String) :
    (s.add text).add other = (s.add other).add text := by
  by_cases h : text = other
  · rw [h]
  · exact Keyed.insert_comm s h () ()

end TextSet

end InAppMessaging
