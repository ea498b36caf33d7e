import InAppMessaging.Eligibility.Record
import InAppMessaging.Proofs.Preferences

/-!
# The keys of a class do not clash

Queue ids come from the server, so nothing is known about them; the keys keep apart because
the names of the parts differ at their first letter, and each ends before its first stop.

* `recordKey_inj` — a record key tells its part and its queue id;
* `recordKey_ne_snapshotKey`, `recordKey_ne_expiryKey` — no queue id spells another key.
-/

namespace InAppMessaging.StickyClass

variable {k : StickyClass} {f g : TrackingField} {q r : String}

/-- A record key letter by letter. -/
theorem toList_recordKey (k : StickyClass) (f : TrackingField) (q : String) :
    (k.recordKey f q).toList = k.keyRoot.toList ++ (f.name.toList ++ '.' :: q.toList) := by
  unfold recordKey
  rw [String.toList_append, String.toList_append, String.toList_append, List.append_assoc,
    List.append_assoc]
  rfl

/-- **A record key tells its part and its queue id.** -/
theorem recordKey_inj (h : k.recordKey f q = k.recordKey g r) : f = g ∧ q = r := by
  have hlist := congrArg String.toList h
  rw [toList_recordKey, toList_recordKey, List.append_cancel_left_eq] at hlist
  cases f <;> cases g <;> simp [TrackingField.name] at hlist ⊢ <;> exact String.toList_inj.mp hlist

theorem recordKey_ne_of_field (h : f ≠ g) : k.recordKey f q ≠ k.recordKey g r :=
  fun heq => h (recordKey_inj heq).1

theorem recordKey_ne_of_id (h : q ≠ r) : k.recordKey f q ≠ k.recordKey g r :=
  fun heq => h (recordKey_inj heq).2

/-- No record key is the key of the snapshot. -/
theorem recordKey_ne_snapshotKey : k.recordKey f q ≠ k.snapshotKey := by
  intro heq
  have hlist := congrArg String.toList heq
  unfold snapshotKey at hlist
  rw [toList_recordKey, String.toList_append, List.append_cancel_left_eq] at hlist
  cases f <;> simp [TrackingField.name] at hlist

/-- No record key is the key of the expiry. -/
theorem recordKey_ne_expiryKey : k.recordKey f q ≠ k.expiryKey := by
  intro heq
  have hlist := congrArg String.toList heq
  unfold expiryKey at hlist
  rw [toList_recordKey, String.toList_append, List.append_cancel_left_eq] at hlist
  cases f <;> simp [TrackingField.name] at hlist

theorem snapshotKey_ne_expiryKey : k.snapshotKey ≠ k.expiryKey := by
  cases k <;> decide

end InAppMessaging.StickyClass
