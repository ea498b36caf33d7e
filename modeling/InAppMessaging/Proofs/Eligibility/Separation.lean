import InAppMessaging.Proofs.Eligibility.Tracking

/-!
# The classes share a store and nothing else

Both trackers write into one store of texts.  Every key a tracker writes or deletes begins with
the root of its class, and no key begins with both roots, so what one class does is invisible
to the other.

* `Preferences.AgreeOutside` — two stores agree on the keys that do not begin with a text;
* `Tracker.agreeOutside_update`, `Tracker.agreeOutside_eligible`,
  `Tracker.agreeOutside_markSeen`, `Tracker.agreeOutside_markDismissed`,
  `StickyClass.agreeOutside_clear` — each operation stays within its root;
* `StickyClass.record_eq_of_agreeOutside` — the records of the other class are as they were.
-/

namespace InAppMessaging

open Text

namespace Preferences

variable {p p' p'' : Preferences} {root key : String}

/-- A composed key begins with its first part. -/
theorem beginsWith_append (root rest : String) : beginsWith root (root ++ rest) = true := by
  unfold beginsWith
  rw [String.toList_append, List.isPrefixOf_iff_prefix]
  exact List.prefix_append _ _

/-- Two stores agree on every key that does not begin with a text. -/
def AgreeOutside (root : String) (p p' : Preferences) : Prop :=
  ∀ key, beginsWith root key = false → p'.text? key = p.text? key

theorem AgreeOutside.refl (root : String) (p : Preferences) : AgreeOutside root p p :=
  fun _ _ => rfl

theorem AgreeOutside.trans (h : AgreeOutside root p p') (h' : AgreeOutside root p' p'') :
    AgreeOutside root p p'' :=
  fun key hkey => (h' key hkey).trans (h key hkey)

/-- A key within a root is not one outside of it. -/
theorem ne_of_beginsWith {other : String} (hkey : beginsWith root key = true)
    (hother : beginsWith root other = false) : other ≠ key := by
  rintro rfl
  rw [hkey] at hother
  exact Bool.noConfusion hother

theorem agreeOutside_setText (p : Preferences) (value : String)
    (h : beginsWith root key = true) : AgreeOutside root p (p.setText key value) :=
  fun _ hother => p.text?_setText_ne value (ne_of_beginsWith h hother)

theorem agreeOutside_remove (p : Preferences) (h : beginsWith root key = true) :
    AgreeOutside root p (p.remove key) :=
  fun _ hother => p.text?_remove_ne (ne_of_beginsWith h hother)

theorem agreeOutside_removeRooted (p : Preferences) (root : String) :
    AgreeOutside root p (p.removeRooted root) := by
  intro key hkey
  rw [text?_removeRooted, hkey]
  rfl

end Preferences

open Preferences

namespace StickyClass

variable {k l : StickyClass} {p p' : Preferences}

theorem beginsWith_recordKey (k : StickyClass) (f : TrackingField) (q : String) :
    beginsWith k.keyRoot (k.recordKey f q) = true := by
  unfold recordKey
  rw [String.append_assoc, String.append_assoc]
  exact beginsWith_append _ _

theorem beginsWith_snapshotKey (k : StickyClass) :
    beginsWith k.keyRoot k.snapshotKey = true :=
  beginsWith_append _ _

theorem beginsWith_expiryKey (k : StickyClass) : beginsWith k.keyRoot k.expiryKey = true :=
  beginsWith_append _ _

/-- **No key begins with the roots of both classes.** -/
theorem not_beginsWith_of_ne {key : String} (hne : k ≠ l)
    (hkey : beginsWith l.keyRoot key = true) : beginsWith k.keyRoot key = false := by
  refine Bool.eq_false_iff.mpr fun hother => ?_
  have hk : k.keyRoot.toList <+: key.toList := List.isPrefixOf_iff_prefix.mp hother
  have hl : l.keyRoot.toList <+: key.toList := List.isPrefixOf_iff_prefix.mp hkey
  have hlength : k.keyRoot.toList.length ≤ l.keyRoot.toList.length := by
    cases k <;> cases l <;> decide
  -- The roots are equally long, so the shorter of two starts of one text is the longer one.
  have hprefix : k.keyRoot.toList <+: l.keyRoot.toList :=
    List.prefix_of_prefix_length_le hk hl hlength
  revert hprefix
  cases k <;> cases l <;> first | exact absurd rfl hne | decide

/-- Stores that agree outside the root of one class have the same texts in the other. -/
theorem text?_of_agreeOutside {key : String} (hne : k ≠ l)
    (h : AgreeOutside k.keyRoot p p') (hkey : beginsWith l.keyRoot key = true) :
    p'.text? key = p.text? key :=
  h key (not_beginsWith_of_ne hne hkey)

/-- **What one class writes leaves the records of the other alone.** -/
theorem record_eq_of_agreeOutside (hne : k ≠ l) (h : AgreeOutside k.keyRoot p p')
    (q : String) : l.record p' q = l.record p q :=
  record_congr fun f => text?_of_agreeOutside hne h (l.beginsWith_recordKey f q)

theorem agreeOutside_removeRecord (k : StickyClass) (p : Preferences) (q : String) :
    AgreeOutside k.keyRoot p (k.removeRecord p q) :=
  ((agreeOutside_remove p (k.beginsWith_recordKey .timesShown q)).trans
    (agreeOutside_remove _ (k.beginsWith_recordKey .dismissed q))).trans
      (agreeOutside_remove _ (k.beginsWith_recordKey .nextEligibleAt q))

/-- Clearing a class stays within its root. -/
theorem agreeOutside_clear (k : StickyClass) (p : Preferences) :
    AgreeOutside k.keyRoot p (k.clear p) :=
  agreeOutside_removeRooted p _

/-- After a class was cleared none of its keys is stored. -/
theorem text?_clear {key : String} (p : Preferences) (h : beginsWith k.keyRoot key = true) :
    (k.clear p).text? key = none := by
  unfold clear
  rw [text?_removeRooted, if_pos h]

/-- A class without stored keys has no records. -/
theorem record_of_absent (h : ∀ key, beginsWith k.keyRoot key = true → p.text? key = none)
    (q : String) : k.record p q = {} := by
  have htimes := h _ (k.beginsWith_recordKey .timesShown q)
  have hdismissed := h _ (k.beginsWith_recordKey .dismissed q)
  have hnext := h _ (k.beginsWith_recordKey .nextEligibleAt q)
  unfold record Preferences.natural? bool? integer?
  rw [htimes, hdismissed, hnext]
  rfl

end StickyClass

namespace Tracker

variable {t : Tracker} {token : Option String}

theorem agreeOutside_dropSnapshot (t : Tracker) (p : Preferences) :
    AgreeOutside t.kind.keyRoot p (t.dropSnapshot p) :=
  (agreeOutside_remove p t.kind.beginsWith_snapshotKey).trans
    (agreeOutside_remove _ t.kind.beginsWith_expiryKey)

/-- Reading the snapshot stays within the root. -/
theorem agreeOutside_stored (t : Tracker) (p : Preferences) (now : Int) :
    AgreeOutside t.kind.keyRoot p (t.stored p now).2 := by
  unfold stored
  by_cases h : t.isExpired p now = true
  · rw [if_pos h]
    exact agreeOutside_dropSnapshot t p
  · rw [if_neg h]
    exact AgreeOutside.refl _ p

theorem agreeOutside_store (t : Tracker) (p : Preferences) (ms : List Message) (now : Int) :
    AgreeOutside t.kind.keyRoot p (t.store p ms now) :=
  (agreeOutside_setText p _ t.kind.beginsWith_snapshotKey).trans
    (agreeOutside_setText _ _ t.kind.beginsWith_expiryKey)

/-- Forgetting deletes keys of the class only. -/
theorem agreeOutside_forget (t : Tracker) (p : Preferences) (retained : List (Option String)) :
    AgreeOutside t.kind.keyRoot p (t.forget p retained) := by
  unfold forget
  generalize t.snapshot p = ms
  induction ms generalizing p with
  | nil => exact AgreeOutside.refl _ p
  | cons m ms ih =>
      rw [List.foldl_cons]
      refine AgreeOutside.trans ?_ (ih _)
      cases hid : m.queueId with
      | none => exact AgreeOutside.refl _ p
      | some q =>
          by_cases hq : some q ∈ retained
          · simp only [hq, if_true]
            exact AgreeOutside.refl _ p
          · simp only [hq, if_false]
            exact t.kind.agreeOutside_removeRecord p q

/-- A new catalog changes keys of its class only. -/
theorem agreeOutside_update (t : Tracker) (token : Option String) (catalog : List Message)
    (now : Int) (p : Preferences) :
    AgreeOutside t.kind.keyRoot p (t.update token catalog now p) := by
  cases token with
  | none => exact AgreeOutside.refl _ p
  | some token =>
      unfold update
      cases t.members catalog with
      | nil => exact t.kind.agreeOutside_clear p
      | cons m rest => exact (agreeOutside_forget t p _).trans (agreeOutside_store t _ _ _)

/-- Asking for eligible messages changes keys of the class only. -/
theorem agreeOutside_eligible (t : Tracker) (token : Option String) (now : Int)
    (p : Preferences) : AgreeOutside t.kind.keyRoot p (t.eligible token now p).2 := by
  cases token with
  | none => exact AgreeOutside.refl _ p
  | some token => exact agreeOutside_stored t p now

/-- A view changes keys of its class only. -/
theorem agreeOutside_markSeen (t : Tracker) (token : Option String) (q : String) (now : Int)
    (p : Preferences) : AgreeOutside t.kind.keyRoot p (t.markSeen token q now p) := by
  cases token with
  | none => exact AgreeOutside.refl _ p
  | some token =>
      intro key hkey
      rw [text?_markSeen fun f => ne_of_beginsWith (t.kind.beginsWith_recordKey f q) hkey]
      exact agreeOutside_stored t p now key hkey

/-- A dismissal changes keys of its class only. -/
theorem agreeOutside_markDismissed (t : Tracker) (token : Option String) (q : String)
    (now : Int) (p : Preferences) :
    AgreeOutside t.kind.keyRoot p (t.markDismissed token q now p) := by
  cases token with
  | none => exact AgreeOutside.refl _ p
  | some token =>
      intro key hkey
      rw [text?_markDismissed fun f => ne_of_beginsWith (t.kind.beginsWith_recordKey f q) hkey]
      exact agreeOutside_stored t p now key hkey

end Tracker

end InAppMessaging
