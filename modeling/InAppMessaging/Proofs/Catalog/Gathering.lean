import InAppMessaging.Catalog.Sync
import InAppMessaging.Proofs.Eligibility.Separation

/-!
# What a catalog answer brings into the queue

Gathering refreshes the snapshots of both classes and reads back what may be shown.  Sticky
messages go this way round through the stored texts, and still nothing comes back that was not
in the catalog, nor anything that the records from before do not allow.

* `mem_gatherQueue` — **what is gathered is in the catalog, and a sticky message among it is
  allowed by its record**;
* `record_gatherQueue` — gathering keeps the record of a queue id that is in the catalog.
-/

namespace InAppMessaging

open Preferences

/-- The values that were put are kept. -/
theorem Storage.values_put (s : Storage) (p : Preferences) : (s.put p).values = p := by
  cases s with
  | memory values => rfl
  | file f =>
      show (f.put p).values = p
      unfold PreferenceFile.put
      split
      · rfl
      · exact PreferenceFile.values_flush _

/-! ## Snapshots of both classes -/

namespace Tracker

variable {t u : Tracker} {p p' : Preferences} {now : Int} {token q : String} {m : Message}
  {catalog : List Message}

/-- A catalog without members clears the class. -/
theorem update_eq_clear (h : t.members catalog = []) :
    t.update (some token) catalog now p = t.kind.clear p := by
  unfold update
  rw [h]

/-- After an update the snapshot is the members of the catalog. -/
theorem snapshot_update (t : Tracker) (token : String) (catalog : List Message) (now : Int)
    (p : Preferences) : t.snapshot (t.update (some token) catalog now p) = t.members catalog := by
  by_cases hmembers : t.members catalog = []
  · rw [update_eq_clear hmembers, hmembers]
    unfold snapshot
    rw [StickyClass.text?_clear p t.kind.beginsWith_snapshotKey]
    rfl
  · rw [update_eq_store hmembers, snapshot_store]

/-- What the other class writes leaves the snapshot alone. -/
theorem snapshot_of_agreeOutside (hne : u.kind ≠ t.kind)
    (h : AgreeOutside u.kind.keyRoot p p') : t.snapshot p' = t.snapshot p :=
  snapshot_congr (StickyClass.text?_of_agreeOutside hne h t.kind.beginsWith_snapshotKey)

/-- What is read is in the snapshot. -/
theorem mem_snapshot_of_stored (h : m ∈ (t.stored p now).1) : m ∈ t.snapshot p := by
  unfold stored at h
  by_cases hexpired : t.isExpired p now = true
  · rw [if_pos hexpired] at h
    exact absurd h List.not_mem_nil
  · rw [if_neg hexpired] at h
    exact h

/-- An eligible message is in the snapshot, and its record allows it. -/
theorem allowed_of_eligible {token : Option String} (h : m ∈ (t.eligible token now p).1) :
    m ∈ t.snapshot p ∧ ∃ q cap, m.queueId = some q ∧ m.frequency? = some cap ∧
      (t.kind.record p q).allows cap now = true := by
  cases token with
  | none => exact absurd h List.not_mem_nil
  | some token =>
      obtain ⟨hstored, heligible⟩ := mem_eligible.mp h
      refine ⟨mem_snapshot_of_stored hstored, ?_⟩
      unfold isEligible at heligible
      cases hq : m.queueId with
      | none =>
          rw [hq] at heligible
          exact nomatch heligible
      | some q =>
          cases hcap : m.frequency? with
          | none =>
              rw [hq, hcap] at heligible
              exact nomatch heligible
          | some cap =>
              rw [hq, hcap] at heligible
              dsimp only at heligible
              rw [record_stored] at heligible
              exact ⟨q, cap, rfl, rfl, (Bool.and_eq_true_iff.mp heligible).2⟩

/-- A member of the class with a queue id is in the catalog. -/
def Lists (t : Tracker) (catalog : List Message) (q : String) : Prop :=
  ∃ m ∈ t.members catalog, m.queueId = some q

/-- An update keeps the record of a queue id in the catalog. -/
theorem record_update_of_lists (h : t.Lists catalog q) (token : Option String) (now : Int)
    (p : Preferences) : t.kind.record (t.update token catalog now p) q = t.kind.record p q := by
  obtain ⟨m, hm, hq⟩ := h
  cases token with
  | none => rfl
  | some token => exact record_update hm hq

/-- Asking for eligible messages keeps the records. -/
theorem record_eligible (t : Tracker) (token : Option String) (now : Int) (p : Preferences)
    (q : String) : t.kind.record (t.eligible token now p).2 q = t.kind.record p q := by
  cases token with
  | none => rfl
  | some token => exact record_stored t p now q

end Tracker

/-! ## Gathering -/

section Gathering

variable {h : Host} {token : Option String} {ms : List Message} {m : Message} {q : String}

/-- The stored values once both snapshots are refreshed. -/
def refreshed (token : Option String) (ms : List Message) (h : Host) : Preferences :=
  (h.tracker .anonymous).update token ms h.clock
    ((h.tracker .broadcast).update token ms h.clock h.storage.values)

/-- The stored values once the broadcasts were read back as well. -/
def readBack (token : Option String) (ms : List Message) (h : Host) : Preferences :=
  ((h.tracker .broadcast).eligible token h.clock (refreshed token ms h)).2

/-- Gathering reads both classes back from the refreshed values. -/
theorem gatherQueue_eq (token : Option String) (ms : List Message) (h : Host) :
    (gatherQueue token ms h).1 = regularMessages ms ++
        ((h.tracker .broadcast).eligible token h.clock (refreshed token ms h)).1 ++
        ((h.tracker .anonymous).eligible token h.clock (readBack token ms h)).1 ∧
      (gatherQueue token ms h).2.storage.values =
        ((h.tracker .anonymous).eligible token h.clock (readBack token ms h)).2 := by
  unfold gatherQueue Host.track Host.eligible readBack refreshed
  simp only [Storage.values_put]
  exact ⟨rfl, rfl⟩

theorem anonymous_ne_broadcast : StickyClass.anonymous ≠ .broadcast := by decide

/-- Reading the broadcasts back leaves the anonymous messages alone. -/
theorem agreeOutside_readBack (token : Option String) (ms : List Message) (h : Host) :
    AgreeOutside StickyClass.broadcast.keyRoot (refreshed token ms h) (readBack token ms h) :=
  (h.tracker .broadcast).agreeOutside_eligible token h.clock _

/-- Refreshing the anonymous messages leaves the broadcasts alone. -/
theorem agreeOutside_refreshed (token : Option String) (ms : List Message) (h : Host) :
    AgreeOutside StickyClass.anonymous.keyRoot
      ((h.tracker .broadcast).update token ms h.clock h.storage.values)
      (refreshed token ms h) :=
  (h.tracker .anonymous).agreeOutside_update token ms h.clock _

/-- The refreshed record of a queue id in the catalog is the one from before. -/
theorem record_refreshed {k : StickyClass} (hlists : (h.tracker k).Lists ms q) :
    k.record (refreshed token ms h) q = k.record h.storage.values q := by
  cases k with
  | broadcast =>
      rw [StickyClass.record_eq_of_agreeOutside anonymous_ne_broadcast
        (agreeOutside_refreshed token ms h) q]
      exact Tracker.record_update_of_lists hlists token h.clock _
  | anonymous =>
      have hother := (h.tracker .broadcast).agreeOutside_update token ms h.clock h.storage.values
      rw [← StickyClass.record_eq_of_agreeOutside anonymous_ne_broadcast.symm hother q]
      exact Tracker.record_update_of_lists hlists token h.clock _

theorem record_readBack {k : StickyClass} (hlists : (h.tracker k).Lists ms q) :
    k.record (readBack token ms h) q = k.record h.storage.values q := by
  rw [← record_refreshed hlists]
  cases k with
  | broadcast => exact Tracker.record_eligible _ token h.clock _ q
  | anonymous =>
      exact StickyClass.record_eq_of_agreeOutside anonymous_ne_broadcast.symm
        (agreeOutside_readBack token ms h) q

/-- **Gathering keeps the record of a queue id in the catalog.** -/
theorem record_gatherQueue {k : StickyClass} (hlists : (h.tracker k).Lists ms q) :
    k.record (gatherQueue token ms h).2.storage.values q = k.record h.storage.values q := by
  rw [(gatherQueue_eq token ms h).2, ← record_readBack hlists]
  cases k with
  | broadcast =>
      have hother := (h.tracker .anonymous).agreeOutside_eligible token h.clock
        (readBack token ms h)
      exact StickyClass.record_eq_of_agreeOutside anonymous_ne_broadcast hother q
  | anonymous => exact Tracker.record_eligible _ token h.clock _ q

/-- The refreshed snapshots are the members of the catalog. -/
theorem snapshot_refreshed (name : String) (ms : List Message) (h : Host) (k : StickyClass) :
    (h.tracker k).snapshot (refreshed (some name) ms h) = (h.tracker k).members ms := by
  cases k with
  | broadcast =>
      have hother : (h.tracker .anonymous).kind ≠ (h.tracker .broadcast).kind :=
        anonymous_ne_broadcast
      rw [Tracker.snapshot_of_agreeOutside hother (agreeOutside_refreshed (some name) ms h)]
      exact Tracker.snapshot_update _ name ms h.clock _
  | anonymous => exact Tracker.snapshot_update _ name ms h.clock _

theorem mem_of_refreshed {k : StickyClass} (htoken : token ≠ none)
    (hm : m ∈ (h.tracker k).snapshot (refreshed token ms h)) :
    m ∈ ms ∧ k.includes m = true := by
  obtain ⟨name, rfl⟩ := Option.ne_none_iff_exists'.mp htoken
  rw [snapshot_refreshed] at hm
  exact List.mem_filter.mp hm

/-- A message that is read back is in the catalog, and the record from before allows it. -/
theorem allowed_of_readBack {k : StickyClass} {p : Preferences}
    (hsnapshot : (h.tracker k).snapshot p = (h.tracker k).snapshot (refreshed token ms h))
    (hrecord : ∀ q, (h.tracker k).Lists ms q → k.record p q = k.record h.storage.values q)
    (hm : m ∈ ((h.tracker k).eligible token h.clock p).1) :
    m ∈ ms ∧ ∃ q cap, k.includes m = true ∧ m.queueId = some q ∧ m.frequency? = some cap ∧
      (k.record h.storage.values q).allows cap h.clock = true := by
  have htoken : token ≠ none := by
    rintro rfl
    exact absurd hm List.not_mem_nil
  obtain ⟨hstored, q, cap, hq, hcap, hallows⟩ := Tracker.allowed_of_eligible hm
  rw [hsnapshot] at hstored
  obtain ⟨hcatalog, hkind⟩ := mem_of_refreshed htoken hstored
  have hlists : (h.tracker k).Lists ms q := ⟨m, List.mem_filter.mpr ⟨hcatalog, hkind⟩, hq⟩
  refine ⟨hcatalog, q, cap, hkind, hq, hcap, ?_⟩
  rw [← hrecord q hlists]
  exact hallows

/-- **What is gathered is in the catalog, and a sticky message among it is allowed by its
record.** -/
theorem mem_gatherQueue (hm : m ∈ (gatherQueue token ms h).1) :
    m ∈ ms ∧ (m.stickyClass? = none ∨ ∃ (k : StickyClass) (q : String) (cap : FrequencyCap),
      k.includes m = true ∧ m.queueId = some q ∧ m.frequency? = some cap ∧
        (k.record h.storage.values q).allows cap h.clock = true) := by
  rw [(gatherQueue_eq token ms h).1] at hm
  rcases List.mem_append.mp hm with hm | hm
  · rcases List.mem_append.mp hm with hm | hm
    · obtain ⟨hcatalog, hregular⟩ := List.mem_filter.mp hm
      refine ⟨hcatalog, Or.inl ?_⟩
      unfold Message.stickyClass? StickyClass.all StickyClass.includes
      simp_all
    · obtain ⟨hcatalog, hallowed⟩ :=
        allowed_of_readBack rfl (fun _ hlists => record_refreshed hlists) hm
      exact ⟨hcatalog, Or.inr ⟨.broadcast, hallowed⟩⟩
  · have hother : (h.tracker .broadcast).kind ≠ (h.tracker .anonymous).kind :=
      anonymous_ne_broadcast.symm
    have hsnapshot := Tracker.snapshot_of_agreeOutside hother (agreeOutside_readBack token ms h)
    obtain ⟨hcatalog, hallowed⟩ :=
      allowed_of_readBack hsnapshot (fun _ hlists => record_readBack hlists) hm
    exact ⟨hcatalog, Or.inr ⟨.anonymous, hallowed⟩⟩

end Gathering

end InAppMessaging
