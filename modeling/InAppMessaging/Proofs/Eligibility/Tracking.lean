import InAppMessaging.Eligibility.Tracker
import InAppMessaging.Proofs.Eligibility.Keys
import InAppMessaging.Proofs.Eligibility.Snapshot

/-!
# What each capping operation does

A class keeps a snapshot with its expiry and, per queue id, a tracking record.  A store either
*holds* a snapshot (`Tracker.Holds`) or it is *gone* (`Tracker.Gone`), and reading it turns an
expired one from the first into the second.  Each operation has one lemma for the snapshot and
one for the record of a queue id.

* `Tracker.stored_of_live`, `Tracker.stored_of_expired`, `Tracker.stored_of_gone` — the three
  ways a snapshot is read;
* `Tracker.record_writeView`, `Tracker.record_writeDismissal` — a mark changes the record of
  its own queue id, as `TrackingRecord.viewed` and `TrackingRecord.closed` say;
* `Tracker.record_update` — a new catalog keeps the record of each queue id it retains.
-/

namespace InAppMessaging

open Text

/-! ## Records -/

/-- A record after one more view under a rule. -/
def TrackingRecord.viewed (cap : FrequencyCap) (now : Int) (r : TrackingRecord) :
    TrackingRecord where
  timesShown := min (r.timesShown + 1) maxWord32
  dismissed := cap.count = 1 || r.dismissed
  nextEligibleAt :=
    if cap.count = 1 then r.nextEligibleAt
    else if 0 < cap.delaySecs then some (clamp64 (now + cap.delayMs))
    else r.nextEligibleAt

/-- A record after the user closed the message under a rule. -/
def TrackingRecord.closed (cap : FrequencyCap) (r : TrackingRecord) : TrackingRecord :=
  { r with dismissed := !cap.ignoreDismiss || r.dismissed }

namespace StickyClass

variable {k : StickyClass} {p p' : Preferences} {q r : String}

/-- A record is read from the texts of its three keys. -/
theorem record_congr (h : ∀ f, p.text? (k.recordKey f q) = p'.text? (k.recordKey f q)) :
    k.record p q = k.record p' q := by
  unfold record
  rw [Preferences.natural?_congr (h .timesShown), Preferences.bool?_congr (h .dismissed),
    Preferences.integer?_congr (h .nextEligibleAt)]

/-- Deleting a record touches its own keys only. -/
theorem text?_removeRecord {key : String} (h : ∀ f, key ≠ k.recordKey f q) :
    (k.removeRecord p q).text? key = p.text? key := by
  unfold removeRecord
  rw [Preferences.text?_remove_ne _ (h .nextEligibleAt),
    Preferences.text?_remove_ne _ (h .dismissed), Preferences.text?_remove_ne _ (h .timesShown)]

theorem record_removeRecord_ne (h : q ≠ r) : k.record (k.removeRecord p r) q = k.record p q :=
  record_congr fun _ => text?_removeRecord fun _ => recordKey_ne_of_id h

theorem text?_setText_recordKey (k : StickyClass) (q : String) (p : Preferences)
    (text : String) {f g : TrackingField} (h : g ≠ f) :
    (p.setText (k.recordKey f q) text).text? (k.recordKey g q) = p.text? (k.recordKey g q) :=
  p.text?_setText_ne text (recordKey_ne_of_field h)

/-- Writing the count of views changes that part of the record. -/
theorem record_setTimesShown (k : StickyClass) (p : Preferences) (q : String) {n : Nat}
    (h : n ≤ maxWord32) :
    k.record (p.setInteger (k.recordKey .timesShown q) n) q =
      { k.record p q with timesShown := n } := by
  have hself := Preferences.natural?_setInteger_self p (k.recordKey .timesShown q) h
  have hdismissed : (p.setInteger (k.recordKey .timesShown q) n).bool?
      (k.recordKey .dismissed q) = p.bool? (k.recordKey .dismissed q) :=
    Preferences.bool?_congr (text?_setText_recordKey k q p _ (by decide))
  have hnext : (p.setInteger (k.recordKey .timesShown q) n).integer?
      (k.recordKey .nextEligibleAt q) = p.integer? (k.recordKey .nextEligibleAt q) :=
    Preferences.integer?_congr (text?_setText_recordKey k q p _ (by decide))
  unfold record
  rw [hself, hdismissed, hnext]
  rfl

/-- Writing the dismissal changes that part of the record. -/
theorem record_setDismissed (k : StickyClass) (p : Preferences) (q : String) (b : Bool) :
    k.record (p.setBool (k.recordKey .dismissed q) b) q =
      { k.record p q with dismissed := b } := by
  have hself := p.bool?_setBool_self (k.recordKey .dismissed q) b
  have htimes : (p.setBool (k.recordKey .dismissed q) b).natural?
      (k.recordKey .timesShown q) = p.natural? (k.recordKey .timesShown q) :=
    Preferences.natural?_congr (text?_setText_recordKey k q p _ (by decide))
  have hnext : (p.setBool (k.recordKey .dismissed q) b).integer?
      (k.recordKey .nextEligibleAt q) = p.integer? (k.recordKey .nextEligibleAt q) :=
    Preferences.integer?_congr (text?_setText_recordKey k q p _ (by decide))
  unfold record
  rw [hself, htimes, hnext]
  rfl

/-- Writing the next time changes that part of the record. -/
theorem record_setNextEligibleAt (k : StickyClass) (p : Preferences) (q : String) {n : Int}
    (hlow : minSigned64 ≤ n) (hhigh : n ≤ maxSigned64) :
    k.record (p.setInteger (k.recordKey .nextEligibleAt q) n) q =
      { k.record p q with nextEligibleAt := some n } := by
  have hself := p.integer?_setInteger_self (k.recordKey .nextEligibleAt q) hlow hhigh
  have htimes : (p.setInteger (k.recordKey .nextEligibleAt q) n).natural?
      (k.recordKey .timesShown q) = p.natural? (k.recordKey .timesShown q) :=
    Preferences.natural?_congr (text?_setText_recordKey k q p _ (by decide))
  have hdismissed : (p.setInteger (k.recordKey .nextEligibleAt q) n).bool?
      (k.recordKey .dismissed q) = p.bool? (k.recordKey .dismissed q) :=
    Preferences.bool?_congr (text?_setText_recordKey k q p _ (by decide))
  unfold record
  rw [hself, htimes, hdismissed]

end StickyClass

namespace Tracker

variable {t : Tracker} {p : Preferences} {now expiry : Int} {messages : List Message}
  {token q r : String}

/-! ## Snapshots -/

/-- The store holds a snapshot up to its expiry. -/
structure Holds (t : Tracker) (p : Preferences) (messages : List Message) (expiry : Int) :
    Prop where
  messages_eq : t.snapshot p = messages
  expiry_eq : p.integer? t.kind.expiryKey = some expiry
  expiry_pos : 0 < expiry

/-- The store holds no snapshot. -/
structure Gone (t : Tracker) (p : Preferences) : Prop where
  no_snapshot : p.text? t.kind.snapshotKey = none
  no_expiry : p.text? t.kind.expiryKey = none

/-- A snapshot is read from the text of its key. -/
theorem snapshot_congr {p' : Preferences}
    (h : p.text? t.kind.snapshotKey = p'.text? t.kind.snapshotKey) :
    t.snapshot p = t.snapshot p' := by
  unfold snapshot
  rw [h]

/-- Stores that agree on the two keys hold the same snapshot. -/
theorem Holds.congr {p' : Preferences} (h : t.Holds p messages expiry)
    (hsnapshot : p'.text? t.kind.snapshotKey = p.text? t.kind.snapshotKey)
    (hexpiry : p'.text? t.kind.expiryKey = p.text? t.kind.expiryKey) :
    t.Holds p' messages expiry where
  messages_eq := (snapshot_congr hsnapshot).trans h.messages_eq
  expiry_eq := (Preferences.integer?_congr hexpiry).trans h.expiry_eq
  expiry_pos := h.expiry_pos

/-- Stores that agree on the two keys are alike in holding no snapshot. -/
theorem Gone.congr {p' : Preferences} (h : t.Gone p)
    (hsnapshot : p'.text? t.kind.snapshotKey = p.text? t.kind.snapshotKey)
    (hexpiry : p'.text? t.kind.expiryKey = p.text? t.kind.expiryKey) : t.Gone p' where
  no_snapshot := hsnapshot.trans h.no_snapshot
  no_expiry := hexpiry.trans h.no_expiry

/-- After its deletion a snapshot is gone. -/
theorem gone_dropSnapshot (t : Tracker) (p : Preferences) : t.Gone (t.dropSnapshot p) where
  no_snapshot := by
    unfold dropSnapshot
    rw [Preferences.text?_remove_ne _ StickyClass.snapshotKey_ne_expiryKey,
      Preferences.text?_remove_self]
  no_expiry := Preferences.text?_remove_self _ _

/-- Deleting the snapshot keeps whatever is stored of a record. -/
theorem text?_dropSnapshot (t : Tracker) (p : Preferences) (f : TrackingField) (q : String) :
    (t.dropSnapshot p).text? (t.kind.recordKey f q) = p.text? (t.kind.recordKey f q) := by
  unfold dropSnapshot
  rw [Preferences.text?_remove_ne _ StickyClass.recordKey_ne_expiryKey,
    Preferences.text?_remove_ne _ StickyClass.recordKey_ne_snapshotKey]

/-- Deleting the snapshot keeps every record. -/
theorem record_dropSnapshot (t : Tracker) (p : Preferences) (q : String) :
    t.kind.record (t.dropSnapshot p) q = t.kind.record p q :=
  StickyClass.record_congr fun f => text?_dropSnapshot t p f q

/-- A snapshot is read up to its expiry. -/
theorem stored_of_live (h : t.Holds p messages expiry) (hlive : now ≤ expiry) :
    t.stored p now = (messages, p) := by
  have hexpired : t.isExpired p now = false := by
    unfold isExpired
    rw [h.expiry_eq]
    simp [hlive]
  unfold stored
  rw [hexpired, h.messages_eq]
  rfl

/-- A snapshot is deleted when it is read after its expiry. -/
theorem stored_of_expired (h : t.Holds p messages expiry) (hover : expiry < now) :
    t.stored p now = ([], t.dropSnapshot p) := by
  have hexpired : t.isExpired p now = true := by
    unfold isExpired
    rw [h.expiry_eq]
    simp [h.expiry_pos, hover]
  unfold stored
  rw [hexpired]
  rfl

/-- Without a snapshot nothing is read. -/
theorem stored_of_gone (h : t.Gone p) : t.stored p now = ([], p) := by
  have hexpired : t.isExpired p now = false := by
    unfold isExpired Preferences.integer?
    rw [h.no_expiry]
    rfl
  have hsnapshot : t.snapshot p = [] := by
    unfold snapshot
    rw [h.no_snapshot]
    rfl
  unfold stored
  rw [hexpired, hsnapshot]
  rfl

/-- Reading the snapshot keeps whatever is stored of a record. -/
theorem text?_stored (t : Tracker) (p : Preferences) (now : Int) (f : TrackingField) (q : String) :
    (t.stored p now).2.text? (t.kind.recordKey f q) = p.text? (t.kind.recordKey f q) := by
  unfold stored
  by_cases h : t.isExpired p now = true
  · rw [if_pos h]
    exact text?_dropSnapshot t p f q
  · rw [if_neg h]

/-- Reading the snapshot keeps every record. -/
theorem record_stored (t : Tracker) (p : Preferences) (now : Int) (q : String) :
    t.kind.record (t.stored p now).2 q = t.kind.record p q :=
  StickyClass.record_congr fun f => text?_stored t p now f q

/-! ## Eligible messages -/

theorem mem_eligible {m : Message} :
    m ∈ (t.eligible (some token) now p).1 ↔
      m ∈ (t.stored p now).1 ∧ t.isEligible (t.stored p now).2 now m = true :=
  List.mem_filter

/-! ## A new catalog -/

/-- Forgetting keeps the records of retained queue ids. -/
theorem record_forget {retained : List (Option String)} (h : some q ∈ retained) :
    t.kind.record (t.forget p retained) q = t.kind.record p q := by
  unfold forget
  generalize t.snapshot p = ms
  induction ms generalizing p with
  | nil => rfl
  | cons m ms ih =>
      rw [List.foldl_cons, ih]
      cases hid : m.queueId with
      | none => rfl
      | some r =>
          by_cases hr : some r ∈ retained
          · simp only [hr, if_true]
          · have hne : q ≠ r := by
              rintro rfl
              exact hr h
            simp only [hr, if_false]
            exact StickyClass.record_removeRecord_ne hne

/-- Storing a snapshot keeps whatever is stored of a record. -/
theorem text?_store (t : Tracker) (p : Preferences) (ms : List Message) (now : Int)
    (f : TrackingField) (q : String) :
    (t.store p ms now).text? (t.kind.recordKey f q) = p.text? (t.kind.recordKey f q) := by
  unfold store
  rw [Preferences.text?_setInteger_ne _ _ StickyClass.recordKey_ne_expiryKey,
    Preferences.text?_setText_ne _ _ StickyClass.recordKey_ne_snapshotKey]

/-- Storing a snapshot keeps every record. -/
theorem record_store (t : Tracker) (p : Preferences) (ms : List Message) (now : Int)
    (q : String) : t.kind.record (t.store p ms now) q = t.kind.record p q :=
  StickyClass.record_congr fun f => text?_store t p ms now f q

/-- What is stored is read back. -/
theorem snapshot_store (t : Tracker) (p : Preferences) (ms : List Message) (now : Int) :
    t.snapshot (t.store p ms now) = ms := by
  have htext : (t.store p ms now).text? t.kind.snapshotKey = some (encodeSnapshot ms) := by
    unfold store
    rw [Preferences.text?_setInteger_ne _ _ StickyClass.snapshotKey_ne_expiryKey,
      Preferences.text?_setText_self]
  unfold snapshot
  rw [htext, Option.map_some, decodeSnapshot_encodeSnapshot]

/-- The expiry of what is stored, whatever the clock says. -/
theorem expiry_store (t : Tracker) (p : Preferences) (ms : List Message) (now : Int) :
    (t.store p ms now).integer? t.kind.expiryKey =
      some (clamp64 (now + clamp64 t.lifetime)) := by
  have hmem := clamp64_mem (now + clamp64 t.lifetime)
  exact Preferences.integer?_setInteger_self _ _ hmem.1 hmem.2

/-- A stored snapshot is held until its lifetime is over. -/
theorem holds_store (t : Tracker) (p : Preferences) (ms : List Message) (hnow : 0 < now) :
    t.Holds (t.store p ms now) ms (min (now + t.lifetime) maxSigned64) where
  messages_eq := snapshot_store t p ms now
  expiry_eq := by
    have hclamp : clamp64 (now + clamp64 t.lifetime) = min (now + t.lifetime) maxSigned64 := by
      unfold clamp64 minSigned64 maxSigned64
      omega
    rw [expiry_store, hclamp]
  expiry_pos := by
    unfold maxSigned64
    omega

/-- A catalog with members of the class is stored. -/
theorem update_eq_store {catalog : List Message} (h : t.members catalog ≠ []) :
    t.update (some token) catalog now p =
      t.store (t.forget p ((t.members catalog).map (·.queueId))) (t.members catalog) now := by
  unfold update
  cases hms : t.members catalog with
  | nil => exact absurd hms h
  | cons m rest => rfl

/-- A new catalog keeps the record of each queue id it retains. -/
theorem record_update {catalog : List Message} {m : Message} (hm : m ∈ t.members catalog)
    (hq : m.queueId = some q) :
    t.kind.record (t.update (some token) catalog now p) q = t.kind.record p q := by
  have hretained : some q ∈ (t.members catalog).map (·.queueId) :=
    List.mem_map.mpr ⟨m, hm, hq⟩
  rw [update_eq_store (List.ne_nil_of_mem hm), record_store, record_forget hretained]

/-! ## Marks -/

/-- What a view writes, once the rule is known. -/
def writeView (t : Tracker) (cap : FrequencyCap) (q : String) (now : Int) (p : Preferences) :
    Preferences :=
  let p' := p.setInteger (t.kind.recordKey .timesShown q)
    (min ((t.kind.record p q).timesShown + 1) maxWord32 : Nat)
  if cap.count = 1 then p'.setBool (t.kind.recordKey .dismissed q) true
  else if 0 < cap.delaySecs then
    p'.setInteger (t.kind.recordKey .nextEligibleAt q) (clamp64 (now + cap.delayMs))
  else p'

/-- What a dismissal writes, once the rule is known. -/
def writeDismissal (t : Tracker) (cap : FrequencyCap) (q : String) (p : Preferences) :
    Preferences :=
  if cap.ignoreDismiss then p else p.setBool (t.kind.recordKey .dismissed q) true

/-- A view of a stored message is written. -/
theorem markSeen_of_cap {p' : Preferences} {cap : FrequencyCap}
    (hstored : t.stored p now = (messages, p')) (hcap : capOf? messages q = some cap) :
    t.markSeen (some token) q now p = t.writeView cap q now p' := by
  unfold markSeen writeView
  simp only [hstored, hcap]

theorem markSeen_of_no_cap {p' : Preferences} (hstored : t.stored p now = (messages, p'))
    (hcap : capOf? messages q = none) : t.markSeen (some token) q now p = p' := by
  unfold markSeen
  simp only [hstored, hcap]

/-- A dismissal of a stored message is written. -/
theorem markDismissed_of_cap {p' : Preferences} {cap : FrequencyCap}
    (hstored : t.stored p now = (messages, p')) (hcap : capOf? messages q = some cap) :
    t.markDismissed (some token) q now p = t.writeDismissal cap q p' := by
  unfold markDismissed writeDismissal
  simp only [hstored, hcap]

/-- A dismissal of a message that is not stored is not. -/
theorem markDismissed_of_no_cap {p' : Preferences}
    (hstored : t.stored p now = (messages, p')) (hcap : capOf? messages q = none) :
    t.markDismissed (some token) q now p = p' := by
  unfold markDismissed
  simp only [hstored, hcap]

/-- A view touches the keys of its own record only. -/
theorem text?_writeView {cap : FrequencyCap} {key : String}
    (h : ∀ f, key ≠ t.kind.recordKey f q) :
    (t.writeView cap q now p).text? key = p.text? key := by
  unfold writeView
  split
  · rw [Preferences.text?_setBool_ne _ _ (h .dismissed),
      Preferences.text?_setInteger_ne _ _ (h .timesShown)]
  · split
    · rw [Preferences.text?_setInteger_ne _ _ (h .nextEligibleAt),
        Preferences.text?_setInteger_ne _ _ (h .timesShown)]
    · exact Preferences.text?_setInteger_ne _ _ (h .timesShown)

/-- A dismissal touches the keys of its own record only. -/
theorem text?_writeDismissal {cap : FrequencyCap} {key : String}
    (h : ∀ f, key ≠ t.kind.recordKey f q) :
    (t.writeDismissal cap q p).text? key = p.text? key := by
  unfold writeDismissal
  split
  · rfl
  · exact Preferences.text?_setBool_ne _ _ (h .dismissed)

/-- A view changes the record of its queue id as the rule says. -/
theorem record_writeView (t : Tracker) (cap : FrequencyCap) (q : String) (now : Int)
    (p : Preferences) :
    t.kind.record (t.writeView cap q now p) q = (t.kind.record p q).viewed cap now := by
  have hshown : min ((t.kind.record p q).timesShown + 1) maxWord32 ≤ maxWord32 :=
    Nat.min_le_right _ _
  have hclamp := clamp64_mem (now + cap.delayMs)
  unfold writeView TrackingRecord.viewed
  by_cases hcount : cap.count = 1
  · simp only [hcount, if_true]
    rw [StickyClass.record_setDismissed, StickyClass.record_setTimesShown _ _ _ hshown]
    rfl
  · by_cases hdelay : 0 < cap.delaySecs
    · simp only [hcount, hdelay, if_true, if_false]
      rw [StickyClass.record_setNextEligibleAt _ _ _ hclamp.1 hclamp.2,
        StickyClass.record_setTimesShown _ _ _ hshown]
      rfl
    · simp only [hcount, hdelay, if_false]
      rw [StickyClass.record_setTimesShown _ _ _ hshown]
      rfl

/-- A dismissal changes the record of its queue id as the rule says. -/
theorem record_writeDismissal (t : Tracker) (cap : FrequencyCap) (q : String)
    (p : Preferences) :
    t.kind.record (t.writeDismissal cap q p) q = (t.kind.record p q).closed cap := by
  unfold writeDismissal TrackingRecord.closed
  cases cap.ignoreDismiss with
  | true => rfl
  | false =>
      show t.kind.record (p.setBool _ true) q = _
      rw [StickyClass.record_setDismissed]
      rfl

/-! ## Keys that a mark leaves alone -/

/-- A mark changes nothing but the record of its queue id, apart from what reading the
snapshot does. -/
theorem text?_markSeen {key : String} (h : ∀ f, key ≠ t.kind.recordKey f q) :
    (t.markSeen (some token) q now p).text? key = (t.stored p now).2.text? key := by
  cases hstored : t.stored p now with
  | mk messages p' =>
      cases hcap : capOf? messages q with
      | none => rw [markSeen_of_no_cap hstored hcap]
      | some cap => rw [markSeen_of_cap hstored hcap, text?_writeView h]

/-- A dismissal changes nothing but the record of its queue id, apart from what reading the
snapshot does. -/
theorem text?_markDismissed {key : String} (h : ∀ f, key ≠ t.kind.recordKey f q) :
    (t.markDismissed (some token) q now p).text? key = (t.stored p now).2.text? key := by
  cases hstored : t.stored p now with
  | mk messages p' =>
      cases hcap : capOf? messages q with
      | none => rw [markDismissed_of_no_cap hstored hcap]
      | some cap => rw [markDismissed_of_cap hstored hcap, text?_writeDismissal h]

/-- A view of another queue id keeps the record. -/
theorem record_markSeen_ne (h : q ≠ r) :
    t.kind.record (t.markSeen (some token) r now p) q = t.kind.record p q := by
  rw [← record_stored t p now q]
  exact StickyClass.record_congr fun _ =>
    text?_markSeen fun _ => StickyClass.recordKey_ne_of_id h

/-- A dismissal of another queue id keeps the record. -/
theorem record_markDismissed_ne (h : q ≠ r) :
    t.kind.record (t.markDismissed (some token) r now p) q = t.kind.record p q := by
  rw [← record_stored t p now q]
  exact StickyClass.record_congr fun _ =>
    text?_markDismissed fun _ => StickyClass.recordKey_ne_of_id h

end Tracker

end InAppMessaging
