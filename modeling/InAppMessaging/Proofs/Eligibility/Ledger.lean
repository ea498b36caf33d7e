import InAppMessaging.Proofs.Eligibility.Tracking

/-!
# Frequency capping without keys and texts

What a class keeps, said in types: at most one catalog with its expiry, and a record for each
queue id that has one (`Ledger`).  The calls on a tracker are answered from it as the rules of
capping say, with no word of how anything is stored.

* `Ledger.record_mark_of_ne` — a mark on one queue id leaves the record of another alone;
* `Ledger.record_update` — a catalog keeps the records of queue ids that did not leave it.
-/

namespace InAppMessaging

open Text

/-- A call on a tracker, on behalf of a user where there is one. -/
inductive CapCall where
  | update (token : Option String) (catalog : List Message)
  | eligible (token : Option String)
  | markSeen (token : Option String) (queueId : String)
  | markDismissed (token : Option String) (queueId : String)
  | record (queueId : String)
  | clear
deriving DecidableEq, Repr

/-- What a call returns. -/
inductive CapAnswer where
  | done
  | messages (ms : List Message)
  | record (r : TrackingRecord)
deriving DecidableEq, Repr

/-- The catalog members that are kept, and until when. -/
structure KeptCatalog where
  messages : List Message
  expiry : Int
deriving DecidableEq, Repr

/-- A catalog whose expiry is no positive time never expires. -/
def KeptCatalog.isExpired (c : KeptCatalog) (now : Int) : Bool := 0 < c.expiry && c.expiry < now

/-- Some message of the catalog has a queue id. -/
def KeptCatalog.lists (c : KeptCatalog) (q : String) : Bool :=
  c.messages.any fun m => m.queueId = some q

/-- What a class keeps. -/
structure Ledger where
  catalog : Option KeptCatalog := none
  records : Keyed TrackingRecord := .empty
deriving DecidableEq

namespace Ledger

variable {l : Ledger} {t : Tracker} {q r : String} {now : Int} {token : Option String}

/-- The record of a queue id; one that has none was never tracked. -/
def record (l : Ledger) (q : String) : TrackingRecord := (l.records.find? q).getD {}

/-- Enters the record of a queue id. -/
def enter (l : Ledger) (q : String) (r : TrackingRecord) : Ledger :=
  { l with records := l.records.insert q r }

/-- The kept messages; a catalog that is read after its expiry is dropped. -/
def read (l : Ledger) (now : Int) : List Message × Ledger :=
  match l.catalog with
  | none => ([], l)
  | some c => if c.isExpired now then ([], { l with catalog := none }) else (c.messages, l)

/-- A queue id was in the kept catalog and is not in the new one. -/
def departs (l : Ledger) (members : List Message) (q : String) : Bool :=
  l.catalog.any (·.lists q) && !members.any fun m => m.queueId = some q

/-- Keeps the members of a new catalog, if it has any; without any all is forgotten. -/
def update (t : Tracker) (token : Option String) (catalog : List Message) (now : Int)
    (l : Ledger) : Ledger :=
  if token = none then l
  else if t.members catalog = [] then {}
  else
    { catalog := some ⟨t.members catalog, clamp64 (now + clamp64 t.lifetime)⟩
      records := l.records.filterKeys fun q => !l.departs (t.members catalog) q }

/-- A kept message may be shown now. -/
def isEligible (l : Ledger) (now : Int) (m : Message) : Bool :=
  match m.queueId, m.frequency? with
  | some q, some cap => cap.isValid && (l.record q).allows cap now
  | _, _ => false

/-- The kept messages that may be shown now. -/
def eligible (token : Option String) (now : Int) (l : Ledger) : List Message × Ledger :=
  if token = none then ([], l)
  else ((l.read now).1.filter ((l.read now).2.isEligible now), (l.read now).2)

/-- Changes the record of a queue id by the rule that is kept for it. -/
def mark (change : FrequencyCap → TrackingRecord → TrackingRecord) (token : Option String)
    (q : String) (now : Int) (l : Ledger) : Ledger :=
  if token = none then l
  else
    match Tracker.capOf? (l.read now).1 q with
    | some cap => (l.read now).2.enter q (change cap ((l.read now).2.record q))
    | none => (l.read now).2

/-- One more view of a queue id. -/
def markSeen (token : Option String) (q : String) (now : Int) (l : Ledger) : Ledger :=
  l.mark (fun cap r => r.viewed cap now) token q now

/-- The user closed the message of a queue id. -/
def markDismissed (token : Option String) (q : String) (now : Int) (l : Ledger) : Ledger :=
  l.mark TrackingRecord.closed token q now

/-- Answers a call. -/
def serve (t : Tracker) (now : Int) (l : Ledger) : CapCall → CapAnswer × Ledger
  | .update token catalog => (.done, l.update t token catalog now)
  | .eligible token => ((.messages (l.eligible token now).1), (l.eligible token now).2)
  | .markSeen token q => (.done, l.markSeen token q now)
  | .markDismissed token q => (.done, l.markDismissed token q now)
  | .record q => (.record (l.record q), l)
  | .clear => (.done, {})

/-! ## Records -/

theorem record_enter_self (l : Ledger) (q : String) (r : TrackingRecord) :
    (l.enter q r).record q = r := by
  unfold enter record
  rw [Keyed.find?_insert_self]
  rfl

theorem record_enter_of_ne (l : Ledger) (new : TrackingRecord) (h : r ≠ q) :
    (l.enter q new).record r = l.record r := by
  unfold enter record
  rw [Keyed.find?_insert_ne _ _ h]

/-- Reading the catalog changes no record. -/
theorem record_read (l : Ledger) (now : Int) (q : String) :
    (l.read now).2.record q = l.record q := by
  unfold read
  cases l.catalog with
  | none => rfl
  | some c => by_cases h : c.isExpired now = true <;> simp [h, record]

/-- **A mark on one queue id leaves the record of another alone.** -/
theorem record_mark_of_ne (change : FrequencyCap → TrackingRecord → TrackingRecord)
    (token : Option String) (now : Int) (l : Ledger) (h : r ≠ q) :
    (l.mark change token q now).record r = l.record r := by
  unfold mark
  by_cases htoken : token = none
  · rw [if_pos htoken]
  · rw [if_neg htoken]
    cases Tracker.capOf? (l.read now).1 q with
    | none => exact l.record_read now r
    | some cap => exact (record_enter_of_ne _ _ h).trans (l.record_read now r)

/-- A new catalog keeps the record of each queue id that does not depart. -/
theorem record_update {catalog : List Message} (htoken : token ≠ none)
    (hmembers : t.members catalog ≠ []) (q : String) :
    (l.update t token catalog now).record q =
      if l.departs (t.members catalog) q then {} else l.record q := by
  unfold update record
  rw [if_neg htoken, if_neg hmembers]
  dsimp only
  rw [Keyed.find?_filterKeys]
  cases l.departs (t.members catalog) q <;> rfl

end Ledger

end InAppMessaging
