import InAppMessaging.Eligibility.Record
import InAppMessaging.Eligibility.Snapshot

/-!
# Frequency capping

The operations on the stored data of one sticky class.  Each is done on behalf of a user
token; without one nothing is read and nothing written.

A catalog is stored as the snapshot of its members of the class.  Tracking data of queue ids
that left the catalog are deleted, and a catalog without any member clears the class.  Reading
a snapshot after it expired deletes it.

* `update_of_no_token`, `markSeen_of_no_token` — without a token nothing is written.
-/

namespace InAppMessaging

open Text

/-- Frequency capping for one class, with how long a snapshot stays valid, in milliseconds. -/
structure Tracker where
  kind : StickyClass
  lifetime : Nat

namespace Tracker

/-- The members of the class in a catalog. -/
def members (t : Tracker) (catalog : List Message) : List Message :=
  catalog.filter t.kind.includes

/-- The stored snapshot, whether it has expired or not. -/
def snapshot (t : Tracker) (p : Preferences) : List Message :=
  match (p.text? t.kind.snapshotKey).map decodeSnapshot with
  | some (.ok messages) => messages
  | _ => []

/-- The snapshot has an expiry that is over. -/
def isExpired (t : Tracker) (p : Preferences) (now : Int) : Bool :=
  let expiry := (p.integer? t.kind.expiryKey).getD 0
  0 < expiry && expiry < now

/-- Deletes the snapshot. -/
def dropSnapshot (t : Tracker) (p : Preferences) : Preferences :=
  (p.remove t.kind.snapshotKey).remove t.kind.expiryKey

/-- The snapshot while it is valid; one that has expired is deleted. -/
def stored (t : Tracker) (p : Preferences) (now : Int) : List Message × Preferences :=
  if t.isExpired p now then ([], t.dropSnapshot p) else (t.snapshot p, p)

/-- The frequency rule of the first stored message with a queue id. -/
def capOf? (messages : List Message) (queueId : String) : Option FrequencyCap :=
  (messages.find? fun m => m.queueId = some queueId).bind Message.frequency?

/-- Deletes the tracking data of stored queue ids that are not retained. -/
def forget (t : Tracker) (p : Preferences) (retained : List (Option String)) : Preferences :=
  (t.snapshot p).foldl
    (fun p m =>
      match m.queueId with
      | some queueId => if some queueId ∈ retained then p else t.kind.removeRecord p queueId
      | none => p)
    p

/-- Stores a snapshot that expires after its lifetime. -/
def store (t : Tracker) (p : Preferences) (members : List Message) (now : Int) : Preferences :=
  (p.setText t.kind.snapshotKey (encodeSnapshot members)).setInteger t.kind.expiryKey
    (clamp64 (now + clamp64 t.lifetime))

/-- Stores the members of the class found in a catalog. -/
def update (t : Tracker) (token : Option String) (catalog : List Message) (now : Int)
    (p : Preferences) : Preferences :=
  match token, t.members catalog with
  | none, _ => p
  | some _, [] => t.kind.clear p
  | some _, m :: rest =>
      t.store (t.forget p ((m :: rest).map (·.queueId))) (m :: rest) now

/-- A stored message may be shown now. -/
def isEligible (t : Tracker) (p : Preferences) (now : Int) (m : Message) : Bool :=
  match m.queueId, m.frequency? with
  | some queueId, some cap => cap.isValid && (t.kind.record p queueId).allows cap now
  | _, _ => false

/-- The stored messages that may be shown now. -/
def eligible (t : Tracker) (token : Option String) (now : Int) (p : Preferences) :
    List Message × Preferences :=
  match token with
  | none => ([], p)
  | some _ =>
      let (messages, p) := t.stored p now
      (messages.filter (t.isEligible p now), p)

/-- Records one view of a queue id.  The last view a rule allows, if it allows one, dismisses
the message for good; otherwise a delay postpones the next. -/
def markSeen (t : Tracker) (token : Option String) (queueId : String) (now : Int)
    (p : Preferences) : Preferences :=
  match token with
  | none => p
  | some _ =>
      let (messages, p) := t.stored p now
      match capOf? messages queueId with
      | none => p
      | some cap =>
          let times := min ((t.kind.record p queueId).timesShown + 1) maxWord32
          let p := p.setInteger (t.kind.recordKey .timesShown queueId) times
          if cap.count = 1 then p.setBool (t.kind.recordKey .dismissed queueId) true
          else if 0 < cap.delaySecs then
            p.setInteger (t.kind.recordKey .nextEligibleAt queueId) (clamp64 (now + cap.delayMs))
          else p

/-- Records that the user closed the message of a queue id, unless its rule ignores that. -/
def markDismissed (t : Tracker) (token : Option String) (queueId : String) (now : Int)
    (p : Preferences) : Preferences :=
  match token with
  | none => p
  | some _ =>
      let (messages, p) := t.stored p now
      match capOf? messages queueId with
      | none => p
      | some cap =>
          if cap.ignoreDismiss then p else p.setBool (t.kind.recordKey .dismissed queueId) true

theorem update_of_no_token (t : Tracker) (catalog : List Message) (now : Int) (p : Preferences) :
    t.update none catalog now p = p := rfl

theorem markSeen_of_no_token (t : Tracker) (queueId : String) (now : Int) (p : Preferences) :
    t.markSeen none queueId now p = p := rfl

theorem markDismissed_of_no_token (t : Tracker) (queueId : String) (now : Int)
    (p : Preferences) : t.markDismissed none queueId now p = p := rfl

end Tracker

end InAppMessaging
