import InAppMessaging.Eligibility.Class
import InAppMessaging.Preferences

/-!
# Tracking data

What is stored for a sticky class: one snapshot of its catalog members with the time it
expires, and for each queue id how often its message was shown, whether it was dismissed for
good, and when it may be shown again.  All keys of a class begin alike.
-/

namespace InAppMessaging

/-- Tracking data for one queue id. -/
structure TrackingRecord where
  timesShown : Nat := 0
  dismissed : Bool := false
  nextEligibleAt : Option Int := none
deriving DecidableEq, Repr, Inhabited

/-- The parts of the tracking data. -/
inductive TrackingField where
  | timesShown
  | dismissed
  | nextEligibleAt
deriving DecidableEq, Repr

/-- The name of a part, as it stands in keys. -/
def TrackingField.name : TrackingField → String
  | timesShown => "times_shown"
  | dismissed => "dismissed"
  | nextEligibleAt => "next_eligible_at_ms"

namespace StickyClass

/-- The key of the stored snapshot. -/
def snapshotKey (k : StickyClass) : String := k.keyRoot ++ "messages_json"

/-- The key of the time the snapshot expires. -/
def expiryKey (k : StickyClass) : String := k.keyRoot ++ "expires_at_ms"

/-- The key of one part of the tracking data of a queue id. -/
def recordKey (k : StickyClass) (field : TrackingField) (queueId : String) : String :=
  k.keyRoot ++ field.name ++ "." ++ queueId

/-- Reads the tracking data of a queue id. -/
def record (k : StickyClass) (p : Preferences) (queueId : String) : TrackingRecord where
  timesShown := (p.natural? (k.recordKey .timesShown queueId)).getD 0
  dismissed := (p.bool? (k.recordKey .dismissed queueId)).getD false
  nextEligibleAt := p.integer? (k.recordKey .nextEligibleAt queueId)

/-- Deletes the tracking data of a queue id. -/
def removeRecord (k : StickyClass) (p : Preferences) (queueId : String) : Preferences :=
  ((p.remove (k.recordKey .timesShown queueId)).remove (k.recordKey .dismissed queueId)).remove
    (k.recordKey .nextEligibleAt queueId)

/-- Deletes everything stored for the class. -/
def clear (k : StickyClass) (p : Preferences) : Preferences := p.removeRooted k.keyRoot

end StickyClass

namespace TrackingRecord

/-- A frequency rule lets the message be shown at a time. -/
def allows (r : TrackingRecord) (cap : FrequencyCap) (now : Int) : Bool :=
  (!r.dismissed || cap.ignoreDismiss) &&
    !r.nextEligibleAt.any (fun next => 0 < next && now < next) &&
    (cap.isUnlimited || (r.timesShown : Int) < cap.count)

end TrackingRecord

end InAppMessaging
