import InAppMessaging.Eligibility.Record
import InAppMessaging.Session.Json

/-!
# Frequency caps as JSON

The cap of a message, what is tracked for a queue id, and stored preferences, as objects.
-/

namespace InAppMessaging

open Json

/-- A cap with what follows from it. -/
def FrequencyCap.toValue (cap : FrequencyCap) : Value :=
  .object [("count", .integer cap.count), ("delay_secs", .integer cap.delaySecs),
    ("ignore_dismiss", .bool cap.ignoreDismiss), ("is_valid", .bool cap.isValid),
    ("is_unlimited", .bool cap.isUnlimited), ("delay_ms", .integer cap.delayMs)]

/-- The tracking data of a queue id. -/
def TrackingRecord.toValue (r : TrackingRecord) : Value :=
  .object [("times_shown", .integer r.timesShown), ("dismissed", .bool r.dismissed),
    ("next_eligible_at_ms", orNull .integer r.nextEligibleAt)]

/-- Stored preferences by their keys. -/
def Preferences.toValue (p : Preferences) : Value :=
  .object (p.texts.entries.map fun e => (e.1, .text e.2))

end InAppMessaging
