import InAppMessaging.Header
import InAppMessaging.Message
import InAppMessaging.Text.Decimal

/-!
# Catalog answers

What came back from a fetch: the user's messages, nothing, or a failure, by the status; and
the server's wishes about polling and realtime updates, by the headers.

* `CatalogResponse.announcedInterval?_pos` — an announced cadence is positive.
-/

namespace InAppMessaging

/-- An answer to a fetch. -/
structure CatalogResponse where
  status : Nat
  messages : List Message := []
  headers : List Header := []
deriving DecidableEq, Inhabited

/-- What an answer means for the queue. -/
inductive CatalogOutcome where
  | noContent
  | messages (ms : List Message)
  | failed (status : Nat)
deriving DecidableEq

namespace CatalogResponse

/-- What an answer means, by its status. -/
def outcome (r : CatalogResponse) : CatalogOutcome :=
  if r.status = 204 ∨ r.status = 304 then .noContent
  else if 200 ≤ r.status ∧ r.status < 300 then .messages r.messages
  else .failed r.status

/-- The cadence an answer announces, in milliseconds. -/
def announcedInterval? (r : CatalogResponse) : Option Nat := do
  let value ← Header.findTrimmed? r.headers Header.pollInterval
  let seconds ← Text.natural? Text.maxWord64 value.toList
  if 0 < seconds then some (min (seconds * 1000) Text.maxWord64) else none

/-- Whether an answer asks for realtime updates. -/
def announcedRealtime? (r : CatalogResponse) : Option Bool :=
  (Header.findTrimmed? r.headers Header.useRealtime).map (Text.sameIgnoringCase · "true")

/-- An announced cadence is positive. -/
theorem announcedInterval?_pos {r : CatalogResponse} {n : Nat}
    (h : r.announcedInterval? = some n) : 0 < n := by
  unfold announcedInterval? at h
  obtain ⟨value, _, h⟩ := Option.bind_eq_some_iff.mp h
  obtain ⟨seconds, _, h⟩ := Option.bind_eq_some_iff.mp h
  split at h
  · cases h
    unfold Text.maxWord64
    omega
  · cases h

end CatalogResponse

end InAppMessaging
