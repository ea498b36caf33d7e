import InAppMessaging.Text.Decimal

/-!
# Messages

A catalog entry.  Its template is named by `id`; the server tracks it by a queue id, and a
message without one is never counted, capped or selected.  The delivery block says where and
for whom the message is: a route rule, an inline element, an anchor on the modal surface, and
the sticky block with its frequency rule.

Two messages are the same message when every field is equal.

* `Message.frequency?` — a rule is usable only if it names both a count and a delay;
* `isBroadcast_or_isAnonymous` — a sticky message belongs to exactly one of the two classes.
-/

namespace InAppMessaging

open Text

/-- Where on the screen a modal message is anchored. -/
inductive Position where
  | top
  | center
  | bottom
deriving DecidableEq, Repr, Inhabited

/-- The frequency rule as the catalog gives it, every part optional. -/
structure FrequencySettings where
  count : Option Int64 := none
  delay : Option Int64 := none
  ignoreDismiss : Option Bool := none
deriving DecidableEq, Repr, Inhabited

/-- The block that makes a message sticky. -/
structure BroadcastSettings where
  frequency : Option FrequencySettings := none
deriving DecidableEq, Repr, Inhabited

/-- How and where a message is to be delivered. -/
structure Delivery where
  routeRule : Option String := none
  elementId : Option String := none
  campaignId : Option String := none
  position : Option Position := none
  persistent : Option Bool := none
  overlayColor : Option String := none
  anonymous : Option Bool := none
  broadcast : Option BroadcastSettings := none
deriving DecidableEq, Repr, Inhabited

/-- A message of the catalog. -/
structure Message where
  id : String := ""
  priority : Option Int32 := none
  queueId : Option String := none
  delivery : Delivery := {}
deriving DecidableEq, Repr, Inhabited

/-- A frequency rule that names all it has to: at most `count` views, nought meaning no
limit, with `delaySecs` seconds between two of them. -/
structure FrequencyCap where
  count : Int
  delaySecs : Int
  ignoreDismiss : Bool
deriving DecidableEq, Repr, Inhabited

namespace FrequencyCap

/-- A rule with a negative count or delay is unusable. -/
def isValid (cap : FrequencyCap) : Bool := 0 ≤ cap.count && 0 ≤ cap.delaySecs

/-- A count of nought places no limit on views. -/
def isUnlimited (cap : FrequencyCap) : Bool := cap.count = 0

/-- The delay in milliseconds, within the signed 64-bit range. -/
def delayMs (cap : FrequencyCap) : Int := clamp64 (cap.delaySecs * 1000)

end FrequencyCap

namespace Message

/-- A message meant for an inline element. -/
def isEmbedded (m : Message) : Bool := m.delivery.elementId.isSome

/-- A message that outlives its display without counting as shown. -/
def isPersistent (m : Message) : Bool := m.delivery.persistent.getD false

/-- The anchor on the modal surface, the centre unless another is named. -/
def position (m : Message) : Position := m.delivery.position.getD .center

/-- The frequency rule, if count and delay are both given. -/
def frequency? (m : Message) : Option FrequencyCap := do
  let settings ← (← m.delivery.broadcast).frequency
  return ⟨(← settings.count).toInt, (← settings.delay).toInt, settings.ignoreDismiss.getD false⟩

/-- A message that carries the sticky block. -/
def isSticky (m : Message) : Bool := m.delivery.broadcast.isSome

/-- A sticky message for identified users. -/
def isBroadcast (m : Message) : Bool := m.isSticky && !m.delivery.anonymous.getD false

/-- A sticky message for users who have not identified yet. -/
def isAnonymous (m : Message) : Bool := m.isSticky && m.delivery.anonymous.getD false

/-- The name a message is reported by: its queue id, else its template id. -/
def trackingId (m : Message) : String := m.queueId.getD m.id

theorem isBroadcast_or_isAnonymous (m : Message) :
    (m.isBroadcast || m.isAnonymous) = m.isSticky := by
  unfold isBroadcast isAnonymous
  cases m.isSticky <;> cases m.delivery.anonymous.getD false <;> rfl

end Message

end InAppMessaging
