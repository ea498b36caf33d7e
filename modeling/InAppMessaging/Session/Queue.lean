import InAppMessaging.Distinct
import InAppMessaging.Message

/-!
# The message queue

The catalog messages waiting to be shown, each once, in the order in which they came.

* `mem_ofList` — building a queue loses no message, only repetitions.
-/

namespace InAppMessaging

/-- Distinct messages in order. -/
structure MessageQueue where
  messages : List Message
  nodup : messages.Nodup
deriving DecidableEq

namespace MessageQueue

/-- The queue without messages. -/
def empty : MessageQueue := ⟨[], List.Pairwise.nil⟩

instance : Inhabited MessageQueue := ⟨empty⟩

/-- The queue of a list, the first of equal messages keeping its place. -/
def ofList (messages : List Message) : MessageQueue :=
  ⟨distinct messages, nodup_distinct messages⟩

/-- The queue without any message of a queue id. -/
def without (q : MessageQueue) (queueId : String) : MessageQueue :=
  ⟨q.messages.filter fun m => m.queueId ≠ some queueId, q.nodup.filter _⟩

/-- Whether a message is queued. -/
def contains (q : MessageQueue) (m : Message) : Bool := decide (m ∈ q.messages)

/-- The number of queued messages. -/
def size (q : MessageQueue) : Nat := q.messages.length

/-- Whether nothing is queued. -/
def isEmpty (q : MessageQueue) : Bool := q.messages.isEmpty

theorem mem_ofList {messages : List Message} {m : Message} :
    m ∈ (ofList messages).messages ↔ m ∈ messages := mem_distinct

end MessageQueue

end InAppMessaging
