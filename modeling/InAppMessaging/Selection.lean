import InAppMessaging.Route
import InAppMessaging.Session.Basic

/-!
# Selection

Which queued messages go on screen.  `candidates` are the messages that can still be shown:
with a queue id, not shown yet, the first with their id, the more urgent ones first.  Of
them the first that fits the route goes to the modal surface, and each inline element that
is not busy gets the first one meant for it.

* `mem_candidates` — a candidate is one of the messages;
* `candidates_sorted` — candidates are in the order of their urgency.
-/

namespace InAppMessaging

/-- A priority goes before another or level with it: smaller numbers first, no priority
last. -/
def urgencyLe : Option Int32 → Option Int32 → Bool
  | some p, some q => p ≤ q
  | some _, none => true
  | none, some _ => false
  | none, none => true

/-- A message goes before another or level with it. -/
def moreUrgent (a b : Message) : Bool := urgencyLe a.priority b.priority

/-- The queue id of a message that was not shown yet. -/
def freshId (shown : TextSet) (m : Message) : Option String :=
  m.queueId.filter fun queueId => !shown.contains queueId

/-- Messages that can still be shown, in the order they should be tried. -/
def candidates (messages : List Message) (shown : TextSet) : List Message :=
  (firstOfEach (freshId shown) [] messages).mergeSort moreUrgent

/-- The first message for the modal surface that fits a route. -/
def modalCandidate? (messages : List Message) (route : Option String) : Option Message :=
  messages.find? fun m => !m.isEmbedded && m.matchesRoute route

/-- The element a message is meant for, if it fits the route and the element shows nothing
yet. -/
def freeElement (s : Session) (m : Message) : Option String :=
  if m.matchesRoute s.route then
    m.delivery.elementId.filter fun elementId =>
      !(s.inline.find? elementId).any InlineState.isEmbedded
  else none

/-- The first message for each free element. -/
def inlineCandidates (messages : List Message) (s : Session) : List Message :=
  firstOfEach (freeElement s) [] messages

/-- What selection makes of a list of messages. -/
structure Selection where
  queue : List Message
  modal : Option Message
  inline : List Message

/-- Runs selection over a list of messages. -/
def Session.select (s : Session) (messages : List Message) : Selection :=
  let queue := candidates messages s.shown
  ⟨queue, modalCandidate? queue s.route, inlineCandidates queue s⟩

theorem urgencyLe_total (a b : Option Int32) : (urgencyLe a b || urgencyLe b a) = true := by
  cases a <;> cases b <;> simp [urgencyLe, Int32.le_total]

theorem urgencyLe_trans {a b c : Option Int32} (h : urgencyLe a b = true)
    (h' : urgencyLe b c = true) : urgencyLe a c = true := by
  cases a <;> cases b <;> cases c <;> simp_all [urgencyLe]
  exact Int32.le_trans h h'

theorem moreUrgent_total (a b : Message) : (moreUrgent a b || moreUrgent b a) = true :=
  urgencyLe_total a.priority b.priority

theorem moreUrgent_trans (a b c : Message) (h : moreUrgent a b = true)
    (h' : moreUrgent b c = true) : moreUrgent a c = true :=
  urgencyLe_trans h h'

theorem mem_candidates {messages : List Message} {shown : TextSet} {m : Message}
    (h : m ∈ candidates messages shown) : m ∈ messages :=
  (firstOfEach_sublist _ _ _).subset (List.mem_mergeSort.mp h)

/-- Candidates are in the order of their urgency. -/
theorem candidates_sorted (messages : List Message) (shown : TextSet) :
    (candidates messages shown).Pairwise fun a b => moreUrgent a b = true :=
  List.pairwise_mergeSort moreUrgent_trans moreUrgent_total _

end InAppMessaging
