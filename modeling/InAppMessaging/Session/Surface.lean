import InAppMessaging.Keyed
import InAppMessaging.Message

/-!
# The surfaces of a session

A session has one modal surface and any number of inline elements.  The modal surface goes
from `initial` through `loading` and `displayed` to `dismissed`, after which another message
may be loaded.  An inline element gets a message `readyToEmbed`, shows it (`embedded`) and
loses it (`dismissed`); elements are kept by their id.

* `InlineSurfaces.find?_add` — a message added for an element is the one found there;
* `InlineSurfaces.find?_update` — an update is found at the holder of its queue id.
-/

namespace InAppMessaging

/-- The life of the modal surface. -/
inductive ModalState where
  | initial
  | loading (m : Message)
  | displayed (m : Message)
  | dismissed (m : Message)
deriving DecidableEq, Repr, Inhabited

namespace ModalState

/-- The message the surface is tied to, also after it was dismissed. -/
def message? : ModalState → Option Message
  | initial => none
  | loading m | displayed m | dismissed m => some m

/-- The message that occupies the surface. -/
def active? : ModalState → Option Message
  | loading m | displayed m => some m
  | initial | dismissed _ => none

/-- A message is on screen. -/
def isDisplayed : ModalState → Bool
  | displayed _ => true
  | _ => false

/-- A message occupies the surface, loaded or not. -/
def isActive (s : ModalState) : Bool := s.active?.isSome

/-- The name of a stage. -/
def name : ModalState → String
  | initial => "Initial"
  | loading _ => "Loading"
  | displayed _ => "Displayed"
  | dismissed _ => "Dismissed"

end ModalState

/-- The life of one inline element. -/
inductive InlineState where
  | readyToEmbed (m : Message) (elementId : String)
  | embedded (m : Message) (elementId : String)
  | dismissed (m : Message)
deriving DecidableEq, Repr, Inhabited

namespace InlineState

/-- The message the element is tied to. -/
def message : InlineState → Message
  | readyToEmbed m _ | embedded m _ | dismissed m => m

/-- The element shows its message. -/
def isEmbedded : InlineState → Bool
  | embedded _ _ => true
  | _ => false

/-- The name of a stage. -/
def name : InlineState → String
  | readyToEmbed _ _ => "ReadyToEmbed"
  | embedded _ _ => "Embedded"
  | dismissed _ => "Dismissed"

end InlineState

/-- The inline elements by their ids. -/
structure InlineSurfaces where
  elements : Keyed InlineState := .empty
deriving DecidableEq, Inhabited

namespace InlineSurfaces

/-- What an element holds. -/
def find? (s : InlineSurfaces) (elementId : String) : Option InlineState :=
  s.elements.find? elementId

/-- Gives an element a message to embed, whatever it held before. -/
def add (s : InlineSurfaces) (m : Message) (elementId : String) : InlineSurfaces :=
  ⟨s.elements.insert elementId (.readyToEmbed m elementId)⟩

/-- The first element, in the order of ids, whose message carries a queue id. -/
def holder? (s : InlineSurfaces) (queueId : String) : Option String :=
  s.elements.findKey? fun state => state.message.queueId = some queueId

/-- Replaces what the first holder of a queue id has; without a holder nothing changes. -/
def update (s : InlineSurfaces) (queueId : String) (state : InlineState) : InlineSurfaces :=
  match s.holder? queueId with
  | some elementId => ⟨s.elements.insert elementId state⟩
  | none => s

theorem find?_add (s : InlineSurfaces) (m : Message) (elementId : String) :
    (s.add m elementId).find? elementId = some (.readyToEmbed m elementId) :=
  s.elements.find?_insert_self elementId _

theorem find?_add_ne (s : InlineSurfaces) (m : Message) {elementId other : String}
    (h : other ≠ elementId) : (s.add m elementId).find? other = s.find? other :=
  s.elements.find?_insert_ne _ h

/-- Adding a message to the element that has it ready changes nothing. -/
theorem add_of_find? {s : InlineSurfaces} {m : Message} {elementId : String}
    (h : s.find? elementId = some (.readyToEmbed m elementId)) : s.add m elementId = s := by
  unfold add
  rw [Keyed.insert_of_find? h]

/-- The holder of a queue id holds a message that carries it. -/
theorem find?_of_holder? {s : InlineSurfaces} {queueId elementId : String}
    (h : s.holder? queueId = some elementId) :
    ∃ state, s.find? elementId = some state ∧ state.message.queueId = some queueId := by
  obtain ⟨state, hstate, hid⟩ := Keyed.exists_of_findKey? h
  exact ⟨state, hstate, of_decide_eq_true hid⟩

/-- An update replaces what the holder of the queue id has, and nothing else. -/
theorem find?_update (s : InlineSurfaces) (queueId : String) (state : InlineState)
    (elementId : String) :
    (s.update queueId state).find? elementId =
      if s.holder? queueId = some elementId then some state else s.find? elementId := by
  unfold update
  cases hholder : s.holder? queueId with
  | none => rfl
  | some holder =>
      by_cases heq : holder = elementId
      · subst heq
        rw [if_pos rfl]
        exact s.elements.find?_insert_self holder state
      · rw [if_neg fun h => heq (Option.some.inj h)]
        exact s.elements.find?_insert_ne state (Ne.symm heq)

end InlineSurfaces

end InAppMessaging
