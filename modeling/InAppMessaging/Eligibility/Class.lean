import InAppMessaging.Message

/-!
# Sticky classes

Sticky messages come in two classes that share their rules and differ in whom they are for
and under which keys their data are kept.

* `StickyClass.eq_of_includes` — no message belongs to both.
-/

namespace InAppMessaging

/-- The two classes of sticky messages. -/
inductive StickyClass where
  | broadcast
  | anonymous
deriving DecidableEq, Repr, Inhabited

namespace StickyClass

/-- The name of a class, as it stands in keys. -/
def name : StickyClass → String
  | broadcast => "broadcast"
  | anonymous => "anonymous"

/-- A message belongs to a class. -/
def includes (k : StickyClass) (m : Message) : Bool :=
  match k with
  | broadcast => m.isBroadcast
  | anonymous => m.isAnonymous

/-- What every key of a class begins with. -/
def keyRoot (k : StickyClass) : String := "herald." ++ k.name ++ "."

/-- Both classes. -/
def all : List StickyClass := [broadcast, anonymous]

theorem eq_of_includes {k l : StickyClass} {m : Message} (hk : k.includes m = true)
    (hl : l.includes m = true) : k = l := by
  cases k <;> cases l <;> simp_all [includes, Message.isBroadcast, Message.isAnonymous]

end StickyClass

/-- The class whose rules a message is under. -/
def Message.stickyClass? (m : Message) : Option StickyClass :=
  StickyClass.all.find? (·.includes m)

end InAppMessaging
