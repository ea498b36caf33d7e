import InAppMessaging.Session.Surface

/-!
# Inline views

The host's view behind one inline element.  It follows what the session says of its element:
a message that is ready is embedded, one that is embedded already is embedded again if the
view is empty, and a dismissed one is cleared away.
-/

namespace InAppMessaging

/-- What a view is told. -/
inductive ViewCall where
  | embed (m : Message)
  | clear
deriving DecidableEq

/-- A view with the message it shows. -/
structure InlineView where
  attached : Option Message := none
deriving DecidableEq, Inhabited

namespace InlineView

/-- Shows a message. -/
def embed (m : Message) : InlineView × List ViewCall := ({ attached := some m }, [.embed m])

/-- Follows the state of the view's element. -/
def follow (v : InlineView) : InlineState → InlineView × List ViewCall
  | .readyToEmbed m _ => embed m
  | .embedded m _ => if v.attached.isNone then embed m else (v, [])
  | .dismissed _ => ({}, [.clear])

end InlineView

end InAppMessaging
