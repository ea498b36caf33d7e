/-!
# Keeping the realtime channel

The channel is open while the app is in the foreground and the session uses realtime updates.
Whoever learns of a change asks whether the session uses them now, and opens or closes the
channel; opening an open channel and closing a closed one do nothing.

* `Channel.calls_alternate` — a channel that is opened was closed before, and the other way
  round.
-/

namespace InAppMessaging

/-- What the transport is told. -/
inductive ChannelCall where
  | start
  | stop
deriving DecidableEq, Repr

/-- What is known of the app and the channel. -/
structure Channel where
  foregrounded : Bool := false
  isOpen : Bool := false
deriving DecidableEq, Repr, Inhabited

namespace Channel

/-- Opens the channel. -/
def openUp (c : Channel) : Channel × List ChannelCall :=
  ({ c with isOpen := true }, if c.isOpen then [] else [.start])

/-- Closes the channel. -/
def closeDown (c : Channel) : Channel × List ChannelCall :=
  ({ c with isOpen := false }, if c.isOpen then [.stop] else [])

/-- Leaves the channel as it is. -/
def keep (c : Channel) : Channel × List ChannelCall := (c, [])

/-- The app came to the foreground. -/
def enterForeground (uses : Bool) (c : Channel) : Channel × List ChannelCall :=
  if c.foregrounded then c.keep
  else
    let c := { c with foregrounded := true }
    if uses then c.openUp else c.keep

/-- The app went to the background. -/
def enterBackground (c : Channel) : Channel × List ChannelCall :=
  if c.foregrounded then { c with foregrounded := false }.closeDown else c.keep

/-- A condition of realtime updates came or went. -/
def conditionChanged (uses holds : Bool) (c : Channel) : Channel × List ChannelCall :=
  if !c.foregrounded then c.keep
  else if uses then c.openUp
  else if holds then c.keep
  else c.closeDown

/-- Closes the channel and opens it again if it should be open. -/
def restart (uses : Bool) (c : Channel) : Channel × List ChannelCall :=
  if !c.foregrounded then c.keep
  else
    let (c, closing) := c.closeDown
    let (c, opening) := if uses then c.openUp else c.keep
    (c, closing ++ opening)

/-- The calls continue the sequence of starts and stops that led to a channel's state. -/
inductive Alternating : Bool → List ChannelCall → Bool → Prop
  | nil (b : Bool) : Alternating b [] b
  | start {calls : List ChannelCall} {b : Bool} (h : Alternating true calls b) :
      Alternating false (.start :: calls) b
  | stop {calls : List ChannelCall} {b : Bool} (h : Alternating false calls b) :
      Alternating true (.stop :: calls) b

/-- Opening and closing keep the calls alternating. -/
theorem calls_alternate (c : Channel) :
    Alternating c.isOpen c.openUp.2 true ∧ Alternating c.isOpen c.closeDown.2 false := by
  cases h : c.isOpen <;> simp only [openUp, closeDown, h]
  · exact ⟨.start (.nil _), .nil _⟩
  · exact ⟨.nil _, .stop (.nil _)⟩

end Channel

end InAppMessaging
