import InAppMessaging.Host.Event

/-!
# Counting the journal

What a journal says about the calls to the outside, as counts and lists in the order of the
events.
-/

namespace InAppMessaging

/-- The calls to the outside. -/
structure Tally where
  fetches : Nat := 0
  viewed : List String := []
  viewSessions : List String := []
  presented : List String := []
  teardowns : Nat := 0
  callbacks : Nat := 0
  starts : Nat := 0
  stops : Nat := 0
  reconnects : Nat := 0
  embeds : List Nat := []
  clears : List Nat := []
deriving DecidableEq, Repr

namespace Tally

/-- Counts one more event. -/
def add (n : Tally) : Event → Tally
  | .fetched _ => { n with fetches := n.fetches + 1 }
  | .viewLogged m sessionId =>
      { n with viewed := n.viewed ++ [m.id], viewSessions := n.viewSessions ++ [sessionId] }
  | .presented m _ => { n with presented := n.presented ++ [m.id] }
  | .tornDown => { n with teardowns := n.teardowns + 1 }
  | .callback _ => { n with callbacks := n.callbacks + 1 }
  | .channel .start => { n with starts := n.starts + 1 }
  | .channel .stop => { n with stops := n.stops + 1 }
  | .reconnectAsked => { n with reconnects := n.reconnects + 1 }
  | .view place (.embed _) => { n with embeds := n.embeds ++ [place] }
  | .view place .clear => { n with clears := n.clears ++ [place] }
  | .entered _ | .errorLogged _ | .told .. | .noted .. => n

/-- Counts a journal, the oldest event first. -/
def ofJournal (events : List Event) : Tally := events.foldl add {}

end Tally

end InAppMessaging
