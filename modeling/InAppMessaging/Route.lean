import InAppMessaging.Message
import InAppMessaging.Pattern.Reader

/-!
# Route rules

A route rule is a pattern for the whole route.  It is put between anchors as text, in a group
of its own, and what comes out is read as one pattern; a rule that makes no pattern that way
is invalid.

Picking a message fails closed (`Message.matchesRoute`), keeping one on screen fails open
(`Message.stillMatchesRoute`).

* `stillMatchesRoute_of_matchesRoute` — a message that may be picked may also stay.
-/

namespace InAppMessaging

/-- What a rule says about a route. -/
inductive RouteMatch where
  | matched
  | mismatched
  | invalidRule
deriving DecidableEq, Repr

/-- The pattern of a rule between its anchors. -/
def rulePattern? (rule : String) : Option Pattern :=
  Pattern.ofText? ("^(?:".toList ++ rule.toList ++ ")$".toList)

/-- Tests a rule against a whole route. -/
def evaluateRule (rule route : String) : RouteMatch :=
  match rulePattern? rule with
  | none => .invalidRule
  | some p => if p.found route.toList then .matched else .mismatched

namespace Message

/-- The message may be picked while a route is current.  With a rule it needs a route, and one
that the rule matches. -/
def matchesRoute (m : Message) (route : Option String) : Bool :=
  match m.delivery.routeRule, route with
  | none, _ => true
  | some _, none => false
  | some rule, some route => evaluateRule rule route = .matched

/-- The message on screen may stay there on a route.  Only a valid rule that does not match
takes it away. -/
def stillMatchesRoute (m : Message) (route : String) : Bool :=
  match m.delivery.routeRule with
  | none => true
  | some rule => evaluateRule rule route ≠ .mismatched

/-- A message that may be picked on a route may stay there. -/
theorem stillMatchesRoute_of_matchesRoute {m : Message} {route : String}
    (h : m.matchesRoute (some route) = true) : m.stillMatchesRoute route = true := by
  unfold matchesRoute at h
  unfold stillMatchesRoute
  cases hr : m.delivery.routeRule <;> simp_all

end Message

end InAppMessaging
