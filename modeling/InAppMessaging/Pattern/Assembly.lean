import InAppMessaging.Pattern.Basic

/-!
# Putting patterns together

Patterns are put together in one form, in which nothing stands that can be said more simply.
A sequence has at least two parts, none of them empty or a sequence, and no two literals side
by side; a choice has at least two branches, none of them a choice, and is not a choice of
single characters alone; what all branches of a choice begin with is taken out in front.

* `parts_chained`, `branches_offered` — what was put together can be taken apart.
-/

namespace InAppMessaging.Pattern

/-- The pattern that accepts nothing. -/
def failing : Pattern := set .empty true

/-- The characters of a set: nothing, a literal, or the set. -/
def ofSet (s : CharSet) (bytewise : Bool) : Pattern :=
  match s.stretches with
  | [] => failing
  | [(low, high)] => if low = high then literal [Char.ofNat low] else set s bytewise
  | _ => set s bytewise

/-! ## Sequences -/

/-- The parts that stand one after another. -/
def parts : Pattern → List Pattern
  | empty => []
  | seq a b => a :: b.parts
  | p => [p]

/-- Joins literals that stand side by side. -/
def joinLiterals : List Pattern → List Pattern
  | [] => []
  | literal s :: rest =>
      match joinLiterals rest with
      | literal t :: more => literal (s ++ t) :: more
      | more => literal s :: more
  | p :: rest => p :: joinLiterals rest

/-- Parts one after another, as they are. -/
def chained : List Pattern → Pattern
  | [] => empty
  | [p] => p
  | p :: q :: rest => seq p (chained (q :: rest))

/-- Patterns one after another. -/
def sequence (patterns : List Pattern) : Pattern :=
  chained (joinLiterals (patterns.flatMap parts))

/-! ## Choices -/

/-- The branches of a choice. -/
def branches : Pattern → List Pattern
  | alt a b => a :: b.branches
  | p => [p]

/-- Branches to choose from, as they are. -/
def offered : List Pattern → Pattern
  | [] => failing
  | [p] => p
  | p :: q :: rest => alt p (offered (q :: rest))

/-- The set of a literal of one character. -/
def literalSet? : Pattern → Option CharSet
  | literal [c] => some (.single c)
  | _ => none

/-- The set of a pattern that is one. -/
def asSet? : Pattern → Option CharSet
  | set s _ => some s
  | _ => none

/-- The parts of a pattern that has several. -/
def severalParts? : Pattern → Option (List Pattern)
  | seq a b => some (seq a b).parts
  | _ => none

/-- What two lists begin with alike. -/
def commonStart : List Pattern → List Pattern → List Pattern
  | p :: ps, q :: qs => if p = q then p :: commonStart ps qs else []
  | _, _ => []

/-- What all of some lists begin with. -/
def sharedStart : List (List Pattern) → List Pattern
  | [] => []
  | first :: others => others.foldl commonStart first

/-- The number of patterns a pattern is made of. -/
def weight : Pattern → Nat
  | seq a b | alt a b => a.weight + b.weight + 1
  | rep p _ _ _ | group _ p => p.weight + 1
  | _ => 1

/-- A choice of branches.  What all of them begin with is taken out, and what is left of them
is a choice of its own; `fuel` bounds how often. -/
def chooseWithin : Nat → List Pattern → Pattern
  | 0, patterns => offered (patterns.flatMap branches)
  | fuel + 1, patterns =>
      match patterns.flatMap branches with
      | [] => failing
      | [p] => p
      | choices =>
          match (choices.mapM literalSet?).or (choices.mapM asSet?) with
          | some sets => ofSet (.unions sets) false
          | none =>
              let start := ((choices.mapM severalParts?).map sharedStart).getD []
              if start.isEmpty then offered choices
              else
                let left := choices.map fun p => sequence (p.parts.drop start.length)
                sequence (start ++ [chooseWithin fuel left])

/-- A choice of patterns. -/
def choice (patterns : List Pattern) : Pattern :=
  chooseWithin (patterns.foldl (fun n p => n + p.weight) 1) patterns

/-! ## Repetitions -/

/-- The pattern accepts the empty text alone, and is known to accept it somewhere. -/
def isAlwaysEmpty : Pattern → Bool
  | empty | look _ => true
  | literal text => text.isEmpty
  | set _ _ => false
  | seq a b | alt a b => a.isAlwaysEmpty && b.isAlwaysEmpty
  | rep p _ most _ => most.isSome && p.isAlwaysEmpty
  | group _ p => p.isAlwaysEmpty

/-- A pattern repeated.  More than one empty text is no more than one. -/
def repeated (p : Pattern) (least : Nat) (most : Option Nat) (greedy : Bool) : Pattern :=
  let least := if p.isAlwaysEmpty then min least 1 else least
  let most := if p.isAlwaysEmpty then some (min (most.getD 1) 1) else most
  if least = 0 ∧ most = some 0 then empty
  else if least = 1 ∧ most = some 1 then p
  else rep p least most greedy

/-! ## Laws -/

/-- A sequence has the parts it was put together from. -/
theorem parts_chained : ∀ {patterns : List Pattern}, (∀ p ∈ patterns, p.parts = [p]) →
    (chained patterns).parts = patterns
  | [], _ => rfl
  | [p], h => h p List.mem_cons_self
  | p :: q :: more, h => by
      rw [chained, parts, parts_chained fun r hr => h r (List.mem_cons_of_mem _ hr)]

/-- A choice has the branches it was put together from. -/
theorem branches_offered : ∀ {patterns : List Pattern}, patterns ≠ [] →
    (∀ p ∈ patterns, p.branches = [p]) → (offered patterns).branches = patterns
  | [], h, _ => absurd rfl h
  | [p], _, h => h p List.mem_cons_self
  | p :: q :: more, _, h => by
      rw [offered, branches,
        branches_offered (List.cons_ne_nil q more) fun r hr => h r (List.mem_cons_of_mem _ hr)]

end InAppMessaging.Pattern
