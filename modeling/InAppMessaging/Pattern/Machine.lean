import InAppMessaging.Pattern.Assembly
import InAppMessaging.Text.Base64
import InAppMessaging.Text.Utf8
import Std.Data.HashMap

/-!
# How large a pattern is

A pattern stands for a machine that reads a text byte by byte, and one that repeats something a
thousand times stands for a thousand copies of it.  The machine is built here as far as its
size goes: states are counted, and the ways on from those that have several.  There are two
machines for a pattern, one that reads forward and marks where groups begin and end, and one
that reads backward; a pattern of which either is larger than `sizeLimit` is refused.

Sets of characters take the most states.  Sequences of bytes that go on alike share states as
long as the builder remembers them: it keeps a table of a fixed number of places, and what
comes to a place replaces what was there.
-/

namespace InAppMessaging.Pattern

open Text

/-- The size of a state. -/
def stateSize : Nat := 32

/-- The size of a way on from a state that has several. -/
def choiceSize : Nat := 4

/-- The size of a way on from a state that tells stretches of bytes apart. -/
def stretchSize : Nat := 8

/-- The greatest size of a machine, ten mebibytes. -/
def sizeLimit : Nat := 10 * 0x100000

/-- A machine as far as it is built: the number of its states, and the size of the ways on. -/
structure Machine where
  states : Nat := 0
  ways : Nat := 0
deriving DecidableEq, Repr

namespace Machine

/-- The size of a machine. -/
def size (m : Machine) : Nat := m.states * stateSize + m.ways

/-- The machine is larger than it may be. -/
def exceeds (m : Machine) : Bool := sizeLimit < m.size

/-- Adds states. -/
def add (m : Machine) (states : Nat) : Machine := { m with states := m.states + states }

/-- Adds ways on from states with a choice. -/
def choose (m : Machine) (ways : Nat) : Machine :=
  { m with ways := m.ways + ways * choiceSize }

/-- Adds a state with ways on that tell bytes apart. -/
def tell (m : Machine) (stretches : Nat) : Machine :=
  { states := m.states + 1, ways := m.ways + stretches * stretchSize }

/-- Goes on from the end of a part, which is a way more if the part ends in a choice. -/
def join (m : Machine) (endsInChoice : Bool) : Machine := if endsInChoice then m.choose 1 else m

end Machine

/-! ## What is remembered of sequences of bytes -/

/-- A way on with a stretch of bytes, to a state. -/
structure Way where
  low : Nat
  high : Nat
  target : Nat
deriving DecidableEq

/-- States that may be shared, each with the ways by which it is known, by the place in the
table. -/
abbrev Memory : Type := Std.HashMap Nat (List Way × Nat)

/-- Mixes a number into the mark of a list of ways. -/
def mixMark (mark : UInt64) (n : Nat) : UInt64 := (mark ^^^ UInt64.ofNat n) * 1099511628211

/-- The place of a list of ways in a table with so many places; `targetFirst` tells in which
order a way is read. -/
def placeOf (places : Nat) (targetFirst : Bool) (ways : List Way) : Nat :=
  let mix (mark : UInt64) (w : Way) : UInt64 :=
    if targetFirst then mixMark (mixMark (mixMark mark w.target) w.low) w.high
    else mixMark (mixMark (mixMark mark w.low) w.high) w.target
  (ways.foldl mix 14695981039346656037).toNat % places

/-- The state known by some ways, if it is remembered. -/
def remembered? (memory : Memory) (place : Nat) (ways : List Way) : Option Nat :=
  memory[place]?.bind fun entry => if entry.1 = ways then some entry.2 else none

/-! ## Sets -/

/-- The number of places for states that read forward. -/
def forwardPlaces : Nat := 10000

/-- The number of places for states that read backward. -/
def backwardPlaces : Nat := 1000

/-- Sequences in groups: those that follow each other with the same first stretch of bytes. -/
def groupByFirst (sequences : List (List (Nat × Nat))) :
    List ((Nat × Nat) × List (List (Nat × Nat))) :=
  sequences.foldr (fun sequence groups =>
    match sequence, groups with
    | [], groups => groups
    | first :: more, (head, tails) :: others =>
        if first = head then (head, more :: tails) :: others
        else (first, [more]) :: (head, tails) :: others
    | first :: more, [] => [(first, [more])]) []

/-- Builds the state that reads some sequences of bytes, of at most `depth` bytes each, and the
states behind it first; returns its number. -/
def forwardState (target : Nat) : Nat → List (List (Nat × Nat)) → Machine × Memory →
    (Machine × Memory) × Nat
  | 0, _, built => (built, target)
  | depth + 1, sequences, built =>
      let step (before : (Machine × Memory) × List Way)
          (group : (Nat × Nat) × List (List (Nat × Nat))) : (Machine × Memory) × List Way :=
        let (built, state) :=
          if group.2.all List.isEmpty then (before.1, target)
          else forwardState target depth group.2 before.1
        (built, ⟨group.1.1, group.1.2, state⟩ :: before.2)
      let (built, ways) := (groupByFirst sequences).foldl step (built, [])
      let ways := ways.reverse
      let place := placeOf forwardPlaces false ways
      match remembered? built.2 place ways with
      | some state => (built, state)
      | none =>
          let state := built.1.states
          ((built.1.tell ways.length, built.2.insert place (ways, state)), state)

/-- Builds the states that read a sequence of bytes from its end; returns the number of the
state to begin in. -/
def backwardState : List (Nat × Nat) → Nat → Machine × Memory → (Machine × Memory) × Nat
  | [], target, built => (built, target)
  | stretch :: more, target, built =>
      let way : Way := ⟨stretch.1, stretch.2, target⟩
      let place := placeOf backwardPlaces true [way]
      match remembered? built.2 place [way] with
      | some state => backwardState more state built
      | none =>
          let state := built.1.states
          backwardState more state (built.1.add 1, built.2.insert place ([way], state))

/-- The greatest number of bytes of a character. -/
def longestCharacter : Nat := 4

/-- Builds the states of a set that holds more than ASCII characters, given as sequences of
bytes. -/
def buildSequences (backward : Bool) (sequences : List (List (Nat × Nat))) (m : Machine) :
    Machine :=
  if backward then
    let finish := m.states + 1
    (sequences.foldl (fun (built : Machine × Memory) sequence =>
      let (built, _) := backwardState sequence finish built
      (built.1.choose 1, built.2)) (m.add 2, ∅)).1
  else (forwardState m.states longestCharacter sequences (m.add 1, ∅)).1.1

/-! ## Choices of literals -/

/-- The number of choices that the state of some literals offers, and what is left of the
literals in the stretches between those that end here.  A literal that ends where none has
gone on is one end, however often it comes. -/
def literalRuns (begun : Bool) : List (List Nat) → List (List (List Nat))
  | [] => [[]]
  | [] :: more => if begun then [] :: literalRuns true more else literalRuns false more
  | bytes :: more =>
      match literalRuns true more with
      | run :: runs => (bytes :: run) :: runs
      | [] => [[bytes]]

/-- The bytes that literals begin with, in ascending order and each once. -/
def firstBytes (literals : List (List Nat)) : List Nat :=
  (literals.filterMap List.head?).mergeSort.eraseDups

/-- Builds the states for a choice of literals, of at most `depth` bytes each: one state for
each run of literals, which tells their first bytes apart, and one to choose among the runs
and the ends between them. -/
def buildLiterals : Nat → List (List Nat) → Machine → Machine
  | 0, _, m => m
  | depth + 1, literals, m =>
      let endsFirst := literals.head? = some []
      let runs := literalRuns false literals
      let build (m : Machine) (run : List (List Nat)) : Machine :=
        let firsts := firstBytes run
        let m := firsts.foldl (fun m first =>
          let left := (run.filter fun bytes => bytes.head? = some first).map List.tail
          if left.all List.isEmpty then m else buildLiterals depth left m) m
        match firsts with
        | [] => m
        | [_] => (m.add 1).choose 1
        | _ => (m.tell firsts.length).choose 1
      let m := runs.foldl build m
      (m.choose (runs.length - 1 + if endsFirst then 1 else 0)).add 1

/-- The bytes of a literal in the order in which they are read. -/
def literalBytes (backward : Bool) (text : List Char) : List Nat :=
  let bytes := utf8Bytes (String.ofList text)
  if backward then bytes.reverse else bytes

/-- The text of a literal. -/
def literalText? : Pattern → Option (List Char)
  | literal text => some text
  | _ => none

/-! ## The whole -/

/-- A way to build a part: it adds to a machine, and tells whether the part ends in a choice. -/
structure Builder where
  run : Machine → Machine × Bool

namespace Builder

/-- Goes on counting copies of a part, which come one after another; the part before ends in a
choice or not. -/
def copiesAfter (part : Builder) : Nat → Machine → Bool → Machine × Bool
  | 0, m, ending => (m, ending)
  | n + 1, m, ending =>
      if m.exceeds then (m, ending)
      else
        let (m, next) := part.run m
        copiesAfter part n (m.join ending) next

/-- Copies of a part one after another. -/
def copies (part : Builder) (count : Nat) (m : Machine) : Machine × Bool :=
  match count with
  | 0 => (m.add 1, false)
  | n + 1 =>
      let (m, ending) := part.run m
      part.copiesAfter n m ending

/-- Copies of a part each of which may be left out with all that follow. -/
def optionalAfter (part : Builder) : Nat → Machine → Bool → Machine × Bool
  | 0, m, ending => (m, ending)
  | n + 1, m, ending =>
      if m.exceeds then (m, ending)
      else
        let (m, next) := part.run (m.add 1)
        optionalAfter part n ((m.join ending).choose 2) next

/-- A repetition of a part; `solid` tells that the part is known to take a character. -/
def repeated (part : Builder) (solid : Bool) (least : Nat) (most : Option Nat) (m : Machine) :
    Machine × Bool :=
  match least, most with
  | 0, some 1 =>
      let (m, ending) := part.run (m.add 1)
      (((m.add 1).choose 2).join ending, false)
  | 0, none =>
      if solid then
        let (m, ending) := part.run (m.add 1)
        ((m.choose 1).join ending, true)
      else
        let (m, ending) := part.run m
        (((m.add 3).choose 4).join ending, false)
  | n + 1, none =>
      let (m, ending) := part.copies (n + 1) m
      (((m.add 1).choose 1).join ending, true)
  | least, some most =>
      let (m, ending) := part.copies least m
      if most ≤ least then (m, ending)
      else
        let (m, ending) := part.optionalAfter (most - least) (m.add 1) ending
        (m.join ending, false)

end Builder

/-- The least number of characters of an accepted text; none if it is known that there is no
such text. -/
def leastLength? : Pattern → Option Nat
  | empty | look _ => some 0
  | literal text => some text.length
  | set s _ => if s.stretches.isEmpty then none else some 1
  | seq a b => do return (← a.leastLength?) + (← b.leastLength?)
  | alt a b => do return min (← a.leastLength?) (← b.leastLength?)
  | rep p least _ _ => p.leastLength?.map (· * least)
  | group _ p => p.leastLength?

/-- A pattern that is known to take a character. -/
def isSolid (p : Pattern) : Bool := p.leastLength?.any (0 < ·)

/-- Builds the states of a set. -/
def setBuilder (backward : Bool) (s : CharSet) : Builder :=
  if s.isAscii then ⟨fun m => ((m.add 1).tell s.stretches.length, false)⟩
  else
    let sequences := s.stretches.flatMap utf8Sequences
    ⟨fun m => (buildSequences backward sequences m, false)⟩

/-- Builds a choice of literals. -/
def literalsBuilder (backward : Bool) (texts : List (List Char)) : Builder :=
  let literals := texts.map (literalBytes backward)
  let longest := literals.foldl (fun n bytes => max n bytes.length) 0
  ⟨fun m => (buildLiterals (longest + 1) literals (m.add 1), false)⟩

/-- Builds a branch of a choice, and behind the second branch the states that begin and end
the choice. -/
def branchBuilder (isSecond : Bool) (part : Builder) : Builder :=
  ⟨fun m =>
    let (m, ending) := part.run m
    (((if isSecond then m.add 2 else m).choose 1).join ending, false)⟩

/-- One builder after another. -/
def inTurn (first second : Builder) : Builder :=
  ⟨fun m =>
    let (m, ending) := first.run m
    let (m, next) := second.run m
    (m.join ending, next)⟩

/-- How a pattern stands: on its own, or as what is left of a choice behind its first branch
or a later one. -/
inductive Standing where
  | alone
  | second
  | later
deriving DecidableEq

/-- Builds a part as it stands. -/
def Standing.place (standing : Standing) (part : Builder) : Builder :=
  if standing = .alone then part else branchBuilder (standing = .second) part

/-- Builds the states of a pattern. -/
def builder (backward : Bool) : Standing → Pattern → Builder
  | standing, empty | standing, look _ => standing.place ⟨fun m => (m.add 1, false)⟩
  | standing, literal text =>
      let length := utf8Length text
      standing.place ⟨fun m => (m.add length, false)⟩
  | standing, set s _ => standing.place (setBuilder backward s)
  | standing, seq a b =>
      let first := builder backward .alone a
      let second := builder backward .alone b
      standing.place (if backward then inTurn second first else inTurn first second)
  | .alone, alt a b =>
      match (alt a b).branches.mapM literalText? with
      | some texts => literalsBuilder backward texts
      | none =>
          inTurn (branchBuilder false (builder backward .alone a)) (builder backward .second b)
  | standing, alt a b =>
      inTurn (branchBuilder (standing = .second) (builder backward .alone a))
        (builder backward .later b)
  | standing, rep p least most _ =>
      let body := builder backward .alone p
      let solid := p.isSolid
      standing.place ⟨body.repeated solid least most⟩
  | standing, group _ p =>
      let body := builder backward .alone p
      if backward then standing.place body
      else standing.place ⟨fun m =>
        let (m, ending) := body.run (m.add 1)
        ((m.add 1).join ending, false)⟩

/-- A pattern that accepts only what begins where the text begins. -/
def isAnchoredAtStart : Pattern → Bool
  | look l => l = .textStart
  | seq a b => a.isAnchoredAtStart || (a.isAlwaysEmpty && b.isAnchoredAtStart)
  | alt a b => a.isAnchoredAtStart && b.isAnchoredAtStart
  | rep p least _ _ => 0 < least && p.isAnchoredAtStart
  | group _ p => p.isAnchoredAtStart
  | _ => false

/-- A pattern that accepts only what ends where the text ends. -/
def isAnchoredAtEnd : Pattern → Bool
  | look l => l = .textEnd
  | seq a b => b.isAnchoredAtEnd || (b.isAlwaysEmpty && a.isAnchoredAtEnd)
  | alt a b => a.isAnchoredAtEnd && b.isAnchoredAtEnd
  | rep p least _ _ => 0 < least && p.isAnchoredAtEnd
  | group _ p => p.isAnchoredAtEnd
  | _ => false

/-- The machine of a pattern.  In front of one that may begin anywhere stands a loop that
passes over bytes. -/
def machine (backward : Bool) (p : Pattern) : Machine :=
  let anchored := if backward then p.isAnchoredAtEnd else p.isAnchoredAtStart
  let loop : Machine := (Machine.tell { states := 2 } 1).choose 2
  let start : Machine := if anchored then { states := 1 } else loop
  let (m, ending) := (builder backward .alone (if backward then p else group 0 p)).run start
  (m.add 1).join ending

/-- Both machines of a pattern are within the limit. -/
def isWithinLimit (p : Pattern) : Bool :=
  !(p.machine false).exceeds && !(p.machine true).exceeds

end InAppMessaging.Pattern
