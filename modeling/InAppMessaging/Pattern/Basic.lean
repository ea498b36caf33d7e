import InAppMessaging.Pattern.CharSet
import Std.Data.HashSet

/-!
# Patterns

A pattern describes texts, and because it may ask what stands on either side of a place
(`Look`), it describes them in a context.  It is matched by taking one character at a time:
`nullable` says that a pattern accepts the empty text between two characters, and `after`
lists the patterns that accept what may follow a character.  Repetitions count their bounds
down, and one whose body accepts the empty text where it stands needs no more of them.

* `found` — whether some stretch of a text is accepted, found in one pass;
* `mem_withoutRepeats` — patterns that wait for more are kept once each, and none is lost.
-/

namespace InAppMessaging.Pattern

/-- What stands on either side of a place in a text. -/
structure Context where
  before : Option Char
  after : Option Char

/-- Which edges of words are asked for. -/
inductive WordEdge where
  | either
  | none
  | start
  | finish
  | startHalf
  | finishHalf
deriving DecidableEq, Repr, Hashable

/-- A question about a place in a text.  Lines end at line feeds, or, for the `crlf` kinds,
at carriage returns, line feeds and pairs of them; words are made of ASCII characters only or
of all word characters. -/
inductive Look where
  | textStart
  | textEnd
  | lineStart (crlf : Bool)
  | lineEnd (crlf : Bool)
  | word (edge : WordEdge) (ascii : Bool)
deriving DecidableEq, Repr, Hashable

/-- A character that words are made of stands on a side. -/
def wordAt (ascii : Bool) (side : Option Char) : Bool :=
  side.any (if ascii then CharSet.asciiWord else CharSet.word).contains

/-- An edge of a word, given whether word characters stand before and after a place. -/
def WordEdge.holds (edge : WordEdge) (before after : Bool) : Bool :=
  match edge with
  | either => before != after
  | none => before == after
  | start => !before && after
  | finish => before && !after
  | startHalf => !before
  | finishHalf => !after

/-- The answer to a question at a place. -/
def Look.holds (look : Look) (ctx : Context) : Bool :=
  match look with
  | textStart => ctx.before.isNone
  | textEnd => ctx.after.isNone
  | lineStart false => ctx.before.isNone || ctx.before = some '\n'
  | lineStart true =>
      ctx.before.isNone || ctx.before = some '\n' ||
        (ctx.before = some '\r' && ctx.after ≠ some '\n')
  | lineEnd false => ctx.after.isNone || ctx.after = some '\n'
  | lineEnd true =>
      ctx.after.isNone || ctx.after = some '\r' ||
        (ctx.after = some '\n' && ctx.before ≠ some '\r')
  | word edge ascii => edge.holds (wordAt ascii ctx.before) (wordAt ascii ctx.after)

end InAppMessaging.Pattern

namespace InAppMessaging

open Pattern in
/-- A description of texts.  A set tells whether it was written where characters are bytes, a
repetition whether it takes as much as it can, and a group which of the groups it is: none of
this changes what is accepted, but patterns that differ in it are not the same. -/
inductive Pattern where
  | empty
  | literal (text : List Char)
  | set (s : CharSet) (bytewise : Bool)
  | look (l : Look)
  | seq (a b : Pattern)
  | alt (a b : Pattern)
  | rep (p : Pattern) (least : Nat) (most : Option Nat) (greedy : Bool)
  | group (index : Nat) (p : Pattern)
deriving DecidableEq, Repr, Inhabited, Hashable

namespace Pattern

/-- One pattern after another, sequences leaning to the right. -/
def andThen : Pattern → Pattern → Pattern
  | empty, q => q
  | seq a b, q => seq a (b.andThen q)
  | p, q => seq p q

/-- The pattern accepts the empty text at a place. -/
def nullable (ctx : Context) : Pattern → Bool
  | empty => true
  | literal text => text.isEmpty
  | set _ _ => false
  | look l => l.holds ctx
  | seq a b => a.nullable ctx && b.nullable ctx
  | alt a b => a.nullable ctx || b.nullable ctx
  | rep p least _ _ => least = 0 || p.nullable ctx
  | group _ p => p.nullable ctx

/-- What is left of a literal after its first characters. -/
def rest : List Char → Pattern
  | [] => empty
  | text => literal text

/-- The patterns that accept what follows a character `c` of an accepted text, read at a place
that has `c` behind it. -/
def after (ctx : Context) (c : Char) : Pattern → List Pattern
  | empty => []
  | literal text => if text.head? = some c then [rest text.tail] else []
  | set s _ => if s.contains c then [empty] else []
  | look _ => []
  | seq a b =>
      (a.after ctx c).map (·.andThen b) ++ if a.nullable ctx then b.after ctx c else []
  | alt a b => a.after ctx c ++ b.after ctx c
  | rep p least most greedy =>
      if most = some 0 then []
      else
        let left := if p.nullable ctx then 0 else least - 1
        (p.after ctx c).map (·.andThen (rep p left (most.map (· - 1)) greedy))
  | group _ p => p.after ctx c

/-- Each pattern once, in no particular order. -/
def withoutRepeats (patterns : List Pattern) : List Pattern :=
  (Std.HashSet.ofList patterns).toList

/-- Some stretch of the text is accepted, given the character before the text and the patterns
that would complete a stretch already begun. -/
def foundFrom (p : Pattern) (before : Option Char) (live : List Pattern) : List Char → Bool
  | [] => (p :: live).any (nullable ⟨before, none⟩)
  | c :: rest =>
      let ctx : Context := ⟨before, some c⟩
      (p :: live).any (nullable ctx) ||
        foundFrom p (some c) (withoutRepeats ((p :: live).flatMap (after ctx c))) rest

/-- Some stretch of a text is accepted. -/
def found (p : Pattern) (text : List Char) : Bool := p.foundFrom none [] text

theorem mem_withoutRepeats {p : Pattern} {patterns : List Pattern} :
    p ∈ withoutRepeats patterns ↔ p ∈ patterns := by
  simp [withoutRepeats]

end Pattern

end InAppMessaging
