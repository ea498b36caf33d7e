import InAppMessaging.Text.Unicode.Composition

/-!
# Composed form

One text for all that are equivalent: characters are taken apart into those they are composed
of, marks are put in the order of their classes, and what can be composed is composed again.
The syllables of Hangul are composed by a rule, other characters by a table.

* `ordered_perm` — putting marks in order loses none.
-/

namespace InAppMessaging.Text

open Unicode

/-! ## Hangul -/

/-- The first of the syllables. -/
def firstSyllable : Nat := 0xAC00

/-- The first of the letters that begin a syllable. -/
def firstInitial : Nat := 0x1100

/-- The first of the letters in the middle of a syllable. -/
def firstMedial : Nat := 0x1161

/-- The number before the letters that end a syllable. -/
def beforeFinal : Nat := 0x11A7

/-- How many letters may begin a syllable. -/
def initialCount : Nat := 19

/-- How many letters may stand in the middle of a syllable. -/
def medialCount : Nat := 21

/-- How many ways there are to end a syllable, none among them. -/
def finalCount : Nat := 28

/-- The letters of a syllable. -/
def syllableLetters? (n : Nat) : Option (List Nat) :=
  let index := n - firstSyllable
  if n < firstSyllable ∨ initialCount * medialCount * finalCount ≤ index then none
  else
    let initial := firstInitial + index / (medialCount * finalCount)
    let medial := firstMedial + index / finalCount % medialCount
    let final := index % finalCount
    some ([initial, medial] ++ if final = 0 then [] else [beforeFinal + final])

/-- The syllable of two letters, or of a syllable without a final letter and one. -/
def syllableOf? (first second : Nat) : Option Nat :=
  let initial := first - firstInitial
  let medial := second - firstMedial
  let index := first - firstSyllable
  if firstInitial ≤ first ∧ initial < initialCount ∧ firstMedial ≤ second ∧
      medial < medialCount then
    some (firstSyllable + (initial * medialCount + medial) * finalCount)
  else if firstSyllable ≤ first ∧ index < initialCount * medialCount * finalCount ∧
      index % finalCount = 0 ∧ beforeFinal < second ∧ second < beforeFinal + finalCount then
    some (first + (second - beforeFinal))
  else none

/-! ## Taking apart and putting in order -/

/-- How often a character is composed of one that is composed itself, at most. -/
def deepestComposition : Nat := 4

/-- The characters a character is composed of. -/
def takenApart : Nat → Nat → List Nat
  | 0, n => [n]
  | depth + 1, n =>
      match syllableLetters? n with
      | some letters => letters
      | none =>
          match compositionOf? n with
          | some c => takenApart depth c.first ++ [c.second]
          | none => [n]

/-- Puts a mark among ordered marks, behind those of its class. -/
def placeMark (n : Nat) : List Nat → List Nat
  | [] => [n]
  | m :: rest =>
      if combiningClass n < combiningClass m then n :: m :: rest else m :: placeMark n rest

/-- Puts the marks behind each character in the order of their classes; `marks` are those met
since the last character. -/
def ordered (marks : List Nat) : List Nat → List Nat
  | [] => marks
  | n :: rest =>
      if combiningClass n = 0 then marks ++ n :: ordered [] rest
      else ordered (placeMark n marks) rest

/-! ## Composing -/

/-- The character composed of two. -/
def pairComposed? (first second : Nat) : Option Nat :=
  (syllableOf? first second).or (composedOf? first second)

/-- Composes what stands behind a character: `marks` are the marks kept behind it, last first.
A mark reaches the character if none of its own class or a higher one stands between. -/
def composedBehind (base : Nat) (marks : List Nat) : List Nat → List Nat
  | [] => base :: marks.reverse
  | n :: rest =>
      let reaches := marks.head?.all fun m => combiningClass m < combiningClass n
      match if reaches then pairComposed? base n else none with
      | some whole => composedBehind whole marks rest
      | none =>
          if combiningClass n = 0 then (base :: marks.reverse) ++ composedBehind n [] rest
          else composedBehind base (n :: marks) rest

/-- Composes a text; marks at its front have nothing to be composed with. -/
def composedNumbersOf : List Nat → List Nat
  | [] => []
  | n :: rest =>
      if combiningClass n = 0 then composedBehind n [] rest else n :: composedNumbersOf rest

/-- The composed form of a text. -/
def composed (cs : List Char) : List Char :=
  if cs.all (·.toNat < 0x80) then cs
  else
    let apart := cs.flatMap fun c => takenApart deepestComposition c.toNat
    (composedNumbersOf (ordered [] apart)).map Char.ofNat

/-- A mark is put among marks without losing one. -/
theorem placeMark_perm (n : Nat) (marks : List Nat) : (placeMark n marks).Perm (n :: marks) := by
  induction marks with
  | nil => exact List.Perm.refl _
  | cons m rest ih =>
      unfold placeMark
      split
      · exact List.Perm.refl _
      · exact (ih.cons m).trans (List.Perm.swap n m rest)

/-- Putting marks in order loses none. -/
theorem ordered_perm (marks cs : List Nat) : (ordered marks cs).Perm (marks ++ cs) := by
  induction cs generalizing marks with
  | nil => simp [ordered]
  | cons n rest ih =>
      unfold ordered
      split
      · exact (List.perm_append_left_iff marks).mpr ((ih []).cons n)
      · exact (ih _).trans
          (((placeMark_perm n marks).append_right rest).trans List.perm_middle.symm)

end InAppMessaging.Text
