import InAppMessaging.Text.Unicode.Age
import InAppMessaging.Text.Unicode.Category
import InAppMessaging.Text.Unicode.Folding
import InAppMessaging.Text.Unicode.Script
import InAppMessaging.Text.Unicode.Segment
import InAppMessaging.Text.Unicode.Trait

/-!
# Sets of characters

The sets a pattern can name: ranges, the properties of characters, and what the operations on
sets make of them.  A set is kept as the stretches of numbers its characters have, in
ascending order and with a gap between any two of them, so that equal sets are written alike.
There are no characters between `lastBeforeGap` and `firstAfterGap`; the two count as
neighbours where a stretch is cut, but a union does not join what lies on either side.

* `contains_joined` — joining stretches that touch keeps the set;
* `contains_union` — a union holds what one of the sets holds;
* `contains_inter` — an intersection holds what both sets hold.
-/

namespace InAppMessaging.Pattern

open Text Text.Unicode

/-- A set of characters. -/
structure CharSet where
  stretches : List (Nat × Nat)
deriving DecidableEq, Repr, Inhabited

namespace CharSet

/-- Sets are told apart by where they begin. -/
instance : Hashable CharSet := ⟨fun s => hash s.stretches.head?⟩

/-- A number is in a stretch. -/
def isWithin (n : Nat) (stretch : Nat × Nat) : Bool := stretch.1 ≤ n && n ≤ stretch.2

/-- Membership. -/
def contains (s : CharSet) (c : Char) : Bool := s.stretches.any (isWithin c.toNat)

/-! ## Numbers of characters -/

/-- The last number of a character before the gap. -/
def lastBeforeGap : Nat := 0xD7FF

/-- The first number of a character after the gap. -/
def firstAfterGap : Nat := 0xE000

/-- The greatest number of a character. -/
def lastNumber : Nat := 0x10FFFF

/-- The number of the next character. -/
def next (n : Nat) : Nat := if n = lastBeforeGap then firstAfterGap else n + 1

/-- The number of the character before. -/
def previous (n : Nat) : Nat := if n = firstAfterGap then lastBeforeGap else n - 1

/-- The characters of stretches of numbers, ends in the gap moved out of it. -/
def ofStretches (stretches : List (Nat × Nat)) : CharSet :=
  let isInGap (n : Nat) : Bool := lastBeforeGap < n && n < firstAfterGap
  ⟨stretches.filterMap fun s =>
    let low := if isInGap s.1 then firstAfterGap else s.1
    let high := if isInGap s.2 then lastBeforeGap else s.2
    if low ≤ high then some (low, high) else none⟩

/-! ## Operations -/

/-- The empty set. -/
def empty : CharSet := ⟨[]⟩

/-- The characters from one to another. -/
def range (low high : Char) : CharSet := ⟨[(low.toNat, high.toNat)]⟩

/-- The set of one character. -/
def single (c : Char) : CharSet := range c c

/-- The set of all characters. -/
def all : CharSet := ⟨[(0, lastNumber)]⟩

/-- Joins stretches that touch or overlap; the stretches come by where they begin. -/
def joined : List (Nat × Nat) → List (Nat × Nat)
  | [] => []
  | [s] => [s]
  | s :: t :: rest =>
      if t.1 ≤ s.2 + 1 then joined ((s.1, max s.2 t.2) :: rest) else s :: joined (t :: rest)
termination_by stretches => stretches.length

/-- The set of stretches in any order. -/
def ofAny (stretches : List (Nat × Nat)) : CharSet :=
  ⟨joined (stretches.mergeSort fun s t => s.1 ≤ t.1)⟩

/-- The union of two sets. -/
def union (a b : CharSet) : CharSet := ofAny (a.stretches ++ b.stretches)

/-- The union of several sets. -/
def unions (sets : List CharSet) : CharSet := ofAny (sets.flatMap stretches)

/-- What two stretches have in common. -/
def overlap? (s t : Nat × Nat) : Option (Nat × Nat) :=
  if max s.1 t.1 ≤ min s.2 t.2 then some (max s.1 t.1, min s.2 t.2) else none

/-- The intersection of two sets. -/
def inter (a b : CharSet) : CharSet :=
  ⟨a.stretches.flatMap fun s => b.stretches.filterMap (overlap? s)⟩

/-- What is left of a stretch without another one. -/
def cut (s t : Nat × Nat) : List (Nat × Nat) :=
  if t.2 < s.1 ∨ s.2 < t.1 then [s]
  else
    (if s.1 < t.1 then [(s.1, previous t.1)] else []) ++
      if t.2 < s.2 then [(next t.2, s.2)] else []

/-- The characters of the first set that are not in the second. -/
def diff (a b : CharSet) : CharSet :=
  ⟨a.stretches.flatMap fun s =>
    b.stretches.foldl (fun left t => left.flatMap fun s => cut s t) [s]⟩

/-- The characters in one of two sets but not in both. -/
def symmDiff (a b : CharSet) : CharSet := diff (union a b) (inter a b)

/-- The stretches between others. -/
def between : List (Nat × Nat) → List (Nat × Nat)
  | s :: t :: rest =>
      let low := next s.2
      let high := previous t.1
      (min low high, max low high) :: between (t :: rest)
  | _ => []

/-- The characters that are not in a set. -/
def compl (s : CharSet) : CharSet :=
  match s.stretches.head?, s.stretches.getLast? with
  | some first, some last =>
      ⟨(if 0 < first.1 then [(0, previous first.1)] else []) ++ between s.stretches ++
        if last.2 < lastNumber then [(next last.2, lastNumber)] else []⟩
  | _, _ => all

/-- A set with every character that differs in case only from one of its own. -/
def folded (s : CharSet) : CharSet :=
  let variants := casedVariants.flatMap fun entry =>
    if s.stretches.any (isWithin entry.1) then entry.2.map fun n => (n, n) else []
  if variants.isEmpty then s else ofAny (s.stretches ++ variants)

/-- A set of ASCII characters with the other cases of its letters. -/
def foldedAscii (s : CharSet) : CharSet :=
  let shifted (low high : Nat) (move : Nat → Nat) : List (Nat × Nat) :=
    (s.inter ⟨[(low, high)]⟩).stretches.map fun t => (move t.1, move t.2)
  ofAny (s.stretches ++ shifted 0x41 0x5A (· + 32) ++ shifted 0x61 0x7A (· - 32))

/-- The set holds ASCII characters only. -/
def isAscii (s : CharSet) : Bool := s.stretches.all (·.2 < 0x80)

/-! ## Sets with a name -/

/-- The ASCII characters. -/
def ascii : CharSet := range '\x00' '\x7f'

/-- The characters of a general category. -/
def category (name : String) : CharSet := ofStretches (categoryStretches name)

/-- The characters with a property. -/
def quality (name : String) : CharSet := ofStretches (traitStretches name)

/-- The decimal digits. -/
def digit : CharSet := category "Nd"

/-- White space. -/
def space : CharSet := quality "whitespace"

/-- What words are made of: letters, marks, digits, connectors and joiners. -/
def word : CharSet :=
  unions [quality "alphabetic", category "M", digit, category "Pc", quality "joincontrol"]

/-- The decimal digits of ASCII. -/
def asciiDigit : CharSet := range '0' '9'

/-- The white space of ASCII. -/
def asciiSpace : CharSet := union (range '\t' '\r') (single ' ')

/-- What words are made of in ASCII. -/
def asciiWord : CharSet :=
  unions [asciiDigit, range 'A' 'Z', single '_', range 'a' 'z']

/-- The named sets of ASCII characters. -/
def named? (name : String) : Option CharSet :=
  match name with
  | "alnum" => some (unions [asciiDigit, range 'A' 'Z', range 'a' 'z'])
  | "alpha" => some (union (range 'A' 'Z') (range 'a' 'z'))
  | "ascii" => some ascii
  | "blank" => some (union (single '\t') (single ' '))
  | "cntrl" => some (union (range '\x00' '\x1f') (single '\x7f'))
  | "digit" => some asciiDigit
  | "graph" => some (range '!' '~')
  | "lower" => some (range 'a' 'z')
  | "print" => some (range ' ' '~')
  | "punct" =>
      some (unions [range '!' '/', range ':' '@', range '[' '\x60', range '\x7b' '~'])
  | "space" => some asciiSpace
  | "upper" => some (range 'A' 'Z')
  | "word" => some asciiWord
  | "xdigit" => some (unions [asciiDigit, range 'A' 'F', range 'a' 'f'])
  | _ => none

/-! ## Laws -/

/-- The set of one character holds that one only. -/
theorem contains_single (c d : Char) : (single c).contains d = decide (d = c) := by
  by_cases h : d = c
  · subst h
    simp [single, range, contains, isWithin]
  · have : ¬ (c.toNat ≤ d.toNat ∧ d.toNat ≤ c.toNat) := fun hle =>
      h (Char.toNat_inj.mp (Nat.le_antisymm hle.2 hle.1))
    simpa [single, range, contains, isWithin, h] using this

/-- Joining stretches that touch keeps the set, if they come by where they begin. -/
theorem contains_joined (n : Nat) (stretches : List (Nat × Nat))
    (h : stretches.Pairwise fun s t => s.1 ≤ t.1) :
    (joined stretches).any (isWithin n) = stretches.any (isWithin n) := by
  fun_induction joined stretches with
  | case1 => rfl
  | case2 => rfl
  | case3 s t rest htouch ih =>
      obtain ⟨hs, ht⟩ := List.pairwise_cons.mp h
      obtain ⟨_, hrest⟩ := List.pairwise_cons.mp ht
      have hst := hs t List.mem_cons_self
      rw [ih (List.pairwise_cons.mpr
        ⟨fun u hu => hs u (List.mem_cons_of_mem _ hu), hrest⟩)]
      simp only [List.any_cons, ← Bool.or_assoc]
      congr 1
      rw [Bool.eq_iff_iff]
      simp only [isWithin, Bool.or_eq_true, Bool.and_eq_true, decide_eq_true_eq]
      omega
  | case4 s t rest _ ih =>
      simp only [List.any_cons, ih (List.pairwise_cons.mp h).2]

/-- The order of stretches does not matter. -/
theorem contains_ofAny (stretches : List (Nat × Nat)) (c : Char) :
    (ofAny stretches).contains c = stretches.any (isWithin c.toNat) := by
  let le (s t : Nat × Nat) : Bool := decide (s.1 ≤ t.1)
  have hsorted : (stretches.mergeSort le).Pairwise fun s t => le s t :=
    List.pairwise_mergeSort
      (fun a b c hab hbc => by simp only [le, decide_eq_true_eq] at *; omega)
      (fun a b => by simp only [le, Bool.or_eq_true, decide_eq_true_eq]; omega) stretches
  have hperm := List.mergeSort_perm stretches le
  unfold ofAny contains
  rw [contains_joined _ _ (hsorted.imp fun h => by simpa [le] using h)]
  exact Bool.eq_iff_iff.mpr (by simp only [List.any_eq_true, hperm.mem_iff])

theorem contains_union (a b : CharSet) (c : Char) :
    (union a b).contains c = (a.contains c || b.contains c) := by
  rw [union, contains_ofAny, List.any_append]
  rfl

/-- An intersection holds what both sets hold. -/
theorem contains_inter (a b : CharSet) (c : Char) :
    (inter a b).contains c = (a.contains c && b.contains c) := by
  rw [Bool.eq_iff_iff]
  simp only [Bool.and_eq_true, contains, inter, List.any_eq_true, List.mem_flatMap,
    List.mem_filterMap, overlap?, isWithin, decide_eq_true_eq]
  constructor
  · rintro ⟨_, ⟨s, hs, t, ht, hst⟩, hc⟩
    split at hst
    · cases hst
      exact ⟨⟨s, hs, by omega⟩, ⟨t, ht, by omega⟩⟩
    · cases hst
  · rintro ⟨⟨s, hs, hcs⟩, ⟨t, ht, hct⟩⟩
    refine ⟨(max s.1 t.1, min s.2 t.2), ⟨s, hs, t, ht, if_pos (by omega)⟩, by omega⟩

end CharSet

/-! ## Properties by name -/

/-- A property's name as it is compared: without case, spaces, dashes, underscores and a
leading "is". -/
def normalName (name : String) : String :=
  let cs := name.toList
  let fold (c : Char) : Char := if 'A' ≤ c ∧ c ≤ 'Z' then Char.ofNat (c.toNat + 32) else c
  let started := (cs.take 2).map fold = ['i', 's']
  let kept := ((if started then cs.drop 2 else cs).filter fun c =>
    c.toNat ≤ 0x7F && c ≠ ' ' && c ≠ '_' && c ≠ '-').map fold
  if started ∧ kept = ['c'] then "isc" else String.ofList kept

/-- The set of a general category. -/
def categorySet? (name : String) : Option CharSet :=
  if name = "any" then some .all
  else if name = "assigned" then some (CharSet.category "Cn").compl
  else if name = "ascii" then some .ascii
  else (categoryNames.find? name).map .category

/-- The set of a script. -/
def scriptSet? (name : String) : Option CharSet :=
  (scriptNames.find? name).map fun code => .ofStretches (scriptStretches code)

/-- The set of a property that stands alone: one that holds or does not, a general category or
a script. -/
def propertySet? (written : String) : Option CharSet :=
  let name := normalName written
  let quality :=
    if name ∈ ["cf", "sc", "lc"] then none else (traitNames.find? name).map CharSet.quality
  (quality.or (categorySet? name)).or (scriptSet? name)

/-- The set of what characters do at boundaries of a kind. -/
def boundarySet? (kind : Boundary) (value : String) : Option CharSet :=
  (kind.names.find? value).map fun word => .ofStretches (kind.stretches word)

/-- The set of a property with a value. -/
def propertyValueSet? (property value : String) : Option CharSet :=
  let property := normalName property
  let value := normalName value
  if property ∈ ["gc", "generalcategory"] then categorySet? value
  else if property ∈ ["sc", "script"] then scriptSet? value
  else if property ∈ ["scx", "scriptextensions"] then
    (scriptNames.find? value).map fun code => .ofStretches (usedWithStretches code)
  else if property = "age" then
    (ageNames.find? value).map fun letter => .ofStretches (ageStretches letter)
  else if property ∈ ["gcb", "graphemeclusterbreak"] then boundarySet? .grapheme value
  else if property ∈ ["wb", "wordbreak"] then boundarySet? .word value
  else if property ∈ ["sb", "sentencebreak"] then boundarySet? .sentence value
  else none

end InAppMessaging.Pattern
