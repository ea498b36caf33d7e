import InAppMessaging.Json.Tree
import InAppMessaging.Pattern.Machine
import InAppMessaging.Text.Blank
import InAppMessaging.Text.Unicode.Newest

/-!
# Reading patterns

The written form of patterns: literals and escapes, classes in brackets with set operations,
groups, alternatives, counted repetitions, and modes such as `(?i)`, which hold to the end of
the group they stand in.  There is no looking around and no reference to what a group
matched.  In verbose mode blanks and comments are skipped between tokens, and inside most of
them too.

`Pattern.ofText?` reads a whole text, and refuses one whose constructs are nested more than
`nestingLimit` deep, or whose machines are larger than `sizeLimit`.
-/

namespace InAppMessaging.Pattern

open Text

/-- How deep the constructs of a pattern may be nested. -/
def nestingLimit : Nat := 250

/-- The modes a pattern is read in. -/
structure Modes where
  ignoreCase : Bool := false
  multiLine : Bool := false
  dotAll : Bool := false
  crlf : Bool := false
  unicode : Bool := true
  swapGreed : Bool := false
  verbose : Bool := false
deriving DecidableEq, Repr

/-! ## Blanks and comments -/

/-- Skips blanks, and comments from `#` to the end of the line. -/
def skipRemarks : Bool → List Char → List Char
  | _, [] => []
  | true, c :: cs => skipRemarks (c ≠ '\n') cs
  | false, c :: cs =>
      if isBlank c then skipRemarks false cs
      else if c = '#' then skipRemarks true cs
      else c :: cs

namespace Modes

/-- Skips what stands between tokens: nothing, unless the mode is verbose. -/
def skip (modes : Modes) (cs : List Char) : List Char :=
  if modes.verbose then skipRemarks false cs else cs

/-- The next character after the current one that is not skipped. -/
def peek? (modes : Modes) (cs : List Char) : Option Char :=
  if modes.verbose then
    match cs.dropWhile isBlank with
    | '#' :: rest => (rest.dropWhile isBlank).head?
    | rest => rest.head?
  else cs.head?

/-- A set with the other cases of its members, if case is ignored. -/
def fold (modes : Modes) (s : CharSet) : CharSet :=
  if modes.ignoreCase then (if modes.unicode then s.folded else s.foldedAscii) else s

/-- A set as it stands in a pattern: folded, then negated.  Where characters are bytes, a
negated set would hold parts of characters. -/
def finish? (modes : Modes) (negated : Bool) (s : CharSet) : Option CharSet :=
  if negated then (if modes.unicode then some (modes.fold s).compl else none)
  else some (modes.fold s)

end Modes

/-! ## Escapes -/

/-- What a single token stands for. -/
inductive Atom where
  | literal (c : Char) (byte : Bool)
  | place (l : Look)
  | set (s : CharSet)
deriving Repr

/-- The characters with a meaning of their own, somewhere. -/
def isMeta (c : Char) : Bool := "\\.+*?()|[]\x7b\x7d^$#&-~".toList.contains c

/-- An ASCII character that may stand behind a backslash for itself. -/
def isEscapable (c : Char) : Bool :=
  isMeta c || (c.toNat < 0x80 && !c.isAlphanum && c ≠ '<' && c ≠ '>')

/-- The character with a number, if there is one. -/
def charOf? (n : Nat) : Option Char := if n.isValidChar then some (Char.ofNat n) else none

/-- Reads a given count of hexadecimal digits. -/
def readHexDigits (modes : Modes) : Nat → Nat → List Char → Option (Nat × List Char)
  | 0, n, cs => some (n, cs)
  | count + 1, n, cs =>
      match modes.skip cs with
      | [] => none
      | c :: rest => do
          let d ← Json.hexValue? c
          readHexDigits modes count (n * 16 + d) rest

/-- The characters up to a closing brace, with what is skipped left out. -/
def readBraced (modes : Modes) : Bool → List Char → Option (List Char × List Char)
  | _, [] => none
  | true, c :: cs => readBraced modes (c ≠ '\n') cs
  | false, c :: cs =>
      if modes.verbose && isBlank c then readBraced modes false cs
      else if modes.verbose && c = '#' then readBraced modes true cs
      else if c = '\x7d' then some ([], cs)
      else (readBraced modes false cs).map fun r => (c :: r.1, r.2)

/-- Reads the number of a character after `\x`, `\u` or `\U`. -/
def readHex (modes : Modes) (count : Nat) (cs : List Char) : Option (Atom × List Char) :=
  match modes.skip cs with
  | '\x7b' :: rest => do
      let (digits, rest) ← readBraced modes false rest
      let n ← digits.foldlM (fun n c => (Json.hexValue? c).map (n * 16 + ·)) 0
      if digits.isEmpty then none else return (.literal (← charOf? n) false, rest)
  | start => do
      let (n, rest) ← readHexDigits modes count 0 start
      return (.literal (← charOf? n) (count = 2), rest)

/-- Splits a text at the first place where some characters stand. -/
def splitAt? (mark : List Char) : List Char → Option (List Char × List Char)
  | [] => none
  | c :: cs =>
      if mark.isPrefixOf (c :: cs) then some ([], (c :: cs).drop mark.length)
      else (splitAt? mark cs).map fun r => (c :: r.1, r.2)

/-- The set of a property, written with or without a value, and whether the value is one it
must not have. -/
def propertyOf? (written : List Char) : Option (CharSet × Bool) :=
  let valued (r : List Char × List Char) :=
    propertyValueSet? (String.ofList r.1) (String.ofList r.2)
  match splitAt? ['!', '='] written with
  | some r => (valued r).map (·, true)
  | none =>
      match (splitAt? [':'] written).or (splitAt? ['='] written) with
      | some r => (valued r).map (·, false)
      | none => (propertySet? (String.ofList written)).map (·, false)

/-- Reads a property after `\p`, or after `\P` if negated. -/
def readProperty (modes : Modes) (negated : Bool) (cs : List Char) :
    Option (Atom × List Char) := do
  if !modes.unicode then none
  let (written, rest) ←
    match modes.skip cs with
    | [] => none
    | '\\' :: _ => none
    | '\x7b' :: rest => readBraced modes false rest
    | c :: rest => some ([c], rest)
  let (s, excluded) ← propertyOf? written
  return (.set (← modes.finish? (negated != excluded) s), rest)

/-- A word edge named in braces after `\b`, where the braces hold no count. -/
def readWordEdge (modes : Modes) (cs : List Char) : Option (WordEdge × List Char) :=
  let named (c : Char) : Bool := c.isAlpha || c = '-'
  match cs with
  | '\x7b' :: rest =>
      match modes.skip rest with
      | [] => none
      | c :: start =>
          if named c then do
            let (name, rest) ← readBraced modes false (c :: start)
            match String.ofList name with
            | "start" => some (.start, rest)
            | "end" => some (.finish, rest)
            | "start-half" => some (.startHalf, rest)
            | "end-half" => some (.finishHalf, rest)
            | _ => none
          else some (.either, cs)
  | _ => some (.either, cs)

/-- A class named by one letter, negated by a capital one. -/
def letterClass (modes : Modes) (full ascii : CharSet) (negated : Bool) : Option Atom :=
  if modes.unicode then some (.set (if negated then full.compl else full))
  else if negated then none
  else some (.set ascii)

/-- Reads what stands behind a backslash. -/
def readEscape (modes : Modes) : List Char → Option (Atom × List Char)
  | [] => none
  | c :: cs =>
      let self (a : Atom) : Option (Atom × List Char) := some (a, cs)
      let word (edge : WordEdge) : Atom := .place (.word edge (!modes.unicode))
      match c with
      | 'x' => readHex modes 2 cs
      | 'u' => readHex modes 4 cs
      | 'U' => readHex modes 8 cs
      | 'p' => readProperty modes false cs
      | 'P' => readProperty modes true cs
      | 'd' => (letterClass modes .digit .asciiDigit false).map (·, cs)
      | 'D' => (letterClass modes .digit .asciiDigit true).map (·, cs)
      | 's' => (letterClass modes .space .asciiSpace false).map (·, cs)
      | 'S' => (letterClass modes .space .asciiSpace true).map (·, cs)
      | 'w' => (letterClass modes .word .asciiWord false).map (·, cs)
      | 'W' => (letterClass modes .word .asciiWord true).map (·, cs)
      | 'a' => self (.literal '\x07' false)
      | 'f' => self (.literal '\x0c' false)
      | 't' => self (.literal '\t' false)
      | 'n' => self (.literal '\n' false)
      | 'r' => self (.literal '\r' false)
      | 'v' => self (.literal '\x0b' false)
      | 'A' => self (.place .textStart)
      | 'z' => self (.place .textEnd)
      | 'b' => (readWordEdge modes cs).map fun r => (word r.1, r.2)
      | 'B' => self (word .none)
      | '<' => self (word .start)
      | '>' => self (word .finish)
      | c => if isEscapable c then self (.literal c false) else none

/-! ## Classes in brackets -/

/-- Items of a class as far as they are read: their union, how many they are and how deep the
deepest of them is. -/
structure Members where
  set : CharSet := .empty
  count : Nat := 0
  depth : Nat := 0

namespace Members

/-- Adds an item. -/
def add (m : Members) (s : CharSet) (depth : Nat) : Members :=
  ⟨m.set.union s, m.count + 1, max m.depth depth⟩

/-- How deep the items are as one: a union of several is a level of its own. -/
def level (m : Members) : Nat := if m.count ≤ 1 then m.depth else m.depth + 1

end Members

/-- The operations on classes. -/
inductive SetOp where
  | inter
  | diff
  | symmDiff
deriving DecidableEq, Repr

/-- The result of an operation. -/
def SetOp.apply : SetOp → CharSet → CharSet → CharSet
  | inter, a, b => a.inter b
  | diff, a, b => a.diff b
  | symmDiff, a, b => a.symmDiff b

/-- The left side of an operation whose right side is being read. -/
structure Pending where
  op : SetOp
  left : CharSet
  depth : Nat

/-- The operation waiting in front, applied to the items read since. -/
def Members.close (modes : Modes) (m : Members) : Option Pending → CharSet × Nat
  | none => (m.set, m.level)
  | some p => (p.op.apply (modes.fold p.left) (modes.fold m.set), max p.depth m.level + 1)

/-- Reads one token of a class. -/
def readMember (modes : Modes) : List Char → Option (Atom × List Char)
  | [] => none
  | '\\' :: cs => readEscape modes cs
  | c :: cs => some (.literal c false, cs)

/-- The character a token stands for at an end of a range. -/
def Atom.char? (modes : Modes) : Atom → Option Char
  | literal c _ => if modes.unicode || c.toNat < 0x80 then some c else none
  | _ => none

/-- The set a token stands for as an item. -/
def Atom.item? (modes : Modes) : Atom → Option CharSet
  | literal c byte => ((literal c byte).char? modes).map .single
  | set s => some s
  | place _ => none

/-- Reads a single item or a range.  A dash that stands before the closing bracket or another
dash makes no range. -/
def readRange (modes : Modes) (cs : List Char) : Option (CharSet × List Char) := do
  let (first, rest) ← readMember modes cs
  match modes.skip rest with
  | [] => none
  | '-' :: more =>
      let next := modes.peek? more
      if next = some ']' ∨ next = some '-' then return (← first.item? modes, '-' :: more)
      else
        match modes.skip more with
        | [] => none
        | start =>
            let (last, rest) ← readMember modes start
            let low ← first.char? modes
            let high ← last.char? modes
            if low ≤ high then return (.range low high, rest) else none
  | more => return (← first.item? modes, more)

/-- Reads a named class such as `[:alpha:]`, after its opening bracket. -/
def readNamed (modes : Modes) (cs : List Char) : Option (Option CharSet × List Char) := do
  let body ← match cs with
    | ':' :: body => some body
    | _ => none
  let negated := body.head? = some '^'
  let (name, rest) ← splitAt? [':'] (if negated then body.tail else body)
  let rest ← match rest with
    | ']' :: rest => some rest
    | _ => none
  let s ← CharSet.named? (String.ofList name)
  return (modes.finish? negated s, rest)

/-- Reads what may only stand first in a class: a caret that negates it, dashes, and a closing
bracket that stands for itself. -/
def readOpening (modes : Modes) (cs : List Char) : Bool × Members × List Char :=
  let start := modes.skip cs
  let negated := start.head? = some '^'
  let body := if negated then modes.skip start.tail else start
  dashes negated {} body.length body
where
  /-- The leading dashes, each an item. -/
  dashes (negated : Bool) (m : Members) : Nat → List Char → Bool × Members × List Char
    | fuel + 1, '-' :: rest => dashes negated (m.add (.single '-') 0) fuel (modes.skip rest)
    | _, ']' :: rest =>
        if m.count = 0 then (negated, m.add (.single ']') 0, modes.skip rest)
        else (negated, m, ']' :: rest)
    | _, rest => (negated, m, rest)

/-- Reads a class up to its closing bracket: the set, its depth, and the rest of the text. -/
def readClass (modes : Modes) : Nat → Bool → Members → Option Pending → List Char →
    Option (CharSet × Nat × List Char)
  | 0, _, _, _, _ => none
  | fuel + 1, negated, m, pending, text =>
      let operate (op : SetOp) (rest : List Char) :=
        let (left, depth) := m.close modes pending
        readClass modes fuel negated {} (some ⟨op, left, depth⟩) rest
      match modes.skip text with
      | [] => none
      | ']' :: rest => do
          let (s, depth) := m.close modes pending
          return (← modes.finish? negated s, depth + 1, rest)
      | '&' :: '&' :: rest => operate .inter rest
      | '-' :: '-' :: rest => operate .diff rest
      | '~' :: '~' :: rest => operate .symmDiff rest
      | '[' :: rest =>
          match readNamed modes rest with
          | some (named, rest) => do
              readClass modes fuel negated (m.add (← named) 0) pending rest
          | none => do
              let (negated', inner, body) := readOpening modes rest
              let (s, depth, rest) ← readClass modes fuel negated' inner none body
              readClass modes fuel negated (m.add s depth) pending rest
      | start => do
          let (s, rest) ← readRange modes start
          readClass modes fuel negated (m.add s 0) pending rest

/-! ## Groups -/

/-- A part of a pattern: what it stands for, how deep it is nested, and whether it may be
repeated, which a change of modes may not. -/
structure Part where
  pattern : Pattern
  depth : Nat := 0
  repeatable : Bool := true

/-- Parts one after another; `parts` holds them last first. -/
def Part.joined (parts : List Part) : Part :=
  match parts with
  | [] => { pattern := .empty }
  | [p] => p
  | _ =>
      { pattern := sequence (parts.reverse.map (·.pattern))
        depth := (parts.foldl (fun d p => max d p.depth) 0) + 1 }

/-- Alternatives; `parts` holds them last first. -/
def Part.chosen (parts : List Part) : Part :=
  match parts with
  | [p] => p
  | _ =>
      { pattern := choice (parts.reverse.map (·.pattern))
        depth := (parts.foldl (fun d p => max d p.depth) 0) + 1 }

/-- Sets one mode by its letter. -/
def Modes.set? (modes : Modes) (letter : Char) (value : Bool) : Option Modes :=
  match letter with
  | 'i' => some { modes with ignoreCase := value }
  | 'm' => some { modes with multiLine := value }
  | 's' => some { modes with dotAll := value }
  | 'R' => some { modes with crlf := value }
  | 'u' => some { modes with unicode := value }
  | 'x' => some { modes with verbose := value }
  | 'U' => some { modes with swapGreed := value }
  | _ => none

/-- Reads the letters of a change of modes, up to the colon or bracket that ends it.  No
letter and no dash may come twice, and a dash has to be followed by a letter. -/
def readModes (modes : Modes) (seen : List Char) : List Char → Option (Modes × Bool × List Char)
  | [] => none
  | c :: cs =>
      if c = ':' ∨ c = ')' then
        if seen.head? = some '-' ∨ (c = ')' ∧ seen = []) then none
        else some (modes, c = ':', cs)
      else if seen.contains c then none
      else if c = '-' then readModes modes (c :: seen) cs
      else do
        readModes (← modes.set? c (!seen.contains '-')) (c :: seen) cs

/-- A character that a group's name may begin with, or go on with. -/
def isNameChar (first : Bool) (c : Char) : Bool :=
  let alphabetic := Unicode.isAlphabetic c
  if first then c = '_' || alphabetic
  else c = '_' || c = '.' || c = '[' || c = ']' || alphabetic || Unicode.isNumber c

/-- Reads the name of a group up to its closing angle. -/
def readName (cs : List Char) : Option (String × List Char) := do
  let (name, rest) ← splitAt? ['>'] cs
  match name with
  | [] => none
  | c :: more =>
      if isNameChar true c && more.all (isNameChar false) then some (String.ofList name, rest)
      else none

/-- What opens a group: a name or nothing, other modes for the group, or other modes for what
follows. -/
inductive Opening where
  | captured (name : Option String)
  | moded (modes : Modes)
  | change (modes : Modes)

/-- Reads what stands behind an opening bracket. -/
def readGroupOpening (modes : Modes) (cs : List Char) : Option (Opening × List Char) :=
  match modes.skip cs with
  | '?' :: '=' :: _ | '?' :: '!' :: _ | '?' :: '<' :: '=' :: _ | '?' :: '<' :: '!' :: _ => none
  | '?' :: 'P' :: '<' :: rest | '?' :: '<' :: rest =>
      (readName rest).map fun r => (.captured (some r.1), r.2)
  | '?' :: rest => do
      let (inner, forGroup, rest) ← readModes modes [] rest
      return (if forGroup then .moded inner else .change inner, rest)
  | start => some (.captured none, start)

/-! ## Repetitions -/

/-- The greatest bound of a repetition. -/
def maxBound : Nat := Text.maxWord32

/-- Reads a number with blanks around it. -/
def readBound (modes : Modes) (cs : List Char) : Option (Nat × List Char) :=
  let (digits, rest) := digitsOf (cs.length + 1) (cs.dropWhile isBlank)
  let n := digitsValue digits
  if digits.isEmpty ∨ n > maxBound then none
  else some (n, (modes.skip rest).dropWhile isBlank)
where
  /-- The digits of a number, with what is skipped left out. -/
  digitsOf : Nat → List Char → List Char × List Char
    | 0, cs => ([], cs)
    | fuel + 1, cs =>
        match cs with
        | c :: rest =>
            if c.isDigit then
              let (digits, rest) := digitsOf fuel (modes.skip rest)
              (c :: digits, rest)
            else ([], cs)
        | [] => ([], [])

/-- Reads the bounds of a repetition after its opening brace. -/
def readBounds (modes : Modes) (cs : List Char) : Option (Nat × Option Nat × List Char) := do
  let (least, rest) ← readBound modes (modes.skip cs)
  match rest with
  | '\x7d' :: rest => return (least, some least, rest)
  | ',' :: rest =>
      match modes.skip rest with
      | '\x7d' :: rest => return (least, none, rest)
      | start =>
          let (most, rest) ← readBound modes start
          match rest with
          | '\x7d' :: rest => if least ≤ most then return (least, some most, rest) else none
          | _ => none
  | _ => none

/-- Reads the mark of a repetition that takes as little as it can, or as much where the modes
swap the two.  Returns whether it takes as much as it can. -/
def readGreed (modes : Modes) : List Char → Bool × List Char
  | '?' :: rest => (modes.swapGreed, rest)
  | rest => (!modes.swapGreed, rest)

/-- Repeats the last part read. -/
def repeatLast (least : Nat) (most : Option Nat) (greedy : Bool) :
    List Part → Option (List Part)
  | p :: parts =>
      if p.repeatable then
        some (⟨p.pattern.repeated least most greedy, p.depth + 1, true⟩ :: parts)
      else none
  | [] => none

/-! ## The whole -/

/-- The set a dot stands for: all characters, or all that end no line. -/
def dotSet? (modes : Modes) : Option CharSet :=
  if modes.unicode = false then none
  else if modes.dotAll then some .all
  else if modes.crlf then some (CharSet.union (.single '\n') (.single '\r')).compl
  else some (CharSet.single '\n').compl

/-- The pattern of a token. -/
def Atom.pattern? (modes : Modes) : Atom → Option Pattern
  | literal c byte =>
      if byte && !modes.unicode && 0x80 ≤ c.toNat then none
      else some (ofSet (modes.fold (.single c)) (!modes.unicode))
  | place l => some (.look l)
  | set s => some (ofSet s (!modes.unicode))

/-- Reads a token outside of classes. -/
def readToken (modes : Modes) : List Char → Option (Pattern × List Char)
  | [] => none
  | '\\' :: cs => do
      let (a, rest) ← readEscape modes cs
      return (← a.pattern? modes, rest)
  | '.' :: cs => (dotSet? modes).map fun s => (ofSet s false, cs)
  | '^' :: cs => some (.look (if modes.multiLine then .lineStart modes.crlf else .textStart), cs)
  | '$' :: cs => some (.look (if modes.multiLine then .lineEnd modes.crlf else .textEnd), cs)
  | c :: cs => ((Atom.literal c false).pattern? modes).map (·, cs)

/-- The groups opened so far: how many, and the names of those that have one. -/
structure Groups where
  count : Nat := 0
  names : List String := []

/-- Opens another group; no two have the same name. -/
def Groups.open? (groups : Groups) : Option String → Option Groups
  | none => some { groups with count := groups.count + 1 }
  | some name =>
      if groups.names.contains name then none
      else some ⟨groups.count + 1, name :: groups.names⟩

/-- Reads alternatives up to the end of their group: `chosen` are those complete, `parts` the
parts of the one being read, both last first, and `groups` the groups opened so far.  Returns
the whole, the groups, and the text from the closing bracket on. -/
def readParts : Nat → Modes → Groups → List Part → List Part → List Char →
    Option (Part × Groups × List Char)
  | 0, _, _, _, _, _ => none
  | fuel + 1, modes, groups, chosen, parts, text =>
      let bounded (least : Nat) (most : Option Nat) (rest : List Char) := do
        let (greedy, rest) := readGreed modes rest
        readParts fuel modes groups chosen (← repeatLast least most greedy parts) rest
      match modes.skip text with
      | [] => some (.chosen (.joined parts :: chosen), groups, [])
      | ')' :: rest => some (.chosen (.joined parts :: chosen), groups, ')' :: rest)
      | '|' :: rest => readParts fuel modes groups (.joined parts :: chosen) [] rest
      | '?' :: rest => bounded 0 (some 1) rest
      | '*' :: rest => bounded 0 none rest
      | '+' :: rest => bounded 1 none rest
      | '\x7b' :: rest => do
          let (least, most, rest) ← readBounds modes rest
          bounded least most (modes.skip rest)
      | '[' :: rest => do
          let (negated, members, body) := readOpening modes rest
          let (s, depth, rest) ← readClass modes fuel negated members none body
          let p := ofSet s (!modes.unicode)
          readParts fuel modes groups chosen (⟨p, depth, true⟩ :: parts) rest
      | '(' :: rest => do
          let inside (inner : Modes) (groups : Groups) (wrap : Pattern → Pattern)
              (body : List Char) := do
            let (part, groups, rest) ← readParts fuel inner groups [] [] body
            match rest with
            | ')' :: rest =>
                readParts fuel modes groups chosen
                  (⟨wrap part.pattern, part.depth + 1, true⟩ :: parts) rest
            | _ => none
          match ← readGroupOpening modes rest with
          | (.change modes, rest) =>
              readParts fuel modes groups chosen (⟨.empty, 0, false⟩ :: parts) rest
          | (.moded inner, rest) => inside inner groups id rest
          | (.captured name, rest) => do
              let groups ← groups.open? name
              inside modes groups (.group groups.count) rest
      | start => do
          let (p, rest) ← readToken modes start
          readParts fuel modes groups chosen (⟨p, 0, true⟩ :: parts) rest

end Pattern

/-- The pattern a text is the written form of. -/
def Pattern.ofText? (text : List Char) : Option Pattern := do
  let (part, _, rest) ← Pattern.readParts (text.length + 1) {} {} [] [] text
  if rest.isEmpty ∧ part.depth ≤ Pattern.nestingLimit ∧ part.pattern.isWithinLimit then
    some part.pattern
  else none

end InAppMessaging
