import InAppMessaging.Text.Decimal

/-!
# JSON text as a tree with its faults in place

A JSON text is read into a `Tree` before anything is made of it.  The tree keeps what later
stages have to see: the spelling of strings (an escape may name half a surrogate pair), the
digits of numbers, and, at the place where the text stops being JSON, the fault found there.

Whoever decodes a tree walks it in reading order, so the first thing wrong in the text is
what is reported, whether the text or the value is at fault there.  `Tree.skip` is the walk
of a value nobody wants: it looks at faults of the text only.  `Tree.buffer` is the walk of a
value that is kept aside before its shape is known: it also checks string escapes, number
ranges and the nesting depth.
-/

namespace InAppMessaging.Json

/-- Why a text is refused: it is not JSON, it ends too early, or it is JSON of the wrong
shape. -/
inductive Fault where
  | malformed
  | cutShort
  | mismatch
deriving DecidableEq, Repr, Inhabited

/-- One piece of a spelled string: a character, or the sixteen bits of a `\u` escape. -/
inductive Piece where
  | char (c : Char)
  | unit (bits : Nat)
deriving DecidableEq, Repr, Inhabited

/-- A string as spelled, up to its closing quote or to the fault that cuts it off. -/
structure Spelling where
  pieces : List Piece
  fault? : Option Fault
deriving DecidableEq, Repr, Inhabited

/-- A number as spelled: sign, whole part, fraction and exponent (`true` for a negative
one), each as its digits. -/
structure Numeral where
  negative : Bool
  whole : List Char
  fraction? : Option (List Char)
  exponent? : Option (Bool × List Char)
deriving DecidableEq, Repr, Inhabited

mutual

/-- A JSON value as far as the text spells one. -/
inductive Tree where
  | null
  | bool (b : Bool)
  | number (n : Numeral)
  | partialNumber (atEnd : Bool)
  | text (s : Spelling)
  | array (items : Items)
  | object (members : Members)
  | brokenWord (null : Bool) (fault : Fault)
  | broken (fault : Fault)

/-- The items of an array, up to its closing bracket or to the fault after the last one. -/
inductive Items where
  | done
  | cut (fault : Fault)
  | cons (head : Tree) (tail : Items)

/-- The members of an object, up to its closing brace or to the fault after the last one.
Where a key has to stand and no string stands, the fault comes with what stands there. -/
inductive Members where
  | done
  | cut (fault : Fault)
  | keyless (fault : Fault) (found : Tree)
  | cons (key : Spelling) (value : Tree) (tail : Members)

end

instance : Inhabited Tree := ⟨.null⟩

/-! ## Reading -/

/-- The characters that may stand between tokens. -/
def isSpace (c : Char) : Bool := c = ' ' || c = '\n' || c = '\t' || c = '\r'

/-- The text from its first character that is not a space. -/
def skipSpaces (cs : List Char) : List Char := cs.dropWhile isSpace

/-- The value of a hexadecimal digit. -/
def hexValue? (c : Char) : Option Nat :=
  if c.isDigit then some (c.toNat - 48)
  else if 'a' ≤ c ∧ c ≤ 'f' then some (c.toNat - 87)
  else if 'A' ≤ c ∧ c ≤ 'F' then some (c.toNat - 55)
  else none

/-- The number spelled by four hexadecimal digits. -/
def hexUnit? (a b c d : Char) : Option Nat := do
  return (((← hexValue? a) * 16 + (← hexValue? b)) * 16 + (← hexValue? c)) * 16 + (← hexValue? d)

/-- The character after a backslash that stands for one character. -/
def simpleEscape? (c : Char) : Option Char :=
  if c = '"' then some '"'
  else if c = '\\' then some '\\'
  else if c = '/' then some '/'
  else if c = 'b' then some '\x08'
  else if c = 'f' then some '\x0c'
  else if c = 'n' then some '\n'
  else if c = 'r' then some '\r'
  else if c = 't' then some '\t'
  else none

/-- The number of bytes a text takes in UTF-8. -/
def utf8Length (cs : List Char) : Nat := cs.foldl (fun n c => n + c.utf8Size) 0

/-- Puts a piece in front of a spelling. -/
def Spelling.push (p : Piece) (r : Spelling × List Char) : Spelling × List Char :=
  ({ r.1 with pieces := p :: r.1.pieces }, r.2)

/-- The spelling cut off at once by a fault. -/
def Spelling.stop (fault : Fault) : Spelling × List Char := (⟨[], some fault⟩, [])

/-- Reads a string after its opening quote.  A `\u` escape needs four more bytes of text,
whatever they are, before it can be called malformed. -/
def readSpelling : List Char → Spelling × List Char
  | [] => Spelling.stop .cutShort
  | c :: cs =>
      if c = '"' then (⟨[], none⟩, cs)
      else if c = '\\' then
        match cs with
        | [] => Spelling.stop .cutShort
        | e :: es =>
            match simpleEscape? e with
            | some p => Spelling.push (.char p) (readSpelling es)
            | none =>
                if e = 'u' then
                  match es with
                  | h₁ :: h₂ :: h₃ :: h₄ :: rest =>
                      match hexUnit? h₁ h₂ h₃ h₄ with
                      | some bits => Spelling.push (.unit bits) (readSpelling rest)
                      | none => Spelling.stop .malformed
                  | short => Spelling.stop (if utf8Length short < 4 then .cutShort else .malformed)
                else Spelling.stop .malformed
      else if c.toNat < 0x20 then Spelling.stop .malformed
      else Spelling.push (.char c) (readSpelling cs)

/-- Reads the exponent that may follow, and the number is complete. -/
def readExponent (negative : Bool) (whole : List Char) (fraction? : Option (List Char))
    (cs : List Char) : Tree × List Char :=
  match cs with
  | [] => (.number ⟨negative, whole, fraction?, none⟩, [])
  | e :: rest =>
      if e = 'e' ∨ e = 'E' then
        let below := rest.head? = some '-'
        let digits := if below ∨ rest.head? = some '+' then rest.tail else rest
        if (digits.takeWhile Char.isDigit).isEmpty then (.partialNumber digits.isEmpty, [])
        else
          (.number ⟨negative, whole, fraction?, some (decide below, digits.takeWhile Char.isDigit)⟩,
            digits.dropWhile Char.isDigit)
      else (.number ⟨negative, whole, fraction?, none⟩, cs)

/-- Reads the fraction and the exponent that may follow the whole part. -/
def readFraction (negative : Bool) (whole cs : List Char) : Tree × List Char :=
  match cs with
  | '.' :: rest =>
      let after := rest.dropWhile Char.isDigit
      if (rest.takeWhile Char.isDigit).isEmpty then (.partialNumber after.isEmpty, [])
      else readExponent negative whole (some (rest.takeWhile Char.isDigit)) after
  | _ => readExponent negative whole none cs

/-- Reads a number: no digit may follow a leading nought. -/
def readNumber (cs : List Char) : Tree × List Char :=
  let negative := cs.head? = some '-'
  let body := if negative then cs.tail else cs
  match body with
  | [] => (.partialNumber true, [])
  | c :: rest =>
      if c = '0' then
        if (rest.head?.any Char.isDigit) then (.partialNumber false, [])
        else readFraction (decide negative) [c] rest
      else if c.isDigit then
        readFraction (decide negative) (body.takeWhile Char.isDigit) (body.dropWhile Char.isDigit)
      else (.partialNumber false, [])

/-- Reads the rest of a word that has one spelling; the word may be null's. -/
def readWord (null : Bool) (value : Tree) : List Char → List Char → Tree × List Char
  | [], cs => (value, cs)
  | _ :: _, [] => (.brokenWord null .cutShort, [])
  | w :: ws, c :: cs =>
      if c = w then readWord null value ws cs else (.brokenWord null .malformed, [])

mutual

/-- Reads one value; `fuel` bounds the number of nested steps and is at least the length of
the text plus one. -/
def readValue : Nat → List Char → Tree × List Char
  | 0, _ => (.broken .malformed, [])
  | fuel + 1, text =>
      match skipSpaces text with
      | [] => (.broken .cutShort, [])
      | c :: cs =>
          if c = '"' then
            let (s, rest) := readSpelling cs
            (.text s, rest)
          else if c = '{' then
            let (members, rest) := readMembers true fuel cs
            (.object members, rest)
          else if c = '[' then
            let (items, rest) := readItems true fuel cs
            (.array items, rest)
          else if c = 'n' then readWord true .null "ull".toList cs
          else if c = 't' then readWord false (.bool true) "rue".toList cs
          else if c = 'f' then readWord false (.bool false) "alse".toList cs
          else if c = '-' ∨ c.isDigit then readNumber (c :: cs)
          else (.broken .malformed, [])

/-- Reads the items of an array; before the first one no comma may stand. -/
def readItems : Bool → Nat → List Char → Items × List Char
  | _, 0, _ => (.cut .malformed, [])
  | first, fuel + 1, text =>
      match skipSpaces text with
      | [] => (.cut .cutShort, [])
      | c :: cs =>
          if c = ']' then (.done, cs)
          else if first then
            let (head, rest) := readValue fuel (c :: cs)
            let (tail, rest) := readItems false fuel rest
            (.cons head tail, rest)
          else if c = ',' then
            if (skipSpaces cs).head? = some ']' then (.cut .malformed, [])
            else
              let (head, rest) := readValue fuel cs
              let (tail, rest) := readItems false fuel rest
              (.cons head tail, rest)
          else (.cut .malformed, [])

/-- Reads the members of an object; before the first one no comma may stand. -/
def readMembers : Bool → Nat → List Char → Members × List Char
  | _, 0, _ => (.cut .malformed, [])
  | first, fuel + 1, text =>
      match skipSpaces text with
      | [] => (.cut .cutShort, [])
      | c :: cs =>
          if c = '}' then (.done, cs)
          else if first = false ∧ c ≠ ',' then (.cut .malformed, [])
          else
            match skipSpaces (if first then c :: cs else cs) with
            | [] => (.keyless .cutShort (.broken .cutShort), [])
            | q :: key =>
                if q = '"' then
                  let (name, rest) := readSpelling key
                  let (value, rest) := readMemberValue fuel rest
                  let (tail, rest) := readMembers false fuel rest
                  (.cons name value tail, rest)
                else (.keyless .malformed (readValue fuel (q :: key)).1, [])

/-- Reads the colon after a member's key and the value behind it. -/
def readMemberValue : Nat → List Char → Tree × List Char
  | 0, _ => (.broken .malformed, [])
  | fuel + 1, text =>
      match skipSpaces text with
      | [] => (.broken .cutShort, [])
      | c :: cs => if c = ':' then readValue fuel cs else (.broken .malformed, [])

end

/-- Reads one value from a text and returns what follows it. -/
def Tree.read (cs : List Char) : Tree × List Char := readValue (2 * cs.length + 2) cs

/-! ## Walking a tree -/

/-- The first half of a surrogate pair. -/
def isLead (bits : Nat) : Bool := 0xD800 ≤ bits && bits ≤ 0xDBFF

/-- The second half of a surrogate pair. -/
def isTrail (bits : Nat) : Bool := 0xDC00 ≤ bits && bits ≤ 0xDFFF

/-- The character named by a surrogate pair. -/
def joinPair (lead trail : Nat) : Char :=
  Char.ofNat (0x10000 + (lead - 0xD800) * 0x400 + (trail - 0xDC00))

/-- The text that pieces spell: escaped halves of a pair have to come together. -/
def textOfPieces (fault? : Option Fault) : List Piece → Except Fault (List Char)
  | [] => match fault? with
      | some fault => .error fault
      | none => .ok []
  | .char c :: rest => (c :: ·) <$> textOfPieces fault? rest
  | .unit bits :: rest =>
      if isTrail bits then .error .malformed
      else if isLead bits then
        match rest with
        | .unit next :: rest' =>
            if isTrail next then (joinPair bits next :: ·) <$> textOfPieces fault? rest'
            else .error .malformed
        | .char _ :: _ => .error .malformed
        | [] => .error (fault?.getD .malformed)
      else (Char.ofNat bits :: ·) <$> textOfPieces fault? rest

/-- The text a spelling stands for. -/
def Spelling.text (s : Spelling) : Except Fault String :=
  String.ofList <$> textOfPieces s.fault? s.pieces

/-- A spelling nobody reads is only checked for its end. -/
def Spelling.skip (s : Spelling) : Except Fault Unit :=
  match s.fault? with
  | some fault => .error fault
  | none => .ok ()

mutual

/-- The walk of a value nobody wants: the first fault of the text, if there is one. -/
def Tree.skip : Tree → Except Fault Unit
  | .null => .ok ()
  | .bool _ => .ok ()
  | .number _ => .ok ()
  | .partialNumber _ => .error .malformed
  | .text s => s.skip
  | .array items => items.skip
  | .object members => members.skip
  | .brokenWord _ fault => .error fault
  | .broken fault => .error fault

def Items.skip : Items → Except Fault Unit
  | .done => .ok ()
  | .cut fault => .error fault
  | .cons head tail => do head.skip; tail.skip

def Members.skip : Members → Except Fault Unit
  | .done => .ok ()
  | .cut fault => .error fault
  | .keyless fault _ => .error fault
  | .cons key value tail => do key.skip; value.skip; tail.skip

end

end InAppMessaging.Json
