import InAppMessaging.Json.Number

/-!
# The simple values of a TOML document

Readers for strings in their four spellings, whole numbers in four bases, floating numbers,
and dates and times.  Each takes the text from where the value begins and returns the value
and what follows it, or nothing if no such value stands there.
-/

namespace InAppMessaging.Toml

open Text

/-- A blank within a line. -/
def isGap (c : Char) : Bool := c = ' ' || c = '\t'

/-- Skips blanks within a line. -/
def skipGap (cs : List Char) : List Char := cs.dropWhile isGap

/-- A character that may stand in a comment or, for itself, in a string. -/
def isPlain (c : Char) : Bool :=
  c = '\t' || (0x20 ≤ c.toNat && c.toNat ≤ 0x7E) || 0x80 ≤ c.toNat

/-- The text after a line break, if one stands at the front. -/
def afterBreak? : List Char → Option (List Char)
  | '\n' :: rest => some rest
  | '\r' :: '\n' :: rest => some rest
  | _ => none

/-! ## Strings -/

/-- The number spelled by hexadecimal digits. -/
def hexNumber? (digits : List Char) : Option Nat :=
  digits.foldlM (fun n c => (Json.hexValue? c).map (n * 16 + ·)) 0

/-- The character with the number that stands at the front in so many hexadecimal digits. -/
def readCodePoint (count : Nat) (cs : List Char) : Option (Char × List Char) := do
  let digits := cs.take count
  let n ← hexNumber? digits
  if digits.length = count ∧ n.isValidChar then some (Char.ofNat n, cs.drop count) else none

/-- Reads what stands behind a backslash. -/
def readEscape : List Char → Option (Char × List Char)
  | 'b' :: rest => some ('\x08', rest)
  | 't' :: rest => some ('\t', rest)
  | 'n' :: rest => some ('\n', rest)
  | 'f' :: rest => some ('\x0c', rest)
  | 'r' :: rest => some ('\r', rest)
  | '"' :: rest => some ('"', rest)
  | '\\' :: rest => some ('\\', rest)
  | 'u' :: rest => readCodePoint 4 rest
  | 'U' :: rest => readCodePoint 8 rest
  | _ => none

/-- Puts characters in front of a string that is read. -/
def pushed (front : List Char) (r : Option (List Char × List Char)) :
    Option (List Char × List Char) :=
  r.map fun r => (front ++ r.1, r.2)

/-- Reads a string on one line after its opening quotation mark. -/
def readBasic : Nat → List Char → Option (List Char × List Char)
  | 0, _ => none
  | _, [] => none
  | fuel + 1, c :: cs =>
      if c = '"' then some ([], cs)
      else if c = '\\' then do
        let (e, rest) ← readEscape cs
        pushed [e] (readBasic fuel rest)
      else if isPlain c then pushed [c] (readBasic fuel cs)
      else none

/-- Reads a string on one line after its opening apostrophe; nothing is escaped. -/
def readLiteral : List Char → Option (List Char × List Char)
  | [] => none
  | c :: cs =>
      if c = '\'' then some ([], cs)
      else if isPlain c then pushed [c] (readLiteral cs)
      else none

/-- Skips blanks and line breaks. -/
def skipBlankLines : List Char → List Char
  | '\r' :: '\n' :: rest => skipBlankLines rest
  | c :: rest => if c = '\n' ∨ isGap c then skipBlankLines rest else c :: rest
  | [] => []

/-- Reads a string over several lines after its opening marks.  Up to two marks may stand
right before the three that close it. -/
def readLines (mark : Char) : Nat → List Char → Option (List Char × List Char)
  | 0, _ => none
  | _, [] => none
  | fuel + 1, c :: cs =>
      if c = mark then
        let run := (c :: cs).takeWhile (· = mark)
        let rest := (c :: cs).drop run.length
        if run.length < 3 then pushed run (readLines mark fuel rest)
        else if run.length ≤ 5 then some (run.drop 3, rest)
        else none
      else
        match afterBreak? (c :: cs) with
        | some rest => pushed ['\n'] (readLines mark fuel rest)
        | none =>
            if c = '\\' ∧ mark = '"' then
              match afterBreak? (skipGap cs) with
              | some rest => readLines mark fuel (skipBlankLines rest)
              | none => do
                  let (e, rest) ← readEscape cs
                  pushed [e] (readLines mark fuel rest)
            else if isPlain c then pushed [c] (readLines mark fuel cs)
            else none

/-- Drops a line break that stands right behind the opening marks. -/
def dropFirstBreak (cs : List Char) : List Char := (afterBreak? cs).getD cs

/-- Reads a string on one line, as keys are; `fuel` is at least the length of the text. -/
def readShortString (fuel : Nat) : List Char → Option (String × List Char)
  | '"' :: cs => (readBasic fuel cs).map fun r => (String.ofList r.1, r.2)
  | '\'' :: cs => (readLiteral cs).map fun r => (String.ofList r.1, r.2)
  | _ => none

/-- Reads a string; `fuel` is at least the length of the text. -/
def readString (fuel : Nat) : List Char → Option (String × List Char)
  | '"' :: '"' :: '"' :: cs =>
      (readLines '"' fuel (dropFirstBreak cs)).map fun r => (String.ofList r.1, r.2)
  | '\'' :: '\'' :: '\'' :: cs =>
      (readLines '\'' fuel (dropFirstBreak cs)).map fun r => (String.ofList r.1, r.2)
  | cs => readShortString fuel cs

/-! ## Numbers -/

/-- Reads digits, among which an underscore may stand between two of them. -/
def readDigits (isDigit : Char → Bool) : List Char → Option (List Char × List Char)
  | c :: '_' :: rest => if isDigit c then pushed [c] (readDigits isDigit rest) else none
  | c :: d :: rest =>
      if isDigit c then
        if isDigit d then pushed [c] (readDigits isDigit (d :: rest)) else some ([c], d :: rest)
      else none
  | [c] => if isDigit c then some ([c], []) else none
  | [] => none

/-- Drops a sign; the flag is set by a minus. -/
def readSign : List Char → Bool × List Char
  | '-' :: rest => (true, rest)
  | '+' :: rest => (false, rest)
  | rest => (false, rest)

/-- Reads the digits of a decimal number, whose first is nought only if it is alone. -/
def readDecimalDigits (cs : List Char) : Option (List Char × List Char) :=
  match cs with
  | '0' :: rest => some (['0'], rest)
  | _ => readDigits Char.isDigit cs

/-- A number that fits a signed 64-bit word. -/
def inWord? (n : Int) : Option Int :=
  if minSigned64 ≤ n ∧ n ≤ maxSigned64 then some n else none

/-- Reads a number in a base other than ten, after its mark. -/
def readBased (base : Nat) (cs : List Char) : Option (Int × List Char) := do
  let isDigit (c : Char) : Bool := (Json.hexValue? c).any (· < base)
  let (digits, rest) ← readDigits isDigit cs
  let n := digits.foldl (fun n c => n * base + (Json.hexValue? c).getD 0) 0
  return (← inWord? n, rest)

/-- Reads a whole number. -/
def readInteger (cs : List Char) : Option (Int × List Char) :=
  match cs with
  | '0' :: 'x' :: rest => readBased 16 rest
  | '0' :: 'o' :: rest => readBased 8 rest
  | '0' :: 'b' :: rest => readBased 2 rest
  | _ => do
      let (negative, start) := readSign cs
      let (digits, rest) ← readDecimalDigits start
      let n : Int := digitsValue digits
      return (← inWord? (if negative then -n else n), rest)

/-- A spelled number lies beyond every finite double.  The place of its first digit decides,
unless it is near the bound, where the two are compared. -/
def isHuge (whole fraction : List Char) (exponent? : Option (Bool × List Char)) : Bool :=
  let significant := (whole ++ fraction).dropWhile (· = '0')
  let (below, digits) := exponent?.getD (false, [])
  let size : Int := digitsValue digits
  let shift : Int := (if below then -size else size) - fraction.length
  let place : Int := significant.length + shift
  if significant.isEmpty ∨ place < 309 then false
  else if 309 < place then true
  else
    decide (Json.doubleBound * Nat.pow 10 (-shift).toNat ≤
      digitsValue significant * Nat.pow 10 shift.toNat)

/-- Reads an exponent after its mark. -/
def readExponent (cs : List Char) : Option ((Bool × List Char) × List Char) := do
  let (below, start) := readSign cs
  let (digits, rest) ← readDigits Char.isDigit start
  return ((below, digits), rest)

/-- A number that is not whole, if it is not infinite by being too great. -/
def checkFloat (negative : Bool) (whole fraction : List Char)
    (exponent? : Option (Bool × List Char)) (rest : List Char) : Option (Unit × List Char) :=
  if !negative && isHuge whole fraction exponent? then none else some ((), rest)

/-- Reads a number with a fraction or an exponent, an infinity, or what is not a number. -/
def readFloat (cs : List Char) : Option (Unit × List Char) :=
  let (negative, start) := readSign cs
  match start with
  | 'i' :: 'n' :: 'f' :: rest => some ((), rest)
  | 'n' :: 'a' :: 'n' :: rest => some ((), rest)
  | _ => do
      let (whole, rest) ← readDecimalDigits start
      match rest with
      | '.' :: more =>
          let (fraction, rest) ← readDigits Char.isDigit more
          match rest with
          | e :: more =>
              if e = 'e' ∨ e = 'E' then
                let (exponent, rest) ← readExponent more
                checkFloat negative whole fraction (some exponent) rest
              else checkFloat negative whole fraction none rest
          | [] => checkFloat negative whole fraction none []
      | e :: more =>
          if e = 'e' ∨ e = 'E' then
            let (exponent, rest) ← readExponent more
            checkFloat negative whole [] (some exponent) rest
          else none
      | [] => none

/-! ## Dates and times -/

/-- Reads a number of so many digits between bounds. -/
def readField (count low high : Nat) (cs : List Char) : Option (Nat × List Char) :=
  let digits := cs.take count
  let n := digitsValue digits
  if digits.length = count ∧ digits.all Char.isDigit ∧ low ≤ n ∧ n ≤ high then
    some (n, cs.drop count)
  else none

/-- Drops one given character. -/
def expect (c : Char) : List Char → Option (List Char)
  | d :: rest => if d = c then some rest else none
  | [] => none

/-- The number of days of a month. -/
def daysIn (year month : Nat) : Nat :=
  if month = 2 then
    if year % 4 = 0 ∧ (year % 100 ≠ 0 ∨ year % 400 = 0) then 29 else 28
  else if month ∈ [4, 6, 9, 11] then 30
  else 31

/-- Reads a date. -/
def readDate (cs : List Char) : Option (List Char) := do
  let (year, cs) ← readField 4 0 9999 cs
  let cs ← expect '-' cs
  let (month, cs) ← readField 2 1 12 cs
  let cs ← expect '-' cs
  let (_, cs) ← readField 2 1 (daysIn year month) cs
  return cs

/-- Reads a time of the day; the last minute of a day may have a sixty-first second. -/
def readTime (cs : List Char) : Option (List Char) := do
  let (_, cs) ← readField 2 0 23 cs
  let cs ← expect ':' cs
  let (_, cs) ← readField 2 0 59 cs
  let cs ← expect ':' cs
  let (_, cs) ← readField 2 0 60 cs
  match cs with
  | '.' :: rest =>
      if rest.head?.any Char.isDigit then some (rest.dropWhile Char.isDigit) else none
  | _ => some cs

/-- Reads the distance from universal time, which may be left out. -/
def readOffset (cs : List Char) : Option (List Char) :=
  match cs with
  | [] => some []
  | c :: rest =>
      if c = 'Z' ∨ c = 'z' then some rest
      else if c = '+' ∨ c = '-' then do
        let (_, cs) ← readField 2 0 23 rest
        let cs ← expect ':' cs
        let (_, cs) ← readField 2 0 59 cs
        return cs
      else some cs

/-- Reads a date with or without a time, or a time alone. -/
def readMoment (cs : List Char) : Option (Unit × List Char) :=
  match readDate cs with
  | some rest =>
      match rest with
      | c :: more =>
          if c = 'T' ∨ c = 't' ∨ c = ' ' then
            match readTime more with
            | some rest => (readOffset rest).map ((), ·)
            | none => some ((), rest)
          else some ((), rest)
      | [] => some ((), [])
  | none => (readTime cs).map ((), ·)

end InAppMessaging.Toml
