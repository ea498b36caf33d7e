import InAppMessaging.Text.Decimal
import InAppMessaging.Url.Percent

/-!
# Network addresses

The two kinds of numeric hosts.  An IPv4 address has one to four parts, decimal, octal or
hexadecimal; the last one fills all places that are left.  An IPv6 address has eight groups
of sixteen bits; one stretch of zeros may be left out, and the last two groups may be spelled
as an IPv4 address.
-/

namespace InAppMessaging.Url

/-- The parts of a text between the characters that pass a test. -/
def splitWhere (test : Char → Bool) : List Char → List (List Char)
  | [] => [[]]
  | c :: rest =>
      match splitWhere test rest with
      | [] => [[]]
      | part :: parts => if test c then [] :: part :: parts else (c :: part) :: parts

/-- A number in a base, of digits of that base. -/
def numberIn? (base : Nat) (cs : List Char) : Option Nat :=
  cs.foldlM
    (fun n c => do
      let d ← hexValue? c
      if d < base then some (n * base + d) else none)
    0

/-! ## Four bytes -/

/-- A part of an IPv4 address: hexadecimal after `0x`, octal after `0`, else decimal. -/
def ipv4Part? : List Char → Option Nat
  | [] => none
  | '0' :: 'x' :: digits | '0' :: 'X' :: digits => numberIn? 16 digits
  | '0' :: d :: digits => numberIn? 8 (d :: digits)
  | digits => numberIn? 10 digits

/-- The parts of a dotted name, without an empty one at the end. -/
def dottedParts (name : List Char) : List (List Char) :=
  let parts := splitWhere (· = '.') name
  match parts.reverse with
  | [] :: rest => rest.reverse
  | _ => parts

/-- The last part of a dotted name is a number, so that it can only be an address. -/
def endsInNumber (name : List Char) : Bool :=
  match (dottedParts name).reverse with
  | last :: _ => (!last.isEmpty && last.all Char.isDigit) || (ipv4Part? last).isSome
  | [] => false

/-- An IPv4 address as a number. -/
def ipv4? (name : List Char) : Option Nat := do
  let numbers ← (dottedParts name).mapM ipv4Part?
  match numbers.reverse with
  | [] => none
  | last :: before =>
      if before.length < 4 ∧ last < Nat.pow 256 (4 - before.length) ∧ before.all (· < 256) then
        some
          (before.reverse.foldl (fun n b => n * 256 + b) 0 * Nat.pow 256 (4 - before.length) + last)
      else none

/-- The text of an IPv4 address. -/
def ipv4Text (n : Nat) : String :=
  ".".intercalate ([n / 0x1000000, n / 0x10000 % 256, n / 256 % 256, n % 256].map toString)

/-! ## Eight groups -/

/-- A byte in decimal, without leading zeros. -/
def decimalByte? (cs : List Char) : Option Nat := do
  let n ← Text.digits? cs
  if n < 256 ∧ (cs.length = 1 ∨ cs.head? ≠ some '0') then some n else none

/-- A group of an IPv6 address. -/
def group? (cs : List Char) : Option Nat :=
  if cs.isEmpty ∨ 4 < cs.length then none else numberIn? 16 cs

/-- The groups of the last piece of an IPv6 address: one group, or two in dotted form. -/
def lastGroups? (cs : List Char) : Option (List Nat) :=
  match splitWhere (· = '.') cs with
  | [a, b, c, d] => do
      let a ← decimalByte? a
      let b ← decimalByte? b
      let c ← decimalByte? c
      let d ← decimalByte? d
      return [a * 256 + b, c * 256 + d]
  | _ => (group? cs).map fun n => [n]

/-- The groups between colons; the last one may be dotted if this is the address's end. -/
def groups? (atEnd : Bool) (cs : List Char) : Option (List Nat) :=
  if cs.isEmpty then some []
  else
    match (splitWhere (· = ':') cs).reverse with
    | [] => none
    | last :: before => do
        let before ← before.reverse.mapM group?
        let last ← if atEnd then lastGroups? last else (group? last).map fun n => [n]
        return before ++ last

/-- Parts a text at its first double colon. -/
def splitAtGap? : List Char → Option (List Char × List Char)
  | ':' :: ':' :: rest => some ([], rest)
  | c :: rest => (splitAtGap? rest).map fun (before, after) => (c :: before, after)
  | [] => none

/-- The eight groups of an IPv6 address. -/
def ipv6? (cs : List Char) : Option (List Nat) :=
  match splitAtGap? cs with
  | none => do
      let groups ← groups? true cs
      if groups.length = 8 then some groups else none
  | some (before, after) => do
      let front ← groups? false before
      let back ← groups? true after
      let size := front.length + back.length
      if size ≤ 7 then some (front ++ List.replicate (8 - size) 0 ++ back) else none

/-- The length of the stretch of zeros at the front. -/
def zerosAtFront (groups : List Nat) : Nat := (groups.takeWhile (· = 0)).length

/-- The place and the length of the longest stretch of zeros, the first of equals. -/
def longestZeros : Nat → List Nat → Nat × Nat
  | _, [] => (0, 0)
  | place, g :: rest =>
      let here := zerosAtFront (g :: rest)
      let later := longestZeros (place + 1) rest
      if later.2 ≤ here then (place, here) else later

/-- A group in lower-case hexadecimal. -/
def groupText (n : Nat) : String := String.ofList (Nat.toDigits 16 n)

/-- The text of an IPv6 address: the longest stretch of at least two zeros is left out. -/
def ipv6Text (groups : List Nat) : String :=
  let colons (gs : List Nat) := ":".intercalate (gs.map groupText)
  let (place, length) := longestZeros 0 groups
  if length < 2 then colons groups
  else colons (groups.take place) ++ "::" ++ colons (groups.drop (place + length))

end InAppMessaging.Url
