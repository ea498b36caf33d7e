/-!
# Decimal numbers in text

Reading whole numbers the way the preference store and the headers write them: ASCII digits
with an optional sign, within a bound.  A leading `+` is always accepted, a leading `-` only
where negative numbers are meant.
-/

namespace InAppMessaging.Text

/-- The value of an ASCII digit. -/
def digitValue? (c : Char) : Option Nat :=
  if c.isDigit then some (c.toNat - 48) else none

/-- Appends one digit to a number read so far. -/
def pushDigit (n : Nat) (c : Char) : Option Nat := (digitValue? c).map (n * 10 + ·)

/-- The number spelled by a nonempty list of ASCII digits. -/
def digits? : List Char → Option Nat
  | [] => none
  | cs => cs.foldlM pushDigit 0

/-- The value of a list of digit characters, of which others count as nought. -/
def digitsValue (cs : List Char) : Nat :=
  cs.foldl (fun n c => n * 10 + (c.toNat - 48)) 0

/-- The greatest 32-bit word. -/
def maxWord32 : Nat := 0xFFFFFFFF

/-- The greatest 64-bit word. -/
def maxWord64 : Nat := 0xFFFFFFFFFFFFFFFF

/-- The least signed 64-bit number. -/
def minSigned64 : Int := -0x8000000000000000

/-- The greatest signed 64-bit number. -/
def maxSigned64 : Int := 0x7FFFFFFFFFFFFFFF

/-- Brings a number into the signed 64-bit range, at its nearer end if it lies outside. -/
def clamp64 (n : Int) : Int := max minSigned64 (min n maxSigned64)

/-- Brings a number into the signed 64-bit range by leaving out its higher bits. -/
def wrap64 (n : Int) : Int := Int.bmod n 0x10000000000000000

/-- A natural number up to `limit`, written with an optional `+`. -/
def natural? (limit : Nat) (cs : List Char) : Option Nat := do
  let n ← digits? (match cs with | '+' :: rest => rest | _ => cs)
  if n ≤ limit then some n else none

/-- A signed 64-bit number, written with an optional sign. -/
def signed64? (cs : List Char) : Option Int := do
  let n : Int ← match cs with
    | '-' :: rest => (digits? rest).map fun n => -(n : Int)
    | '+' :: rest => (digits? rest).map fun n => (n : Int)
    | _ => (digits? cs).map fun n => (n : Int)
  if minSigned64 ≤ n ∧ n ≤ maxSigned64 then some n else none

theorem clamp64_mem (n : Int) : minSigned64 ≤ clamp64 n ∧ clamp64 n ≤ maxSigned64 := by
  unfold clamp64 minSigned64 maxSigned64
  omega

end InAppMessaging.Text
