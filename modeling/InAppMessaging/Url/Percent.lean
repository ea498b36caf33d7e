import InAppMessaging.Text.Base64

/-!
# Percent-encoding

A byte is written as `%` and two upper-case hexadecimal digits.  Each part of a URL keeps its
own set of ASCII characters as they are and writes the bytes of all others in this way.  The
pairs of a query keep the fewest characters and write a space as `+`.

* `percentEncode_of_kept` — a text of kept characters is written as it is.
-/

namespace InAppMessaging.Url

/-- The upper-case hexadecimal digit for a number below sixteen. -/
def upperHexDigit (n : Nat) : Char := "0123456789ABCDEF".toList.getD n '0'

/-- The value of a hexadecimal digit. -/
def hexValue? (c : Char) : Option Nat :=
  if c.isDigit then some (c.toNat - 48)
  else if 'a' ≤ c ∧ c ≤ 'f' then some (c.toNat - 87)
  else if 'A' ≤ c ∧ c ≤ 'F' then some (c.toNat - 55)
  else none

/-- A byte in percent-encoded form. -/
def percentByte (b : Nat) : List Char := ['%', upperHexDigit (b / 16), upperHexDigit (b % 16)]

/-- The bytes of a character, each in percent-encoded form. -/
def percentChar (c : Char) : List Char :=
  (Text.utf8Bytes (String.singleton c)).flatMap percentByte

/-- Percent-encodes the characters that are not kept. -/
def percentEncode (keep : Char → Bool) (cs : List Char) : List Char :=
  cs.flatMap fun c => if keep c then [c] else percentChar c

/-- The bytes of a text in which some are percent-encoded. -/
def percentDecode : List Char → List Nat
  | '%' :: a :: b :: rest =>
      match hexValue? a, hexValue? b with
      | some high, some low => (high * 16 + low) :: percentDecode rest
      | _, _ => 0x25 :: percentDecode (a :: b :: rest)
  | c :: rest => Text.utf8Bytes (String.singleton c) ++ percentDecode rest
  | [] => []
termination_by cs => cs.length

/-- A printable ASCII character, the space aside. -/
def isGraphic (c : Char) : Bool := 0x20 < c.toNat && c.toNat < 0x7F

/-- Kept in a path that is not parted into segments. -/
def keptInRawPath (c : Char) : Bool := c = ' ' || isGraphic c

/-- Kept in a fragment. -/
def keptInFragment (c : Char) : Bool := isGraphic c && !(['"', '<', '>', '\x60'].contains c)

/-- Kept in a path. -/
def keptInPath (c : Char) : Bool :=
  keptInFragment c && !(['#', '?', '\x7b', '\x7d'].contains c)

/-- Kept in a user name and a password. -/
def keptInUser (c : Char) : Bool :=
  keptInPath c && !(['/', ':', ';', '=', '@', '[', '\\', ']', '^', '|'].contains c)

/-- Kept in a query; an apostrophe only where the scheme has no rules of its own. -/
def keptInQuery (special : Bool) (c : Char) : Bool :=
  isGraphic c && !(['"', '#', '<', '>'].contains c) && !(special && c = '\'')

/-- Kept in the pairs of a query. -/
def keptInPair (c : Char) : Bool :=
  c.isAlphanum || c = '*' || c = '-' || c = '.' || c = '_'

/-- One side of a pair in a query. -/
def formEncode (s : String) : List Char :=
  s.toList.flatMap fun c =>
    if c = ' ' then ['+'] else if keptInPair c then [c] else percentChar c

/-- A text of kept characters is written as it is. -/
theorem percentEncode_of_kept {keep : Char → Bool} {cs : List Char}
    (h : ∀ c ∈ cs, keep c = true) : percentEncode keep cs = cs := by
  induction cs with
  | nil => rfl
  | cons c rest ih =>
      have hc := h c List.mem_cons_self
      have hrest := ih fun d hd => h d (List.mem_cons_of_mem _ hd)
      unfold percentEncode at hrest ⊢
      rw [List.flatMap_cons, if_pos hc, hrest]
      rfl

end InAppMessaging.Url
