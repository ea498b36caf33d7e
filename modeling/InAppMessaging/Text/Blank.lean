/-!
# Blank characters

The characters of Unicode's `White_Space` property, and trimming by them.  Values read from
headers and from the preference store are trimmed this way before they are parsed.
-/

namespace InAppMessaging.Text

/-- The character has Unicode's `White_Space` property. -/
def isBlank (c : Char) : Bool :=
  let n := c.toNat
  (0x09 ≤ n && n ≤ 0x0D) || n = 0x20 || n = 0x85 || n = 0xA0 || n = 0x1680 ||
    (0x2000 ≤ n && n ≤ 0x200A) || n = 0x2028 || n = 0x2029 || n = 0x202F || n = 0x205F ||
    n = 0x3000

/-- Drops trailing characters that pass a test. -/
def dropTrailing (test : Char → Bool) (cs : List Char) : List Char :=
  (cs.reverse.dropWhile test).reverse

/-- The text without blank characters at either end. -/
def trim (s : String) : String :=
  String.ofList (dropTrailing isBlank (s.toList.dropWhile isBlank))

end InAppMessaging.Text
