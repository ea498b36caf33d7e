/-!
# Base64

The standard alphabet with padding, over the UTF-8 bytes of a text.  Three bytes become four
characters; one or two left over are padded with `=`.
-/

namespace InAppMessaging.Text.Base64

/-- The sixty-four characters in the order of their values. -/
def alphabet : List Char :=
  "ABCDEFGHIJKLMNOPQRSTUVWXYZabcdefghijklmnopqrstuvwxyz0123456789+/".toList

/-- The character for a six-bit value. -/
def symbol (n : Nat) : Char := alphabet.getD (n % 64) 'A'

/-- Encodes bytes, given as numbers below 256. -/
def encodeBytes : List Nat → List Char
  | [] => []
  | [a] => [symbol (a / 4), symbol (a % 4 * 16), '=', '=']
  | [a, b] => [symbol (a / 4), symbol (a % 4 * 16 + b / 16), symbol (b % 16 * 4), '=']
  | a :: b :: c :: rest =>
      symbol (a / 4) :: symbol (a % 4 * 16 + b / 16) :: symbol (b % 16 * 4 + c / 64) ::
        symbol (c % 64) :: encodeBytes rest

end InAppMessaging.Text.Base64

namespace InAppMessaging.Text

/-- The UTF-8 bytes of a text, as numbers. -/
def utf8Bytes (s : String) : List Nat :=
  s.toList.flatMap fun c => (String.utf8EncodeChar c).map UInt8.toNat

/-- The standard base64 form of a text's UTF-8 bytes. -/
def base64 (s : String) : String := String.ofList (Base64.encodeBytes (utf8Bytes s))

end InAppMessaging.Text
