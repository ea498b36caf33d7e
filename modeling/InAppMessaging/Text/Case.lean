/-!
# Letters of either case

Comparing texts without regard to the case of the ASCII letters.  No other character has a
case here.
-/

namespace InAppMessaging.Text

/-- A text with its ASCII letters in lower case. -/
def lowerCase (s : String) : List Char := s.toList.map Char.toLower

/-- Two texts differ at most in the case of ASCII letters. -/
def sameIgnoringCase (a b : String) : Bool := lowerCase a = lowerCase b

end InAppMessaging.Text
