import InAppMessaging.Text.Unicode.Newest

/-!
# Values as text for inspection

How values are printed in reports on what changed: texts in quotes with everything escaped
that would not show, options as `Some(…)` or `None`, records as their name and fields, lists
in brackets, sets and maps in braces.
-/

namespace InAppMessaging.Text.Inspect

open Unicode

/-- A number in lower-case hexadecimal digits. -/
def hexDigits (n : Nat) : List Char := Nat.toDigits 16 n

/-- A character as printed inside a quoted text. -/
def escape (c : Char) : List Char :=
  if c = '"' then ['\\', '"']
  else if c = '\\' then ['\\', '\\']
  else if c = '\n' then ['\\', 'n']
  else if c = '\r' then ['\\', 'r']
  else if c = '\t' then ['\\', 't']
  else if c = '\x00' then ['\\', '0']
  else if isExtendingMark c || !isPrintable c then
    ['\\', 'u', '\x7b'] ++ hexDigits c.toNat ++ ['\x7d']
  else [c]

/-- A text in quotes. -/
def quoted (s : String) : List Char := '"' :: s.toList.flatMap escape ++ ['"']

/-- A truth value. -/
def bool (b : Bool) : List Char := (if b then "true" else "false").toList

/-- A whole number. -/
def integer (n : Int) : List Char := (toString n).toList

/-- Items with a comma and a space between them. -/
def listed : List (List Char) → List Char
  | [] => []
  | [x] => x
  | x :: y :: rest => x ++ [',', ' '] ++ listed (y :: rest)

/-- A value wrapped in the name of its kind. -/
def wrapped (name : String) (value : List Char) : List Char :=
  name.toList ++ '(' :: value ++ [')']

/-- A value that may be absent. -/
def optional {α : Type} (printItem : α → List Char) : Option α → List Char
  | none => "None".toList
  | some a => wrapped "Some" (printItem a)

/-- A list in brackets. -/
def sequence {α : Type} (printItem : α → List Char) (items : List α) : List Char :=
  '[' :: listed (items.map printItem) ++ [']']

/-- A set or a map in braces. -/
def braces (items : List (List Char)) : List Char := '\x7b' :: listed items ++ ['\x7d']

/-- A field of a record: its name, a colon and its value. -/
def field (name : String) (value : List Char) : List Char := name.toList ++ ':' :: ' ' :: value

/-- A record: its name and its fields in braces. -/
def record (name : String) (fields : List (List Char)) : List Char :=
  name.toList ++ [' ', '\x7b', ' '] ++ listed fields ++ [' ', '\x7d']

end InAppMessaging.Text.Inspect
