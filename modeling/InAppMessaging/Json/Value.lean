import InAppMessaging.Json.Tree

/-!
# JSON values and their text

The values this library writes: null, truth values, whole numbers, texts, arrays and objects
whose members keep their order.  `Value.compact` writes no space at all; `Value.indented`
puts every item and member on a line of its own, two spaces deeper than its bracket.
Only quotes, backslashes and control characters below U+0020 are escaped.
-/

namespace InAppMessaging.Json

/-- A JSON value without fractional numbers. -/
inductive Value where
  | null
  | bool (b : Bool)
  | integer (n : Int)
  | text (s : String)
  | array (items : List Value)
  | object (members : List (String × Value))
deriving Inhabited

/-- The lower-case hexadecimal digit for a number below sixteen. -/
def hexDigit (n : Nat) : Char := "0123456789abcdef".toList.getD n '0'

/-- A character as written inside a string. -/
def escapeChar (c : Char) : List Char :=
  if c = '"' then ['\\', '"']
  else if c = '\\' then ['\\', '\\']
  else if c = '\n' then ['\\', 'n']
  else if c = '\r' then ['\\', 'r']
  else if c = '\t' then ['\\', 't']
  else if c = '\x08' then ['\\', 'b']
  else if c = '\x0c' then ['\\', 'f']
  else if c.toNat < 0x20 then
    ['\\', 'u', '0', '0', hexDigit (c.toNat / 16), hexDigit (c.toNat % 16)]
  else [c]

/-- A text as a JSON string. -/
def quote (s : String) : List Char := '"' :: s.toList.flatMap escapeChar ++ ['"']

/-- Puts a separator between texts. -/
def separated (separator : List Char) : List (List Char) → List Char
  | [] => []
  | [x] => x
  | x :: y :: rest => x ++ separator ++ separated separator (y :: rest)

mutual

/-- The text of a value without any space. -/
def Value.compact : Value → List Char
  | .null => "null".toList
  | .bool true => "true".toList
  | .bool false => "false".toList
  | .integer n => (toString n).toList
  | .text s => quote s
  | .array items => '[' :: separated [','] (compactItems items) ++ [']']
  | .object members => '{' :: separated [','] (compactMembers members) ++ ['}']

def compactItems : List Value → List (List Char)
  | [] => []
  | v :: rest => v.compact :: compactItems rest

def compactMembers : List (String × Value) → List (List Char)
  | [] => []
  | (key, v) :: rest => (quote key ++ ':' :: v.compact) :: compactMembers rest

end

/-- A line break and two spaces for each level. -/
def lineBreak (level : Nat) : List Char := '\n' :: List.replicate (2 * level) ' '

mutual

/-- The text of a value over several lines, two spaces deeper inside each bracket; an empty
array or object stays on its line. -/
def Value.indented (level : Nat) : Value → List Char
  | .array (v :: rest) =>
      '[' :: lineBreak (level + 1) ++
        separated (',' :: lineBreak (level + 1)) (indentedItems (level + 1) (v :: rest)) ++
        lineBreak level ++ [']']
  | .object (m :: rest) =>
      '{' :: lineBreak (level + 1) ++
        separated (',' :: lineBreak (level + 1)) (indentedMembers (level + 1) (m :: rest)) ++
        lineBreak level ++ ['}']
  | .array [] => ['[', ']']
  | .object [] => ['{', '}']
  | .null => "null".toList
  | .bool true => "true".toList
  | .bool false => "false".toList
  | .integer n => (toString n).toList
  | .text s => quote s

def indentedItems (level : Nat) : List Value → List (List Char)
  | [] => []
  | v :: rest => v.indented level :: indentedItems level rest

def indentedMembers (level : Nat) : List (String × Value) → List (List Char)
  | [] => []
  | (key, v) :: rest => (quote key ++ ':' :: ' ' :: v.indented level) :: indentedMembers level rest

end

/-- The compact text of a value. -/
def Value.toText (v : Value) : String := String.ofList v.compact

/-- The text of a value over several lines. -/
def Value.toPage (v : Value) : String := String.ofList (v.indented 0)

end InAppMessaging.Json
