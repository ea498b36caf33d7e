import InAppMessaging.Toml.Scalar

/-!
# TOML documents

A document is a tree of tables.  It is written as lines that set a key or open a table; keys
may be dotted, tables may be arrays of tables, and a table remembers how it came about
(`Origin`), because that decides what may still be added to it: one opened by a header cannot
be opened again, one made by a dotted key cannot be opened at all, one written in braces is
complete.

* `readText?` — the root table of a document, if the text is one.
-/

namespace InAppMessaging.Toml

/-- How a table came about. -/
inductive Origin where
  | header
  | passed
  | dotted
  | braces
deriving DecidableEq, Repr

/-- A value of a document.  Nothing of this library looks into floating numbers, dates and
times. -/
inductive Node where
  | text (s : String)
  | integer (n : Int)
  | bool (b : Bool)
  | float
  | moment
  | array (items : List Node)
  | table (origin : Origin) (entries : List (String × Node))
  | tables (items : List Node)
deriving Inhabited

/-- The value of a key among entries. -/
def lookup? (key : String) (entries : List (String × Node)) : Option Node :=
  (entries.find? fun e => e.1 = key).map (·.2)

/-- Replaces the value of a key, or adds the key at the end. -/
def assign (key : String) (value : Node) : List (String × Node) → List (String × Node)
  | [] => [(key, value)]
  | e :: rest => if e.1 = key then (key, value) :: rest else e :: assign key value rest

/-- Changes the table at the end of a path.  Tables that are missing on the way are made with
the origin `fresh`; those there may be entered only if `enter` allows it; of an array of
tables the last one is entered. -/
def changeAt (enter : Origin → Bool) (fresh : Origin) (change : Node → Option Node) :
    List String → Node → Option Node
  | [], node => change node
  | key :: path, .table origin entries => do
      let next ←
        match lookup? key entries with
        | none => changeAt enter fresh change path (.table fresh [])
        | some (.table o es) =>
            if enter o then changeAt enter fresh change path (.table o es) else none
        | some (.tables items) =>
            (items.getLast?.bind (changeAt enter fresh change path)).map fun last =>
              .tables (items.dropLast ++ [last])
        | some _ => none
      return .table origin (assign key next entries)
  | _ :: _, _ => none

/-- Adds a key to a table that has it not. -/
def addKey (dotted : Bool) (key : String) (value : Node) : Node → Option Node
  | .table origin entries =>
      if (dotted ∧ origin ≠ .dotted) ∨ (lookup? key entries).isSome then none
      else some (.table origin (entries ++ [(key, value)]))
  | _ => none

/-- Sets a dotted key in a table: it goes through tables that other dotted keys made. -/
def setKey (path : List String) (key : String) (value : Node) (node : Node) : Option Node :=
  changeAt (fun o => o = .dotted ∨ o = .passed) .dotted (addKey (!path.isEmpty) key value) path
    node

/-- Opens a table: it is new, or headers of its subtables have passed through it. -/
def openTable (key : String) : Node → Option Node
  | .table origin entries =>
      match lookup? key entries with
      | none => some (.table origin (entries ++ [(key, .table .header [])]))
      | some (.table .passed es) => some (.table origin (assign key (.table .header es) entries))
      | some _ => none
  | _ => none

/-- Opens one more table of an array of tables. -/
def openElement (key : String) : Node → Option Node
  | .table origin entries =>
      match lookup? key entries with
      | none => some (.table origin (entries ++ [(key, .tables [.table .header []])]))
      | some (.tables items) =>
          some (.table origin (assign key (.tables (items ++ [.table .header []])) entries))
      | some _ => none
  | _ => none

/-- A table that a header may pass through. -/
def passable (o : Origin) : Bool := o ≠ .braces

/-! ## Reading -/

/-- Fewer brackets than this may be open at once, and a key may have fewer parts. -/
def depthLimit : Nat := 80

/-- A character of a key that is not quoted. -/
def isBare (c : Char) : Bool := c.isAlphanum || c = '_' || c = '-'

/-- Reads one part of a key. -/
def readKeyPart (cs : List Char) : Option (String × List Char) :=
  match cs with
  | c :: _ =>
      if c = '"' ∨ c = '\'' then readShortString cs.length cs
      else
        let name := cs.takeWhile isBare
        if name.isEmpty then none else some (String.ofList name, cs.drop name.length)
  | [] => none

/-- Reads a key of one or more parts, with the blanks around it. -/
def readKey : Nat → List Char → Option (List String × List Char)
  | 0, _ => none
  | fuel + 1, cs => do
      let (part, rest) ← readKeyPart (skipGap cs)
      match skipGap rest with
      | '.' :: more =>
          let (parts, rest) ← readKey fuel more
          return (part :: parts, rest)
      | rest => return ([part], rest)

/-- Skips blanks, line breaks and comments, as they stand between the items of an array. -/
def skipLines : Nat → List Char → Option (List Char)
  | 0, _ => none
  | fuel + 1, cs =>
      match skipBlankLines cs with
      | '#' :: rest =>
          match rest.dropWhile isPlain with
          | [] => some []
          | after => do skipLines fuel (← afterBreak? after)
      | rest => some rest

/-- The path and the last part of a key. -/
def splitKey (key : List String) : List String × String := (key.dropLast, key.getLastD "")

/-- Reads a number, a date or a time. -/
def readFigure (cs : List Char) : Option (Node × List Char) :=
  match readMoment cs with
  | some (_, rest) => some (.moment, rest)
  | none =>
      match readFloat cs with
      | some (_, rest) => some (.float, rest)
      | none => (readInteger cs).map fun r => (.integer r.1, r.2)

mutual

/-- Reads a value; `depth` counts the brackets that may still be opened.  Nothing is read in more
steps than `fuel`, which is greater than the length of the text. -/
def readValue : Nat → Nat → List Char → Option (Node × List Char)
  | 0, _, _ => none
  | fuel + 1, depth, cs =>
      match cs with
      | [] => none
      | c :: rest =>
          if c = '"' ∨ c = '\'' then (readString (fuel + 1) cs).map fun r => (.text r.1, r.2)
          else if c = '[' then
            if depth = 0 then none
            else (readItems fuel (depth - 1) rest).map fun r => (.array r.1, r.2)
          else if c = '\x7b' then
            if depth = 0 then none
            else
              match skipGap rest with
              | '\x7d' :: rest => some (.table .braces [], rest)
              | start => readEntries fuel (depth - 1) (.table .braces []) start
          else
            match "true".toList.isPrefixOf cs, "false".toList.isPrefixOf cs with
            | true, _ => some (.bool true, cs.drop 4)
            | _, true => some (.bool false, cs.drop 5)
            | _, _ => readFigure cs

/-- Reads the items of an array up to its closing bracket; a comma may follow the last. -/
def readItems : Nat → Nat → List Char → Option (List Node × List Char)
  | 0, _, _ => none
  | fuel + 1, depth, cs => do
      match ← skipLines (fuel + 1) cs with
      | ']' :: rest => return ([], rest)
      | start =>
          let (item, rest) ← readValue fuel depth start
          match ← skipLines (fuel + 1) rest with
          | ']' :: rest => return ([item], rest)
          | ',' :: rest =>
              let (items, rest) ← readItems fuel depth rest
              return (item :: items, rest)
          | _ => none

/-- Reads the keys of a table in braces up to its closing brace. -/
def readEntries : Nat → Nat → Node → List Char → Option (Node × List Char)
  | 0, _, _, _ => none
  | fuel + 1, depth, table, cs => do
      let (key, rest) ← readKey (depthLimit - 1) cs
      match rest with
      | '=' :: rest =>
          let (value, rest) ← readValue fuel depth (skipGap rest)
          let (path, name) := splitKey key
          let table ← setKey path name value table
          match skipGap rest with
          | '\x7d' :: rest => return (table, rest)
          | ',' :: rest => readEntries fuel depth table rest
          | _ => none
      | _ => none

end

/-- The end of a line: blanks, perhaps a comment, and a line break or the end of the text. -/
def endLine (cs : List Char) : Option (List Char) :=
  let rest := skipGap cs
  let rest := match rest with
    | '#' :: comment => comment.dropWhile isPlain
    | _ => rest
  if rest.isEmpty then some [] else afterBreak? rest

/-- A document as far as it is read: its root, and the path of the table that keys go to. -/
structure Draft where
  root : Node := .table .header []
  current : List String := []

namespace Draft

/-- Sets a key in the current table. -/
def set (d : Draft) (key : List String) (value : Node) : Option Draft := do
  let (path, name) := splitKey key
  let root ← changeAt passable .passed (setKey path name value) d.current d.root
  return { d with root }

/-- Makes a table the current one, opening it as `opens` says. -/
def header (d : Draft) (opens : String → Node → Option Node) (key : List String) :
    Option Draft := do
  let (path, name) := splitKey key
  let root ← changeAt passable .passed (opens name) path d.root
  return ⟨root, key⟩

end Draft

/-- Reads the lines of a document. -/
def readDocument : Nat → Draft → List Char → Option Draft
  | 0, _, _ => none
  | fuel + 1, d, text =>
      match skipGap text with
      | [] => some d
      | '[' :: '[' :: cs => do
          let (key, rest) ← readKey (depthLimit - 1) cs
          match rest with
          | ']' :: ']' :: rest =>
              readDocument fuel (← d.header openElement key) (← endLine rest)
          | _ => none
      | '[' :: cs => do
          let (key, rest) ← readKey (depthLimit - 1) cs
          match rest with
          | ']' :: rest => readDocument fuel (← d.header openTable key) (← endLine rest)
          | _ => none
      | c :: cs =>
          if c = '#' ∨ c = '\n' ∨ c = '\r' then do
            readDocument fuel d (← endLine (c :: cs))
          else do
            let (key, rest) ← readKey (depthLimit - 1) (c :: cs)
            match rest with
            | '=' :: rest =>
                let start := skipGap rest
                let (value, rest) ← readValue (2 * start.length + 2) (depthLimit - 1) start
                readDocument fuel (← d.set key value) (← endLine rest)
            | _ => none

/-- Drops the mark that may stand at the front of a text. -/
def dropMark : List Char → List Char
  | '\ufeff' :: rest => rest
  | cs => cs

/-- The entries of the root table of a document. -/
def readText? (text : String) : Option (List (String × Node)) := do
  let cs := dropMark text.toList
  match (← readDocument (cs.length + 1) {} cs).root with
  | .table _ entries => some entries
  | _ => none

end InAppMessaging.Toml
