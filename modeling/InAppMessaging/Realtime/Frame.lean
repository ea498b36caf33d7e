import InAppMessaging.Text.Blank

/-!
# Framing of an event stream

A stream arrives line by line.  The lines up to an empty one are a block; a block with an
`event` or a `data` field is one frame, whose data are the values of its `data` fields, a
line each.  A line that starts with a colon is a comment, and other fields mean nothing.

* `Block.push_comment` — a comment leaves the block as it is.
* `Block.push_empty` — after an empty line the next block starts afresh.
-/

namespace InAppMessaging

/-- An event as it is framed in the stream. -/
structure Frame where
  kind : String
  data : String
deriving DecidableEq, Repr

/-- The kind of a frame that names none. -/
def Frame.defaultKind : String := "message"

/-- The fields of a block that has not been ended yet. -/
structure Block where
  kind : Option String := none
  data : List String := []
deriving DecidableEq, Repr, Inhabited

/-- A line as a field and its value: they part at the first colon, and one space after it is
no part of the value. -/
def fieldOf (line : List Char) : String × String :=
  let value := match line.dropWhile (· ≠ ':') with
    | ':' :: ' ' :: rest | ':' :: rest => rest
    | rest => rest
  (String.ofList (line.takeWhile (· ≠ ':')), String.ofList value)

namespace Block

/-- Neither an event nor data have been named. -/
def isBlank (b : Block) : Bool := b.kind.isNone && b.data.isEmpty

/-- The frame of a block, if it holds any. -/
def frame? (b : Block) : Option Frame :=
  if b.isBlank then none
  else some ⟨b.kind.getD Frame.defaultKind, "\n".intercalate b.data⟩

/-- Adds a field to a block. -/
def addField (b : Block) (field value : String) : Block :=
  if field = "event" then { b with kind := some value }
  else if field = "data" then { b with data := b.data ++ [value] }
  else b

/-- Takes the next line; an empty one ends the block. -/
def push (b : Block) (line : String) : Option Frame × Block :=
  match line.toList with
  | [] => (b.frame?, {})
  | ':' :: _ => (none, b)
  | cs => (none, b.addField (fieldOf cs).1 (fieldOf cs).2)

/-- The frames of the lines that follow. -/
def frames : Block → List String → List Frame
  | _, [] => []
  | b, line :: rest =>
      let (frame, b) := b.push line
      frame.toList ++ b.frames rest

theorem push_empty (b : Block) : b.push "" = (b.frame?, {}) := rfl

theorem push_comment (b : Block) (cs : List Char) :
    b.push (String.ofList (':' :: cs)) = (none, b) := by
  simp [push]

end Block

/-- A line without the carriage returns at its end. -/
def withoutReturns (line : String) : String :=
  String.ofList (Text.dropTrailing (· = '\r') line.toList)

end InAppMessaging
