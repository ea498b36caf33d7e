/-!
# Tables over all characters

A table gives every character a word.  It is written as the lengths of its runs, each
followed by the word that all characters of the run have: `65n26y` says that the first
sixty-five characters have `n` and the next twenty-six `y`.  Names are kept the same way, as
the words that stand for something, behind the word it is kept under.
-/

namespace InAppMessaging.Text.Unicode

/-- The runs of a table: where each begins, and its word. -/
structure Runs where
  starts : Array Nat
  words : Array String
deriving Inhabited

/-- A table under construction: its runs so far, the number of characters in them, and the
length and the word of the run being read. -/
structure RunReader where
  runs : Runs := ⟨#[], #[]⟩
  total : Nat := 0
  length : Nat := 0
  word : List Char := []

/-- Ends the run being read, if there is one. -/
def RunReader.close (r : RunReader) : RunReader :=
  if r.word.isEmpty then r
  else
    { runs := ⟨r.runs.starts.push r.total, r.runs.words.push (String.ofList r.word.reverse)⟩
      total := r.total + r.length }

/-- Reads one character of a written table. -/
def RunReader.push (r : RunReader) (c : Char) : RunReader :=
  if c.isDigit then
    let r := r.close
    { r with length := r.length * 10 + (c.toNat - 48) }
  else { r with word := c :: r.word }

/-- Reads a table written over several lines. -/
def Runs.ofLines (lines : List String) : Runs :=
  (lines.foldl (fun (r : RunReader) (line : String) => line.foldl RunReader.push r) {}).close.runs

/-- The number of entries of an ascending array that are at most `n`, known to be between
`low` and `high`. -/
def countAtMost (starts : Array Nat) (n low high : Nat) : Nat :=
  if h : low < high then
    let middle := (low + high) / 2
    if starts.getD middle 0 ≤ n then countAtMost starts n (middle + 1) high
    else countAtMost starts n low middle
  else low
termination_by high - low

/-- The word of a character, given by its number. -/
def Runs.valueAt (runs : Runs) (n : Nat) : String :=
  runs.words.getD (countAtMost runs.starts n 0 runs.starts.size - 1) ""

/-- Puts a stretch in front of others, joined to the next one if they touch. -/
def pushStretch (low high : Nat) : List (Nat × Nat) → List (Nat × Nat)
  | (l, h) :: rest => if l = high + 1 then (low, h) :: rest else (low, high) :: (l, h) :: rest
  | [] => [(low, high)]

/-- The stretches of characters whose words pass a test, in order. -/
def Runs.stretches (runs : Runs) (test : String → Bool) : List (Nat × Nat) :=
  let step (run : Nat × String) (before : Nat × List (Nat × Nat)) : Nat × List (Nat × Nat) :=
    (run.1, if test run.2 then pushStretch run.1 (before.1 - 1) before.2 else before.2)
  ((runs.starts.toList.zip runs.words.toList).foldr step (0x110000, [])).2

/-- The number that lower-case hexadecimal digits stand for. -/
def hexNumber (digits : String) : Nat :=
  digits.foldl (fun n c => n * 16 + (if c.isDigit then c.toNat - 48 else c.toNat - 87)) 0

/-- Names behind the word they stand for. -/
structure Aliases where
  groups : List (List String)
deriving Inhabited

/-- Reads groups of names: groups are parted by semicolons, words by spaces. -/
def Aliases.ofLines (lines : List String) : Aliases :=
  ⟨lines.flatMap fun line => (line.splitOn ";").map fun group => group.splitOn " "⟩

/-- The word a name stands for. -/
def Aliases.find? (aliases : Aliases) (name : String) : Option String :=
  (aliases.groups.find? fun group => group.tail.contains name).bind List.head?

end InAppMessaging.Text.Unicode
