/-!
# Stretches of characters in UTF-8

A stretch of characters, written in UTF-8, is a list of sequences of bytes in which every byte
ranges over a stretch of its own.  What a character's bytes carry are digits to the base 64,
so a stretch is cut where the digits behind a changing one do not run through all values.

* `length_of_mem_digitRuns` — every sequence of a stretch has the same number of digits.
-/

namespace InAppMessaging.Text

/-- Sequences of stretches of digits, put behind a digit. -/
def beneath (digit : Nat) (runs : List (List (Nat × Nat))) : List (List (Nat × Nat)) :=
  runs.map ((digit, digit) :: ·)

/-- All numbers with a first digit from `first` to `last` and `n` digits behind it. -/
def wholeRuns (n first last : Nat) : List (List (Nat × Nat)) :=
  if first ≤ last then [(first, last) :: List.replicate n (0, 63)] else []

/-- The numbers from `low` to `high`, which have `n + 1` digits to the base 64, as sequences of
stretches of digits, the most significant first. -/
def digitRuns : Nat → Nat → Nat → List (List (Nat × Nat))
  | 0, low, high => [[(low, high)]]
  | n + 1, low, high =>
      let block := Nat.pow 64 (n + 1)
      let first := low / block
      let last := high / block
      if first = last then beneath first (digitRuns n (low % block) (high % block))
      else
        let wholeLow := low % block == 0
        let wholeHigh := high % block == block - 1
        (if wholeLow then [] else beneath first (digitRuns n (low % block) (block - 1))) ++
          wholeRuns (n + 1) (if wholeLow then first else first + 1)
            (if wholeHigh then last else last - 1) ++
          if wholeHigh then [] else beneath last (digitRuns n 0 (high % block))

/-- A sequence behind a digit is one longer. -/
theorem length_of_mem_beneath {n digit : Nat} {runs : List (List (Nat × Nat))}
    (hr : ∀ run ∈ runs, run.length = n) {run : List (Nat × Nat)} (h : run ∈ beneath digit runs) :
    run.length = n + 1 := by
  obtain ⟨r, hm, rfl⟩ := List.mem_map.mp h
  simp [hr r hm]

/-- A sequence of whole stretches has the digits it was asked for. -/
theorem length_of_mem_wholeRuns {n first last : Nat} {run : List (Nat × Nat)}
    (h : run ∈ wholeRuns n first last) : run.length = n + 1 := by
  unfold wholeRuns at h
  split at h
  · simp only [List.mem_singleton] at h
    simp [h]
  · cases h

/-- Every sequence of a stretch has the same number of digits. -/
theorem length_of_mem_digitRuns {n low high : Nat} {run : List (Nat × Nat)}
    (h : run ∈ digitRuns n low high) : run.length = n + 1 := by
  induction n generalizing low high run with
  | zero =>
      simp only [digitRuns, List.mem_singleton] at h
      simp [h]
  | succ n ih =>
      have part {digit a b : Nat} (hu : run ∈ beneath digit (digitRuns n a b)) :
          run.length = n + 1 + 1 :=
        length_of_mem_beneath (fun _ hm => ih hm) hu
      simp only [digitRuns] at h
      split at h
      · exact part h
      · rcases List.mem_append.mp h with h | h
        · rcases List.mem_append.mp h with h | h
          · split at h
            · cases h
            · exact part h
          · exact length_of_mem_wholeRuns h
        · split at h
          · cases h
          · exact part h

/-- The characters of each length: how many bytes follow the first one, the numbers from which
and to which they go, and what the first byte adds to its digit. -/
def utf8Lengths : List (Nat × Nat × Nat × Nat) :=
  [(0, 0, 0x7F, 0), (1, 0x80, 0x7FF, 0xC0), (2, 0x800, 0xD7FF, 0xE0), (2, 0xE000, 0xFFFF, 0xE0),
   (3, 0x10000, 0x10FFFF, 0xF0)]

/-- The bytes for a sequence of digits, given what the first byte adds. -/
def bytesOfDigits (lead : Nat) : List (Nat × Nat) → List (Nat × Nat)
  | [] => []
  | first :: more =>
      (first.1 + lead, first.2 + lead) :: more.map fun d => (d.1 + 0x80, d.2 + 0x80)

/-- The sequences of bytes for a stretch of characters. -/
def utf8Sequences (stretch : Nat × Nat) : List (List (Nat × Nat)) :=
  utf8Lengths.flatMap fun (follow, least, greatest, lead) =>
    let low := max stretch.1 least
    let high := min stretch.2 greatest
    if low ≤ high then (digitRuns follow low high).map (bytesOfDigits lead) else []

/-- The number of bytes of a text. -/
def utf8Length (text : List Char) : Nat := text.foldl (fun n c => n + c.utf8Size) 0

end InAppMessaging.Text
