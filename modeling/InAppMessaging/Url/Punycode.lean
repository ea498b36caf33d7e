/-!
# Punycode

How a label with characters beyond ASCII is written in ASCII: its ASCII characters first, and
after a hyphen the insertions of the others in ascending order, each as a number in base 36
whose digits carry their own end.  How far a digit counts before the number ends adapts to
the size of the numbers written before.

Every loop ends by its own measure: the number written, the characters still to be inserted,
the digits left to read.
-/

namespace InAppMessaging.Url.Punycode

/-- The digits in the order of their values. -/
def digits : List Char := "abcdefghijklmnopqrstuvwxyz0123456789".toList

/-- The value of a digit. -/
def digitValue? (c : Char) : Option Nat := digits.idxOf? c.toLower

/-- The least value of the digit at a place that does not end the number. -/
def threshold (place bias : Nat) : Nat := max 1 (min 26 (place - bias))

theorem threshold_pos (place bias : Nat) : 1 ≤ threshold place bias := by
  unfold threshold
  omega

/-- Divides by 35 until the number is at most 455; counts 36 for each division. -/
def reduceBy35 (n count : Nat) : Nat × Nat :=
  if 455 < n then reduceBy35 (n / 35) (count + 36) else (n, count)
termination_by n
decreasing_by exact Nat.div_lt_self (by omega) (by omega)

/-- The bias after a number was written for the given count of characters. -/
def adapt (delta points : Nat) (first : Bool) : Nat :=
  let scaled := if first then delta / 700 else delta / 2
  let (n, count) := reduceBy35 (scaled + scaled / points) 0
  count + 36 * n / (n + 38)

/-! ## Writing -/

/-- A number in digits that carry their own end. -/
def numberText (bias place n : Nat) : List Char :=
  let t := threshold place bias
  if n < t then [digits.getD n 'a']
  else
    digits.getD (t + (n - t) % (36 - t)) 'a' :: numberText bias (place + 36) ((n - t) / (36 - t))
termination_by n
decreasing_by
  have := threshold_pos place bias
  exact Nat.lt_of_le_of_lt (Nat.div_le_self _ _) (by omega)

/-- What has been written, and where the writing stands. -/
structure Writer where
  out : List Char := []
  delta : Nat := 0
  bias : Nat := 72
  done : Nat

/-- Passes one character of the label while inserting the characters of one code. -/
def Writer.pass (basic code : Nat) (w : Writer) (c : Char) : Writer :=
  if c.toNat < code then { w with delta := w.delta + 1 }
  else if c.toNat = code then
    { out := w.out ++ numberText w.bias 36 w.delta
      delta := 0
      bias := adapt w.delta (w.done + 1) (w.done = basic)
      done := w.done + 1 }
  else w

/-- Inserts the characters of the codes, which are ascending, into the label. -/
def Writer.insertAll (label : List Char) (basic : Nat) : Nat → List Nat → Writer → Writer
  | _, [], w => w
  | least, code :: codes, w =>
      let w := { w with delta := w.delta + (code - least) * (w.done + 1) }
      let w := label.foldl (Writer.pass basic code) w
      insertAll label basic (code + 1) codes { w with delta := w.delta + 1 }

/-- Writes a label in ASCII. -/
def encode (label : List Char) : List Char :=
  let basic := label.filter (·.toNat < 0x80)
  let codes := ((label.map Char.toNat).filter (0x80 ≤ ·)).mergeSort.eraseDups
  let w := Writer.insertAll label basic.length 0x80 codes { done := basic.length }
  (if basic.isEmpty then [] else basic ++ ['-']) ++ w.out

/-! ## Reading -/

/-- Reads one number; answers with it and with how many digits it took. -/
def readNumber? (bias : Nat) : Nat → Nat → Nat → List Char → Option (Nat × List Char)
  | _, _, _, [] => none
  | place, weight, n, c :: rest => do
      let d ← digitValue? c
      let t := threshold place bias
      let n := n + d * weight
      if d < t then some (n, rest) else readNumber? bias (place + 36) (weight * (36 - t)) n rest

/-- A number takes at least one digit. -/
theorem length_of_readNumber? {bias place weight n m : Nat} {cs rest : List Char}
    (h : readNumber? bias place weight n cs = some (m, rest)) : rest.length < cs.length := by
  induction cs generalizing place weight n with
  | nil => simp [readNumber?] at h
  | cons c cs ih =>
      unfold readNumber? at h
      obtain ⟨d, _, h⟩ := Option.bind_eq_some_iff.mp h
      simp only at h
      split at h
      · cases h
        simp
      · have := ih h
        simp only [List.length_cons]
        omega

/-- Inserts the characters that the digits tell of into the label read so far. -/
def insertRead? (code place bias : Nat) (first : Bool) (label cs : List Char) :
    Option (List Char) :=
  if cs.isEmpty then some label
  else
    match _h : readNumber? bias 36 1 0 cs with
    | none => none
    | some (delta, rest) =>
        let size := label.length + 1
        let code := code + (place + delta) / size
        let at_ := (place + delta) % size
        if 0x10FFFF < code ∨ (0xD800 ≤ code ∧ code ≤ 0xDFFF) then none
        else
          insertRead? code (at_ + 1) (adapt delta size first) false
            (label.take at_ ++ Char.ofNat code :: label.drop at_) rest
termination_by cs.length
decreasing_by exact length_of_readNumber? _h

/-- Reads a label written in ASCII.  The last hyphen parts the ASCII characters from the
insertions, unless it stands in front of everything. -/
def decode? (cs : List Char) : Option (List Char) :=
  match cs.reverse.dropWhile (· ≠ '-') with
  | [] | [_] => insertRead? 0x80 0 72 true [] cs
  | _ :: basic => insertRead? 0x80 0 72 true basic.reverse (cs.drop (basic.length + 1))

end InAppMessaging.Url.Punycode
