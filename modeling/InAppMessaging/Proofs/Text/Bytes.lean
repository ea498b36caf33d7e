import InAppMessaging.Text.Base64

/-!
# Bytes are read back

What is written as bytes is read back: base64 gives the bytes it was made from, and the UTF-8 bytes
of a text give the text.  The reader of base64 is strict, it takes canonical padding only; the
reader of UTF-8 never fails and puts a replacement character for each sequence that breaks off.

* `Base64.decode?_encodeBytes` — **bytes come back from base64**;
* `utf8Text_utf8Bytes` — **texts come back from their bytes**.
-/

namespace InAppMessaging.Text

namespace Base64

/-- The six bits that a character stands for. -/
def value? (c : Char) : Option Nat := alphabet.findIdx? (· = c)

/-- The bytes of a text in base64: groups of four characters, the last one padded to four, with
no bit set that belongs to no byte. -/
def decode? : List Char → Option (List Nat)
  | [] => some []
  | w :: x :: y :: z :: rest => do
      let a ← value? w
      let b ← value? x
      if rest = [] ∧ y = '=' ∧ z = '=' then
        if b % 16 = 0 then some [a * 4 + b / 16] else none
      else
        let c ← value? y
        if rest = [] ∧ z = '=' then
          if c % 4 = 0 then some [a * 4 + b / 16, b % 16 * 16 + c / 4] else none
        else
          let d ← value? z
          let bytes ← decode? rest
          return (a * 4 + b / 16) :: (b % 16 * 16 + c / 4) :: (c % 4 * 64 + d) :: bytes
  | _ => none

/-- A character of the alphabet is read as its number, and is no padding. -/
theorem symbol_cases : ∀ n < 64, value? (symbol n) = some n ∧ symbol n ≠ '=' := by
  decide

theorem value?_symbol {n : Nat} (h : n < 64) : value? (symbol n) = some n := (symbol_cases n h).1

theorem symbol_ne_padding {n : Nat} (h : n < 64) : symbol n ≠ '=' := (symbol_cases n h).2

/-- **Bytes come back from base64.** -/
theorem decode?_encodeBytes : ∀ {bytes : List Nat}, (∀ b ∈ bytes, b < 256) →
    decode? (encodeBytes bytes) = some bytes
  | [], _ => rfl
  | [a], h => by
      have ha : a < 256 := h a (by simp)
      have hpad : a % 4 * 16 % 16 = 0 := by omega
      simp [encodeBytes, decode?, value?_symbol (show a / 4 < 64 by omega),
        value?_symbol (show a % 4 * 16 < 64 by omega), hpad]
      omega
  | [a, b], h => by
      have ha : a < 256 := h a (by simp)
      have hb : b < 256 := h b (by simp)
      have hpad : b % 16 * 4 % 4 = 0 := by omega
      simp [encodeBytes, decode?, value?_symbol (show a / 4 < 64 by omega),
        value?_symbol (show a % 4 * 16 + b / 16 < 64 by omega),
        value?_symbol (show b % 16 * 4 < 64 by omega),
        symbol_ne_padding (show b % 16 * 4 < 64 by omega), hpad]
      omega
  | a :: b :: c :: rest, h => by
      have ha : a < 256 := h a (by simp)
      have hb : b < 256 := h b (by simp)
      have hc : c < 256 := h c (by simp)
      have ih : decode? (encodeBytes rest) = some rest :=
        decode?_encodeBytes fun d hd => h d (by simp [hd])
      simp [encodeBytes, decode?, value?_symbol (show a / 4 < 64 by omega),
        value?_symbol (show a % 4 * 16 + b / 16 < 64 by omega),
        value?_symbol (show b % 16 * 4 + c / 64 < 64 by omega),
        value?_symbol (show c % 64 < 64 by omega),
        symbol_ne_padding (show b % 16 * 4 + c / 64 < 64 by omega),
        symbol_ne_padding (show c % 64 < 64 by omega), ih]
      omega

end Base64

/-! ## Texts from bytes -/

/-- A character of which some bytes are read: how many are to come, the bounds of the next one,
and what the bytes so far stand for. -/
structure Pending where
  needed : Nat
  low : Nat
  high : Nat
  value : Nat

/-- What stands for a sequence that breaks off. -/
def replacement : Char := '\ufffd'

/-- The character that a first byte announces.  The bounds of the second byte leave out longer
forms of shorter characters, surrogates and numbers beyond the last character. -/
def announced? (b : Nat) : Option Pending :=
  if 0xC2 ≤ b ∧ b ≤ 0xDF then some ⟨1, 0x80, 0xBF, b - 0xC0⟩
  else if 0xE0 ≤ b ∧ b ≤ 0xEF then
    some ⟨2, if b = 0xE0 then 0xA0 else 0x80, if b = 0xED then 0x9F else 0xBF, b - 0xE0⟩
  else if 0xF0 ≤ b ∧ b ≤ 0xF4 then
    some ⟨3, if b = 0xF0 then 0x90 else 0x80, if b = 0xF4 then 0x8F else 0xBF, b - 0xF0⟩
  else none

/-- Reads a byte that begins a character. -/
def readLead (b : Nat) : List Char × Option Pending :=
  if b < 0x80 then ([Char.ofNat b], none)
  else
    match announced? b with
    | some p => ([], some p)
    | none => ([replacement], none)

/-- Reads a byte.  One that does not go on a character breaks it off and begins another. -/
def readByte (pending : Option Pending) (b : Nat) : List Char × Option Pending :=
  match pending with
  | none => readLead b
  | some p =>
      if p.low ≤ b ∧ b ≤ p.high then
        let value := p.value * 64 + (b - 0x80)
        if p.needed = 1 then ([Char.ofNat value], none)
        else ([], some ⟨p.needed - 1, 0x80, 0xBF, value⟩)
      else (replacement :: (readLead b).1, (readLead b).2)

/-- The characters of bytes, behind those of a character begun. -/
def utf8TextFrom : Option Pending → List Nat → List Char
  | none, [] => []
  | some _, [] => [replacement]
  | pending, b :: rest =>
      (readByte pending b).1 ++ utf8TextFrom (readByte pending b).2 rest

/-- The text of bytes. -/
def utf8Text (bytes : List Nat) : List Char := utf8TextFrom none bytes

/-- A character is below the last one and no surrogate. -/
theorem toNat_lt_of_char (c : Char) :
    c.toNat < 0x110000 ∧ ¬ (0xD800 ≤ c.toNat ∧ c.toNat < 0xE000) := by
  have h : c.toNat < 0xD800 ∨ 0xDFFF < c.toNat ∧ c.toNat < 0x110000 := c.valid
  omega

theorem toNat_ofNat_of_lt {n : Nat} (h : n < 256) : (UInt8.ofNat n).toNat = n := by
  rw [UInt8.toNat_ofNat', Nat.mod_eq_of_lt h]

/-- The bytes of a character, by how many they are. -/
theorem utf8Bytes_char (c : Char) :
    (String.utf8EncodeChar c).map UInt8.toNat =
      if c.toNat ≤ 0x7F then [c.toNat]
      else if c.toNat ≤ 0x7FF then [c.toNat / 64 + 0xC0, c.toNat % 64 + 0x80]
      else if c.toNat ≤ 0xFFFF then
        [c.toNat / 4096 + 0xE0, c.toNat / 64 % 64 + 0x80, c.toNat % 64 + 0x80]
      else
        [c.toNat / 262144 + 0xF0, c.toNat / 4096 % 64 + 0x80, c.toNat / 64 % 64 + 0x80,
          c.toNat % 64 + 0x80] := by
  have hlast := (toNat_lt_of_char c).1
  have hval : c.val.toNat = c.toNat := rfl
  unfold String.utf8EncodeChar
  simp only [hval]
  split
  · next h => rw [List.map_singleton, toNat_ofNat_of_lt (by omega)]
  · split
    · next h =>
        simp only [List.map_cons, List.map_nil]
        rw [toNat_ofNat_of_lt (by omega), toNat_ofNat_of_lt (by omega),
          Nat.mod_eq_of_lt (a := c.toNat / 64) (by omega)]
    · split
      · next h =>
          simp only [List.map_cons, List.map_nil]
          rw [toNat_ofNat_of_lt (by omega), toNat_ofNat_of_lt (by omega),
            toNat_ofNat_of_lt (by omega), Nat.mod_eq_of_lt (a := c.toNat / 4096) (by omega)]
      · simp only [List.map_cons, List.map_nil]
        rw [toNat_ofNat_of_lt (by omega), toNat_ofNat_of_lt (by omega),
          toNat_ofNat_of_lt (by omega), toNat_ofNat_of_lt (by omega),
          Nat.mod_eq_of_lt (a := c.toNat / 262144) (by omega)]

/-- A first byte announces how many bytes follow; the digit it carries is the first one. -/
theorem readLead_two {d : Nat} (hlow : 2 ≤ d) (hhigh : d < 32) :
    readLead (d + 0xC0) = ([], some ⟨1, 0x80, 0xBF, d⟩) := by
  simp [readLead, announced?, show ¬ d + 0xC0 < 0x80 by omega,
    show 0xC2 ≤ d + 0xC0 ∧ d + 0xC0 ≤ 0xDF by omega]

theorem readLead_three {d : Nat} (hhigh : d < 16) :
    readLead (d + 0xE0) =
      ([], some ⟨2, if d = 0 then 0xA0 else 0x80, if d = 13 then 0x9F else 0xBF, d⟩) := by
  simp [readLead, announced?, show ¬ d + 0xE0 < 0x80 by omega,
    show 0xE0 ≤ d + 0xE0 ∧ d + 0xE0 ≤ 0xEF by omega]

theorem readLead_four {d : Nat} (hhigh : d ≤ 4) :
    readLead (d + 0xF0) =
      ([], some ⟨3, if d = 0 then 0x90 else 0x80, if d = 4 then 0x8F else 0xBF, d⟩) := by
  simp [readLead, announced?, show ¬ d + 0xF0 < 0x80 by omega,
    show 0xF0 ≤ d + 0xF0 ∧ d + 0xF0 ≤ 0xF4 by omega]

/-- A byte within the bounds of a character begun goes on the character. -/
theorem readByte_next {p : Pending} {b : Nat} (hlow : p.low ≤ b) (hhigh : b ≤ p.high)
    (hmore : p.needed ≠ 1) :
    readByte (some p) b = ([], some ⟨p.needed - 1, 0x80, 0xBF, p.value * 64 + (b - 0x80)⟩) := by
  simp [readByte, hlow, hhigh, hmore]

/-- The last byte of a character completes it. -/
theorem readByte_last {p : Pending} {b : Nat} (hlow : p.low ≤ b) (hhigh : b ≤ p.high)
    (hlast : p.needed = 1) :
    readByte (some p) b = ([Char.ofNat (p.value * 64 + (b - 0x80))], none) := by
  simp [readByte, hlow, hhigh, hlast]

theorem utf8TextFrom_cons (pending : Option Pending) (b : Nat) (rest : List Nat) :
    utf8TextFrom pending (b :: rest) =
      (readByte pending b).1 ++ utf8TextFrom (readByte pending b).2 rest := by
  cases pending <;> rfl

/-- A character is read from its bytes, whatever stands behind them. -/
theorem utf8TextFrom_char (c : Char) (rest : List Nat) :
    utf8TextFrom none ((String.utf8EncodeChar c).map UInt8.toNat ++ rest) =
      c :: utf8TextFrom none rest := by
  obtain ⟨hlast, hgap⟩ := toNat_lt_of_char c
  have hchar (n : Nat) (h : n = c.toNat) : Char.ofNat n = c := h ▸ Char.ofNat_toNat c
  have hlead (b : Nat) : readByte none b = readLead b := rfl
  rw [utf8Bytes_char]
  split
  · next h => simp [utf8TextFrom_cons, hlead, readLead, show c.toNat < 0x80 by omega]
  split
  · next h =>
      simp only [List.cons_append, List.nil_append, utf8TextFrom_cons, hlead,
        readLead_two (d := c.toNat / 64) (by omega) (by omega)]
      rw [readByte_last (by simp) (by simp; omega) rfl, hchar _ (by simp; omega)]
      rfl
  split
  · next h =>
      simp only [List.cons_append, List.nil_append, utf8TextFrom_cons, hlead,
        readLead_three (d := c.toNat / 4096) (by omega)]
      -- The second byte stays within the bounds that the first one sets.
      rw [readByte_next (by simp only; split <;> omega) (by simp only; split <;> omega) (by simp),
        readByte_last (by simp) (by simp; omega) rfl, hchar _ (by simp; omega)]
      rfl
  · simp only [List.cons_append, List.nil_append, utf8TextFrom_cons, hlead,
      readLead_four (d := c.toNat / 262144) (by omega)]
    rw [readByte_next (by simp only; split <;> omega) (by simp only; split <;> omega) (by simp),
      readByte_next (by simp) (by simp; omega) (by simp),
      readByte_last (by simp) (by simp; omega) rfl, hchar _ (by simp; omega)]
    rfl

/-- **Texts come back from their bytes.** -/
theorem utf8Text_utf8Bytes (s : String) : utf8Text (utf8Bytes s) = s.toList := by
  unfold utf8Text utf8Bytes
  induction s.toList with
  | nil => rfl
  | cons c rest ih => rw [List.flatMap_cons, utf8TextFrom_char, ih]

/-- The bytes of a text are bytes. -/
theorem lt_of_mem_utf8Bytes {s : String} {b : Nat} (h : b ∈ utf8Bytes s) : b < 256 := by
  obtain ⟨c, -, hb⟩ := List.mem_flatMap.mp h
  obtain ⟨byte, -, rfl⟩ := List.mem_map.mp hb
  exact byte.toNat_lt

/-- A text's base64 form gives its bytes back. -/
theorem decode?_base64 (s : String) : Base64.decode? (base64 s).toList = some (utf8Bytes s) := by
  rw [base64, String.toList_ofList]
  exact Base64.decode?_encodeBytes fun _ => lt_of_mem_utf8Bytes

end InAppMessaging.Text
