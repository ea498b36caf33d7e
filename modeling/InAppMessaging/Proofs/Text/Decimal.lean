import InAppMessaging.Text.Blank
import InAppMessaging.Text.Decimal

/-!
# Decimal numbers are read back

What is written as a whole number is read back as that number, as long as it fits the range
it is read in, and trimming leaves it alone: no decimal text holds a blank character.

* `digits?_toDigits`, `digitsValue_toDigits` — the digits of a number spell the number;
* `natural?_toString`, `signed64?_toString` — both readers take back what was written;
* `trim_toString` — a written number has nothing to trim.
-/

namespace InAppMessaging.Text

/-- A digit character is none of the signs. -/
theorem ne_sign_of_isDigit {c : Char} (h : c.isDigit = true) : c ≠ '-' ∧ c ≠ '+' := by
  constructor
  · rintro rfl
    exact absurd h (by decide)
  · rintro rfl
    exact absurd h (by decide)

/-- Digit characters can all be appended, and spell what the library says they spell. -/
theorem foldlM_pushDigit :
    ∀ {cs : List Char}, (∀ c ∈ cs, c.isDigit = true) → ∀ n : Nat,
      cs.foldlM pushDigit n = some (Nat.ofDigitChars 10 cs n)
  | [], _, n => by simp [pure]
  | c :: rest, h, n => by
      have hc : c.isDigit = true := h c List.mem_cons_self
      have hrest : ∀ d ∈ rest, d.isDigit = true := fun d hd => h d (List.mem_cons_of_mem _ hd)
      have hpush : pushDigit n c = some (10 * n + (c.toNat - 48)) := by
        simp [pushDigit, digitValue?, hc, Nat.mul_comm]
      rw [List.foldlM_cons, hpush, Nat.ofDigitChars_cons]
      exact foldlM_pushDigit hrest _

theorem isDigit_of_mem_toDigits {n : Nat} : ∀ c ∈ Nat.toDigits 10 n, c.isDigit = true :=
  fun _ hc => Nat.isDigit_of_mem_toDigits (by decide) (by decide) hc

/-- The digits of a number spell the number. -/
theorem digits?_toDigits (n : Nat) : digits? (Nat.toDigits 10 n) = some n := by
  have hne : Nat.toDigits 10 n ≠ [] := Nat.toDigits_ne_nil
  have hfold := foldlM_pushDigit (isDigit_of_mem_toDigits (n := n)) 0
  rw [Nat.ofDigitChars_ten_toDigits] at hfold
  cases hd : Nat.toDigits 10 n with
  | nil => exact absurd hd hne
  | cons c rest =>
      rw [hd] at hfold
      exact hfold

/-- The digits of a number are worth the number. -/
theorem digitsValue_toDigits (n : Nat) : digitsValue (Nat.toDigits 10 n) = n := by
  have h : digitsValue (Nat.toDigits 10 n) = Nat.ofDigitChars 10 (Nat.toDigits 10 n) 0 := by
    unfold digitsValue Nat.ofDigitChars
    congr 1
    funext m c
    rw [Nat.mul_comm]
    rfl
  rw [h, Nat.ofDigitChars_ten_toDigits]

/-- The digits of a number begin with a digit. -/
theorem exists_toDigits (n : Nat) :
    ∃ c rest, Nat.toDigits 10 n = c :: rest ∧ c.isDigit = true := by
  cases hd : Nat.toDigits 10 n with
  | nil => exact absurd hd Nat.toDigits_ne_nil
  | cons c rest =>
      have hc : c ∈ Nat.toDigits 10 n := hd ▸ List.mem_cons_self
      exact ⟨c, rest, rfl, isDigit_of_mem_toDigits c hc⟩

/-! ## Written numbers -/

theorem toList_toString_natCast (n : Nat) : (toString (n : Int)).toList = Nat.toDigits 10 n := by
  rw [Int.toString_eq_repr, Int.repr_eq_if, if_pos (Int.natCast_nonneg n)]
  simp

/-- A negative number is written as a sign and the digits of its size. -/
theorem toList_toString_neg {n : Nat} (h : 0 < n) :
    (toString (-(n : Int))).toList = '-' :: Nat.toDigits 10 n := by
  have hneg : ¬ 0 ≤ -(n : Int) := by omega
  rw [Int.toString_eq_repr, Int.repr_eq_if, if_neg hneg, Int.neg_neg]
  simp [String.toList_append]

/-- A whole number is a natural number or the negative of a positive one. -/
theorem natCast_or_neg (n : Int) : (∃ k : Nat, n = k) ∨ ∃ k : Nat, 0 < k ∧ n = -(k : Int) := by
  rcases Int.le_total 0 n with h | h
  · exact Or.inl ⟨n.toNat, by omega⟩
  · by_cases hn : n = 0
    · exact Or.inl ⟨0, by simpa using hn⟩
    · exact Or.inr ⟨n.natAbs, by omega, by omega⟩

/-- No blank character stands in a written number. -/
theorem isBlank_of_mem_toString {n : Int} : ∀ c ∈ (toString n).toList, isBlank c = false := by
  have hdigit : ∀ c : Char, c.isDigit = true → isBlank c = false := by
    intro c hc
    have h48 : 48 ≤ c.toNat ∧ c.toNat ≤ 57 := by
      simp only [Char.isDigit, Bool.and_eq_true, decide_eq_true_eq] at hc
      exact ⟨UInt32.le_iff_toNat_le.mp hc.1, UInt32.le_iff_toNat_le.mp hc.2⟩
    simp only [isBlank, Bool.or_eq_false_iff, Bool.and_eq_false_iff, decide_eq_false_iff_not]
    omega
  intro c hc
  rcases natCast_or_neg n with ⟨k, rfl⟩ | ⟨k, hk, rfl⟩
  · rw [toList_toString_natCast] at hc
    exact hdigit c (isDigit_of_mem_toDigits c hc)
  · rw [toList_toString_neg hk] at hc
    rcases List.mem_cons.mp hc with rfl | hc
    · decide
    · exact hdigit c (isDigit_of_mem_toDigits c hc)

/-! ## Trimming -/

theorem dropWhile_of_none {test : Char → Bool} :
    ∀ {cs : List Char}, (∀ c ∈ cs, test c = false) → cs.dropWhile test = cs
  | [], _ => rfl
  | c :: rest, h => by simp [h c List.mem_cons_self]

/-- Without a blank character there is nothing to trim. -/
theorem trim_of_no_blank {s : String} (h : ∀ c ∈ s.toList, isBlank c = false) : trim s = s := by
  have hback : ∀ c ∈ s.toList.reverse, isBlank c = false :=
    fun c hc => h c (List.mem_reverse.mp hc)
  unfold trim dropTrailing
  rw [dropWhile_of_none h, dropWhile_of_none hback, List.reverse_reverse, String.ofList_toList]

theorem trim_toString (n : Int) : trim (toString n) = toString n :=
  trim_of_no_blank isBlank_of_mem_toString

/-! ## Reading back -/

/-- A natural number within the limit is read back. -/
theorem natural?_toString {limit n : Nat} (h : n ≤ limit) :
    natural? limit (toString (n : Int)).toList = some n := by
  obtain ⟨c, rest, hd, hc⟩ := exists_toDigits n
  have hplus : c ≠ '+' := (ne_sign_of_isDigit hc).2
  have hread : digits? (c :: rest) = some n := hd ▸ digits?_toDigits n
  rw [toList_toString_natCast, hd]
  unfold natural?
  split
  · next heq => exact absurd (List.cons.inj heq).1 hplus
  · simp [hread, h]

/-- A number in the signed 64-bit range is read back. -/
theorem signed64?_toString {n : Int} (h : minSigned64 ≤ n) (h' : n ≤ maxSigned64) :
    signed64? (toString n).toList = some n := by
  rcases natCast_or_neg n with ⟨k, rfl⟩ | ⟨k, hk, rfl⟩
  · obtain ⟨c, rest, hd, hc⟩ := exists_toDigits k
    have hsign := ne_sign_of_isDigit hc
    have hread : digits? (c :: rest) = some k := hd ▸ digits?_toDigits k
    rw [toList_toString_natCast, hd]
    unfold signed64?
    split
    · next heq => exact absurd (List.cons.inj heq).1 hsign.1
    · next heq => exact absurd (List.cons.inj heq).1 hsign.2
    · simp [hread, h, h']
  · rw [toList_toString_neg hk]
    simp [signed64?, digits?_toDigits, h, h']

end InAppMessaging.Text
