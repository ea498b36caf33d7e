import InAppMessaging.Proofs.Text.Decimal
import InAppMessaging.Text.Inspect
import Mathlib.Tactic.SplitIfs

/-!
# Inspection text tells values apart

A printed value can be read off the front of a text: whatever stands behind it, as long as that
does not go on a number, the same text is not also that of another value (`Legible`).  Stated with
the text behind, this goes through records, lists and maps from the inside out.  A text that looks
like printed structure does no harm inside quotes, because what is escaped holds no bare quote.

* `quoted_legible`, `integer_legible` — a text of any characters, a whole number;
* `optional_legible`, `sequence_legible`, `braces_legible` — what is put together of legible parts;
* `record_legible` — **a record is legible if each of its fields is**.
-/

namespace InAppMessaging.Text.Inspect

variable {α β σ : Type}

/-- What stands behind a printed value: it does not go on a number. -/
def Stops (rest : List Char) : Prop := ∀ c, rest.head? = some c → c.isDigit = false

theorem stops_nil : Stops [] := by
  intro c h
  cases h

theorem stops_cons {c : Char} (h : c.isDigit = false) (rest : List Char) : Stops (c :: rest) := by
  intro d hd
  rw [← Option.some.inj hd]
  exact h

/-- The values on both sides of an equation of texts agree, and so does what stands behind. -/
def TellsApart (print : α → List Char) (Same : α → α → Prop) : Prop :=
  ∀ ⦃x y : α⦄ ⦃s t : List Char⦄, Stops s → Stops t → print x ++ s = print y ++ t → Same x y ∧ s = t

/-- Values are told apart by what is printed of them, whatever stands behind. -/
abbrev Legible (print : α → List Char) : Prop := TellsApart print Eq

/-- What is legible is printed differently for different values. -/
theorem Legible.injective {print : α → List Char} (h : Legible print) :
    Function.Injective print := fun _ _ hab =>
  (h stops_nil stops_nil (congrArg (· ++ []) hab)).1

/-- What is printed of a part of a value tells the part. -/
theorem Legible.part {print : β → List Char} (h : Legible print) (part : α → β) :
    TellsApart (fun a => print (part a)) fun a b => part a = part b :=
  fun _ _ _ _ hs ht heq => h hs ht heq

/-- A view of a value that loses nothing tells the value. -/
theorem Legible.view {print : β → List Char} (h : Legible print) {view : α → β}
    (hview : Function.Injective view) : Legible fun a => print (view a) := by
  intro _ _ _ _ hs ht heq
  obtain ⟨hab, hst⟩ := h hs ht heq
  exact ⟨hview hab, hst⟩

/-- Words of which none begins with another one are legible. -/
theorem legible_of_prefixFree {print : α → List Char}
    (h : ∀ a b, print a <+: print b → a = b) : Legible print := by
  intro a b s t _ _ heq
  have hab : a = b := by
    rcases List.prefix_or_prefix_of_prefix (heq ▸ List.prefix_append (print a) s)
      (List.prefix_append (print b) t) with hle | hle
    · exact h a b hle
    · exact (h b a hle).symm
  subst hab
  exact ⟨rfl, List.append_cancel_left heq⟩

theorem bool_legible : Legible bool := legible_of_prefixFree (by decide)

/-- What passes a test can be told from what stands behind it, if that begins with something
that does not. -/
theorem span_inj {p : Char → Bool} : ∀ {xs ys s t : List Char}, (∀ c ∈ xs, p c = true) →
    (∀ c ∈ ys, p c = true) → (∀ c, s.head? = some c → p c = false) →
    (∀ c, t.head? = some c → p c = false) → xs ++ s = ys ++ t → xs = ys ∧ s = t
  | [], [], _, _, _, _, _, _, h => ⟨rfl, h⟩
  | [], y :: ys, s, t, _, hy, hs, _, h => by
      have hfail := hs y (congrArg List.head? (show s = y :: ys ++ t from h))
      rw [hy y List.mem_cons_self] at hfail
      cases hfail
  | x :: xs, [], s, t, hx, _, _, ht, h => by
      have hfail := ht x (congrArg List.head? (show t = x :: xs ++ s from h.symm))
      rw [hx x List.mem_cons_self] at hfail
      cases hfail
  | x :: xs, y :: ys, s, t, hx, hy, hs, ht, h => by
      obtain ⟨rfl, htail⟩ := List.cons.inj h
      obtain ⟨rfl, hst⟩ := span_inj (fun c hc => hx c (List.mem_cons_of_mem _ hc))
        (fun c hc => hy c (List.mem_cons_of_mem _ hc)) hs ht htail
      exact ⟨rfl, hst⟩

/-! ## Whole numbers -/

theorem toDigits_legible : Legible (Nat.toDigits 10) := by
  intro m n s t hs ht heq
  obtain ⟨hdigits, hst⟩ :=
    span_inj (p := Char.isDigit) isDigit_of_mem_toDigits isDigit_of_mem_toDigits hs ht heq
  refine ⟨?_, hst⟩
  rw [← digitsValue_toDigits m, hdigits, digitsValue_toDigits]

/-- A whole number is legible: where its digits end, nothing goes on a number. -/
theorem integer_legible : Legible integer := by
  intro m n s t hs ht heq
  unfold integer at heq
  have hsign (i j : Nat) (s t : List Char) : '-' :: Nat.toDigits 10 i ++ s ≠
      Nat.toDigits 10 j ++ t := by
    intro h
    obtain ⟨c, rest, hj, hdigit⟩ := exists_toDigits j
    rw [hj] at h
    rw [← (List.cons.inj h).1] at hdigit
    exact absurd hdigit (by decide)
  rcases natCast_or_neg m with ⟨i, rfl⟩ | ⟨i, hi, rfl⟩ <;>
    rcases natCast_or_neg n with ⟨j, rfl⟩ | ⟨j, hj, rfl⟩
  · rw [toList_toString_natCast, toList_toString_natCast] at heq
    obtain ⟨rfl, hst⟩ := toDigits_legible hs ht heq
    exact ⟨rfl, hst⟩
  · rw [toList_toString_natCast, toList_toString_neg hj] at heq
    exact absurd heq.symm (hsign j i t s)
  · rw [toList_toString_neg hi, toList_toString_natCast] at heq
    exact absurd heq (hsign i j s t)
  · rw [toList_toString_neg hi, toList_toString_neg hj] at heq
    obtain ⟨rfl, hst⟩ := toDigits_legible hs ht (List.cons.inj heq).2
    exact ⟨rfl, hst⟩

/-! ## Texts -/

/-- The sixteen digits are told apart, and none of them is a brace. -/
theorem digitChar_cases : ∀ m < 16, m.digitChar ≠ '\x7d' ∧
    ∀ n < 16, m.digitChar = n.digitChar → m = n := by
  decide

theorem hexDigits_eq (n : Nat) :
    hexDigits n = if n < 16 then [n.digitChar] else hexDigits (n / 16) ++ [(n % 16).digitChar] :=
  Nat.toDigits_eq_if (by decide)

theorem ne_brace_of_mem_hexDigits (n : Nat) : ∀ c ∈ hexDigits n, c ≠ '\x7d' := by
  induction n using Nat.strongRecOn with
  | ind n ih =>
      intro c hc
      rw [hexDigits_eq] at hc
      split at hc
      · next hlt =>
          rw [List.mem_singleton.mp hc]
          exact (digitChar_cases n hlt).1
      · rcases List.mem_append.mp hc with hc | hc
        · exact ih (n / 16) (by omega) c hc
        · rw [List.mem_singleton.mp hc]
          exact (digitChar_cases (n % 16) (Nat.mod_lt n (by decide))).1

/-- Hexadecimal digits spell one number only. -/
theorem hexDigits_injective : Function.Injective hexDigits := by
  intro m
  induction m using Nat.strongRecOn with
  | ind m ih =>
      intro n h
      have hne (k : Nat) : hexDigits k ≠ [] := Nat.toDigits_ne_nil
      rw [hexDigits_eq m, hexDigits_eq n] at h
      split at h <;> split at h
      · next hm hn => exact (digitChar_cases m hm).2 n hn (List.singleton_inj.mp h)
      · exact absurd (List.append_inj' (show [] ++ [_] = _ from h) rfl).1.symm (hne _)
      · exact absurd (List.append_inj' (show _ = [] ++ [_] from h) rfl).1 (hne _)
      · obtain ⟨hdiv, hmod⟩ := List.append_inj' h rfl
        have hquot := ih (m / 16) (by omega) hdiv
        have hrem := (digitChar_cases (m % 16) (Nat.mod_lt m (by decide))).2 (n % 16)
          (Nat.mod_lt n (by decide)) (List.singleton_inj.mp hmod)
        omega

/-- The character that a short escape stands for. -/
def shortEscape? (e : Char) : Option Char :=
  if e = '"' then some '"'
  else if e = '\\' then some '\\'
  else if e = 'n' then some '\n'
  else if e = 'r' then some '\r'
  else if e = 't' then some '\t'
  else if e = '0' then some '\x00'
  else none

/-- The ways to print a character inside quotes: a short escape, its number, or itself. -/
theorem escape_cases (c : Char) :
    (∃ e, escape c = ['\\', e] ∧ shortEscape? e = some c) ∨
    escape c = ['\\', 'u', '\x7b'] ++ hexDigits c.toNat ++ ['\x7d'] ∨
    (escape c = [c] ∧ c ≠ '"' ∧ c ≠ '\\') := by
  unfold escape
  split_ifs with hquote hslash hline hreturn htab hnul hhidden
  · exact .inl ⟨'"', rfl, congrArg some hquote.symm⟩
  · exact .inl ⟨'\\', rfl, congrArg some hslash.symm⟩
  · exact .inl ⟨'n', rfl, congrArg some hline.symm⟩
  · exact .inl ⟨'r', rfl, congrArg some hreturn.symm⟩
  · exact .inl ⟨'t', rfl, congrArg some htab.symm⟩
  · exact .inl ⟨'0', rfl, congrArg some hnul.symm⟩
  · exact .inr (.inl rfl)
  · exact .inr (.inr ⟨rfl, hquote, hslash⟩)

/-- An escaped character can be read off the front of a text. -/
theorem escape_append_inj {c d : Char} {s t : List Char} (h : escape c ++ s = escape d ++ t) :
    c = d ∧ s = t := by
  have hu (x : Char) : shortEscape? 'u' ≠ some x := Option.some_ne_none x |>.symm
  rcases escape_cases c with ⟨e, hc, he⟩ | hc | ⟨hc, -, hslash⟩ <;>
    rcases escape_cases d with ⟨f, hd, hf⟩ | hd | ⟨hd, -, hslash'⟩ <;>
      simp only [hc, hd, List.append_assoc, List.cons_append, List.nil_append,
        List.cons.injEq, true_and] at h
  · obtain ⟨rfl, rfl⟩ := h
    exact ⟨Option.some.inj (he.symm.trans hf), rfl⟩
  · exact absurd (h.1 ▸ he) (hu c)
  · exact absurd h.1.symm hslash'
  · exact absurd (h.1 ▸ hf) (hu d)
  · have hdigits (x : Char) (hx : x ∈ hexDigits c.toNat ∨ x ∈ hexDigits d.toNat) :
        (x != '\x7d') = true :=
      bne_iff_ne.mpr (hx.elim (ne_brace_of_mem_hexDigits _ x) (ne_brace_of_mem_hexDigits _ x))
    obtain ⟨hnumber, hrest⟩ := span_inj (p := (· != '\x7d'))
      (fun x hx => hdigits x (.inl hx)) (fun x hx => hdigits x (.inr hx)) (by simp) (by simp) h
    exact ⟨Char.toNat_inj.mp (hexDigits_injective hnumber), (List.cons.inj hrest).2⟩
  · exact absurd h.1.symm hslash'
  · exact absurd h.1 hslash
  · exact absurd h.1 hslash
  · exact h

/-- What is escaped never begins with the quote that ends a text. -/
theorem escape_append_ne_quote (c : Char) (s t : List Char) : escape c ++ s ≠ '"' :: t := by
  rcases escape_cases c with ⟨e, hc, -⟩ | hc | ⟨hc, hquote, -⟩ <;> rw [hc]
  · simp
  · simp
  · simpa using fun h => absurd h hquote

theorem escaped_inj : ∀ {xs ys s t : List Char},
    xs.flatMap escape ++ '"' :: s = ys.flatMap escape ++ '"' :: t → xs = ys ∧ s = t
  | [], [], _, _, h => ⟨rfl, (List.cons.inj h).2⟩
  | [], y :: ys, s, t, h => by
      rw [List.flatMap_cons, List.append_assoc] at h
      exact absurd h.symm (escape_append_ne_quote y _ s)
  | x :: xs, [], s, t, h => by
      rw [List.flatMap_cons, List.append_assoc] at h
      exact absurd h (escape_append_ne_quote x _ t)
  | x :: xs, y :: ys, s, t, h => by
      rw [List.flatMap_cons, List.flatMap_cons, List.append_assoc, List.append_assoc] at h
      obtain ⟨rfl, hrest⟩ := escape_append_inj h
      obtain ⟨rfl, hst⟩ := escaped_inj hrest
      exact ⟨rfl, hst⟩

/-- **A text in quotes is legible**, whatever its characters look like. -/
theorem quoted_legible : Legible quoted := by
  intro a b s t _ _ heq
  simp only [quoted, List.cons_append, List.append_assoc, List.nil_append, List.cons.injEq,
    true_and] at heq
  obtain ⟨hab, hst⟩ := escaped_inj heq
  exact ⟨String.toList_injective hab, hst⟩

/-! ## Options -/

theorem wrapped_legible {print : α → List Char} (h : Legible print) (name : String) :
    Legible fun a => wrapped name (print a) := by
  intro a b s t _ _ heq
  simp only [wrapped, List.append_assoc, List.cons_append, List.nil_append,
    List.append_cancel_left_eq, List.cons.injEq, true_and] at heq
  obtain ⟨hab, hrest⟩ := h (stops_cons (by decide) s) (stops_cons (by decide) t) heq
  exact ⟨hab, (List.cons.inj hrest).2⟩

/-- A value that may be absent is legible if a present one is. -/
theorem optional_legible {print : α → List Char} (h : Legible print) :
    Legible (optional print) := by
  intro a b s t hs ht heq
  cases a with
  | none =>
      cases b with
      | none => exact ⟨rfl, List.append_cancel_left heq⟩
      | some b => simp [optional, wrapped] at heq
  | some a =>
      cases b with
      | none => simp [optional, wrapped] at heq
      | some b =>
          obtain ⟨rfl, hst⟩ := wrapped_legible h "Some" hs ht heq
          exact ⟨rfl, hst⟩

/-! ## Lists -/

theorem listed_cons (x : List Char) (rest : List (List Char)) :
    listed (x :: rest) = x ++ rest.flatMap ([',', ' '] ++ ·) := by
  induction rest generalizing x with
  | nil => simp [listed]
  | cons y rest ih => rw [listed, ih, List.flatMap_cons, List.append_assoc, List.append_assoc]

/-- Behind an item stands a comma or what ends the list. -/
theorem stops_behind {close : Char} (hclose : close.isDigit = false) (items : List (List Char))
    (s : List Char) : Stops (items.flatMap ([',', ' '] ++ ·) ++ close :: s) := by
  cases items with
  | nil => exact stops_cons hclose s
  | cons x items => exact stops_cons (by decide) _

section Items

variable {print : α → List Char} {close : Char} (h : Legible print)
  (hdigit : close.isDigit = false) (hcomma : close ≠ ',')

include h hdigit hcomma

/-- The items behind the first one can be read off up to what ends the list. -/
theorem behind_inj : ∀ {xs ys : List α} {s t : List Char},
    (xs.map print).flatMap ([',', ' '] ++ ·) ++ close :: s =
      (ys.map print).flatMap ([',', ' '] ++ ·) ++ close :: t → xs = ys ∧ s = t
  | [], [], _, _, heq => ⟨rfl, (List.cons.inj heq).2⟩
  | [], y :: ys, _, _, heq => absurd (List.cons.inj heq).1 hcomma
  | x :: xs, [], _, _, heq => absurd (List.cons.inj heq).1.symm hcomma
  | x :: xs, y :: ys, s, t, heq => by
      simp only [List.map_cons, List.flatMap_cons, List.append_assoc, List.cons_append,
        List.nil_append, List.cons.injEq, true_and] at heq
      obtain ⟨rfl, hrest⟩ := h (stops_behind hdigit _ s) (stops_behind hdigit _ t) heq
      obtain ⟨rfl, hst⟩ := behind_inj hrest
      exact ⟨rfl, hst⟩

/-- The items of a list can be read off, if none of them begins like what ends the list. -/
theorem listed_inj (hopen : ∀ a s t, print a ++ s ≠ close :: t) {xs ys : List α}
    {s t : List Char}
    (heq : listed (xs.map print) ++ close :: s = listed (ys.map print) ++ close :: t) :
    xs = ys ∧ s = t := by
  cases xs with
  | nil =>
      cases ys with
      | nil => exact ⟨rfl, (List.cons.inj heq).2⟩
      | cons y ys =>
          rw [List.map_cons, listed_cons, List.append_assoc] at heq
          exact absurd heq.symm (hopen y _ s)
  | cons x xs =>
      cases ys with
      | nil =>
          rw [List.map_cons, listed_cons, List.append_assoc] at heq
          exact absurd heq (hopen x _ t)
      | cons y ys =>
          rw [List.map_cons, List.map_cons, listed_cons, listed_cons, List.append_assoc,
            List.append_assoc] at heq
          obtain ⟨rfl, hrest⟩ := h (stops_behind hdigit _ s) (stops_behind hdigit _ t) heq
          obtain ⟨rfl, hst⟩ := behind_inj h hdigit hcomma hrest
          exact ⟨rfl, hst⟩

end Items

/-- A list in brackets is legible if its items are, and none begins with a closing bracket. -/
theorem sequence_legible {print : α → List Char} (h : Legible print)
    (hopen : ∀ a s t, print a ++ s ≠ ']' :: t) : Legible (sequence print) := by
  intro xs ys s t _ _ heq
  simp only [sequence, List.cons_append, List.append_assoc, List.nil_append, List.cons.injEq,
    true_and] at heq
  exact listed_inj h (by decide) (by decide) hopen heq

/-- A set or a map in braces is legible if its items are, and none begins with a closing
brace. -/
theorem braces_legible {print : α → List Char} (h : Legible print)
    (hopen : ∀ a s t, print a ++ s ≠ '\x7d' :: t) :
    Legible fun items : List α => braces (items.map print) := by
  intro xs ys s t _ _ heq
  simp only [braces, List.cons_append, List.append_assoc, List.nil_append, List.cons.injEq,
    true_and] at heq
  exact listed_inj h (by decide) (by decide) hopen heq

/-! ## Records -/

/-- A field of a record: its name, what is printed of it, and what that tells. -/
structure Part (σ : Type) where
  name : String
  print : σ → List Char
  Same : σ → σ → Prop
  tells : TellsApart print Same

/-- The part of a record that is printed legibly. -/
def Part.of {print : β → List Char} (name : String) (h : Legible print) (get : σ → β) :
    Part σ where
  name := name
  print := fun a => print (get a)
  Same := fun a b => get a = get b
  tells := h.part get

/-- A field as it stands in its record. -/
def Part.text (a : σ) (part : Part σ) : List Char := field part.name (part.print a)

/-- Behind a field stand the other fields or the end of the record. -/
theorem stops_fields (a : σ) (parts : List (Part σ)) (s : List Char) :
    Stops ((parts.map (Part.text a)).flatMap ([',', ' '] ++ ·) ++ ' ' :: '\x7d' :: s) :=
  stops_behind (by decide) _ _

/-- A field tells its part, and what stands behind it. -/
theorem Part.text_inj (part : Part σ) {a b : σ} {s t : List Char} (hs : Stops s) (ht : Stops t)
    (heq : part.text a ++ s = part.text b ++ t) : part.Same a b ∧ s = t := by
  simp only [Part.text, field, List.append_assoc, List.cons_append, List.append_cancel_left_eq,
    List.cons.injEq, true_and] at heq
  exact part.tells hs ht heq

/-- The fields behind the first one tell their parts. -/
theorem fields_inj {a b : σ} {s t : List Char} : ∀ {parts : List (Part σ)},
    (parts.map (Part.text a)).flatMap ([',', ' '] ++ ·) ++ ' ' :: '\x7d' :: s =
      (parts.map (Part.text b)).flatMap ([',', ' '] ++ ·) ++ ' ' :: '\x7d' :: t →
    (∀ part ∈ parts, part.Same a b) ∧ s = t
  | [], heq => by simpa using heq
  | part :: parts, heq => by
      simp only [List.map_cons, List.flatMap_cons, List.append_assoc, List.cons_append,
        List.nil_append, List.cons.injEq, true_and] at heq
      obtain ⟨hpart, hrest⟩ := part.text_inj (stops_fields a parts s) (stops_fields b parts t) heq
      obtain ⟨hparts, hst⟩ := fields_inj hrest
      exact ⟨List.forall_mem_cons.mpr ⟨hpart, hparts⟩, hst⟩

/-- **A record is legible if each of its fields is**, and the fields are all there is to it. -/
theorem record_legible (name : String) (parts : List (Part σ))
    (hall : ∀ a b, (∀ part ∈ parts, part.Same a b) → a = b) :
    Legible fun a => record name (parts.map (Part.text a)) := by
  intro a b s t _ _ heq
  simp only [record, List.append_assoc, List.cons_append, List.nil_append,
    List.append_cancel_left_eq, List.cons.injEq, true_and] at heq
  cases parts with
  | nil =>
      refine ⟨hall a b (List.forall_mem_nil _), ?_⟩
      simpa [listed] using heq
  | cons part parts =>
      rw [List.map_cons, List.map_cons, listed_cons, listed_cons, List.append_assoc,
        List.append_assoc] at heq
      obtain ⟨hpart, hrest⟩ := part.text_inj (stops_fields a parts s) (stops_fields b parts t) heq
      obtain ⟨hparts, hst⟩ := fields_inj hrest
      exact ⟨hall a b (List.forall_mem_cons.mpr ⟨hpart, hparts⟩), hst⟩

end InAppMessaging.Text.Inspect
