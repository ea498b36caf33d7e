import InAppMessaging.Proofs.Json.Page
import Mathlib.Data.List.Forall2

/-!
# Any layout of JSON

The texts that are JSON, whatever their layout: white space between tokens, any escape in a
string, any spelling of a number, any nesting.  The grammar is stated here on its own
(`SpelledPieces`, `IsNumber`, `Bracketed`, `WellFormed`); the reader takes each text of it as one
value and leaves what follows (`Reads`).

* `reads_array`, `reads_object` — brackets are read if what stands between them is;
* `reads_text` — a string is read as the text it spells, whatever its escapes;
* `reads_wellFormed` — **well-formed JSON is read, and nothing in it stops who skips it**.
-/

namespace InAppMessaging.Json

open Text

/-! ## Strings -/

/-- What may stand behind a backslash for one character, and that character. -/
def shortEscapes : List (Char × Char) :=
  [('"', '"'), ('\\', '\\'), ('/', '/'), ('b', '\x08'), ('f', '\x0c'), ('n', '\n'), ('r', '\r'),
    ('t', '\t')]

/-- The pieces of a string and a text that spells them, between the quotes. -/
inductive SpelledPieces : List Piece → List Char → Prop
  | nil : SpelledPieces [] []
  | plain {c : Char} {pieces : List Piece} {body : List Char}
      (hc : 0x20 ≤ c.toNat ∧ c ≠ '"' ∧ c ≠ '\\') (rest : SpelledPieces pieces body) :
      SpelledPieces (.char c :: pieces) (c :: body)
  | short {e c : Char} {pieces : List Piece} {body : List Char} (he : (e, c) ∈ shortEscapes)
      (rest : SpelledPieces pieces body) : SpelledPieces (.char c :: pieces) ('\\' :: e :: body)
  | number {h₁ h₂ h₃ h₄ : Char} {bits : Nat} {pieces : List Piece} {body : List Char}
      (hbits : hexUnit? h₁ h₂ h₃ h₄ = some bits) (rest : SpelledPieces pieces body) :
      SpelledPieces (.unit bits :: pieces) ('\\' :: 'u' :: h₁ :: h₂ :: h₃ :: h₄ :: body)

/-- The characters that pieces stand for.  A number stands for the character of that number; a
character beyond U+FFFF takes two, each of which alone stands for none. -/
inductive Denotes : List Piece → List Char → Prop
  | nil : Denotes [] []
  | char {c : Char} {pieces : List Piece} {cs : List Char} (rest : Denotes pieces cs) :
      Denotes (.char c :: pieces) (c :: cs)
  | unit {c : Char} {pieces : List Piece} {cs : List Char} (rest : Denotes pieces cs) :
      Denotes (.unit c.toNat :: pieces) (c :: cs)
  | pair {lead trail : Nat} {c : Char} {pieces : List Piece} {cs : List Char}
      (hlead : 0xD800 ≤ lead ∧ lead ≤ 0xDBFF) (htrail : 0xDC00 ≤ trail ∧ trail ≤ 0xDFFF)
      (hc : c.toNat = 0x10000 + (lead - 0xD800) * 0x400 + (trail - 0xDC00))
      (rest : Denotes pieces cs) : Denotes (.unit lead :: .unit trail :: pieces) (c :: cs)

/-- A string in quotes, whatever it stands for. -/
def IsString (text : List Char) : Prop :=
  ∃ pieces body, SpelledPieces pieces body ∧ text = '"' :: (body ++ ['"'])

/-- A string in quotes that stands for a text. -/
def SpellsText (s : String) (text : List Char) : Prop :=
  ∃ pieces body, SpelledPieces pieces body ∧ Denotes pieces s.toList ∧
    text = '"' :: (body ++ ['"'])

theorem denotes_chars (cs : List Char) : Denotes (cs.map .char) cs := by
  induction cs with
  | nil => exact .nil
  | cons _ _ ih => exact .char ih

theorem spelledPieces_chars {cs : List Char}
    (h : ∀ c ∈ cs, 0x20 ≤ c.toNat ∧ c ≠ '"' ∧ c ≠ '\\') : SpelledPieces (cs.map .char) cs := by
  induction cs with
  | nil => exact .nil
  | cons c rest ih => exact .plain (h c (by simp)) (ih fun d hd => h d (by simp [hd]))

/-- A text in which nothing has to be escaped spells itself. -/
theorem spellsText_self {s : String}
    (h : ∀ c ∈ s.toList, 0x20 ≤ c.toNat ∧ c ≠ '"' ∧ c ≠ '\\') :
    SpellsText s ('"' :: (s.toList ++ ['"'])) :=
  ⟨_, _, spelledPieces_chars h, denotes_chars _, rfl⟩

theorem simpleEscape?_of_mem {e c : Char} (h : (e, c) ∈ shortEscapes) :
    simpleEscape? e = some c := by
  have hall : ∀ p ∈ shortEscapes, simpleEscape? p.1 = some p.2 := by decide
  exact hall _ h

/-- A string is read piece by piece, up to its closing quote. -/
theorem readSpelling_spelled {pieces : List Piece} {body : List Char}
    (h : SpelledPieces pieces body) (rest : List Char) :
    readSpelling (body ++ '"' :: rest) = (⟨pieces, none⟩, rest) := by
  induction h with
  | nil => exact readSpelling_end rest
  | plain hc _ ih =>
      rw [List.cons_append, readSpelling_plain hc.2.1 hc.2.2 (by omega), ih]
      rfl
  | short he _ ih =>
      rw [List.cons_append, List.cons_append, readSpelling_short (simpleEscape?_of_mem he), ih]
      rfl
  | number hbits _ ih =>
      simp only [List.cons_append]
      rw [readSpelling_unit hbits, ih]
      rfl

/-- Pieces give the characters they stand for. -/
theorem textOfPieces_denotes {pieces : List Piece} {cs : List Char} (h : Denotes pieces cs) :
    textOfPieces none pieces = .ok cs := by
  induction h with
  | nil => rfl
  | char _ ih =>
      rw [textOfPieces.eq_def]
      simp only [ih]
      rfl
  | @unit c _ _ _ ih =>
      have hgap : c.toNat < 0xD800 ∨ 0xDFFF < c.toNat ∧ c.toNat < 0x110000 := c.valid
      have htrail : isTrail c.toNat = false := by
        simp only [isTrail, Bool.and_eq_false_iff, decide_eq_false_iff_not]
        omega
      have hlead : isLead c.toNat = false := by
        simp only [isLead, Bool.and_eq_false_iff, decide_eq_false_iff_not]
        omega
      rw [textOfPieces.eq_def]
      simp only [htrail, hlead, ih, Char.ofNat_toNat, Bool.false_eq_true, if_false]
      rfl
  | @pair lead trail c _ _ hlead htrail hc _ ih =>
      have hfirst : isTrail lead = false := by
        simp only [isTrail, Bool.and_eq_false_iff, decide_eq_false_iff_not]
        omega
      have hhalves : isLead lead = true ∧ isTrail trail = true := by
        simp only [isLead, isTrail, Bool.and_eq_true, decide_eq_true_eq]
        omega
      have hjoin : joinPair lead trail = c := by rw [joinPair, ← hc, Char.ofNat_toNat]
      rw [textOfPieces.eq_def]
      simp only [hfirst, hhalves.1, hhalves.2, hjoin, ih, Bool.false_eq_true, if_false, if_true]
      rfl

/-- A spelling gives the text that its pieces stand for. -/
theorem Spelling.text_denotes {pieces : List Piece} {s : String} (h : Denotes pieces s.toList) :
    (⟨pieces, none⟩ : Spelling).text = .ok s := by
  rw [Spelling.text, textOfPieces_denotes h]
  exact congrArg Except.ok String.ofList_toList

/-! ## Numbers -/

/-- One digit or more. -/
def IsDigits (ds : List Char) : Prop := ds ≠ [] ∧ ∀ c ∈ ds, c.isDigit = true

/-- A fraction behind a whole part, or none. -/
def IsFraction (text : List Char) : Prop := text = [] ∨ ∃ ds, IsDigits ds ∧ text = '.' :: ds

/-- An exponent, or none. -/
def IsExponent (text : List Char) : Prop :=
  text = [] ∨ ∃ e sign ds, (e = 'e' ∨ e = 'E') ∧ sign ∈ [[], ['+'], ['-']] ∧ IsDigits ds ∧
    text = e :: (sign ++ ds)

/-- A number: no further digit stands behind a leading nought. -/
def IsNumber (text : List Char) : Prop :=
  ∃ sign whole fraction exponent, sign ∈ [[], ['-']] ∧
    (whole = ['0'] ∨ IsDigits whole ∧ whole.head? ≠ some '0') ∧ IsFraction fraction ∧
    IsExponent exponent ∧ text = sign ++ (whole ++ (fraction ++ exponent))

/-! ## Values -/

/-- Items with commas between them and any spaces around each. -/
inductive Separated : List (List Char) → List Char → Prop
  | last {before item after : List Char} (hbefore : AllSpaces before) (hafter : AllSpaces after) :
      Separated [item] (before ++ (item ++ after))
  | more {before item after : List Char} {items : List (List Char)} {text : List Char}
      (hbefore : AllSpaces before) (hafter : AllSpaces after) (rest : Separated items text) :
      Separated (item :: items) (before ++ (item ++ (after ++ ',' :: text)))

/-- Items in brackets; without items only spaces stand between the brackets. -/
def Bracketed (opening closing : Char) (items : List (List Char)) (text : List Char) : Prop :=
  ∃ inner, (items = [] ∧ AllSpaces inner ∨ Separated items inner) ∧
    text = opening :: (inner ++ [closing])

/-- The texts of a key and of a value with a colon between them. -/
def SpellsMember (entry : List Char × List Char) (text : List Char) : Prop :=
  ∃ before after, AllSpaces before ∧ AllSpaces after ∧
    text = entry.1 ++ (before ++ ':' :: (after ++ entry.2))

/-- The texts of keys and of values as members in braces. -/
def Braced (entries : List (List Char × List Char)) (text : List Char) : Prop :=
  ∃ members, List.Forall₂ SpellsMember entries members ∧ Bracketed '{' '}' members text

/-- A JSON value, whatever it is. -/
inductive WellFormed : List Char → Prop
  | word {word : String} (h : word ∈ ["null", "true", "false"]) : WellFormed word.toList
  | number {text : List Char} (h : IsNumber text) : WellFormed text
  | text {text : List Char} (h : IsString text) : WellFormed text
  | array {items : List (List Char)} {text : List Char} (h : Bracketed '[' ']' items text)
      (hitems : ∀ item ∈ items, WellFormed item) : WellFormed text
  | object {entries : List (List Char × List Char)} {text : List Char} (h : Braced entries text)
      (hkeys : ∀ entry ∈ entries, IsString entry.1)
      (hvalues : ∀ entry ∈ entries, WellFormed entry.2) : WellFormed text

/-! ## Reading a value -/

/-- A text is read as a tree, whatever follows it but the rest of a number. -/
structure Reads (text : List Char) (tree : Tree) : Prop where
  opens : ∃ c cs, text = c :: cs ∧ isSpace c = false ∧ c ≠ ']'
  read : ∀ fuel rest, 2 * text.length ≤ fuel → EndsNumber rest →
    readValue fuel (text ++ rest) = (tree, rest)

theorem reads_word {word : String} {tree : Tree}
    (h : (word, tree) ∈ [("null", Tree.null), ("true", .bool true), ("false", .bool false)]) :
    Reads word.toList tree := by
  simp only [List.mem_cons, Prod.mk.injEq, List.not_mem_nil, or_false] at h
  obtain ⟨rfl, rfl⟩ | ⟨rfl, rfl⟩ | ⟨rfl, rfl⟩ := h
  all_goals
    refine ⟨⟨_, _, rfl, by decide⟩, fun fuel rest hfuel _ => ?_⟩
    cases fuel with
    | zero => cases hfuel
    | succ fuel =>
        rw [readValue]
        rfl

theorem reads_string {pieces : List Piece} {body : List Char} (h : SpelledPieces pieces body) :
    Reads ('"' :: (body ++ ['"'])) (.text ⟨pieces, none⟩) := by
  refine ⟨⟨_, _, rfl, by decide⟩, fun fuel rest hfuel _ => ?_⟩
  obtain ⟨fuel, rfl⟩ : ∃ k, fuel = k + 1 := ⟨fuel - 1, by simp at hfuel; omega⟩
  rw [List.cons_append, List.append_assoc, readValue, skipSpaces_cons (by decide)]
  simp only [if_true, List.singleton_append, readSpelling_spelled h]

/-- **A string is read as the text it spells.** -/
theorem reads_text {s : String} {text : List Char} (h : SpellsText s text) :
    ∃ tree, Reads text tree ∧ tree.asText = .ok s := by
  obtain ⟨pieces, body, hspelled, hdenotes, rfl⟩ := h
  exact ⟨_, reads_string hspelled, Spelling.text_denotes hdenotes⟩

/-! ### Numbers -/

theorem readExponent_spelled (negative : Bool) (whole : List Char)
    (fraction? : Option (List Char)) {exponent : List Char} (h : IsExponent exponent) :
    ∃ n, ∀ {rest : List Char}, EndsNumber rest →
      readExponent negative whole fraction? (exponent ++ rest) = (.number n, rest) := by
  obtain rfl | ⟨e, sign, ds, he, hsign, ⟨hne, hall⟩, rfl⟩ := h
  · refine ⟨⟨negative, whole, fraction?, none⟩, fun {rest} hrest => ?_⟩
    cases rest with
    | nil => rfl
    | cons c rest =>
        obtain ⟨-, -, he, hE⟩ := hrest c rfl
        simp [readExponent, he, hE]
  · refine ⟨⟨negative, whole, fraction?, some (sign = ['-'], ds)⟩, fun {rest} hrest => ?_⟩
    obtain ⟨htake, hdrop⟩ := span_digits hall hrest
    obtain ⟨d, more, hds⟩ := List.exists_cons_of_ne_nil hne
    have hfirst := ne_sign_of_isDigit (hall d (by simp [hds]))
    have hhead : (ds ++ rest).head? = some d := by simp [hds]
    have hsome : ds.isEmpty = false := by simp [hds]
    simp only [List.mem_cons, List.not_mem_nil, or_false] at hsign
    rw [List.cons_append, List.append_assoc, readExponent, if_pos he]
    obtain rfl | rfl | rfl := hsign <;> simp [hhead, hfirst, htake, hdrop, hsome]

/-- Neither a digit nor a point stands where an exponent may. -/
theorem head_exponent {exponent rest : List Char} (h : IsExponent exponent)
    (hrest : EndsNumber rest) :
    ∀ c ∈ (exponent ++ rest).head?, c.isDigit = false ∧ c ≠ '.' := by
  obtain rfl | ⟨e, sign, ds, he, -, -, rfl⟩ := h
  · exact fun c hc => ⟨(hrest c hc).1, (hrest c hc).2.1⟩
  · rintro c ⟨⟩
    obtain rfl | rfl := he <;> decide

/-- No digit stands where a fraction may. -/
theorem head_fraction {fraction tail : List Char} (h : IsFraction fraction)
    (htail : ∀ c ∈ tail.head?, c.isDigit = false) :
    ∀ c ∈ (fraction ++ tail).head?, c.isDigit = false := by
  obtain rfl | ⟨ds, -, rfl⟩ := h
  · exact htail
  · rintro c ⟨⟩
    decide

theorem span_of_head {ds tail : List Char} (hds : ∀ c ∈ ds, c.isDigit = true)
    (htail : ∀ c ∈ tail.head?, c.isDigit = false) :
    (ds ++ tail).takeWhile Char.isDigit = ds ∧ (ds ++ tail).dropWhile Char.isDigit = tail := by
  rw [List.takeWhile_append_of_pos hds, List.dropWhile_append_of_pos hds]
  cases tail with
  | nil => simp
  | cons c tail => simp [htail c rfl]

theorem readFraction_spelled (negative : Bool) (whole : List Char)
    {fraction exponent : List Char} (hfraction : IsFraction fraction)
    (hexponent : IsExponent exponent) :
    ∃ n, ∀ {rest : List Char}, EndsNumber rest →
      readFraction negative whole (fraction ++ (exponent ++ rest)) = (.number n, rest) := by
  obtain rfl | ⟨ds, ⟨hne, hall⟩, rfl⟩ := hfraction
  · obtain ⟨n, hn⟩ := readExponent_spelled negative whole none hexponent
    refine ⟨n, fun {rest} hrest => ?_⟩
    rw [List.nil_append]
    unfold readFraction
    split
    · next heq => exact absurd rfl (head_exponent hexponent hrest '.' (by simp [heq])).2
    · exact hn hrest
  · obtain ⟨n, hn⟩ := readExponent_spelled negative whole (some ds) hexponent
    refine ⟨n, fun {rest} hrest => ?_⟩
    obtain ⟨htake, hdrop⟩ := span_of_head hall fun c hc => (head_exponent hexponent hrest c hc).1
    have hsome : ds.isEmpty = false := by simp [hne]
    simp only [List.cons_append, readFraction, htake, hdrop, hsome, Bool.false_eq_true, if_false]
    exact hn hrest

/-- A number opens with a sign or a digit. -/
theorem IsNumber.opens {text : List Char} (h : IsNumber text) :
    ∃ c cs, text = c :: cs ∧ (c = '-' ∨ c.isDigit = true) := by
  obtain ⟨sign, whole, fraction, exponent, hsign, hwhole, -, -, rfl⟩ := h
  obtain ⟨c, cs, rfl, hc⟩ : ∃ c cs, whole = c :: cs ∧ c.isDigit = true := by
    obtain rfl | ⟨⟨hne, hall⟩, -⟩ := hwhole
    · exact ⟨'0', [], rfl, by decide⟩
    · obtain ⟨c, cs, rfl⟩ := List.exists_cons_of_ne_nil hne
      exact ⟨c, cs, rfl, hall c (by simp)⟩
  simp only [List.mem_cons, List.not_mem_nil, or_false] at hsign
  obtain rfl | rfl := hsign
  · exact ⟨c, _, rfl, .inr hc⟩
  · exact ⟨'-', _, rfl, .inl rfl⟩

/-- The digits behind a sign are read in the same way with it and without. -/
theorem readNumber_unsigned (negative : Bool) {whole fraction exponent : List Char}
    (hwhole : whole = ['0'] ∨ IsDigits whole ∧ whole.head? ≠ some '0')
    (hfraction : IsFraction fraction) (hexponent : IsExponent exponent) :
    ∃ n, ∀ {rest : List Char}, EndsNumber rest →
      readNumber ((if negative then ['-'] else []) ++ (whole ++ (fraction ++ (exponent ++ rest)))) =
        (.number n, rest) := by
  obtain ⟨n, hn⟩ := readFraction_spelled negative whole hfraction hexponent
  refine ⟨n, fun {rest} hrest => ?_⟩
  have hhead := head_fraction hfraction fun c hc => (head_exponent hexponent hrest c hc).1
  have hread := hn hrest
  generalize fraction ++ (exponent ++ rest) = tail at hhead hread ⊢
  obtain rfl | ⟨⟨hne, hall⟩, hnought⟩ := hwhole
  · have hnext : tail.head?.any Char.isDigit = false := by
      cases htail : tail.head? with
      | none => rfl
      | some c => simpa using hhead c htail
    cases negative <;> simp [readNumber, hnext, hread]
  · obtain ⟨htake, hdrop⟩ := span_of_head hall hhead
    obtain ⟨c, cs, rfl⟩ := List.exists_cons_of_ne_nil hne
    have hc := hall c (by simp)
    have hsign := (ne_sign_of_isDigit hc).1
    have hzero : c ≠ '0' := by simpa using hnought
    rw [List.cons_append] at htake hdrop
    cases negative <;> simp [readNumber, hsign, hzero, hc, htake, hdrop, hread]

theorem reads_number {text : List Char} (h : IsNumber text) : ∃ n, Reads text (.number n) := by
  obtain ⟨c, cs, hopen, hc⟩ := h.opens
  obtain ⟨hspace, hq, hbrace, hbracket, hnull, htrue, hfalse, hclose⟩ := opens_number hc
  obtain ⟨sign, whole, fraction, exponent, hsign, hwhole, hfraction, hexponent, htext⟩ := h
  obtain ⟨n, hn⟩ := readNumber_unsigned (sign = ['-']) hwhole hfraction hexponent
  refine ⟨n, ⟨c, cs, hopen, hspace, hclose⟩, fun fuel rest hfuel hrest => ?_⟩
  have hread : readNumber (text ++ rest) = (.number n, rest) := by
    rw [← hn hrest, htext]
    simp only [List.mem_cons, List.not_mem_nil, or_false] at hsign
    obtain rfl | rfl := hsign <;> simp
  obtain ⟨fuel, rfl⟩ : ∃ k, fuel = k + 1 := ⟨fuel - 1, by simp [hopen] at hfuel; omega⟩
  rw [hopen, List.cons_append] at hread ⊢
  rw [readValue, skipSpaces_cons hspace]
  simp only [if_neg hq, if_neg hbrace, if_neg hbracket, if_neg hnull, if_neg htrue, if_neg hfalse,
    if_pos hc]
  exact hread

/-! ### Brackets -/

/-- Spaces before what ends a number end it as well. -/
theorem endsNumber_spaces {spaces rest : List Char} (h : AllSpaces spaces)
    (hrest : EndsNumber rest) : EndsNumber (spaces ++ rest) := by
  cases spaces with
  | nil => exact hrest
  | cons c cs =>
      rintro d ⟨⟩
      have hc := h c (by simp)
      simp only [isSpace, Bool.or_eq_true, decide_eq_true_eq] at hc
      obtain ((rfl | rfl) | rfl) | rfl := hc <;> decide

/-- Spaces before an item, a comma or the closing bracket do not matter. -/
theorem readItems_spaces {spaces : List Char} (h : AllSpaces spaces) (first : Bool) (fuel : Nat)
    (cs : List Char) : readItems first fuel (spaces ++ cs) = readItems first fuel cs := by
  cases fuel with
  | zero => rfl
  | succ fuel => rw [readItems, readItems, skipSpaces_append h]

/-- The items of trees. -/
def Items.ofList : List Tree → Items
  | [] => .done
  | head :: rest => .cons head (ofList rest)

/-- The members of keys and trees. -/
def Members.ofList : List (Spelling × Tree) → Members
  | [] => .done
  | (key, value) :: rest => .cons key value (ofList rest)

/-- One item is read; all but the first stand behind a comma. -/
theorem readItems_item (first : Bool) {fuel : Nat} {before item rest : List Char} {tree : Tree}
    (hbefore : AllSpaces before) (hitem : Reads item tree) (hfuel : 2 * item.length ≤ fuel)
    (hrest : EndsNumber rest) :
    readItems first (fuel + 1) ((if first then [] else [',']) ++ (before ++ (item ++ rest))) =
      let tail := readItems false fuel rest
      (.cons tree tail.1, tail.2) := by
  obtain ⟨c, cs, hopen, hspace, hclose⟩ := hitem.opens
  have hread := hitem.read fuel rest hfuel hrest
  have hskip : skipSpaces (before ++ (item ++ rest)) = item ++ rest := by
    rw [skipSpaces_append hbefore, hopen, List.cons_append, skipSpaces_cons hspace]
  cases first with
  | true =>
      rw [if_pos rfl, List.nil_append, readItems, hskip, hopen, List.cons_append]
      rw [hopen, List.cons_append] at hread
      simp [hclose, hread]
  | false =>
      have hhead : (item ++ rest).head? ≠ some ']' := by simp [hopen, hclose]
      rw [if_neg Bool.false_ne_true, List.singleton_append, readItems,
        skipSpaces_cons (by decide)]
      simp only [Char.reduceEq, if_false, if_true, Bool.false_eq_true, hskip, if_neg hhead,
        readValue_spaces hbefore, hread]

/-- Items are read up to their closing bracket. -/
theorem readItems_separated {items : List (List Char)} {inner : List Char}
    (h : Separated items inner) :
    ∀ {trees : List Tree}, List.Forall₂ Reads items trees → ∀ (first : Bool) (fuel : Nat)
      (rest : List Char), 2 * inner.length + 2 ≤ fuel →
      readItems first fuel ((if first then [] else [',']) ++ (inner ++ ']' :: rest)) =
        (Items.ofList trees, rest) := by
  induction h with
  | last hbefore hafter =>
      rintro _ (_ | ⟨hitem, ⟨⟩⟩) first fuel rest hfuel
      obtain ⟨fuel, rfl⟩ : ∃ k, fuel = k + 2 := ⟨fuel - 2, by omega⟩
      simp only [List.length_append] at hfuel
      rw [List.append_assoc, List.append_assoc, readItems_item first hbefore hitem (by omega)
        (endsNumber_spaces hafter (endsNumber_cons (by decide) rest)), readItems_spaces hafter,
        readItems_close]
      rfl
  | more hbefore hafter _ ih =>
      rintro _ (_ | ⟨hitem, hitems⟩) first fuel rest hfuel
      obtain ⟨fuel, rfl⟩ : ∃ k, fuel = k + 1 := ⟨fuel - 1, by omega⟩
      simp only [List.length_append, List.length_cons] at hfuel
      have hmore := ih hitems false fuel rest (by omega)
      rw [if_neg Bool.false_ne_true, List.singleton_append] at hmore
      rw [List.append_assoc, List.append_assoc, List.append_assoc, List.cons_append,
        readItems_item first hbefore hitem (by omega)
        (endsNumber_spaces hafter (endsNumber_cons (by decide) _)), readItems_spaces hafter, hmore]
      rfl

/-- An array is read if its items are. -/
theorem reads_array {items : List (List Char)} {text : List Char} {trees : List Tree}
    (h : Bracketed '[' ']' items text) (hitems : List.Forall₂ Reads items trees) :
    Reads text (.array (.ofList trees)) := by
  obtain ⟨inner, hinner, rfl⟩ := h
  refine ⟨⟨_, _, rfl, by decide⟩, fun fuel rest hfuel _ => ?_⟩
  simp only [List.length_cons, List.length_append, List.length_nil] at hfuel
  obtain ⟨fuel, rfl⟩ : ∃ k, fuel = k + 2 := ⟨fuel - 2, by omega⟩
  rw [List.cons_append, List.append_assoc, List.singleton_append, readValue_bracket]
  obtain ⟨rfl, hspaces⟩ | hseparated := hinner
  · cases hitems
    rw [readItems_spaces hspaces, readItems_close]
    rfl
  · have hread := readItems_separated hseparated hitems true (fuel + 1) rest (by omega)
    rw [if_pos rfl, List.nil_append] at hread
    rw [hread]

/-- A key in quotes is read up to its closing quote. -/
def ReadsKey (text : List Char) (key : Spelling) : Prop :=
  ∃ body, text = '"' :: (body ++ ['"']) ∧ ∀ rest, readSpelling (body ++ '"' :: rest) = (key, rest)

/-- A key and a value are read. -/
def ReadsEntry (entry : List Char × List Char) (member : Spelling × Tree) : Prop :=
  ReadsKey entry.1 member.1 ∧ Reads entry.2 member.2

theorem readMemberValue_spaced {before : List Char} (h : AllSpaces before) (fuel : Nat)
    (cs : List Char) : readMemberValue (fuel + 1) (before ++ ':' :: cs) = readValue fuel cs := by
  rw [readMemberValue, skipSpaces_append h, skipSpaces_cons (by decide)]
  simp

/-- One member is read; all but the first stand behind a comma. -/
theorem readMembers_entry (first : Bool) {fuel : Nat} {before text rest : List Char}
    {entry : List Char × List Char} {member : Spelling × Tree} (hbefore : AllSpaces before)
    (htext : SpellsMember entry text) (hentry : ReadsEntry entry member)
    (hfuel : 2 * text.length ≤ fuel + 2) (hrest : EndsNumber rest) :
    readMembers first (fuel + 2) ((if first then [] else [',']) ++ (before ++ (text ++ rest))) =
      let tail := readMembers false (fuel + 1) rest
      (.cons member.1 member.2 tail.1, tail.2) := by
  obtain ⟨_, value⟩ := entry
  obtain ⟨colonBefore, colonAfter, hspaces, hspaces', rfl⟩ := htext
  obtain ⟨⟨body, rfl, hkey⟩, hvalue⟩ := hentry
  simp only [List.length_cons, List.length_append, List.length_nil] at hfuel
  have hread : readValue fuel (colonAfter ++ (value ++ rest)) = (member.2, rest) := by
    rw [readValue_spaces hspaces']
    exact hvalue.read fuel rest (by simp only; omega) hrest
  have htext : ('"' :: (body ++ ['"'])) ++ (colonBefore ++ ':' :: (colonAfter ++ value)) ++ rest =
      '"' :: (body ++ '"' :: (colonBefore ++ ':' :: (colonAfter ++ (value ++ rest)))) := by simp
  simp only [htext]
  cases first with
  | true =>
      rw [if_pos rfl, List.nil_append, readMembers, skipSpaces_append hbefore,
        skipSpaces_cons (by decide)]
      simp only [Char.reduceEq, if_false, if_true, Bool.true_eq_false, false_and]
      rw [skipSpaces_cons (by decide)]
      simp only [if_true, hkey, readMemberValue_spaced hspaces, hread]
  | false =>
      rw [if_neg Bool.false_ne_true, List.singleton_append, readMembers,
        skipSpaces_cons (by decide)]
      simp only [Char.reduceEq, if_false, ne_eq, not_true_eq_false, and_false, Bool.false_eq_true]
      rw [skipSpaces_append hbefore, skipSpaces_cons (by decide)]
      simp only [if_true, hkey, readMemberValue_spaced hspaces, hread]

/-- Members are read up to their closing brace. -/
theorem readMembers_separated {texts : List (List Char)} {inner : List Char}
    (h : Separated texts inner) :
    ∀ {entries : List (List Char × List Char)} {members : List (Spelling × Tree)},
      List.Forall₂ SpellsMember entries texts → List.Forall₂ ReadsEntry entries members →
      ∀ (first : Bool) (fuel : Nat) (rest : List Char), 2 * inner.length + 2 ≤ fuel →
      readMembers first fuel ((if first then [] else [',']) ++ (inner ++ '}' :: rest)) =
        (Members.ofList members, rest) := by
  induction h with
  | last hbefore hafter =>
      rintro _ _ (_ | ⟨htext, ⟨⟩⟩) (_ | ⟨hentry, ⟨⟩⟩) first fuel rest hfuel
      obtain ⟨fuel, rfl⟩ : ∃ k, fuel = k + 2 := ⟨fuel - 2, by omega⟩
      simp only [List.length_append] at hfuel
      rw [List.append_assoc, List.append_assoc, readMembers_entry first hbefore htext hentry
        (by omega) (endsNumber_spaces hafter (endsNumber_cons (by decide) rest)),
        readMembers_spaces hafter, readMembers_close]
      rfl
  | more hbefore hafter _ ih =>
      rintro _ _ (_ | ⟨htext, htexts⟩) (_ | ⟨hentry, hentries⟩) first fuel rest hfuel
      obtain ⟨fuel, rfl⟩ : ∃ k, fuel = k + 2 := ⟨fuel - 2, by omega⟩
      simp only [List.length_append, List.length_cons] at hfuel
      have hmore := ih htexts hentries false (fuel + 1) rest (by omega)
      rw [if_neg Bool.false_ne_true, List.singleton_append] at hmore
      rw [List.append_assoc, List.append_assoc, List.append_assoc, List.cons_append,
        readMembers_entry first hbefore htext hentry (by omega)
        (endsNumber_spaces hafter (endsNumber_cons (by decide) _)), readMembers_spaces hafter,
        hmore]
      rfl

/-- An object is read if its keys and its values are. -/
theorem reads_object {entries : List (List Char × List Char)} {text : List Char}
    {members : List (Spelling × Tree)} (h : Braced entries text)
    (hentries : List.Forall₂ ReadsEntry entries members) :
    Reads text (.object (.ofList members)) := by
  obtain ⟨texts, htexts, inner, hinner, rfl⟩ := h
  refine ⟨⟨_, _, rfl, by decide⟩, fun fuel rest hfuel _ => ?_⟩
  simp only [List.length_cons, List.length_append, List.length_nil] at hfuel
  obtain ⟨fuel, rfl⟩ : ∃ k, fuel = k + 2 := ⟨fuel - 2, by omega⟩
  rw [List.cons_append, List.append_assoc, List.singleton_append, readValue_brace]
  obtain ⟨rfl, hspaces⟩ | hseparated := hinner
  · cases htexts
    cases hentries
    rw [readMembers_spaces hspaces, readMembers_close]
    rfl
  · have hread := readMembers_separated hseparated htexts hentries true (fuel + 1) rest (by omega)
    rw [if_pos rfl, List.nil_append] at hread
    rw [hread]

/-! ### Any value -/

theorem skip_itemsOfList {trees : List Tree} (h : ∀ tree ∈ trees, tree.skip = .ok ()) :
    (Items.ofList trees).skip = .ok () := by
  induction trees with
  | nil => rfl
  | cons head rest ih =>
      rw [Items.ofList, Items.skip, h head (by simp)]
      exact ih fun tree htree => h tree (by simp [htree])

theorem skip_membersOfList {members : List (Spelling × Tree)}
    (h : ∀ member ∈ members, member.1.skip = .ok () ∧ member.2.skip = .ok ()) :
    (Members.ofList members).skip = .ok () := by
  induction members with
  | nil => rfl
  | cons member rest ih =>
      obtain ⟨hkey, hvalue⟩ := h member (by simp)
      rw [Members.ofList, Members.skip, hkey, hvalue]
      exact ih fun other hother => h other (by simp [hother])

/-- What each element of a list goes with, the elements of a list go with. -/
theorem exists_forall₂ {α β : Type} {R : α → β → Prop} {P : β → Prop} {xs : List α}
    (h : ∀ x ∈ xs, ∃ y, R x y ∧ P y) : ∃ ys, List.Forall₂ R xs ys ∧ ∀ y ∈ ys, P y := by
  induction xs with
  | nil => exact ⟨[], .nil, by simp⟩
  | cons x rest ih =>
      obtain ⟨y, hy, hp⟩ := h x (by simp)
      obtain ⟨ys, hys, hps⟩ := ih fun z hz => h z (by simp [hz])
      exact ⟨y :: ys, .cons hy hys, by simpa using ⟨hp, hps⟩⟩

theorem readsKey_spelled {pieces : List Piece} {body : List Char} (h : SpelledPieces pieces body) :
    ReadsKey ('"' :: (body ++ ['"'])) ⟨pieces, none⟩ :=
  ⟨body, rfl, readSpelling_spelled h⟩

/-- **Well-formed JSON is read, and nothing in it stops who skips it.** -/
theorem reads_wellFormed {text : List Char} (h : WellFormed text) :
    ∃ tree, Reads text tree ∧ tree.skip = .ok () := by
  induction h with
  | @word word hword =>
      simp only [List.mem_cons, List.not_mem_nil, or_false] at hword
      obtain rfl | rfl | rfl := hword
      · exact ⟨.null, reads_word (by simp), rfl⟩
      · exact ⟨.bool true, reads_word (by simp), rfl⟩
      · exact ⟨.bool false, reads_word (by simp), rfl⟩
  | number hnumber =>
      obtain ⟨n, hn⟩ := reads_number hnumber
      exact ⟨.number n, hn, rfl⟩
  | text hstring =>
      obtain ⟨pieces, body, hspelled, rfl⟩ := hstring
      exact ⟨_, reads_string hspelled, rfl⟩
  | array hbracketed _ ih =>
      obtain ⟨trees, htrees, hskip⟩ := exists_forall₂ ih
      exact ⟨_, reads_array hbracketed htrees, skip_itemsOfList hskip⟩
  | @object entries _ hbraced hkeys _ ih =>
      have hentries : ∀ entry ∈ entries, ∃ member, ReadsEntry entry member ∧
          member.1.skip = .ok () ∧ member.2.skip = .ok () := by
        intro entry hentry
        obtain ⟨pieces, body, hspelled, hkey⟩ := hkeys entry hentry
        obtain ⟨tree, hread, hskip⟩ := ih entry hentry
        exact ⟨(⟨pieces, none⟩, tree), ⟨hkey ▸ readsKey_spelled hspelled, hread⟩, rfl, hskip⟩
      obtain ⟨members, hmembers, hskip⟩ := exists_forall₂ hentries
      exact ⟨_, reads_object hbraced hmembers, skip_membersOfList hskip⟩

end InAppMessaging.Json
