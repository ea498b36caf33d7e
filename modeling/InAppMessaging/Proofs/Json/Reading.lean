import InAppMessaging.Proofs.Json.Printed

/-!
# A printed value is read as its tree

The reader takes a printed value apart bracket by bracket.  One step of each reading function
is stated first, on texts that begin the way printed texts begin; the induction over the value
then only chains the steps.  Two units of fuel for each character are enough.

* `readValue_compact` — a printed value is read as its tree, and the rest is left;
* `read_compact` — a printed text is read to its end.
-/

namespace InAppMessaging.Json

open Text

/-! ## One step of the reader -/

/-- A string is read after its opening quote. -/
theorem readValue_text (fuel : Nat) (s : String) (rest : List Char) :
    readValue (fuel + 1) (quote s ++ rest) = (.text (.printed s), rest) := by
  have hskip := skipSpaces_cons (c := '"') (by decide)
    (s.toList.flatMap escapeChar ++ ['"'] ++ rest)
  rw [quote, List.cons_append, List.cons_append, readValue, hskip]
  simp only [if_true]
  rw [readSpelling_quote]

/-- A whole number is read with all its digits. -/
theorem readValue_integer (fuel : Nat) (n : Int) {rest : List Char} (h : EndsNumber rest) :
    readValue (fuel + 1) ((toString n).toList ++ rest) = (.number (.printed n), rest) := by
  obtain ⟨c, cs, hn, hc⟩ := exists_toString n
  obtain ⟨hspace, hq, hbrace, hbracket, hnull, htrue, hfalse, -⟩ := opens_number hc
  have hnum := readNumber_toString n h
  rw [hn, List.cons_append] at hnum ⊢
  rw [readValue, skipSpaces_cons hspace]
  simp only [if_neg hq, if_neg hbrace, if_neg hbracket, if_neg hnull, if_neg htrue,
    if_neg hfalse, if_pos hc]
  exact hnum

/-- Behind an opening bracket items are read. -/
theorem readValue_bracket (fuel : Nat) (cs : List Char) :
    readValue (fuel + 1) ('[' :: cs) =
      (.array (readItems true fuel cs).1, (readItems true fuel cs).2) := by
  rw [readValue, skipSpaces_cons (by decide)]
  simp

/-- Behind an opening brace members are read. -/
theorem readValue_brace (fuel : Nat) (cs : List Char) :
    readValue (fuel + 1) ('{' :: cs) =
      (.object (readMembers true fuel cs).1, (readMembers true fuel cs).2) := by
  rw [readValue, skipSpaces_cons (by decide)]
  simp

theorem readItems_close (first : Bool) (fuel : Nat) (rest : List Char) :
    readItems first (fuel + 1) (']' :: rest) = (.done, rest) := by
  rw [readItems, skipSpaces_cons (by decide)]
  simp

/-- The first item stands right behind the bracket. -/
theorem readItems_first (fuel : Nat) (v : Value) (rest : List Char) :
    readItems true (fuel + 1) (v.compact ++ rest) =
      let head := readValue fuel (v.compact ++ rest)
      let tail := readItems false fuel head.2
      (.cons head.1 tail.1, tail.2) := by
  obtain ⟨c, cs, hv, hspace, hclose⟩ := exists_compact v
  rw [hv, List.cons_append, readItems, skipSpaces_cons hspace]
  simp [hclose]

/-- Each further item stands behind a comma. -/
theorem readItems_next (fuel : Nat) (v : Value) (rest : List Char) :
    readItems false (fuel + 1) (',' :: (v.compact ++ rest)) =
      let head := readValue fuel (v.compact ++ rest)
      let tail := readItems false fuel head.2
      (.cons head.1 tail.1, tail.2) := by
  obtain ⟨c, cs, hv, hspace, hclose⟩ := exists_compact v
  rw [hv, List.cons_append, readItems, skipSpaces_cons (by decide)]
  simp [skipSpaces_cons hspace, hclose]

theorem readMembers_close (first : Bool) (fuel : Nat) (rest : List Char) :
    readMembers first (fuel + 1) ('}' :: rest) = (.done, rest) := by
  rw [readMembers, skipSpaces_cons (by decide)]
  simp

theorem readMemberValue_colon (fuel : Nat) (cs : List Char) :
    readMemberValue (fuel + 1) (':' :: cs) = readValue fuel cs := by
  rw [readMemberValue, skipSpaces_cons (by decide)]
  simp

/-- A member is its key, a colon and its value; all but the first stand behind a comma. -/
theorem readMembers_member (first : Bool) (fuel : Nat) (key : String) (cs : List Char) :
    readMembers first (fuel + 2) ((if first then [] else [',']) ++ (quote key ++ ':' :: cs)) =
      let value := readValue fuel cs
      let tail := readMembers false (fuel + 1) value.2
      (.cons (.printed key) value.1 tail.1, tail.2) := by
  have hkey := readSpelling_quote key (':' :: cs)
  have hskip := skipSpaces_cons (c := '"') (by decide)
    (key.toList.flatMap escapeChar ++ ['"'] ++ ':' :: cs)
  have hquote : quote key ++ ':' :: cs =
      '"' :: (key.toList.flatMap escapeChar ++ ['"'] ++ ':' :: cs) := rfl
  rw [hquote]
  cases first with
  | true =>
      rw [if_pos rfl, List.nil_append, readMembers, hskip]
      simp only [Char.reduceEq, if_false, if_true, Bool.true_eq_false, false_and]
      rw [hskip]
      simp only [if_true]
      rw [hkey]
      simp only [readMemberValue_colon]
  | false =>
      rw [if_neg Bool.false_ne_true, List.singleton_append, readMembers,
        skipSpaces_cons (by decide)]
      simp only [Char.reduceEq, if_false, ne_eq, not_true_eq_false, and_false,
        Bool.false_eq_true]
      rw [hskip]
      simp only [if_true]
      rw [hkey]
      simp only [readMemberValue_colon]

/-! ## The induction -/

mutual

/-- **A printed value is read as its tree.**  Whatever follows it is left, as long as it does
not carry a number on. -/
theorem readValue_compact :
    ∀ (v : Value) (fuel : Nat) (rest : List Char), 2 * v.compact.length ≤ fuel →
      EndsNumber rest → readValue fuel (v.compact ++ rest) = (v.tree, rest)
  | v, 0, rest, hfuel, _ => by
      obtain ⟨c, cs, hv, -, -⟩ := exists_compact v
      rw [hv, List.length_cons] at hfuel
      omega
  | .null, fuel + 1, rest, _, _ => by
      rw [readValue]
      rfl
  | .bool true, fuel + 1, rest, _, _ => by
      rw [readValue]
      rfl
  | .bool false, fuel + 1, rest, _, _ => by
      rw [readValue]
      rfl
  | .integer n, fuel + 1, rest, _, hrest => readValue_integer fuel n hrest
  | .text s, fuel + 1, rest, _, _ => readValue_text fuel s rest
  | .array items, fuel + 1, rest, hfuel, _ => by
      have hlen : 2 * (separated [','] (compactItems items)).length + 2 ≤ fuel := by
        simp only [Value.compact, List.cons_append, List.length_cons, List.length_append,
          List.length_nil] at hfuel
        omega
      rw [Value.compact, List.cons_append, List.cons_append, List.append_assoc,
        readValue_bracket, List.singleton_append, readItems_compact items fuel rest hlen]
      rfl
  | .object members, fuel + 1, rest, hfuel, _ => by
      have hlen : 2 * (separated [','] (compactMembers members)).length + 2 ≤ fuel := by
        simp only [Value.compact, List.cons_append, List.length_cons, List.length_append,
          List.length_nil] at hfuel
        omega
      rw [Value.compact, List.cons_append, List.cons_append, List.append_assoc,
        readValue_brace, List.singleton_append, readMembers_compact members fuel rest hlen]
      rfl

/-- Printed items are read up to their closing bracket. -/
theorem readItems_compact :
    ∀ (items : List Value) (fuel : Nat) (rest : List Char),
      2 * (separated [','] (compactItems items)).length + 2 ≤ fuel →
      readItems true fuel (separated [','] (compactItems items) ++ ']' :: rest) =
        (itemsTree items, rest)
  | _, 0, _, hfuel => by omega
  | [], fuel + 1, rest, _ => readItems_close true fuel rest
  | v :: others, fuel + 1, rest, hfuel => by
      have hends := endsNumber_behind (Or.inl rfl) (compactItems others) rest
      rw [compactItems, separated_cons, List.length_append] at hfuel
      rw [compactItems, separated_cons, List.append_assoc, readItems_first]
      simp only [readValue_compact v fuel _ (by omega) hends]
      rw [readItems_others others fuel rest (by omega)]
      rfl

/-- The items behind the first one are read up to their closing bracket. -/
theorem readItems_others :
    ∀ (items : List Value) (fuel : Nat) (rest : List Char),
      2 * ((compactItems items).flatMap (',' :: ·)).length + 1 ≤ fuel →
      readItems false fuel ((compactItems items).flatMap (',' :: ·) ++ ']' :: rest) =
        (itemsTree items, rest)
  | _, 0, _, hfuel => by omega
  | [], fuel + 1, rest, _ => readItems_close false fuel rest
  | v :: others, fuel + 1, rest, hfuel => by
      have hends := endsNumber_behind (Or.inl rfl) (compactItems others) rest
      rw [compactItems, List.flatMap_cons, List.length_append, List.length_cons] at hfuel
      rw [compactItems, List.flatMap_cons, List.append_assoc, List.cons_append, readItems_next]
      simp only [readValue_compact v fuel _ (by omega) hends]
      rw [readItems_others others fuel rest (by omega)]
      rfl

/-- Printed members are read up to their closing brace. -/
theorem readMembers_compact :
    ∀ (members : List (String × Value)) (fuel : Nat) (rest : List Char),
      2 * (separated [','] (compactMembers members)).length + 2 ≤ fuel →
      readMembers true fuel (separated [','] (compactMembers members) ++ '}' :: rest) =
        (membersTree members, rest)
  | _, 0, _, hfuel => by omega
  | [], fuel + 1, rest, _ => readMembers_close true fuel rest
  | (key, v) :: others, 1, rest, hfuel => by
      rw [compactMembers, separated_cons, quote] at hfuel
      simp only [List.length_append, List.length_cons] at hfuel
      omega
  | (key, v) :: others, fuel + 2, rest, hfuel => by
      have hends := endsNumber_behind (Or.inr rfl) (compactMembers others) rest
      have hstep := readMembers_member true fuel key
        (v.compact ++ ((compactMembers others).flatMap (',' :: ·) ++ '}' :: rest))
      rw [compactMembers, separated_cons, quote] at hfuel
      simp only [List.length_append, List.length_cons] at hfuel
      rw [if_pos rfl, List.nil_append] at hstep
      rw [compactMembers, separated_cons, List.append_assoc, List.append_assoc,
        List.cons_append, hstep]
      simp only [readValue_compact v fuel _ (by omega) hends]
      rw [readMembers_others others (fuel + 1) rest (by omega)]
      rfl

/-- The members behind the first one are read up to their closing brace. -/
theorem readMembers_others :
    ∀ (members : List (String × Value)) (fuel : Nat) (rest : List Char),
      2 * ((compactMembers members).flatMap (',' :: ·)).length + 1 ≤ fuel →
      readMembers false fuel ((compactMembers members).flatMap (',' :: ·) ++ '}' :: rest) =
        (membersTree members, rest)
  | _, 0, _, hfuel => by omega
  | [], fuel + 1, rest, _ => readMembers_close false fuel rest
  | (key, v) :: others, 1, rest, hfuel => by
      rw [compactMembers, List.flatMap_cons, quote] at hfuel
      simp only [List.length_append, List.length_cons] at hfuel
      omega
  | (key, v) :: others, fuel + 2, rest, hfuel => by
      have hends := endsNumber_behind (Or.inr rfl) (compactMembers others) rest
      have hstep := readMembers_member false fuel key
        (v.compact ++ ((compactMembers others).flatMap (',' :: ·) ++ '}' :: rest))
      rw [compactMembers, List.flatMap_cons, quote] at hfuel
      simp only [List.length_append, List.length_cons] at hfuel
      rw [if_neg Bool.false_ne_true, List.singleton_append] at hstep
      rw [compactMembers, List.flatMap_cons, List.append_assoc, List.cons_append,
        List.append_assoc, List.cons_append, hstep]
      simp only [readValue_compact v fuel _ (by omega) hends]
      rw [readMembers_others others (fuel + 1) rest (by omega)]
      rfl

end

theorem read_compact (v : Value) : Tree.read v.compact = (v.tree, []) := by
  have h := readValue_compact v (2 * v.compact.length + 2) [] (by omega) endsNumber_nil
  rw [List.append_nil] at h
  exact h

end InAppMessaging.Json
