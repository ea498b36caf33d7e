import InAppMessaging.Proofs.Text.Bytes
import InAppMessaging.Url.Address
import InAppMessaging.Url.Basic

/-!
# The pairs of a query are read back

A query is read as a form: pieces between ampersands, an empty one aside, each parted at its first
equals sign; in either side a plus is a space and percent-encoded bytes are UTF-8.  No side that
was written holds one of the two signs, so what is added to a URL is what is read from it, behind
the pairs it had.

* `formDecode_formEncode` — a side of a pair is read back;
* `pairs_withPairs` — **a URL's pairs are those it had and those added**;
* `not_mem_query_withPairs` — no added pair begins a fragment.
-/

namespace InAppMessaging.Url

/-! ## Reading a form -/

/-- A plus stands for a space. -/
def plusAsSpace (c : Char) : Char := if c = '+' then ' ' else c

/-- What one side of a pair stands for. -/
def formDecode (side : List Char) : String :=
  String.ofList (Text.utf8Text (percentDecode (side.map plusAsSpace)))

/-- The pair that a piece of a query stands for; without an equals sign its value is empty. -/
def pairOf (piece : List Char) : String × String :=
  (formDecode (piece.takeWhile (· ≠ '=')), formDecode ((piece.dropWhile (· ≠ '=')).drop 1))

/-- The pairs of a query. -/
def pairsOf (query : List Char) : List (String × String) :=
  ((splitWhere (· = '&') query).filter (· ≠ [])).map pairOf

/-- The pairs of a URL's query; without a query there are none. -/
def pairs (u : Url) : List (String × String) := pairsOf (u.query.getD "").toList

/-! ## A side of a pair -/

/-- A digit is read as its number; it is neither a plus nor a sign that parts. -/
theorem upperHexDigit_cases : ∀ n < 16,
    hexValue? (upperHexDigit n) = some n ∧ upperHexDigit n ∉ ['+', '&', '=', '#'] := by
  decide

/-- A percent-encoded byte is read back, whatever stands behind it. -/
theorem percentDecode_percentByte {b : Nat} (h : b < 256) (rest : List Char) :
    percentDecode (percentByte b ++ rest) = b :: percentDecode rest := by
  have hhigh := (upperHexDigit_cases (b / 16) (by omega)).1
  have hlow := (upperHexDigit_cases (b % 16) (by omega)).1
  have hbyte : b / 16 * 16 + b % 16 = b := by omega
  simp only [percentByte, List.cons_append, List.nil_append, percentDecode, hhigh, hlow, hbyte]

theorem percentDecode_cons {c : Char} (h : c ≠ '%') (rest : List Char) :
    percentDecode (c :: rest) = Text.utf8Bytes (String.singleton c) ++ percentDecode rest := by
  rw [percentDecode]
  intro a b rest' heq
  simp [h] at heq

theorem percentDecode_bytes {bytes : List Nat} (h : ∀ b ∈ bytes, b < 256) (rest : List Char) :
    percentDecode (bytes.flatMap percentByte ++ rest) = bytes ++ percentDecode rest := by
  induction bytes with
  | nil => rfl
  | cons b more ih =>
      rw [List.flatMap_cons, List.append_assoc, percentDecode_percentByte (h b (by simp)),
        ih fun d hd => h d (by simp [hd]), List.cons_append]

/-- A character as one side of a pair writes it. -/
def formChar (c : Char) : List Char :=
  if c = ' ' then ['+'] else if keptInPair c then [c] else percentChar c

theorem formEncode_eq (s : String) : formEncode s = s.toList.flatMap formChar := rfl

/-- What a percent-encoded character is written with. -/
theorem mem_percentChar {c d : Char} (h : d ∈ percentChar c) :
    d = '%' ∨ ∃ n < 16, d = upperHexDigit n := by
  obtain ⟨b, hb, hd⟩ := List.mem_flatMap.mp h
  have hlt := Text.lt_of_mem_utf8Bytes hb
  simp only [percentByte, List.mem_cons, List.not_mem_nil, or_false] at hd
  obtain rfl | rfl | rfl := hd
  · exact .inl rfl
  · exact .inr ⟨b / 16, by omega, rfl⟩
  · exact .inr ⟨b % 16, by omega, rfl⟩

theorem not_mem_percentChar {c d : Char} (h : d ∈ percentChar c) :
    d ∉ ['+', '&', '=', '#'] := by
  obtain rfl | ⟨n, hn, rfl⟩ := mem_percentChar h
  · decide
  · exact (upperHexDigit_cases n hn).2

/-- A character is read back from one side of a pair, whatever stands behind it. -/
theorem percentDecode_formChar (c : Char) (rest : List Char) :
    percentDecode ((formChar c).map plusAsSpace ++ rest) =
      Text.utf8Bytes (String.singleton c) ++ percentDecode rest := by
  unfold formChar
  split
  · next h => subst h; exact percentDecode_cons (by decide) rest
  split
  · next hspace hkept =>
      have hplus : c ≠ '+' := by rintro rfl; exact absurd hkept (by decide)
      have hpercent : c ≠ '%' := by rintro rfl; exact absurd hkept (by decide)
      simpa [plusAsSpace, hplus] using percentDecode_cons hpercent rest
  · have hmap : (percentChar c).map plusAsSpace = percentChar c := by
      refine List.map_congr_left (g := id) (fun d hd => ?_) |>.trans (List.map_id _)
      have := not_mem_percentChar hd
      simp only [List.mem_cons, not_or] at this
      simp [plusAsSpace, this.1]
    rw [hmap]
    exact percentDecode_bytes (fun _ => Text.lt_of_mem_utf8Bytes) rest

/-- A side of a pair is read back. -/
theorem formDecode_formEncode (s : String) : formDecode (formEncode s) = s := by
  have hbytes : percentDecode ((formEncode s).map plusAsSpace) = Text.utf8Bytes s := by
    rw [formEncode_eq]
    unfold Text.utf8Bytes
    induction s.toList with
    | nil => simp [percentDecode]
    | cons c rest ih =>
        rw [List.flatMap_cons, List.map_append, percentDecode_formChar, ih, List.flatMap_cons]
        simp [Text.utf8Bytes]
  rw [formDecode, hbytes, Text.utf8Text_utf8Bytes, String.ofList_toList]

/-- No side of a pair holds a sign that parts pairs or sides, or that ends a query. -/
theorem not_mem_formEncode {s : String} {d : Char} (h : d ∈ formEncode s) :
    d ≠ '&' ∧ d ≠ '=' ∧ d ≠ '#' := by
  obtain ⟨c, -, hd⟩ := List.mem_flatMap.mp h
  split at hd
  · obtain rfl := List.mem_singleton.mp hd; decide
  split at hd
  · next hkept =>
      obtain rfl := List.mem_singleton.mp hd
      refine ⟨?_, ?_, ?_⟩ <;> rintro rfl <;> exact absurd hkept (by decide)
  · have := not_mem_percentChar hd
    simp_all

/-! ## The pieces of a query -/

theorem splitWhere_ne_nil (test : Char → Bool) (cs : List Char) : splitWhere test cs ≠ [] := by
  cases cs with
  | nil => simp [splitWhere]
  | cons c rest =>
      rw [splitWhere]
      split
      · simp
      · split <;> simp

/-- A sign that parts stands between the parts of what is before it and of what is behind it. -/
theorem splitWhere_append {test : Char → Bool} {sign : Char} (h : test sign = true)
    (before after : List Char) :
    splitWhere test (before ++ sign :: after) =
      splitWhere test before ++ splitWhere test after := by
  induction before with
  | nil =>
      obtain ⟨part, parts, hafter⟩ := List.exists_cons_of_ne_nil (splitWhere_ne_nil test after)
      simp [splitWhere, hafter, h]
  | cons c rest ih =>
      obtain ⟨part, parts, hrest⟩ := List.exists_cons_of_ne_nil (splitWhere_ne_nil test rest)
      rw [hrest] at ih
      simp only [List.cons_append, splitWhere, ih, hrest]
      split <;> rfl

theorem splitWhere_of_none {test : Char → Bool} {cs : List Char} (h : ∀ c ∈ cs, test c = false) :
    splitWhere test cs = [cs] := by
  induction cs with
  | nil => rfl
  | cons c rest ih =>
      simp [splitWhere, ih fun d hd => h d (by simp [hd]), h c (by simp)]

theorem pairsOf_append (before after : List Char) :
    pairsOf (before ++ '&' :: after) = pairsOf before ++ pairsOf after := by
  have hsplit : splitWhere (· = '&') (before ++ '&' :: after) =
      splitWhere (· = '&') before ++ splitWhere (· = '&') after :=
    splitWhere_append (by simp) before after
  simp [pairsOf, hsplit]

/-- A pair is read back. -/
theorem pairsOf_pairText (pair : String × String) : pairsOf (pairText pair) = [pair] := by
  have hsplit : splitWhere (· = '&') (pairText pair) = [pairText pair] := by
    refine splitWhere_of_none fun c hc => ?_
    simp only [pairText, List.mem_append, List.mem_cons] at hc
    obtain hc | rfl | hc := hc
    · simpa using (not_mem_formEncode hc).1
    · decide
    · simpa using (not_mem_formEncode hc).1
  have hname : ∀ c ∈ formEncode pair.1, decide (c ≠ '=') = true := fun c hc => by
    simpa using (not_mem_formEncode hc).2.1
  have hpair : pairOf (pairText pair) = pair := by
    rw [pairOf, pairText, List.takeWhile_append_of_pos hname, List.dropWhile_append_of_pos hname]
    simp [formDecode_formEncode]
  have hpiece : pairText pair ≠ [] := by simp [pairText]
  rw [pairsOf, hsplit]
  simp [hpair, hpiece]

theorem pairsOf_nil : pairsOf [] = [] := rfl

theorem pairsOf_pairsText (added : List (String × String)) : pairsOf (pairsText added) = added := by
  induction added with
  | nil => exact pairsOf_nil
  | cons pair rest ih =>
      cases rest with
      | nil => exact pairsOf_pairText pair
      | cons next more =>
          rw [pairsText, pairsOf_append, pairsOf_pairText, ih, List.singleton_append]
          simp

/-- **A URL's pairs are those it had and those added.** -/
theorem pairs_withPairs (u : Url) (added : List (String × String)) :
    (u.withPairs added).pairs = u.pairs ++ added := by
  obtain ⟨query, hquery⟩ : ∃ query, query = u.query.getD "" := ⟨_, rfl⟩
  simp only [pairs, withPairs, Option.getD_some, ← hquery]
  unfold extendQuery
  split
  · next h =>
      obtain h | h := h
      · simp_all [pairsOf_pairsText, pairsOf_nil]
      · simp_all [pairsText]
  · rw [String.toList_append, String.toList_append, String.toList_ofList, List.append_assoc,
      List.singleton_append, pairsOf_append, String.toList_ofList, pairsOf_pairsText]

/-! ## Where a query ends -/

/-- A percent-encoded text holds no number sign where none is kept. -/
theorem not_mem_percentEncode {keep : Char → Bool} (h : keep '#' = false) (cs : List Char) :
    '#' ∉ percentEncode keep cs := by
  intro hmem
  obtain ⟨c, -, hc⟩ := List.mem_flatMap.mp hmem
  split at hc
  · next hkept =>
      obtain rfl := List.mem_singleton.mp hc
      simp [h] at hkept
  · exact absurd (by simp) (not_mem_percentChar hc)

theorem not_mem_pairsText (added : List (String × String)) : '#' ∉ pairsText added := by
  have hpair (pair : String × String) : '#' ∉ pairText pair := by
    intro h
    simp only [pairText, List.mem_append, List.mem_cons] at h
    obtain h | h | h := h
    · exact (not_mem_formEncode h).2.2 rfl
    · exact absurd h (by decide)
    · exact (not_mem_formEncode h).2.2 rfl
  induction added with
  | nil => simp [pairsText]
  | cons pair rest ih =>
      cases rest with
      | nil => exact hpair pair
      | cons next more =>
          simp only [pairsText, List.mem_append, List.mem_cons, not_or]
          exact ⟨hpair pair, by decide, ih⟩

/-- Pairs are added before the fragment: nothing in them begins one. -/
theorem not_mem_query_withPairs {u : Url} (h : '#' ∉ (u.query.getD "").toList)
    (added : List (String × String)) :
    '#' ∉ ((u.withPairs added).query.getD "").toList := by
  have hadded := not_mem_pairsText added
  simp only [withPairs, Option.getD_some]
  unfold extendQuery
  split <;> simp [h, hadded]

end InAppMessaging.Url
