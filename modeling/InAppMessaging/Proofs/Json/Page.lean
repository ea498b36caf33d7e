import InAppMessaging.Proofs.Json.Decoding

/-!
# A printed page is read as its tree

A page is an object of texts printed over several lines.  The spaces it is laid out with do not
matter to the reader (`readValue_spaces`, `readMembers_spaces`, `readMembers_comma`); without
them each member is one step of the reader, as in a text without spaces.

* `readMembers_lines` — members on lines of their own are read up to the closing brace;
* `read_page` — a whole page is read to its end.
-/

namespace InAppMessaging.Json

/-! ## Spaces between tokens -/

/-- Only characters that may stand between tokens. -/
def AllSpaces (cs : List Char) : Prop := ∀ c ∈ cs, isSpace c = true

theorem allSpaces_lineBreak (level : Nat) : AllSpaces (lineBreak level) := by
  intro c hc
  rcases List.mem_cons.mp hc with rfl | hc
  · rfl
  · rw [List.eq_of_mem_replicate hc]
    rfl

theorem skipSpaces_append {spaces : List Char} (h : AllSpaces spaces) (cs : List Char) :
    skipSpaces (spaces ++ cs) = skipSpaces cs :=
  List.dropWhile_append_of_pos h

/-- Spaces before a value do not matter. -/
theorem readValue_spaces {spaces : List Char} (h : AllSpaces spaces) (fuel : Nat) (cs : List Char) :
    readValue fuel (spaces ++ cs) = readValue fuel cs := by
  cases fuel with
  | zero => rfl
  | succ fuel => rw [readValue, readValue, skipSpaces_append h]

/-- Spaces before a member, a comma or the closing brace do not matter. -/
theorem readMembers_spaces {spaces : List Char} (h : AllSpaces spaces) (first : Bool) (fuel : Nat)
    (cs : List Char) : readMembers first fuel (spaces ++ cs) = readMembers first fuel cs := by
  cases fuel with
  | zero => rfl
  | succ fuel => rw [readMembers, readMembers, skipSpaces_append h]

/-- Spaces behind a comma do not matter. -/
theorem readMembers_comma {spaces : List Char} (h : AllSpaces spaces) (fuel : Nat)
    (cs : List Char) :
    readMembers false fuel (',' :: (spaces ++ cs)) = readMembers false fuel (',' :: cs) := by
  cases fuel with
  | zero => rfl
  | succ fuel =>
      rw [readMembers, readMembers, skipSpaces_cons (by decide), skipSpaces_cons (by decide)]
      simp only [Char.reduceEq, if_false, ne_eq, not_true_eq_false, and_false, Bool.false_eq_true,
        skipSpaces_append h]

/-! ## Members on lines of their own -/

/-- Texts by their keys, as the members of an object. -/
def textMembers (entries : List (String × String)) : List (String × Value) :=
  entries.map fun entry => (entry.1, .text entry.2)

/-- A text and its key, as they stand on a line. -/
def textLine (entry : String × String) : List Char := quote entry.1 ++ ':' :: ' ' :: quote entry.2

theorem indentedMembers_texts (level : Nat) (entries : List (String × String)) :
    indentedMembers level (textMembers entries) = entries.map textLine := by
  induction entries with
  | nil => rfl
  | cons entry rest ih =>
      show indentedMembers level ((entry.1, .text entry.2) :: textMembers rest) = _
      rw [indentedMembers, ih, Value.indented]
      rfl

/-- A line is read as one member, whether it is the first one or stands behind a comma. -/
theorem readMembers_line (first : Bool) (fuel : Nat) (entry : String × String)
    (rest : List Char) :
    readMembers first (fuel + 3) ((if first then [] else [',']) ++ (textLine entry ++ rest)) =
      let tail := readMembers false (fuel + 2) rest
      (.cons (.printed entry.1) (.text (.printed entry.2)) tail.1, tail.2) := by
  have hspace : AllSpaces [' '] := by
    intro c hc
    rw [List.mem_singleton.mp hc]
    rfl
  have hvalue : readValue (fuel + 1) (' ' :: quote entry.2 ++ rest) =
      (.text (.printed entry.2), rest) :=
    (readValue_spaces hspace (fuel + 1) _).trans (readValue_text fuel entry.2 rest)
  have hmember := readMembers_member first (fuel + 1) entry.1 (' ' :: quote entry.2 ++ rest)
  rw [hvalue] at hmember
  rw [textLine, List.append_assoc, List.cons_append]
  exact hmember

/-- The lines behind the first one are read up to the closing brace. -/
theorem readMembers_lines {spaces : List Char} (h : AllSpaces spaces) (last rest : List Char)
    (hlast : AllSpaces last) :
    ∀ (entries : List (String × String)) (fuel : Nat), entries.length + 2 ≤ fuel →
      readMembers false fuel
          ((entries.map textLine).flatMap ((',' :: spaces) ++ ·) ++ (last ++ '}' :: rest)) =
        (membersTree (textMembers entries), rest)
  | [], fuel, hfuel => by
      obtain ⟨fuel, rfl⟩ : ∃ k, fuel = k + 1 := ⟨fuel - 1, by simp at hfuel; omega⟩
      rw [List.map_nil, List.flatMap_nil, List.nil_append, readMembers_spaces hlast,
        readMembers_close]
      rfl
  | entry :: entries, fuel, hfuel => by
      obtain ⟨fuel, rfl⟩ : ∃ k, fuel = k + 3 := ⟨fuel - 3, by simp at hfuel; omega⟩
      have hline := readMembers_line false fuel entry
        ((entries.map textLine).flatMap ((',' :: spaces) ++ ·) ++ (last ++ '}' :: rest))
      rw [if_neg Bool.false_ne_true, List.singleton_append] at hline
      rw [List.map_cons, List.flatMap_cons, List.append_assoc, List.append_assoc,
        List.cons_append, readMembers_comma h, hline,
        readMembers_lines h last rest hlast entries (fuel + 2) (by simp at hfuel; omega)]
      rfl

/-! ## A whole page -/

/-- Every text has its line, at the least. -/
theorem length_le_lines (separator : List Char) (entries : List (String × String)) :
    entries.length ≤ ((entries.map textLine).flatMap (separator ++ ·)).length := by
  induction entries with
  | nil => exact Nat.le_refl 0
  | cons entry rest ih =>
      rw [List.map_cons, List.flatMap_cons, List.length_append, List.length_append, textLine,
        quote]
      simp only [List.length_cons, List.length_append]
      omega

theorem indented_texts (entry : String × String) (rest : List (String × String)) :
    (Value.object (textMembers (entry :: rest))).indented 0 =
      '{' :: (lineBreak 1 ++ (textLine entry ++
        ((rest.map textLine).flatMap ((',' :: lineBreak 1) ++ ·) ++
          (lineBreak 0 ++ '}' :: [])))) := by
  have hlines := indentedMembers_texts 1 (entry :: rest)
  show Value.indented 0 (.object ((entry.1, .text entry.2) :: textMembers rest)) = _
  rw [Value.indented]
  show '{' :: lineBreak 1 ++ separated (',' :: lineBreak 1)
    (indentedMembers 1 (textMembers (entry :: rest))) ++ lineBreak 0 ++ ['}'] = _
  rw [hlines, List.map_cons, separated_head]
  simp only [List.append_assoc, List.cons_append]

/-- **A printed page is read as the tree of its object.** -/
theorem read_page (entries : List (String × String)) :
    Tree.read (Value.object (textMembers entries)).toPage.toList =
      ((Value.object (textMembers entries)).tree, []) := by
  rw [Value.toPage, String.toList_ofList]
  cases entries with
  | nil => rfl
  | cons entry rest =>
      have hlen := length_le_lines (',' :: lineBreak 1) rest
      obtain ⟨fuel, hfuel, hrest⟩ :
          ∃ k, 2 * ((Value.object (textMembers (entry :: rest))).indented 0).length + 2 = k + 4 ∧
            rest.length ≤ k := by
        refine ⟨2 * ((Value.object (textMembers (entry :: rest))).indented 0).length - 2, ?_, ?_⟩
        all_goals
          rw [indented_texts]
          simp only [List.length_cons, List.length_append] at hlen ⊢
          omega
      have hfirst := readMembers_line true fuel entry
        ((rest.map textLine).flatMap ((',' :: lineBreak 1) ++ ·) ++ (lineBreak 0 ++ '}' :: []))
      rw [if_pos rfl, List.nil_append] at hfirst
      rw [Tree.read, hfuel, indented_texts, readValue_brace,
        readMembers_spaces (allSpaces_lineBreak 1), hfirst,
        readMembers_lines (allSpaces_lineBreak 1) (lineBreak 0) [] (allSpaces_lineBreak 0) rest
          (fuel + 2) (by omega)]
      rfl

end InAppMessaging.Json
