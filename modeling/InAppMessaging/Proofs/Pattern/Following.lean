import InAppMessaging.Proofs.Pattern.Steps

/-!
# Reading on into what is pasted behind

A rule is pasted as text between anchors, and the reader that comes to the end of the rule goes
on into the `)$` behind it.  Each part of the reader either reads the same with that text left
over, or comes to an end in a remark that hides it, or fails on the rule alone and takes the
bracket for something else (`Follows`).

* `readEscape_append` — an escape may take the bracket, or leave a brace over that no bounds follow;
* `readRange_append` — an item of a class may run into the closing, and then the class has no end;
* `readClass_append` — **a class never ends behind the rule**.
-/

namespace InAppMessaging.Pattern

open Text

/-- What is pasted behind a rule. -/
def closing : List Char := [')', '$']

section

variable {ρ σ : Type} [Leaves ρ] [Leaves σ]

/-- With the closing behind the text a reader leaves it over, or fails on the text alone and
leaves an end of `t` at most. -/
def Overruns (t : List Char) (own pasted : Option ρ) : Prop :=
  pasted = own.map (andAlso · closing) ∨ own = none ∧ LeavesEnd t pasted

/-- With the closing behind the text a reader that cannot fail leaves it over, or it stands in a
remark. -/
def LeavesOver (own pasted : ρ) : Prop :=
  pasted = andAlso own closing ∨ left own = [] ∧ pasted = own

/-- A reading with the closing behind the text, next to the reading of the text alone. -/
inductive Follows : Option ρ → Option ρ → Prop
  /-- The closing is left over. -/
  | same (own : Option ρ) : Follows own (own.map (andAlso · closing))
  /-- The text alone makes no sense, but it does with the bracket that closes. -/
  | overrun {r : ρ} (h : left r <:+ ['$']) : Follows none (some r)
  /-- The closing stands in a remark. -/
  | remark {r : ρ} (h : left r = []) : Follows (some r) (some r)

theorem Follows.of_eq {own pasted : Option ρ} (h : pasted = own.map (andAlso · closing)) :
    Follows own pasted := h ▸ .same own

theorem Overruns.follows {own pasted : Option ρ} (h : Overruns ['$'] own pasted) :
    Follows own pasted := by
  obtain h | ⟨rfl, h⟩ := h
  · exact .of_eq h
  · cases pasted with
    | none => exact .same none
    | some r => exact .overrun (h r rfl)

theorem Overruns.mono {t t' : List Char} {own pasted : Option ρ} (h : Overruns t own pasted)
    (ht : t <:+ t') : Overruns t' own pasted := h.imp_right fun h => ⟨h.1, h.2.mono ht⟩

theorem Overruns.map {t : List Char} {own pasted : Option ρ} (h : Overruns t own pasted)
    {f : ρ → σ} (hsame : ∀ r, f (andAlso r closing) = andAlso (f r) closing)
    (hleft : ∀ r, left (f r) = left r) : Overruns t (own.map f) (pasted.map f) := by
  obtain rfl | ⟨rfl, h⟩ := h
  · left
    cases own with
    | none => rfl
    | some r => exact congrArg some (hsame r)
  · exact .inr ⟨rfl, h.map fun r => hleft r ▸ List.suffix_refl _⟩

theorem Follows.bind {own pasted : Option ρ} {k k' : ρ → Option σ} (h : Follows own pasted)
    (hsame : ∀ r, own = some r → Follows (k r) (k' (andAlso r closing)))
    (hoverrun : ∀ r, left r <:+ ['$'] → Follows none (k' r))
    (hremark : ∀ r, left r = [] → Follows (k r) (k' r)) :
    Follows (own.bind k) (pasted.bind k') := by
  cases h with
  | same =>
      cases own with
      | none => exact .same none
      | some r => exact hsame r rfl
  | overrun h => exact hoverrun _ h
  | remark h => exact hremark _ h

end

section

variable {α β : Type} (f : α → Option β)

theorem made_append (own : Option (α × List Char)) :
    made f (own.map (andAlso · closing)) = (made f own).map (andAlso · closing) := by
  cases own with
  | none => rfl
  | some r =>
      change (f r.1).map (·, r.2 ++ closing) = ((f r.1).map (·, r.2)).map (andAlso · closing)
      cases f r.1 <;> rfl

theorem Overruns.made {t : List Char} {own pasted : Option (α × List Char)}
    (h : Overruns t own pasted) : Overruns t (made f own) (made f pasted) := by
  obtain rfl | ⟨rfl, h⟩ := h
  · exact .inl (made_append f own)
  · exact .inr ⟨rfl, h.made f⟩

end

/-! ## Blanks and remarks -/

variable {modes : Modes}

theorem skipRemarks_append (remark : Bool) (cs : List Char) :
    skipRemarks remark (cs ++ closing) = skipRemarks remark cs ++ closing ∨
      skipRemarks remark cs = [] ∧ skipRemarks remark (cs ++ closing) = [] := by
  induction cs generalizing remark with
  | nil => cases remark <;> decide
  | cons c cs ih =>
      cases remark with
      | true => exact ih _
      | false =>
          simp only [List.cons_append, skipRemarks]
          split
          · exact ih false
          split
          · exact ih true
          · exact .inl rfl

/-- Behind what is skipped the closing is left over, unless it is skipped too. -/
theorem skip_append (modes : Modes) (cs : List Char) :
    modes.skip (cs ++ closing) = modes.skip cs ++ closing ∨
      modes.skip cs = [] ∧ modes.skip (cs ++ closing) = [] := by
  unfold Modes.skip
  split
  · exact skipRemarks_append false cs
  · exact .inl rfl

@[simp] theorem skip_nil (modes : Modes) : modes.skip [] = [] := by
  cases h : modes.verbose <;> simp [Modes.skip, skipRemarks, h]

@[simp] theorem skip_closing (modes : Modes) : modes.skip closing = closing := by
  cases h : modes.verbose <;> simp only [Modes.skip, h] <;> decide

theorem dropBlanks_append (cs : List Char) :
    (cs ++ closing).dropWhile isBlank = cs.dropWhile isBlank ++ closing := by
  induction cs with
  | nil => decide
  | cons c cs ih =>
      simp only [List.cons_append, List.dropWhile_cons, ih]
      split <;> rfl

/-! ## Tokens -/

variable {cs : List Char}

theorem readHexDigits_append (count n : Nat) :
    readHexDigits modes count n (cs ++ closing) =
      (readHexDigits modes count n cs).map (andAlso · closing) := by
  induction count generalizing n cs with
  | zero => rfl
  | succ count ih =>
      obtain h | ⟨h, h'⟩ := skip_append modes cs
      · simp only [readHexDigits, h]
        cases modes.skip cs with
        | nil => rfl
        | cons c rest =>
            simp only [List.cons_append, Option.bind_eq_bind, Option.map_bind]
            exact Option.bind_congr fun d _ => ih _
      · simp [readHexDigits, h, h']

theorem readBraced_append (remark : Bool) :
    readBraced modes remark (cs ++ closing) =
      (readBraced modes remark cs).map (andAlso · closing) := by
  induction cs generalizing remark with
  | nil => cases remark <;> simp [readBraced, closing] 
  | cons c cs ih =>
      cases remark with
      | true => exact ih _
      | false =>
          simp only [List.cons_append, readBraced]
          split
          · exact ih false
          split
          · exact ih true
          split
          · rfl
          · simp only [ih, Option.map_map]
            rfl

/-- A number that is asked for has a digit at least. -/
theorem readHexDigits_nil (count n : Nat) : readHexDigits modes (count + 1) n [] = none := by
  rw [readHexDigits, skip_nil]

/-- The character of a number in braces. -/
def bracedChar? (digits : List Char) : Option Atom :=
  (digits.foldlM (fun n c => (Json.hexValue? c).map (n * 16 + ·)) 0).bind fun n =>
    if digits.isEmpty then none else (charOf? n).map (.literal · false)

theorem readHex_brace {count : Nat} {rest : List Char} (h : modes.skip cs = '\x7b' :: rest) :
    readHex modes count cs = made bracedChar? (readBraced modes false rest) := by
  unfold readHex
  rw [h]
  refine Option.bind_congr fun r _ => ?_
  unfold bracedChar?
  rw [Option.map_bind]
  refine Option.bind_congr fun n _ => ?_
  simp only [Function.comp]
  split
  · rfl
  · cases charOf? n <;> rfl

theorem readHex_digits {count : Nat} (h : (modes.skip cs).head? ≠ some '\x7b') :
    readHex modes count cs =
      made (fun n => (charOf? n).map (.literal · (count = 2)))
        (readHexDigits modes count 0 (modes.skip cs)) := by
  unfold readHex
  split
  · next rest heq => simp [heq] at h
  · refine Option.bind_congr fun r _ => ?_
    obtain ⟨n, rest⟩ := r
    dsimp only
    cases charOf? n <;> rfl

theorem readHex_append (count : Nat) :
    readHex modes (count + 1) (cs ++ closing) =
      (readHex modes (count + 1) cs).map (andAlso · closing) := by
  obtain h | ⟨h, h'⟩ := skip_append modes cs
  · cases hstart : modes.skip cs with
    | nil =>
        rw [hstart] at h
        rw [readHex_digits (by simp [h]; decide), readHex_digits (by simp [hstart]), h, hstart,
          readHexDigits_append, made_append]
    | cons c rest =>
        rw [hstart, List.cons_append] at h
        by_cases hbrace : c = '\x7b'
        · subst hbrace
          rw [readHex_brace hstart, readHex_brace h, readBraced_append, made_append]
        · rw [readHex_digits (by simp [h, hbrace]), readHex_digits (by simp [hstart, hbrace]), h,
            hstart, ← List.cons_append, readHexDigits_append, made_append]
  · rw [readHex_digits (by simp [h']), readHex_digits (by simp [h]), h, h', readHexDigits_nil]
    rfl

/-- The closing holds no mark that a text is split at. -/
theorem splitAt?_append {c : Char} (hc : c ∉ closing) (cs : List Char) :
    splitAt? [c] (cs ++ closing) = (splitAt? [c] cs).map (andAlso · closing) := by
  induction cs with
  | nil =>
      simp only [closing, List.mem_cons, List.not_mem_nil, or_false, not_or] at hc
      simp [splitAt?, closing, hc]
  | cons d cs ih =>
      simp only [List.cons_append, splitAt?, ih]
      by_cases h : c = d
      · simp [h]
      · have hother (more : List Char) : [c].isPrefixOf (d :: more) = false := by
          simp [List.isPrefixOf, h]
        simp only [hother, Bool.false_eq_true, if_false, Option.map_map]
        rfl

theorem writtenProperty?_overruns :
    Overruns ['$'] (writtenProperty? modes cs) (writtenProperty? modes (cs ++ closing)) := by
  obtain h | ⟨h, h'⟩ := skip_append modes cs
  · simp only [writtenProperty?, h]
    cases modes.skip cs with
    | nil => exact .inr ⟨rfl, .some (List.suffix_refl _)⟩
    | cons c rest =>
        left
        simp only [List.cons_append]
        by_cases hslash : c = '\\'
        · subst hslash
          rfl
        by_cases hbrace : c = '\x7b'
        · subst hbrace
          exact readBraced_append false
        · rw [if_neg hslash, if_neg hbrace, if_neg hslash, if_neg hbrace]
          rfl
  · simp only [writtenProperty?, h, h']
    exact .inl rfl

theorem readProperty_overruns (negated : Bool) :
    Overruns ['$'] (readProperty modes negated cs)
      (readProperty modes negated (cs ++ closing)) := by
  have hmade (cs : List Char) : readProperty modes negated cs =
      if modes.unicode then
        made (fun written => (propertyOf? written).bind fun p =>
          (modes.finish? (negated != p.2) p.1).map Atom.set) (writtenProperty? modes cs)
      else none := by
    rw [readProperty_eq]
    split
    · refine Option.bind_congr fun r _ => ?_
      rw [Option.map_bind]
      refine Option.bind_congr fun p _ => ?_
      rw [Function.comp, Option.map_map]
      rfl
    · rfl
  rw [hmade, hmade]
  split
  · exact writtenProperty?_overruns.made _
  · exact .inl rfl

/-- The edge of a word that a name stands for. -/
def edge? : String → Option WordEdge
  | "start" => some .start
  | "end" => some .finish
  | "start-half" => some .startHalf
  | "end-half" => some .finishHalf
  | _ => none

theorem readWordEdge_plain (h : cs.head? ≠ some '\x7b') :
    readWordEdge modes cs = some (.either, cs) := by
  unfold readWordEdge
  split
  · simp at h
  · rfl

theorem readWordEdge_brace (rest : List Char) :
    readWordEdge modes ('\x7b' :: rest) =
      match modes.skip rest with
      | [] => none
      | c :: start =>
          if c.isAlpha || c = '-' then
            made (fun name => edge? (String.ofList name)) (readBraced modes false (c :: start))
          else some (.either, '\x7b' :: rest) := by
  unfold readWordEdge
  simp only
  cases modes.skip rest with
  | nil => rfl
  | cons c start =>
      simp only
      split
      · refine Option.bind_congr fun r _ => ?_
        unfold edge?
        split <;> simp_all
      · rfl

/-- With nothing but blanks behind it, a brace behind `\\b` is left over if the closing follows,
and the reader has read `a`; without it the reader waits for a name. -/
def LeavesBrace (modes : Modes) {α : Type} (a : α) (own pasted : Option (α × List Char)) : Prop :=
  own = none ∧ ∃ more, pasted = some (a, '\x7b' :: more) ∧ modes.skip more = closing

theorem LeavesBrace.made {α β : Type} {a : α} {b : β} {own pasted : Option (α × List Char)}
    (h : LeavesBrace modes a own pasted) {f : α → Option β} (hf : f a = some b) :
    LeavesBrace modes b (made f own) (made f pasted) := by
  obtain ⟨rfl, more, rfl, hmore⟩ := h
  exact ⟨rfl, more, by rw [made_some, hf, Option.map_some], hmore⟩

theorem readWordEdge_append :
    readWordEdge modes (cs ++ closing) = (readWordEdge modes cs).map (andAlso · closing) ∨
      LeavesBrace modes .either (readWordEdge modes cs) (readWordEdge modes (cs ++ closing)) := by
  cases cs with
  | nil => exact .inl rfl
  | cons c rest =>
      by_cases hbrace : c = '\x7b'
      · subst hbrace
        rw [List.cons_append, readWordEdge_brace, readWordEdge_brace]
        obtain h | ⟨h, h'⟩ := skip_append modes rest
        · rw [h]
          cases hstart : modes.skip rest with
          | nil =>
              rw [hstart] at h
              exact .inr ⟨rfl, rest ++ closing, rfl, h⟩
          | cons c start =>
              left
              simp only [List.cons_append]
              split
              · rw [← List.cons_append, readBraced_append, made_append]
              · rfl
        · rw [h, h']
          exact .inl rfl
      · rw [List.cons_append, readWordEdge_plain (by simpa using hbrace),
          readWordEdge_plain (by simpa using hbrace)]
        exact .inl rfl

/-- The escapes that read on behind their letter. -/
def longEscapes : List Char := ['x', 'u', 'U', 'p', 'P', 'b']

/-- What a letter alone stands for behind a backslash. -/
def escaped? (modes : Modes) (c : Char) : Option Atom := (readEscape modes [c]).map (·.1)

theorem readEscape_short {c : Char} (hc : c ∉ longEscapes) (cs : List Char) :
    readEscape modes (c :: cs) = (escaped? modes c).map (·, cs) := by
  simp only [longEscapes, List.mem_cons, List.not_mem_nil, or_false, not_or] at hc
  unfold escaped? readEscape
  simp only
  split
  all_goals first
    | simp at hc; done
    | rfl
    | simp only [Option.map_map]; rfl
    | skip
  split <;> rfl

theorem readEscape_edge (cs : List Char) :
    readEscape modes ('b' :: cs) =
      made (fun edge => some (.place (.word edge (!modes.unicode)))) (readWordEdge modes cs) := by
  change (readWordEdge modes cs).map _ = _
  rw [Option.map_eq_bind]
  rfl

/-- The bracket that closes may stand behind a backslash for itself. -/
theorem readEscape_closing : readEscape modes closing = some (.literal ')' false, ['$']) := rfl

/-- What follows a backslash reads the bracket that closes for itself or for a property, or
leaves a brace over. -/
theorem readEscape_append (modes : Modes) (cs : List Char) :
    Overruns ['$'] (readEscape modes cs) (readEscape modes (cs ++ closing)) ∨
      ∃ l, LeavesBrace modes (.place l) (readEscape modes cs)
        (readEscape modes (cs ++ closing)) := by
  cases cs with
  | nil =>
      rw [List.nil_append, readEscape_closing]
      exact .inl (.inr ⟨rfl, .some (List.suffix_refl _)⟩)
  | cons c cs =>
      rw [List.cons_append]
      by_cases hlong : c ∈ longEscapes
      · simp only [longEscapes, List.mem_cons, List.not_mem_nil, or_false] at hlong
        obtain rfl | rfl | rfl | rfl | rfl | rfl := hlong
        · exact .inl (.inl (readHex_append 1))
        · exact .inl (.inl (readHex_append 3))
        · exact .inl (.inl (readHex_append 7))
        · exact .inl (readProperty_overruns false)
        · exact .inl (readProperty_overruns true)
        · rw [readEscape_edge, readEscape_edge]
          refine readWordEdge_append.imp (fun h => .inl ?_) fun h => ⟨_, h.made rfl⟩
          rw [h, made_append]
      · rw [readEscape_short hlong, readEscape_short hlong]
        left
        left
        cases escaped? modes c <;> rfl

/-! ## Classes -/

theorem readMember_append (modes : Modes) (cs : List Char) :
    Overruns ['$'] (readMember modes cs) (readMember modes (cs ++ closing)) ∨
      ∃ l, LeavesBrace modes (.place l) (readMember modes cs)
        (readMember modes (cs ++ closing)) := by
  cases cs with
  | nil => exact .inl (.inr ⟨rfl, .some (List.suffix_refl _)⟩)
  | cons c cs =>
      by_cases hslash : c = '\\'
      · subst hslash
        exact readEscape_append modes cs
      · have hself (cs : List Char) :
            readMember modes (c :: cs) = some (.literal c false, cs) := by
          unfold readMember
          split <;> simp_all
        rw [List.cons_append, hself, hself]
        exact .inl (.inl rfl)

theorem head?_append_closing {c : Char} (hc : c ∉ closing) :
    (cs ++ closing).head? = some c ↔ cs.head? = some c := by
  cases cs with
  | nil =>
      simp only [closing, List.mem_cons, List.not_mem_nil, or_false, not_or] at hc
      simpa [closing] using Ne.symm hc.1
  | cons d cs => rfl

/-- The closing behind a dash makes neither a bracket nor a dash of the next character. -/
theorem peek?_append {c : Char} (hc : c ∉ closing) :
    modes.peek? (cs ++ closing) = some c ↔ modes.peek? cs = some c := by
  unfold Modes.peek?
  split
  · rw [dropBlanks_append]
    generalize cs.dropWhile isBlank = start
    cases start with
    | nil =>
        change ([] ++ closing).head? = some c ↔ ([] : List Char).head? = some c
        exact head?_append_closing hc
    | cons d rest =>
        by_cases hd : d = '#'
        · subst hd
          simp only [List.cons_append, dropBlanks_append]
          exact head?_append_closing hc
        · rw [List.cons_append]
          split <;> split <;> simp_all
  · exact head?_append_closing hc

/-- A place is no item of a class. -/
theorem readItem_place (l : Look) (cs : List Char) : readItem modes (.place l) cs = none := by
  unfold readItem
  split
  · rfl
  · split
    · rw [made]
      simp [Atom.to?, Atom.char?]
    · rfl

/-- The end of a range. -/
theorem readTo_append (first : Atom) (more : List Char) :
    Overruns closing (made (first.to? modes) (readMember modes (modes.skip more)))
      (made (first.to? modes) (readMember modes (modes.skip (more ++ closing)))) := by
  obtain h | ⟨h, h'⟩ := skip_append modes more
  · rw [h]
    obtain hlast | ⟨l, hown, last, hpasted, -⟩ :=
      readMember_append modes (modes.skip more)
    · exact (hlast.made _).mono (List.suffix_cons _ _)
    · rw [hown, hpasted, made_some]
      exact .inr ⟨rfl, by simp [Atom.to?, Atom.char?, LeavesEnd]⟩
  · rw [h, h']
    exact .inl rfl

theorem readItem_append (first : Atom) :
    Overruns closing (readItem modes first cs) (readItem modes first (cs ++ closing)) := by
  obtain h | ⟨h, h'⟩ := skip_append modes cs
  · cases hstart : modes.skip cs with
    | nil =>
        have hown : readItem modes first cs = none := by rw [readItem, hstart]
        have hpasted : readItem modes first (cs ++ closing) = readItem modes first closing := by
          simp only [readItem, h, hstart, List.nil_append, skip_closing]
        rw [hown, hpasted]
        exact .inr ⟨rfl, readItem_suffix first⟩
    | cons c more =>
        simp only [readItem, h, hstart, List.cons_append, peek?_append (c := ']') (by decide),
          peek?_append (c := '-') (by decide)]
        split
        · exact readTo_append first more
        · left
          cases first.item? modes <;> rfl
  · simp only [readItem, h, h']
    exact .inl rfl

theorem readRange_append (modes : Modes) (cs : List Char) :
    Overruns closing (readRange modes cs) (readRange modes (cs ++ closing)) := by
  rw [readRange_eq, readRange_eq]
  -- The first token is read in the same way, or runs into the closing, or is no item at all.
  obtain (h | ⟨hown, hpasted⟩) | ⟨l, hown, more, hpasted, -⟩ := readMember_append modes cs
  · rw [h]
    cases readMember modes cs with
    | none => exact .inl rfl
    | some r => exact readItem_append r.1
  · rw [hown]
    exact .inr ⟨rfl, (hpasted.bind fun r _ => readItem_suffix r.1).mono (List.suffix_cons _ _)⟩
  · rw [hown, hpasted]
    exact .inr ⟨rfl, by rw [Option.bind_some, readItem_place]; exact .none⟩

/-- The name of a class without the caret that negates it. -/
theorem withoutCaret_append (body : List Char) :
    (if body.head? = some '^' then (body ++ closing).tail else body ++ closing) =
      (if body.head? = some '^' then body.tail else body) ++ closing := by
  split
  · next h =>
      obtain ⟨more, rfl⟩ := List.head?_eq_some_iff.mp h
      rfl
  · rfl

theorem readNamed_append :
    readNamed modes (cs ++ closing) = (readNamed modes cs).map (andAlso · closing) := by
  rw [readNamed_eq, readNamed_eq]
  cases cs with
  | nil => rfl
  | cons c body =>
      by_cases hcolon : c = ':'
      · subst hcolon
        simp only [List.cons_append, head?_append_closing (c := '^') (by decide)]
        rw [withoutCaret_append, splitAt?_append (by decide), Option.bind_map, Option.map_bind]
        refine Option.bind_congr fun r _ => ?_
        obtain ⟨name, rest⟩ := r
        cases rest with
        | nil => rfl
        | cons d rest =>
            by_cases hclose : d = ']'
            · subst hclose
              simp only [Function.comp, andAlso_pair, andAlso_text, List.cons_append,
                Option.map_map]
              rfl
            · simp only [Function.comp, andAlso_pair, andAlso_text, List.cons_append]
              split <;> split <;> simp_all
      · split <;> split <;> simp_all

theorem operation?_append (cs : List Char) :
    operation? (cs ++ closing) = (operation? cs).map (andAlso · closing) := by
  match cs with
  | [] => rfl
  | [c] =>
      unfold operation?
      split <;> simp_all [closing]
  | c :: d :: more =>
      unfold operation?
      split <;> split <;> simp_all

section

variable {negated : Bool} {m : Members} {fuel fuel' : Nat}

theorem dashes_close (rest : List Char) :
    readOpening.dashes modes negated m fuel (']' :: rest) =
      if m.count = 0 then (negated, m.add (.single ']') 0, modes.skip rest)
      else (negated, m, ']' :: rest) := by
  cases fuel <;> rfl

theorem dashes_stop (h : cs.head? ≠ some '-' ∧ cs.head? ≠ some ']') :
    readOpening.dashes modes negated m fuel cs = (negated, m, cs) := by
  unfold readOpening.dashes
  split <;> simp_all

theorem dashes_stop_append (h : cs.head? ≠ some '-' ∧ cs.head? ≠ some ']') :
    LeavesOver (readOpening.dashes modes negated m fuel cs)
      (readOpening.dashes modes negated m fuel' (cs ++ closing)) := by
  have hpasted : (cs ++ closing).head? ≠ some '-' ∧ (cs ++ closing).head? ≠ some ']' :=
    ⟨mt (head?_append_closing (by decide)).mp h.1, mt (head?_append_closing (by decide)).mp h.2⟩
  rw [dashes_stop h, dashes_stop hpasted]
  exact .inl rfl

theorem dashes_append (hfuel : cs.length ≤ fuel) (hfuel' : (cs ++ closing).length ≤ fuel') :
    LeavesOver (readOpening.dashes modes negated m fuel cs)
      (readOpening.dashes modes negated m fuel' (cs ++ closing)) := by
  induction fuel generalizing m cs fuel' with
  | zero =>
      obtain rfl := List.length_eq_zero_iff.mp (Nat.le_zero.mp hfuel)
      exact dashes_stop_append (by simp)
  | succ fuel ih =>
      cases cs with
      | nil => exact dashes_stop_append (by simp)
      | cons c rest =>
          obtain ⟨fuel', rfl⟩ := Nat.exists_eq_succ_of_ne_zero
            (Nat.ne_of_gt (Nat.lt_of_lt_of_le (by simp) hfuel'))
          simp only [List.length_cons, List.cons_append, Nat.succ_le_succ_iff] at hfuel hfuel'
          have hrest := (skip_suffix modes rest).length_le
          have hrest' := (skip_suffix modes (rest ++ closing)).length_le
          by_cases hdash : c = '-'
          · subst hdash
            change LeavesOver
              (readOpening.dashes modes negated (m.add (.single '-') 0) fuel (modes.skip rest))
              (readOpening.dashes modes negated (m.add (.single '-') 0) fuel'
                (modes.skip (rest ++ closing)))
            obtain h | ⟨h, h'⟩ := skip_append modes rest
            · rw [h] at hrest' ⊢
              exact ih (by omega) (by omega)
            · rw [h, h', dashes_stop (by simp), dashes_stop (by simp)]
              exact .inr ⟨rfl, rfl⟩
          by_cases hclose : c = ']'
          · subst hclose
            rw [List.cons_append, dashes_close, dashes_close]
            split
            · obtain h | ⟨h, h'⟩ := skip_append modes rest
              · rw [h]
                exact .inl rfl
              · rw [h, h']
                exact .inr ⟨rfl, rfl⟩
            · exact .inl rfl
          · exact dashes_stop_append (by simp [hdash, hclose])

end

theorem readOpening_append (modes : Modes) (cs : List Char) :
    LeavesOver (readOpening modes cs) (readOpening modes (cs ++ closing)) := by
  unfold readOpening
  simp only
  obtain h | ⟨h, h'⟩ := skip_append modes cs
  · rw [h]
    generalize modes.skip cs = start
    simp only [head?_append_closing (c := '^') (by decide)]
    by_cases hcaret : start.head? = some '^'
    · obtain ⟨more, rfl⟩ := List.head?_eq_some_iff.mp hcaret
      simp only [hcaret, if_true, List.cons_append, List.tail_cons]
      obtain h | ⟨h, h'⟩ := skip_append modes more
      · rw [h]
        exact dashes_append (Nat.le_refl _) (Nat.le_refl _)
      · rw [h, h']
        exact .inr ⟨rfl, rfl⟩
    · simp only [hcaret, if_false]
      exact dashes_append (Nat.le_refl _) (Nat.le_refl _)
  · simp only [h, h']
    exact .inr ⟨rfl, rfl⟩

section

variable {negated : Bool} {m : Members} {pending : Option Pending} {fuel fuel' : Nat}
  {text : List Char}

/-- A class needs a bracket that closes it. -/
theorem readClass_unclosed (h : ']' ∉ modes.skip text) :
    readClass modes fuel negated m pending text = none := by
  have hbehind {rest : List Char} (hrest : rest <:+ modes.skip text) : ']' ∉ modes.skip rest :=
    fun hmem => h (hrest.subset ((skip_suffix modes rest).subset hmem))
  induction fuel generalizing negated m pending text with
  | zero => rfl
  | succ fuel ih =>
      have hstep {negated : Bool} {m : Members} {pending : Option Pending} {rest : List Char}
          (hrest : rest <:+ modes.skip text) :
          readClass modes fuel negated m pending rest = none :=
        ih (hbehind hrest) fun hend => hbehind (hend.trans ((skip_suffix modes rest).trans hrest))
      generalize hstart : modes.skip text = start at h hstep
      cases nextInClass start with
      | nothing => exact readClass_end hstart
      | close more => exact absurd List.mem_cons_self h
      | inner more =>
          have hmore := List.suffix_cons '[' more
          rw [readClass_open hstart]
          cases hnamed : readNamed modes more with
          | some r =>
              refine Option.bind_eq_none_iff.mpr fun s _ => ?_
              exact hstep ((readNamed_suffix r hnamed).trans hmore)
          | none =>
              simp only
              rw [hstep (readOpening_suffix.trans hmore)]
              rfl
      | @operate c op more hop =>
          rw [readClass_operate (hstart ▸ hop)]
          exact hstep ((List.suffix_cons c more).trans (List.suffix_cons c _))
      | @item c hc more hop =>
          rw [readClass_item hstart hc hop]
          refine Option.bind_eq_none_iff.mpr fun r hr => ?_
          exact hstep ((readRange_suffix c r hr).trans (List.suffix_cons c more))

/-- **A class reads the same whatever follows the rule.** -/
theorem readClass_append (hfuel : text.length < fuel) (hfuel' : (text ++ closing).length < fuel') :
    readClass modes fuel' negated m pending (text ++ closing) =
      (readClass modes fuel negated m pending text).map (andAlso · closing) := by
  induction fuel generalizing fuel' negated m pending text with
  | zero => cases hfuel
  | succ fuel ih =>
      obtain ⟨fuel', rfl⟩ := Nat.exists_eq_succ_of_ne_zero (Nat.ne_zero_of_lt hfuel')
      obtain h | ⟨h, h'⟩ := skip_append modes text
      · generalize hstart : modes.skip text = start at h
        have hstep {negated : Bool} {m : Members} {pending : Option Pending} {c : Char}
            {more rest : List Char} (hmore : c :: more = start) (hrest : rest <:+ more) :
            readClass modes fuel' negated m pending (rest ++ closing) =
              (readClass modes fuel negated m pending rest).map (andAlso · closing) := by
          have hlength := (hstart ▸ skip_suffix modes text).length_le
          have hlength' := hrest.length_le
          simp only [← hmore, List.length_cons, List.length_append] at hlength hfuel'
          exact ih (by omega) (by simp only [List.length_append]; omega)
        cases nextInClass start with
        | nothing =>
            -- What the rule leaves open the closing does not close.
            rw [readClass_end hstart, readClass_unclosed (by rw [h]; decide)]
            rfl
        | close more =>
            rw [readClass_close h, readClass_close hstart, Option.map_map]
            rfl
        | inner more =>
            rw [List.cons_append] at h
            rw [readClass_open h, readClass_open hstart, readNamed_append]
            cases hnamed : readNamed modes more with
            | some r =>
                simp only [Option.map_some, Option.map_bind]
                refine Option.bind_congr fun s _ => ?_
                exact hstep rfl (readNamed_suffix r hnamed)
            | none =>
                simp only [Option.map_none]
                obtain hbody | ⟨hbody, hbody'⟩ := readOpening_append modes more
                · rw [hbody]
                  change (readClass modes fuel' (readOpening modes more).1
                    (readOpening modes more).2.1 none
                    ((readOpening modes more).2.2 ++ closing)).bind _ = _
                  rw [hstep rfl readOpening_suffix, Option.bind_map, Option.map_bind]
                  refine Option.bind_congr fun r hr => ?_
                  exact hstep rfl ((readClass_suffix r hr).trans readOpening_suffix)
                · have hend : modes.skip (readOpening modes more).2.2 = [] := by
                    rw [show (readOpening modes more).2.2 = [] from hbody, skip_nil]
                  rw [hbody', readClass_end hend, readClass_end hend]
                  rfl
        | @operate c op more hop =>
            have hop' := operation?_append (c :: c :: more)
            rw [hop] at hop'
            rw [readClass_operate (h ▸ hop'), readClass_operate (hstart ▸ hop)]
            exact hstep rfl (List.suffix_cons c more)
        | @item c hc more hop =>
            have hop' := operation?_append (c :: more)
            rw [hop, List.cons_append] at hop'
            rw [List.cons_append] at h
            rw [readClass_item h hc hop', readClass_item hstart hc hop]
            obtain hrange | ⟨hown, hpasted⟩ := readRange_append modes (c :: more)
            · rw [← List.cons_append, hrange, Option.bind_map, Option.map_bind]
              refine Option.bind_congr fun r hr => ?_
              exact hstep rfl (readRange_suffix c r hr)
            · -- An item that runs into the closing leaves no bracket to end the class.
              rw [← List.cons_append, hown]
              refine Option.bind_eq_none_iff.mpr fun r hr => readClass_unclosed fun hmem => ?_
              have hleft := (skip_suffix modes _).trans (hpasted r hr)
              exact absurd (hleft.subset hmem) (by decide)
      · rw [readClass_end h, readClass_end h']
        rfl

end

end InAppMessaging.Pattern
