import InAppMessaging.Pattern.Reader

/-!
# What a reader leaves

Each part of the reader of patterns returns what it read and the text behind that.  The text it
leaves is always an end of the text it was given, and those that read a token leave less.

* `readEscape_suffix`, `readRange_suffix`, `readClass_suffix`, `readToken_suffix` — each leaves an
  end of its text.
-/

namespace InAppMessaging.Pattern

open Text

/-- A result of a reader, with the text it leaves and with more text behind that. -/
class Leaves (ρ : Type) where
  left : ρ → List Char
  andAlso : ρ → List Char → ρ
  left_andAlso : ∀ r t, left (andAlso r t) = left r ++ t

export Leaves (left andAlso left_andAlso)

instance : Leaves (List Char) := ⟨id, (· ++ ·), fun _ _ => rfl⟩

instance {α ρ : Type} [Leaves ρ] : Leaves (α × ρ) where
  left r := left r.2
  andAlso r t := (r.1, andAlso r.2 t)
  left_andAlso r := left_andAlso r.2

@[simp] theorem left_text (cs : List Char) : left cs = cs := rfl

@[simp] theorem left_pair {α ρ : Type} [Leaves ρ] (a : α) (r : ρ) : left (a, r) = left r := rfl

@[simp] theorem andAlso_text (cs t : List Char) : andAlso cs t = cs ++ t := rfl

@[simp] theorem andAlso_pair {α ρ : Type} [Leaves ρ] (a : α) (r : ρ) (t : List Char) :
    andAlso (a, r) t = (a, andAlso r t) := rfl

/-- Whatever is read from a text, an end of that text is left. -/
def LeavesEnd {ρ : Type} [Leaves ρ] (cs : List Char) (result : Option ρ) : Prop :=
  ∀ r, result = some r → left r <:+ cs

section

variable {ρ σ : Type} [Leaves ρ] [Leaves σ] {cs ds : List Char}

theorem LeavesEnd.none : LeavesEnd cs (Option.none : Option ρ) := nofun

theorem LeavesEnd.some {r : ρ} (h : left r <:+ cs) : LeavesEnd cs (Option.some r) :=
  fun _ hr => Option.some.inj hr ▸ h

theorem LeavesEnd.mono {result : Option ρ} (h : LeavesEnd ds result) (hd : ds <:+ cs) :
    LeavesEnd cs result := fun r hr => (h r hr).trans hd

theorem LeavesEnd.map {result : Option ρ} (h : LeavesEnd cs result) {f : ρ → σ}
    (hf : ∀ r, left (f r) <:+ left r) : LeavesEnd cs (result.map f) := by
  intro s hs
  obtain ⟨r, hr, rfl⟩ := Option.map_eq_some_iff.mp hs
  exact (hf r).trans (h r hr)

theorem LeavesEnd.bind {result : Option ρ} (h : LeavesEnd cs result) {k : ρ → Option σ}
    (hk : ∀ r, left r <:+ cs → LeavesEnd (left r) (k r)) : LeavesEnd cs (result.bind k) := by
  intro s hs
  obtain ⟨r, hr, hs⟩ := Option.bind_eq_some_iff.mp hs
  exact (hk r (h r hr) s hs).trans (h r hr)

/-- Makes something else of what was read; no text is taken for it. -/
def made {α β : Type} (f : α → Option β) (own : Option (α × List Char)) :
    Option (β × List Char) := own.bind fun r => (f r.1).map (·, r.2)

theorem made_some {α β : Type} (f : α → Option β) (a : α) (cs : List Char) :
    made f (some (a, cs)) = (f a).map (·, cs) := rfl

theorem LeavesEnd.made {α β : Type} {own : Option (α × List Char)} (h : LeavesEnd cs own)
    (f : α → Option β) : LeavesEnd cs (made f own) := by
  refine h.bind fun r _ s hs => ?_
  obtain ⟨b, -, rfl⟩ := Option.map_eq_some_iff.mp hs
  exact List.suffix_refl r.2

/-- What is decided on the way takes no text. -/
theorem LeavesEnd.decided {α : Type} {decision : Option α} {k : α → Option σ}
    (hk : ∀ a, LeavesEnd cs (k a)) : LeavesEnd cs (decision.bind k) := by
  intro s hs
  obtain ⟨a, -, hs⟩ := Option.bind_eq_some_iff.mp hs
  exact hk a s hs

end

/-! ## Tokens -/

theorem skipRemarks_suffix (remark : Bool) (cs : List Char) : skipRemarks remark cs <:+ cs := by
  induction cs generalizing remark with
  | nil => cases remark <;> exact List.suffix_refl []
  | cons c cs ih =>
      have hrest (b : Bool) : skipRemarks b cs <:+ c :: cs := (ih b).trans (List.suffix_cons c cs)
      cases remark with
      | true => exact hrest _
      | false =>
          rw [skipRemarks]
          split
          · exact hrest _
          · split
            · exact hrest _
            · exact List.suffix_refl _

theorem skip_suffix (modes : Modes) (cs : List Char) : modes.skip cs <:+ cs := by
  unfold Modes.skip
  split
  · exact skipRemarks_suffix false cs
  · exact List.suffix_refl cs

/-- What stands behind a character that was not skipped. -/
theorem suffix_of_skip {modes : Modes} {cs rest : List Char} {c : Char}
    (h : modes.skip cs = c :: rest) : rest <:+ cs :=
  (List.suffix_cons c rest).trans (h ▸ skip_suffix modes cs)

variable {modes : Modes} {cs : List Char}

theorem readHexDigits_suffix (count n : Nat) :
    LeavesEnd cs (readHexDigits modes count n cs) := by
  induction count generalizing n cs with
  | zero => exact .some (List.suffix_refl cs)
  | succ count ih =>
      rw [readHexDigits]
      split
      · exact .none
      · next heq => exact .decided fun d => (ih _).mono (suffix_of_skip heq)

theorem readBraced_suffix (remark : Bool) : LeavesEnd cs (readBraced modes remark cs) := by
  induction cs generalizing remark with
  | nil => cases remark <;> exact .none
  | cons c cs ih =>
      have hrest (b : Bool) : LeavesEnd (c :: cs) (readBraced modes b cs) :=
        (ih b).mono (List.suffix_cons c cs)
      cases remark with
      | true => exact hrest _
      | false =>
          rw [readBraced]
          split
          · exact hrest _
          split
          · exact hrest _
          split
          · exact .some (List.suffix_cons c cs)
          · exact (hrest false).map fun _ => List.suffix_refl _

theorem readHex_suffix (count : Nat) : LeavesEnd cs (readHex modes count cs) := by
  unfold readHex
  split
  · next rest heq =>
      refine (LeavesEnd.bind (readBraced_suffix false) fun r _ => .decided fun n => ?_).mono
        (suffix_of_skip heq)
      split
      · exact .none
      · exact .decided fun c => .some (List.suffix_refl _)
  · refine (LeavesEnd.bind (readHexDigits_suffix count 0) fun r _ => ?_).mono
      (skip_suffix modes cs)
    exact .decided fun c => .some (List.suffix_refl _)

theorem splitAt?_suffix (mark : List Char) : LeavesEnd cs (splitAt? mark cs) := by
  induction cs with
  | nil => exact .none
  | cons c cs ih =>
      rw [splitAt?]
      split
      · exact .some (List.drop_suffix _ _)
      · exact (ih.mono (List.suffix_cons c cs)).map fun _ => List.suffix_refl _

/-- A property as it is written, by one letter or in braces. -/
def writtenProperty? (modes : Modes) (cs : List Char) : Option (List Char × List Char) :=
  match modes.skip cs with
  | [] => none
  | c :: rest =>
      if c = '\\' then none
      else if c = '\x7b' then readBraced modes false rest
      else some ([c], rest)

theorem readProperty_eq (negated : Bool) :
    readProperty modes negated cs =
      if modes.unicode then
        (writtenProperty? modes cs).bind fun r => (propertyOf? r.1).bind fun p =>
          (modes.finish? (negated != p.2) p.1).map fun s => (.set s, r.2)
      else none := by
  unfold readProperty writtenProperty?
  cases hunicode : modes.unicode with
  | false => rfl
  | true =>
      simp only [Bool.not_true, Bool.false_eq_true, if_false, if_true, Option.map_eq_bind]
      cases modes.skip cs with
      | nil => rfl
      | cons c rest =>
          by_cases hslash : c = '\\'
          · subst hslash
            rfl
          by_cases hbrace : c = '\x7b'
          · subst hbrace
            rfl
          · simp only [hslash, hbrace, if_false]
            rfl

theorem readProperty_suffix (negated : Bool) :
    LeavesEnd cs (readProperty modes negated cs) := by
  have hwritten : LeavesEnd cs (writtenProperty? modes cs) := by
    unfold writtenProperty?
    split
    · exact .none
    · next heq =>
        split
        · exact .none
        split
        · exact (readBraced_suffix false).mono (suffix_of_skip heq)
        · exact .some (suffix_of_skip heq)
  rw [readProperty_eq]
  split
  · refine hwritten.bind fun r _ => .decided fun p => ?_
    intro s hs
    obtain ⟨_, -, rfl⟩ := Option.map_eq_some_iff.mp hs
    exact List.suffix_refl _
  · exact .none

theorem readWordEdge_suffix : LeavesEnd cs (readWordEdge modes cs) := by
  unfold readWordEdge
  simp only
  split
  · next rest =>
      split
      · exact .none
      · next c start heq =>
          split
          · refine (LeavesEnd.bind (readBraced_suffix false) fun r _ => ?_).mono
              (heq ▸ (skip_suffix modes rest).trans (List.suffix_cons _ _))
            split <;> first | exact .some (List.suffix_refl _) | exact .none
          · exact .some (List.suffix_refl _)
  · exact .some (List.suffix_refl _)

/-- An escape is one character at least. -/
theorem readEscape_suffix (c : Char) : LeavesEnd cs (readEscape modes (c :: cs)) := by
  have hself (a : Option Atom) : LeavesEnd cs (a.map (·, cs)) := by
    intro r hr
    obtain ⟨_, -, rfl⟩ := Option.map_eq_some_iff.mp hr
    exact List.suffix_refl cs
  unfold readEscape
  simp only
  split
  · exact readHex_suffix 2
  · exact readHex_suffix 4
  · exact readHex_suffix 8
  · exact readProperty_suffix false
  · exact readProperty_suffix true
  all_goals first
    | exact hself _
    | exact .some (List.suffix_refl cs)
    | exact readWordEdge_suffix.map fun _ => List.suffix_refl _
    | skip
  split
  · exact .some (List.suffix_refl cs)
  · exact .none

/-! ## Classes -/

theorem readMember_suffix (c : Char) : LeavesEnd cs (readMember modes (c :: cs)) := by
  unfold readMember
  split
  · exact .none
  · next rest heq =>
      obtain ⟨rfl, rfl⟩ := List.cons.inj heq
      cases cs with
      | nil => exact .none
      | cons e more => exact (readEscape_suffix e).mono (List.suffix_cons e more)
  · next heq =>
      obtain ⟨rfl, rfl⟩ := List.cons.inj heq
      exact .some (List.suffix_refl _)

/-- The range from one token to another. -/
def Atom.to? (modes : Modes) (first last : Atom) : Option CharSet :=
  (first.char? modes).bind fun low => (last.char? modes).bind fun high =>
    if low ≤ high then some (.range low high) else none

/-- Reads on behind the first token of an item. -/
def readItem (modes : Modes) (first : Atom) (rest : List Char) : Option (CharSet × List Char) :=
  match modes.skip rest with
  | [] => none
  | c :: more =>
      if c = '-' ∧ ¬(modes.peek? more = some ']' ∨ modes.peek? more = some '-') then
        made (first.to? modes) (readMember modes (modes.skip more))
      else (first.item? modes).map (·, c :: more)

theorem readRange_eq (cs : List Char) :
    readRange modes cs = (readMember modes cs).bind fun r => readItem modes r.1 r.2 := by
  unfold readRange
  refine Option.bind_congr fun r _ => ?_
  obtain ⟨first, rest⟩ := r
  simp only [readItem]
  cases modes.skip rest with
  | nil => rfl
  | cons c more =>
      by_cases hdash : c = '-'
      · subst hdash
        by_cases hpeek : modes.peek? more = some ']' ∨ modes.peek? more = some '-'
        · simp only
          rw [if_pos hpeek, if_neg fun h => h.2 hpeek, Option.map_eq_bind]
          rfl
        · simp only
          rw [if_neg hpeek, if_pos ⟨trivial, hpeek⟩]
          cases modes.skip more with
          | nil => rfl
          | cons d start =>
              refine Option.bind_congr fun r _ => ?_
              simp only [Atom.to?, Option.map_bind]
              refine Option.bind_congr fun low _ => ?_
              simp only [Option.map_bind, Function.comp]
              refine Option.bind_congr fun high _ => ?_
              change (if low ≤ high then some (CharSet.range low high, r.2) else none) =
                (if low ≤ high then some (CharSet.range low high) else none).map (·, r.2)
              split <;> rfl
      · have hsingle (P : Prop) : ¬(c = '-' ∧ P) := fun h => hdash h.1
        simp only [hsingle, if_false, Option.map_eq_bind]
        split
        · next h => cases h
        · next h => exact absurd (List.cons.inj h).1 hdash
        · rfl

theorem readItem_suffix (first : Atom) : LeavesEnd cs (readItem modes first cs) := by
  have hskip := skip_suffix modes cs
  unfold readItem
  split
  · exact .none
  · next c more heq =>
      rw [heq] at hskip
      split
      · have hmore : modes.skip more <:+ cs :=
          (skip_suffix modes more).trans ((List.suffix_cons c more).trans hskip)
        cases hstart : modes.skip more with
        | nil => exact .none
        | cons d start =>
            rw [hstart] at hmore
            exact ((readMember_suffix d).mono ((List.suffix_cons d start).trans hmore)).made _
      · cases first.item? modes with
        | none => exact .none
        | some s => exact .some hskip

/-- An item is one character at least. -/
theorem readRange_suffix (c : Char) : LeavesEnd cs (readRange modes (c :: cs)) := by
  rw [readRange_eq]
  exact (readMember_suffix c).bind fun r _ => readItem_suffix r.1

theorem readNamed_eq (cs : List Char) :
    readNamed modes cs =
      match cs with
      | ':' :: body =>
          (splitAt? [':'] (if body.head? = some '^' then body.tail else body)).bind fun r =>
            match r.2 with
            | ']' :: rest => (CharSet.named? (String.ofList r.1)).map fun s =>
                (modes.finish? (body.head? = some '^') s, rest)
            | _ => none
      | _ => none := by
  unfold readNamed
  cases cs with
  | nil => rfl
  | cons c body =>
      by_cases hcolon : c = ':'
      · subst hcolon
        change (splitAt? [':'] (if body.head? = some '^' then body.tail else body)).bind _ =
          (splitAt? [':'] (if body.head? = some '^' then body.tail else body)).bind _
        refine Option.bind_congr fun r _ => ?_
        obtain ⟨name, rest⟩ := r
        cases rest with
        | nil => rfl
        | cons d rest =>
            by_cases hclose : d = ']'
            · subst hclose
              change Option.bind _ _ = Option.map _ _
              rw [Option.map_eq_bind]
              rfl
            · simp [hclose]
      · simp [hcolon]

theorem readNamed_suffix : LeavesEnd cs (readNamed modes cs) := by
  rw [readNamed_eq]
  split
  · next body =>
      have hbody : (if body.head? = some '^' then body.tail else body) <:+ ':' :: body := by
        split
        · exact (List.tail_suffix body).trans (List.suffix_cons _ _)
        · exact List.suffix_cons _ _
      refine LeavesEnd.mono (LeavesEnd.bind (splitAt?_suffix [':']) ?_) hbody
      rintro ⟨name, rest⟩ -
      simp only [left_pair, left_text]
      split
      · intro r hr
        obtain ⟨_, -, rfl⟩ := Option.map_eq_some_iff.mp hr
        exact List.suffix_cons _ _
      · exact .none
  · exact .none

theorem dashes_suffix (negated : Bool) (m : Members) (fuel : Nat) (cs : List Char) :
    (readOpening.dashes modes negated m fuel cs).2.2 <:+ cs := by
  fun_induction readOpening.dashes modes negated m fuel cs with
  | case1 m fuel rest ih =>
      exact ih.trans ((skip_suffix modes rest).trans (List.suffix_cons _ _))
  | case2 m fuel rest _ => exact (skip_suffix modes rest).trans (List.suffix_cons _ _)
  | case3 => exact List.suffix_refl _
  | case4 => exact List.suffix_refl _

theorem readOpening_suffix : (readOpening modes cs).2.2 <:+ cs := by
  unfold readOpening
  simp only
  refine (dashes_suffix _ _ _ _).trans ?_
  split
  · exact (skip_suffix modes _).trans ((List.tail_suffix _).trans (skip_suffix modes cs))
  · exact skip_suffix modes cs

/-! ### One step of the reader of classes -/

/-- An operation that stands at the front of a text. -/
def operation? : List Char → Option (SetOp × List Char)
  | '&' :: '&' :: rest => some (.inter, rest)
  | '-' :: '-' :: rest => some (.diff, rest)
  | '~' :: '~' :: rest => some (.symmDiff, rest)
  | _ => none

variable {fuel : Nat} {negated : Bool} {m : Members} {pending : Option Pending}
  {text more : List Char}

theorem readClass_end (h : modes.skip text = []) :
    readClass modes fuel negated m pending text = none := by
  cases fuel with
  | zero => rfl
  | succ fuel => rw [readClass, h]

theorem readClass_close (h : modes.skip text = ']' :: more) :
    readClass modes (fuel + 1) negated m pending text =
      (modes.finish? negated (m.close modes pending).1).map fun s =>
        (s, (m.close modes pending).2 + 1, more) := by
  rw [readClass, h, Option.map_eq_bind]
  rfl

theorem readClass_operate {op : SetOp} (h : operation? (modes.skip text) = some (op, more)) :
    readClass modes (fuel + 1) negated m pending text =
      readClass modes fuel negated {}
        (some ⟨op, (m.close modes pending).1, (m.close modes pending).2⟩) more := by
  unfold operation? at h
  split at h
  · next heq =>
      obtain ⟨rfl, rfl⟩ := h
      rw [readClass, heq]
      rfl
  · next heq =>
      obtain ⟨rfl, rfl⟩ := h
      rw [readClass, heq]
      rfl
  · next heq =>
      obtain ⟨rfl, rfl⟩ := h
      rw [readClass, heq]
      rfl
  · cases h

theorem readClass_open (h : modes.skip text = '[' :: more) :
    readClass modes (fuel + 1) negated m pending text =
      match readNamed modes more with
      | some r => r.1.bind fun s => readClass modes fuel negated (m.add s 0) pending r.2
      | none =>
          (readClass modes fuel (readOpening modes more).1 (readOpening modes more).2.1 none
            (readOpening modes more).2.2).bind fun r =>
              readClass modes fuel negated (m.add r.1 r.2.1) pending r.2.2 := by
  rw [readClass, h]
  simp only
  generalize readNamed modes more = named
  cases named <;> rfl

theorem readClass_item {c : Char} (h : modes.skip text = c :: more) (hc : c ≠ ']' ∧ c ≠ '[')
    (hop : operation? (c :: more) = none) :
    readClass modes (fuel + 1) negated m pending text =
      (readRange modes (c :: more)).bind fun r =>
        readClass modes fuel negated (m.add r.1 0) pending r.2 := by
  rw [readClass, h]
  split <;> first | rfl | simp_all [operation?]

theorem operation?_suffix {op : SetOp} {cs : List Char} (h : operation? cs = some (op, more)) :
    ∃ c, c :: c :: more = cs := by
  unfold operation? at h
  split at h <;> cases h <;> exact ⟨_, rfl⟩

/-- What the reader of a class may find in front of it. -/
inductive NextInClass : List Char → Prop
  | nothing : NextInClass []
  | close (more : List Char) : NextInClass (']' :: more)
  | inner (more : List Char) : NextInClass ('[' :: more)
  | operate {c : Char} {op : SetOp} {more : List Char}
      (hop : operation? (c :: c :: more) = some (op, more)) : NextInClass (c :: c :: more)
  | item {c : Char} (hc : c ≠ ']' ∧ c ≠ '[') {more : List Char}
      (hop : operation? (c :: more) = none) : NextInClass (c :: more)

/-- There is nothing else than the five steps in a class. -/
theorem nextInClass (text : List Char) : NextInClass text := by
  cases text with
  | nil => exact .nothing
  | cons c more =>
      by_cases hclose : c = ']'
      · exact hclose ▸ .close more
      by_cases hopen : c = '['
      · exact hopen ▸ .inner more
      cases hop : operation? (c :: more) with
      | some r =>
          obtain ⟨d, hd⟩ := operation?_suffix hop
          obtain ⟨rfl, rfl⟩ := List.cons.inj hd
          exact .operate hop
      | none => exact .item ⟨hclose, hopen⟩ hop

/-- A class leaves an end of its text. -/
theorem readClass_suffix :
    LeavesEnd text (readClass modes fuel negated m pending text) := by
  induction fuel generalizing negated m pending text with
  | zero => exact .none
  | succ fuel ih =>
      generalize hstart : modes.skip text = start
      cases nextInClass start with
      | nothing =>
          rw [readClass_end hstart]
          exact .none
      | close more =>
          rw [readClass_close hstart]
          intro r hr
          obtain ⟨_, -, rfl⟩ := Option.map_eq_some_iff.mp hr
          exact suffix_of_skip hstart
      | inner more =>
          have hmore := suffix_of_skip hstart
          rw [readClass_open hstart]
          cases hnamed : readNamed modes more with
          | some r =>
              exact .decided fun s => ih.mono ((readNamed_suffix r hnamed).trans hmore)
          | none =>
              refine (LeavesEnd.bind ih fun r _ => ?_).mono (readOpening_suffix.trans hmore)
              exact ih
      | @operate c op more hop =>
          rw [readClass_operate (hstart ▸ hop)]
          exact ih.mono ((List.suffix_cons c more).trans (suffix_of_skip hstart))
      | @item c hc more hop =>
          rw [readClass_item hstart hc hop]
          refine (LeavesEnd.bind (readRange_suffix c) fun r _ => ?_).mono (suffix_of_skip hstart)
          exact ih

/-! ## Groups and repetitions -/

theorem readModes_suffix (seen : List Char) : LeavesEnd cs (readModes modes seen cs) := by
  induction cs generalizing modes seen with
  | nil => exact .none
  | cons c cs ih =>
      have hrest (modes : Modes) (seen : List Char) :
          LeavesEnd (c :: cs) (readModes modes seen cs) := (ih seen).mono (List.suffix_cons c cs)
      rw [readModes]
      split
      · split
        · exact .none
        · exact .some (List.suffix_cons c cs)
      split
      · exact .none
      split
      · exact hrest _ _
      · exact .decided fun modes => hrest modes _

theorem readName_suffix : LeavesEnd cs (readName cs) := by
  unfold readName
  refine LeavesEnd.bind (splitAt?_suffix ['>']) ?_
  rintro ⟨name, rest⟩ -
  simp only
  split
  · exact .none
  · split
    · exact .some (List.suffix_refl _)
    · exact .none

theorem readGroupOpening_suffix : LeavesEnd cs (readGroupOpening modes cs) := by
  have hstart := skip_suffix modes cs
  unfold readGroupOpening
  have hname {rest : List Char} (h : rest <:+ cs) :
      LeavesEnd cs ((readName rest).map fun r => (Opening.captured (some r.1), r.2)) := by
    refine LeavesEnd.mono (readName_suffix.map ?_) h
    exact fun r => List.suffix_refl _
  split
  · exact .none
  · exact .none
  · exact .none
  · exact .none
  · next heq =>
      rw [heq] at hstart
      exact hname (List.IsSuffix.trans ⟨['?', 'P', '<'], rfl⟩ hstart)
  · next heq =>
      rw [heq] at hstart
      exact hname (List.IsSuffix.trans ⟨['?', '<'], rfl⟩ hstart)
  · next heq =>
      refine (LeavesEnd.bind (readModes_suffix []) ?_).mono (suffix_of_skip heq)
      exact fun r _ => .some (List.suffix_refl _)
  · exact .some hstart

theorem digitsOf_suffix (fuel : Nat) (cs : List Char) :
    (readBound.digitsOf modes fuel cs).2 <:+ cs := by
  induction fuel generalizing cs with
  | zero => exact List.suffix_refl cs
  | succ fuel ih =>
      cases cs with
      | nil => exact List.suffix_refl []
      | cons c rest =>
          rw [readBound.digitsOf]
          simp only
          split
          · exact (ih _).trans ((skip_suffix modes rest).trans (List.suffix_cons c rest))
          · exact List.suffix_refl _

theorem readBound_suffix : LeavesEnd cs (readBound modes cs) := by
  unfold readBound
  simp only
  split
  · exact .none
  · exact .some ((List.dropWhile_suffix _).trans ((skip_suffix modes _).trans
      ((digitsOf_suffix _ _).trans (List.dropWhile_suffix _))))

theorem readBounds_suffix : LeavesEnd cs (readBounds modes cs) := by
  unfold readBounds
  refine LeavesEnd.mono (LeavesEnd.bind readBound_suffix ?_) (skip_suffix modes cs)
  rintro ⟨least, rest⟩ -
  simp only [left_pair, left_text]
  split
  · exact .some (List.suffix_cons _ _)
  · next more =>
      split
      · next heq => exact .some ((suffix_of_skip heq).trans (List.suffix_cons _ _))
      · refine LeavesEnd.mono (LeavesEnd.bind readBound_suffix ?_)
          ((skip_suffix modes more).trans (List.suffix_cons _ _))
        rintro ⟨most, rest⟩ -
        simp only [left_pair, left_text]
        split
        · split
          · exact .some (List.suffix_cons _ _)
          · exact .none
        · exact .none
  · exact .none

theorem readGreed_suffix : (readGreed modes cs).2 <:+ cs := by
  unfold readGreed
  split
  · exact List.suffix_cons _ _
  · exact List.suffix_refl _

/-- A token is one character at least. -/
theorem readToken_suffix (c : Char) : LeavesEnd cs (readToken modes (c :: cs)) := by
  have hmap {α : Type} (decision : Option α) (f : α → Pattern) :
      LeavesEnd cs (decision.map fun a => (f a, cs)) := by
    intro r hr
    obtain ⟨_, -, rfl⟩ := Option.map_eq_some_iff.mp hr
    exact List.suffix_refl cs
  unfold readToken
  split
  · exact .none
  · next heq =>
      obtain ⟨rfl, rfl⟩ := List.cons.inj heq
      cases cs with
      | nil => exact .none
      | cons e more =>
          refine (LeavesEnd.bind (readEscape_suffix e) ?_).mono (List.suffix_cons e more)
          exact fun r _ => .decided fun p => .some (List.suffix_refl _)
  · next heq =>
      obtain ⟨rfl, rfl⟩ := List.cons.inj heq
      exact hmap _ _
  · next heq =>
      obtain ⟨rfl, rfl⟩ := List.cons.inj heq
      exact .some (List.suffix_refl _)
  · next heq =>
      obtain ⟨rfl, rfl⟩ := List.cons.inj heq
      exact .some (List.suffix_refl _)
  · next heq =>
      obtain ⟨rfl, rfl⟩ := List.cons.inj heq
      exact hmap _ id

end InAppMessaging.Pattern
