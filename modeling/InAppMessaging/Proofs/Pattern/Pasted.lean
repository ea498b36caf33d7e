import InAppMessaging.Proofs.Pattern.Following

/-!
# Reading a rule where it is pasted

The reader of groups, of repetitions and of the whole, next to itself with the closing behind the
text.  The reader that goes on into the closing does so in one of the ways of `Follows` and stays
in it: what is left over is left over to the end, behind a bracket that was taken for something
else there is nothing but the end of the text, and where a remark hides the closing there is
nothing at all.

* `readBounds_append` — bounds never end behind the rule;
* `readGroupOpening_follows`, `readMark_follows`, `readToken_append` — one step;
* `readParts_follows` — **what a rule reads by itself, it reads where it is pasted**.
-/

namespace InAppMessaging.Pattern

open Text

variable {modes : Modes} {cs : List Char}

/-! ## Groups -/

theorem readModes_overruns (seen : List Char) :
    Overruns ['$'] (readModes modes seen cs) (readModes modes seen (cs ++ closing)) := by
  induction cs generalizing modes seen with
  | nil =>
      refine .inr ⟨rfl, ?_⟩
      rw [List.nil_append, closing, readModes, if_pos (.inr rfl)]
      split
      · exact .none
      · exact .some (List.suffix_refl _)
  | cons c cs ih =>
      rw [List.cons_append, readModes, readModes]
      split
      · split <;> exact .inl rfl
      split
      · exact .inl rfl
      split
      · exact ih _
      · cases modes.set? c (!seen.contains '-') with
        | none => exact .inl rfl
        | some modes => exact ih _

theorem readName_append : readName (cs ++ closing) = (readName cs).map (andAlso · closing) := by
  unfold readName
  rw [splitAt?_append (by decide)]
  simp only [Option.bind_eq_bind, Option.bind_map, Option.map_bind]
  refine Option.bind_congr fun r _ => ?_
  obtain ⟨name, rest⟩ := r
  cases name with
  | nil => rfl
  | cons c more =>
      simp only [Function.comp, andAlso_pair, andAlso_text]
      split <;> rfl

/-- The text behind a question mark asks what stands around a place. -/
def looksAround : List Char → Bool
  | '=' :: _ | '!' :: _ | '<' :: '=' :: _ | '<' :: '!' :: _ => true
  | _ => false

/-- The text from the name of a group on, behind a question mark. -/
def fromName? : List Char → Option (List Char)
  | 'P' :: '<' :: rest | '<' :: rest => some rest
  | _ => none

theorem readGroupOpening_plain (h : (modes.skip cs).head? ≠ some '?') :
    readGroupOpening modes cs = some (.captured none, modes.skip cs) := by
  unfold readGroupOpening
  split <;> simp_all

theorem readGroupOpening_marked {more : List Char} (h : modes.skip cs = '?' :: more) :
    readGroupOpening modes cs =
      if looksAround more then none
      else match fromName? more with
        | some rest => (readName rest).map fun r => (.captured (some r.1), r.2)
        | none => (readModes modes [] more).map fun r =>
            (if r.2.1 then .moded r.1 else .change r.1, r.2.2) := by
  unfold readGroupOpening
  rw [h]
  split
  · next heq =>
      obtain ⟨_, rfl⟩ := List.cons.inj heq
      rfl
  · next heq =>
      obtain ⟨_, rfl⟩ := List.cons.inj heq
      rfl
  · next heq =>
      obtain ⟨_, rfl⟩ := List.cons.inj heq
      rfl
  · next heq =>
      obtain ⟨_, rfl⟩ := List.cons.inj heq
      rfl
  · next heq =>
      obtain ⟨_, rfl⟩ := List.cons.inj heq
      rfl
  · next heq =>
      obtain ⟨_, rfl⟩ := List.cons.inj heq
      simp_all [looksAround, fromName?]
  · next heq =>
      obtain ⟨_, rfl⟩ := List.cons.inj heq
      have hlook : looksAround more = false := by
        unfold looksAround
        split <;> simp_all
      have hname : fromName? more = none := by
        unfold fromName?
        split <;> simp_all
      rw [hlook, hname]
      exact (Option.map_eq_bind ..).symm
  · next hother => exact absurd rfl (hother more)

theorem looksAround_append : looksAround (cs ++ closing) = looksAround cs := by
  match cs with
  | [] => rfl
  | [c] => 
     unfold looksAround
     split <;> split <;> simp_all [closing]
  | c :: d :: rest => 
     unfold looksAround
     split <;> split <;> simp_all

theorem fromName?_append : fromName? (cs ++ closing) = (fromName? cs).map (· ++ closing) := by
  match cs with
  | [] => rfl
  | [c] => 
     unfold fromName?
     split <;> split <;> simp_all [closing]
  | c :: d :: rest => 
     unfold fromName?
     split <;> split <;> simp_all


theorem readGroupOpening_follows :
    Follows (readGroupOpening modes cs) (readGroupOpening modes (cs ++ closing)) := by
  obtain h | ⟨h, h'⟩ := skip_append modes cs
  · by_cases hmark : (modes.skip cs).head? = some '?'
    · obtain ⟨more, hmore⟩ := List.head?_eq_some_iff.mp hmark
      rw [hmore, List.cons_append] at h
      rw [readGroupOpening_marked hmore, readGroupOpening_marked h, looksAround_append,
        fromName?_append]
      split
      · exact .same none
      · cases fromName? more with
        | some rest =>
            refine .of_eq ?_
            rw [Option.map_some]
            simp only [readName_append, Option.map_map]
            rfl
        | none =>
            rw [Option.map_none]
            refine Overruns.follows (.map (readModes_overruns []) ?_ ?_)
            · exact fun r => rfl
            · exact fun r => rfl
    · rw [readGroupOpening_plain hmark, readGroupOpening_plain, h]
      · exact .same (some (Opening.captured none, modes.skip cs))
      · rw [h]
        exact mt (head?_append_closing (by decide)).mp hmark
  · rw [readGroupOpening_plain (by simp [h]), readGroupOpening_plain (by simp [h']), h, h']
    exact .remark rfl

/-! ## Repetitions -/

theorem digitsOf_append (modes : Modes) {fuel fuel' : Nat} (hfuel : cs.length < fuel)
    (hfuel' : (cs ++ closing).length < fuel') :
    LeavesOver (readBound.digitsOf modes fuel cs)
      (readBound.digitsOf modes fuel' (cs ++ closing)) := by
  induction fuel generalizing cs fuel' with
  | zero => cases hfuel
  | succ fuel ih =>
      obtain ⟨fuel', rfl⟩ := Nat.exists_eq_succ_of_ne_zero (Nat.ne_zero_of_lt hfuel')
      cases cs with
      | nil => exact .inl rfl
      | cons c rest =>
          simp only [List.length_cons, List.cons_append, Nat.succ_lt_succ_iff] at hfuel hfuel'
          have hrest := (skip_suffix modes rest).length_le
          have hrest' := (skip_suffix modes (rest ++ closing)).length_le
          rw [List.cons_append, readBound.digitsOf, readBound.digitsOf]
          simp only
          split
          · obtain h | ⟨h, h'⟩ := skip_append modes rest
            · rw [h] at hrest' ⊢
              obtain hmore | ⟨hmore, hmore'⟩ := ih (Nat.lt_of_le_of_lt hrest hfuel)
                (Nat.lt_of_le_of_lt hrest' hfuel')
              · rw [hmore]
                exact .inl rfl
              · rw [hmore']
                exact .inr ⟨hmore, rfl⟩
            · have hend (fuel : Nat) : readBound.digitsOf modes fuel [] = ([], []) := by
                cases fuel <;> rfl
              rw [h, h', hend, hend]
              exact .inr ⟨rfl, rfl⟩
          · exact .inl rfl

theorem readBound_follows (modes : Modes) (cs : List Char) :
    Follows (readBound modes cs) (readBound modes (cs ++ closing)) := by
  have hlength := (List.dropWhile_suffix (l := cs) isBlank).length_le
  have hlength' := (List.dropWhile_suffix (l := cs ++ closing) isBlank).length_le
  rw [dropBlanks_append] at hlength'
  have hdigits := digitsOf_append modes (Nat.lt_succ_of_le hlength) (Nat.lt_succ_of_le hlength')
  unfold readBound
  simp only [dropBlanks_append]
  generalize readBound.digitsOf modes _ (cs.dropWhile isBlank) = own at hdigits ⊢
  generalize readBound.digitsOf modes _ (cs.dropWhile isBlank ++ closing) = pasted at hdigits ⊢
  obtain ⟨digits, rest⟩ := own
  obtain rfl | ⟨hrest, rfl⟩ := hdigits
  · simp only [andAlso_pair, andAlso_text]
    split
    · exact .same none
    · obtain h | ⟨h, h'⟩ := skip_append modes rest
      · rw [h, dropBlanks_append]
        exact .same (some (digitsValue digits, (modes.skip rest).dropWhile isBlank))
      · rw [h, h']
        exact .remark rfl
  · obtain rfl : rest = [] := hrest
    split
    · exact .same none
    · rw [skip_nil]
      exact .remark rfl

/-- The text past a mark that it begins with. -/
def past? (mark : Char) (cs : List Char) : Option (List Char) :=
  if cs.head? = some mark then some cs.tail else none

theorem past?_append {mark : Char} (hmark : mark ∉ closing) :
    past? mark (cs ++ closing) = (past? mark cs).map (andAlso · closing) := by
  unfold past?
  simp only [head?_append_closing hmark]
  split
  · next h =>
      obtain ⟨more, rfl⟩ := List.head?_eq_some_iff.mp h
      rfl
  · rfl

theorem past?_left {mark : Char} (hmark : mark ∉ closing) (h : cs <:+ ['$']) :
    past? mark cs = none := by
  refine if_neg fun hhead => hmark ?_
  exact List.mem_cons_of_mem _ (h.subset (List.mem_of_mem_head? hhead))

/-- Reads on behind the least bound of a repetition. -/
def readMost (modes : Modes) (least : Nat) (cs : List Char) :
    Option (Nat × Option Nat × List Char) :=
  match past? '\x7d' cs with
  | some rest => some (least, some least, rest)
  | none => (past? ',' cs).bind fun cs =>
      match past? '\x7d' (modes.skip cs) with
      | some rest => some (least, none, rest)
      | none => (readBound modes (modes.skip cs)).bind fun most =>
          (past? '\x7d' most.2).bind fun rest =>
            if least ≤ most.1 then some (least, some most.1, rest) else none

theorem past?_cons (mark : Char) (cs : List Char) : past? mark (mark :: cs) = some cs := by
  simp [past?]

theorem past?_eq_none {mark : Char} (h : ∀ rest, cs ≠ mark :: rest) : past? mark cs = none := by
  refine if_neg fun hhead => ?_
  obtain ⟨rest, rfl⟩ := List.head?_eq_some_iff.mp hhead
  exact h rest rfl

theorem readBounds_eq (cs : List Char) :
    readBounds modes cs =
      (readBound modes (modes.skip cs)).bind fun r => readMost modes r.1 r.2 := by
  unfold readBounds
  refine Option.bind_congr fun r _ => ?_
  obtain ⟨least, rest⟩ := r
  simp only
  unfold readMost
  split
  · rw [past?_cons]
    rfl
  · next more =>
      rw [past?_eq_none (by simp), past?_cons]
      simp only [Option.bind_some]
      split
      · next heq =>
          rw [heq, past?_cons]
          rfl
      · next hbrace =>
          rw [past?_eq_none hbrace]
          refine Option.bind_congr fun most _ => ?_
          split
          · next heq =>
              rw [heq, past?_cons]
              rfl
          · next hbrace => rw [past?_eq_none hbrace, Option.bind_none]
  · next hbrace hcomma =>
      rw [past?_eq_none hbrace, past?_eq_none hcomma]
      rfl

/-- A bound that is read, and what has to stand behind it. -/
theorem readBound_bind {σ : Type} [Leaves σ] {k : Nat × List Char → Option σ}
    (hsame : ∀ r, k (andAlso r closing) = (k r).map (andAlso · closing))
    (hend : ∀ r, left r <:+ ['$'] → k r = none) :
    (readBound modes (cs ++ closing)).bind k =
      ((readBound modes cs).bind k).map (andAlso · closing) := by
  have hfollows := readBound_follows modes cs
  generalize readBound modes cs = own at hfollows ⊢
  generalize readBound modes (cs ++ closing) = pasted at hfollows ⊢
  cases hfollows with
  | same =>
      cases own with
      | none => rfl
      | some r => exact hsame r
  | overrun h => exact hend _ h
  | remark h =>
      rw [Option.bind_some, hend _ (h ▸ List.nil_suffix)]
      rfl

theorem readMost_append (least : Nat) (cs : List Char) :
    readMost modes least (cs ++ closing) = (readMost modes least cs).map (andAlso · closing) := by
  unfold readMost
  rw [past?_append (by decide), past?_append (by decide)]
  cases past? '\x7d' cs with
  | some rest => rfl
  | none =>
      simp only [Option.map_none, Option.bind_map, Option.map_bind]
      refine Option.bind_congr fun more _ => ?_
      simp only [Function.comp, andAlso_text]
      obtain h | ⟨h, h'⟩ := skip_append modes more
      · rw [h, past?_append (by decide)]
        cases past? '\x7d' (modes.skip more) with
        | some rest => rfl
        | none =>
            refine readBound_bind (fun r => ?_) fun r hr => ?_
            · obtain ⟨most, rest⟩ := r
              simp only [andAlso_pair, andAlso_text]
              rw [past?_append (by decide), Option.bind_map, Option.map_bind]
              refine Option.bind_congr fun rest _ => ?_
              simp only [Function.comp]
              split <;> rfl
            · rw [show past? '\x7d' r.2 = none from past?_left (by decide) hr, Option.bind_none]
      · rw [h, h']
        rfl

theorem readBounds_append :
    readBounds modes (cs ++ closing) = (readBounds modes cs).map (andAlso · closing) := by
  rw [readBounds_eq, readBounds_eq]
  obtain h | ⟨h, h'⟩ := skip_append modes cs
  · rw [h]
    refine readBound_bind (fun r => readMost_append r.1 r.2) fun r hr => ?_
    unfold readMost
    rw [show past? '\x7d' r.2 = none from past?_left (by decide) hr,
      show past? ',' r.2 = none from past?_left (by decide) hr]
    rfl
  · rw [h, h']
    rfl

/-- The closing holds no bounds. -/
theorem readBounds_closing (h : modes.skip cs = closing) : readBounds modes cs = none := by
  rw [readBounds_eq, h]
  rfl

theorem readMark_follows {c : Char} (hc : c ∈ marks) {more : List Char} :
    Follows (readMark modes (c :: more)) (readMark modes (c :: (more ++ closing))) := by
  simp only [marks, List.mem_cons, List.not_mem_nil, or_false] at hc
  obtain rfl | rfl | rfl | rfl := hc
  · exact .same (some (0, some 1, more))
  · exact .same (some (0, none, more))
  · exact .same (some (1, none, more))
  · simp only [readMark, readBounds_append, Option.map_map]
    cases readBounds modes more with
    | none => exact .same none
    | some r =>
        obtain ⟨least, most, rest⟩ := r
        simp only [Option.map_some, Function.comp, andAlso_pair, andAlso_text]
        obtain h | ⟨h, h'⟩ := skip_append modes rest
        · rw [h]
          exact .same (some (least, most, modes.skip rest))
        · rw [h, h']
          exact .remark rfl

theorem readGreed_append (cs : List Char) :
    readGreed modes (cs ++ closing) = andAlso (readGreed modes cs) closing := by
  cases cs with
  | nil => rfl
  | cons c more =>
      unfold readGreed
      split <;> split <;> simp_all

/-! ## The whole -/

/-- What a character alone stands for outside of classes. -/
def token? (modes : Modes) (c : Char) : Option Pattern := (readToken modes [c]).map (·.1)

theorem readToken_plain {c : Char} (hc : c ≠ '\\') (more : List Char) :
    readToken modes (c :: more) = (token? modes c).map (·, more) := by
  unfold token? readToken
  split
  · next h => cases h
  · next h => exact absurd (List.cons.inj h).1 hc
  all_goals
    next h =>
      obtain ⟨rfl, rfl⟩ := List.cons.inj h
      simp only [Option.map_map]
      rfl

theorem readToken_append (modes : Modes) (c : Char) (more : List Char) :
    Overruns ['$'] (readToken modes (c :: more)) (readToken modes (c :: (more ++ closing))) ∨
      ∃ p, LeavesBrace modes p (readToken modes (c :: more))
        (readToken modes (c :: (more ++ closing))) := by
  by_cases hslash : c = '\\'
  · subst hslash
    have hmade (cs : List Char) :
        readToken modes ('\\' :: cs) = made (Atom.pattern? modes) (readEscape modes cs) := by
      refine Option.bind_congr fun r _ => ?_
      obtain ⟨a, rest⟩ := r
      dsimp only
      cases a.pattern? modes <;> rfl
    rw [hmade, hmade]
    obtain h | ⟨l, h⟩ := readEscape_append modes more
    · exact .inl (h.made _)
    · exact .inr ⟨.look l, h.made rfl⟩
  · rw [readToken_plain hslash, readToken_plain hslash]
    left
    left
    cases token? modes c <;> rfl

section

variable {groups : Groups} {chosen parts : List Part} {text : List Char} {fuel fuel' : Nat}

/-- Where a remark hides the closing, there is nothing left to read. -/
theorem readParts_nil (hfuel : 0 < fuel) (hfuel' : 0 < fuel') :
    Follows (readParts fuel modes groups chosen parts [])
      (readParts fuel' modes groups chosen parts []) := by
  obtain ⟨fuel, rfl⟩ := Nat.exists_eq_succ_of_ne_zero (Nat.ne_zero_of_lt hfuel)
  obtain ⟨fuel', rfl⟩ := Nat.exists_eq_succ_of_ne_zero (Nat.ne_zero_of_lt hfuel')
  rw [readParts_end (skip_nil modes), readParts_end (skip_nil modes)]
  exact .remark rfl

/-- Behind a bracket that was taken for something else the reader comes to the end. -/
theorem readParts_left (h : text <:+ ['$']) (hfuel : text.length < fuel) :
    Follows none (readParts fuel modes groups chosen parts text) := by
  obtain ⟨fuel, rfl⟩ := Nat.exists_eq_succ_of_ne_zero (Nat.ne_zero_of_lt hfuel)
  obtain rfl | hcons := List.suffix_cons_iff.mp h
  · have hskip : modes.skip ['$'] = ['$'] := by
      cases hverbose : modes.verbose <;> simp only [Modes.skip, hverbose] <;> decide
    obtain ⟨fuel, rfl⟩ := Nat.exists_eq_succ_of_ne_zero (n := fuel) (by simp at hfuel; omega)
    rw [readParts_token (by decide) hskip]
    change Follows none (readParts (fuel + 1) modes groups chosen (_ :: parts) [])
    rw [readParts_end (skip_nil modes)]
    exact .overrun (List.nil_suffix)
  · obtain rfl := List.suffix_nil.mp hcons
    rw [readParts_end (skip_nil modes)]
    exact .overrun (List.nil_suffix)

/-- A brace with nothing but the closing behind it repeats nothing. -/
theorem readParts_brace (h : modes.skip text = closing) :
    readParts fuel modes groups chosen parts ('\x7b' :: text) = none := by
  cases fuel with
  | zero => rfl
  | succ fuel =>
      have hskip : modes.skip ('\x7b' :: text) = '\x7b' :: text := by
        unfold Modes.skip
        split <;> rfl
      rw [readParts_mark (by decide) hskip, readMark, readBounds_closing h]
      rfl

/-- With less fuel the reader is known to follow itself: on every end of what is left to read, on
the end of the closing alone, and where nothing is left. -/
structure FollowsFrom (fuel fuel' : Nat) (more : List Char) : Prop where
  same {modes : Modes} {groups : Groups} {chosen parts : List Part} {rest : List Char} :
    rest <:+ more → Follows (readParts fuel modes groups chosen parts rest)
      (readParts fuel' modes groups chosen parts (rest ++ closing))
  overrun {modes : Modes} {groups : Groups} {chosen parts : List Part} {rest : List Char} :
    rest <:+ ['$'] → Follows none (readParts fuel' modes groups chosen parts rest)
  remark {modes : Modes} {groups : Groups} {chosen parts : List Part} :
    Follows (readParts fuel modes groups chosen parts [])
      (readParts fuel' modes groups chosen parts [])

theorem readBehind_stop {wrap : Pattern → Pattern} {inner : Part × Groups × List Char}
    (h : inner.2.2.head? ≠ some ')') : readBehind fuel modes chosen parts wrap inner = none := by
  unfold readBehind
  split
  · next heq => simp [heq] at h
  · rfl

namespace FollowsFrom

variable {more : List Char} (h : FollowsFrom fuel fuel' more)
include h

theorem behind {own pasted : Option (Part × Groups × List Char)} (hinner : Follows own pasted)
    (hown : ∀ r, own = some r → r.2.2 <:+ more) (wrap : Pattern → Pattern) :
    Follows (own.bind (readBehind fuel modes chosen parts wrap))
      (pasted.bind (readBehind fuel' modes chosen parts wrap)) := by
  refine hinner.bind (fun r hr => ?_) (fun r hr => ?_) fun r hr => ?_
  · have hrest := hown r hr
    obtain ⟨part, groups, rest⟩ := r
    cases rest with
    | nil =>
        -- A group that the rule leaves open is closed by the bracket of the closing.
        rw [readBehind_stop (by simp)]
        exact h.overrun (List.suffix_refl _)
    | cons c rest =>
        by_cases hc : c = ')'
        · subst hc
          exact h.same ((List.suffix_cons _ _).trans hrest)
        · rw [readBehind_stop (by simpa using hc), readBehind_stop (by simpa using hc)]
          exact .same none
  · rw [readBehind_stop]
    · exact .same none
    · exact fun hhead => absurd (hr.subset (List.mem_of_mem_head? hhead)) (by decide)
  · have hstop : r.2.2.head? ≠ some ')' := by simp [show r.2.2 = [] from hr]
    rw [readBehind_stop hstop, readBehind_stop hstop]
    exact .same none

theorem onward {ρ : Type} [Leaves ρ] {own pasted : Option ρ} (hread : Follows own pasted)
    (hown : ∀ r, own = some r → left r <:+ more) (parts : ρ → List Part)
    (hparts : ∀ r, parts (andAlso r closing) = parts r) :
    Follows (own.bind fun r => readParts fuel modes groups chosen (parts r) (left r))
      (pasted.bind fun r => readParts fuel' modes groups chosen (parts r) (left r)) := by
  refine hread.bind (fun r hr => ?_) (fun r hr => h.overrun hr) fun r hr => ?_
  · rw [left_andAlso, hparts]
    exact h.same (hown r hr)
  · rw [hr]
    exact h.remark

theorem token {c : Char} :
    Follows
      ((readToken modes (c :: more)).bind fun r =>
        readParts fuel modes groups chosen (⟨r.1, 0, true⟩ :: parts) r.2)
      ((readToken modes (c :: (more ++ closing))).bind fun r =>
        readParts fuel' modes groups chosen (⟨r.1, 0, true⟩ :: parts) r.2) := by
  obtain hread | ⟨p, hown, rest, hpasted, hrest⟩ := readToken_append modes c more
  · exact h.onward hread.follows (readToken_suffix c) (fun r => ⟨r.1, 0, true⟩ :: parts)
      fun _ => rfl
  · rw [hown, hpasted, Option.bind_some, readParts_brace hrest]
    exact .same none

theorem mark {c : Char} (hc : c ∈ marks) :
    Follows
      ((readMark modes (c :: more)).bind fun r =>
        (repeatLast r.1 r.2.1 (readGreed modes r.2.2).1 parts).bind fun parts =>
          readParts fuel modes groups chosen parts (readGreed modes r.2.2).2)
      ((readMark modes (c :: (more ++ closing))).bind fun r =>
        (repeatLast r.1 r.2.1 (readGreed modes r.2.2).1 parts).bind fun parts =>
          readParts fuel' modes groups chosen parts (readGreed modes r.2.2).2) := by
  refine (readMark_follows hc).bind (fun r hr => ?_) (fun r hr => ?_) fun r hr => ?_
  · obtain ⟨least, most, rest⟩ := r
    simp only [andAlso_pair, andAlso_text, readGreed_append]
    cases repeatLast least most (readGreed modes rest).1 parts with
    | none => exact .same none
    | some parts => exact h.same (readGreed_suffix.trans (readMark_suffix c _ hr))
  · cases repeatLast r.1 r.2.1 (readGreed modes r.2.2).1 parts with
    | none => exact .same none
    | some parts => exact h.overrun (readGreed_suffix.trans hr)
  · rw [show r.2.2 = [] from hr]
    cases repeatLast r.1 r.2.1 (readGreed modes []).1 parts with
    | none => exact .same none
    | some parts => exact h.remark

theorem «class» (hfuel : more.length < fuel) (hfuel' : (more ++ closing).length < fuel') :
    Follows
      ((readClass modes fuel (readOpening modes more).1 (readOpening modes more).2.1 none
        (readOpening modes more).2.2).bind fun r =>
        readParts fuel modes groups chosen
          (⟨ofSet r.1 (!modes.unicode), r.2.1, true⟩ :: parts) r.2.2)
      ((readClass modes fuel' (readOpening modes (more ++ closing)).1
        (readOpening modes (more ++ closing)).2.1 none
        (readOpening modes (more ++ closing)).2.2).bind fun r =>
        readParts fuel' modes groups chosen
          (⟨ofSet r.1 (!modes.unicode), r.2.1, true⟩ :: parts) r.2.2) := by
  have hbody : (readOpening modes more).2.2.length ≤ more.length := readOpening_suffix.length_le
  obtain hopening | ⟨hopening, hopening'⟩ := readOpening_append modes more
  · rw [hopening]
    refine h.onward (.of_eq (readClass_append ?_ ?_)) (fun r hr => ?_)
      (fun r => ⟨ofSet r.1 (!modes.unicode), r.2.1, true⟩ :: parts) fun _ => rfl
    · omega
    · simp only [List.length_append] at hfuel' ⊢
      omega
    · exact (readClass_suffix r hr).trans readOpening_suffix
  · have hend : modes.skip (readOpening modes more).2.2 = [] := by
      rw [show (readOpening modes more).2.2 = [] from hopening, skip_nil]
    rw [hopening', readClass_end hend, readClass_end hend]
    exact .same none

theorem inside {rest rest' : List Char} (opening : Opening) (hrest : rest <:+ more)
    (hread : ∀ modes groups, Follows (readParts fuel modes groups [] [] rest)
      (readParts fuel' modes groups [] [] rest')) :
    Follows (readInside fuel modes groups chosen parts opening rest)
      (readInside fuel' modes groups chosen parts opening rest') := by
  unfold readInside
  cases opening.inside? modes groups with
  | none => exact .same none
  | some i =>
      exact h.behind (hread i.1 i.2.1) (fun r hr => (readParts_reads hr).rest.trans hrest) i.2.2

theorem inside_left {rest : List Char} (opening : Opening) (hrest : rest <:+ ['$']) :
    Follows none (readInside fuel' modes groups chosen parts opening rest) := by
  unfold readInside
  cases opening.inside? modes groups with
  | none => exact .same none
  | some i =>
      have hnone (r : Part × Groups × List Char) (hr : none = some r) : r.2.2 <:+ more := nomatch hr
      exact h.behind (h.overrun hrest) hnone i.2.2

theorem group :
    Follows ((readGroupOpening modes more).bind (readGroup fuel modes groups chosen parts))
      ((readGroupOpening modes (more ++ closing)).bind
        (readGroup fuel' modes groups chosen parts)) := by
  refine readGroupOpening_follows.bind (fun r hr => ?_) (fun r hr => ?_) fun r hr => ?_
  · obtain ⟨opening, rest⟩ := r
    have hrest : rest <:+ more := readGroupOpening_suffix _ hr
    cases opening with
    | change modes => exact h.same hrest
    | moded modes => exact h.inside (.moded modes) hrest fun _ _ => h.same hrest
    | captured name => exact h.inside (.captured name) hrest fun _ _ => h.same hrest
  · obtain ⟨opening, rest⟩ := r
    cases opening with
    | change modes => exact h.overrun hr
    | moded modes => exact h.inside_left (.moded modes) hr
    | captured name => exact h.inside_left (.captured name) hr
  · obtain ⟨opening, rest⟩ := r
    obtain rfl : rest = [] := hr
    cases opening with
    | change modes => exact h.remark
    | moded modes => exact h.inside (.moded modes) List.nil_suffix fun _ _ => h.remark
    | captured name => exact h.inside (.captured name) List.nil_suffix fun _ _ => h.remark

end FollowsFrom

/-- **What a rule reads by itself, it reads where it is pasted**, unless a remark hides the
closing; and what it does not read by itself reads at most up to the end of the text. -/
theorem readParts_follows (hfuel : text.length < fuel) (hfuel' : (text ++ closing).length < fuel') :
    Follows (readParts fuel modes groups chosen parts text)
      (readParts fuel' modes groups chosen parts (text ++ closing)) := by
  -- On the fuel for the text alone; the other reader may have any that lasts.  What is read next
  -- is the same for both, since the closing is behind it.
  induction fuel generalizing fuel' modes groups chosen parts text with
  | zero => cases hfuel
  | succ fuel ih =>
      obtain ⟨fuel', rfl⟩ := Nat.exists_eq_succ_of_ne_zero (Nat.ne_zero_of_lt hfuel')
      have hsuffix := skip_suffix modes text
      obtain h | ⟨h, h'⟩ := skip_append modes text
      · generalize hstart : modes.skip text = start at h hsuffix
        have hfrom {c : Char} {more : List Char} (hmore : c :: more = start) :
            more.length < fuel ∧ (more ++ closing).length < fuel' ∧
              FollowsFrom fuel fuel' more := by
          have hlength := hsuffix.length_le
          simp only [← hmore, List.length_cons, List.length_append] at hlength hfuel' ⊢
          have hclosing : closing.length = 2 := rfl
          refine ⟨by omega, by omega, fun hrest => ?_, fun hrest => ?_, ?_⟩
          · have hlength' := hrest.length_le
            exact ih (by omega) (by simp only [List.length_append]; omega)
          · have hlength' := hrest.length_le
            simp only [List.length_singleton] at hlength'
            exact readParts_left hrest (by omega)
          · exact readParts_nil (by omega) (by omega)
        cases next start with
        | nothing =>
            rw [readParts_end hstart, readParts_close h]
            exact .same (some _)
        | close more =>
            rw [readParts_close hstart, readParts_close h]
            exact .same (some _)
        | bar more =>
            rw [readParts_bar hstart, readParts_bar h]
            exact (hfrom rfl).2.2.same (List.suffix_refl more)
        | mark hc more =>
            rw [readParts_mark hc hstart, readParts_mark hc h]
            exact (hfrom rfl).2.2.mark hc
        | «class» more =>
            rw [readParts_class hstart, readParts_class h]
            exact (hfrom rfl).2.2.class (hfrom rfl).1 (hfrom rfl).2.1
        | group more =>
            rw [readParts_group hstart, readParts_group h]
            exact (hfrom rfl).2.2.group
        | token hc more =>
            rw [readParts_token hc hstart, readParts_token hc h]
            exact (hfrom rfl).2.2.token
      · rw [readParts_end h, readParts_end h']
        exact .remark rfl

end

end InAppMessaging.Pattern
