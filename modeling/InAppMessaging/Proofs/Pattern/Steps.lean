import InAppMessaging.Proofs.Pattern.Assembly
import InAppMessaging.Proofs.Pattern.Remainder

/-!
# One step of the reader of patterns

The reader of alternatives looks at the first character that is not skipped: the text ends there,
a bracket closes, a bar begins another alternative, a mark repeats the last part, or another part
is read, a class, a group or a token.  Each of these is one equation (`readParts_end` to
`readParts_token`); `next` says that there is nothing else.

* `readParts_reads` — **whatever is read, its bounds are in order**, and what is left is empty or
  begins with a bracket;
* `readParts_more` — more fuel reads nothing in another way.
-/

namespace InAppMessaging.Pattern

/-! ## The steps -/

/-- The marks that repeat the last part. -/
def marks : List Char := ['?', '*', '+', '\x7b']

/-- The bounds that a mark stands for. -/
def readMark (modes : Modes) : List Char → Option (Nat × Option Nat × List Char)
  | '?' :: rest => some (0, some 1, rest)
  | '*' :: rest => some (0, none, rest)
  | '+' :: rest => some (1, none, rest)
  | '\x7b' :: rest => (readBounds modes rest).map fun r => (r.1, r.2.1, modes.skip r.2.2)
  | _ => none

/-- How a group is read: in which modes, with which groups opened, and what becomes of it.  A
change of modes opens no group. -/
def Opening.inside? (modes : Modes) (groups : Groups) :
    Opening → Option (Modes × Groups × (Pattern → Pattern))
  | .change _ => none
  | .moded inner => some (inner, groups, id)
  | .captured name =>
      (groups.open? name).map fun opened => (modes, opened, group opened.count)

variable {fuel : Nat} {modes : Modes} {groups : Groups} {chosen parts : List Part}
  {text more : List Char}

/-- Reads on behind the bracket that closes a group. -/
def readBehind (fuel : Nat) (modes : Modes) (chosen parts : List Part) (wrap : Pattern → Pattern)
    (inner : Part × Groups × List Char) : Option (Part × Groups × List Char) :=
  match inner.2.2 with
  | ')' :: rest =>
      readParts fuel modes inner.2.1 chosen
        (⟨wrap inner.1.pattern, inner.1.depth + 1, true⟩ :: parts) rest
  | _ => none

/-- Reads what stands in a group that is opened, and on behind it. -/
def readInside (fuel : Nat) (modes : Modes) (groups : Groups) (chosen parts : List Part)
    (opening : Opening) (text : List Char) : Option (Part × Groups × List Char) :=
  (opening.inside? modes groups).bind fun i =>
    (readParts fuel i.1 i.2.1 [] [] text).bind (readBehind fuel modes chosen parts i.2.2)

/-- Reads on behind what opens a group or changes the modes. -/
def readGroup (fuel : Nat) (modes : Modes) (groups : Groups) (chosen parts : List Part)
    (r : Opening × List Char) : Option (Part × Groups × List Char) :=
  match r.1 with
  | .change modes => readParts fuel modes groups chosen (⟨.empty, 0, false⟩ :: parts) r.2
  | opening => readInside fuel modes groups chosen parts opening r.2

theorem readParts_end (h : modes.skip text = []) :
    readParts (fuel + 1) modes groups chosen parts text =
      some (.chosen (.joined parts :: chosen), groups, []) := by
  rw [readParts, h]

theorem readParts_close (h : modes.skip text = ')' :: more) :
    readParts (fuel + 1) modes groups chosen parts text =
      some (.chosen (.joined parts :: chosen), groups, ')' :: more) := by
  rw [readParts, h]
  rfl

theorem readParts_bar (h : modes.skip text = '|' :: more) :
    readParts (fuel + 1) modes groups chosen parts text =
      readParts fuel modes groups (.joined parts :: chosen) [] more := by
  rw [readParts, h]
  rfl

theorem readParts_mark {c : Char} (hc : c ∈ marks) (h : modes.skip text = c :: more) :
    readParts (fuel + 1) modes groups chosen parts text =
      (readMark modes (c :: more)).bind fun r =>
        (repeatLast r.1 r.2.1 (readGreed modes r.2.2).1 parts).bind fun parts =>
          readParts fuel modes groups chosen parts (readGreed modes r.2.2).2 := by
  rw [readParts, h]
  simp only [marks, List.mem_cons, List.not_mem_nil, or_false] at hc
  obtain rfl | rfl | rfl | rfl := hc
  · rfl
  · rfl
  · rfl
  · simp only [readMark, Option.bind_map]
    rfl

theorem readParts_class (h : modes.skip text = '[' :: more) :
    readParts (fuel + 1) modes groups chosen parts text =
      (readClass modes fuel (readOpening modes more).1 (readOpening modes more).2.1 none
        (readOpening modes more).2.2).bind fun r =>
        readParts fuel modes groups chosen
          (⟨ofSet r.1 (!modes.unicode), r.2.1, true⟩ :: parts) r.2.2 := by
  rw [readParts, h]
  rfl

theorem readParts_group (h : modes.skip text = '(' :: more) :
    readParts (fuel + 1) modes groups chosen parts text =
      (readGroupOpening modes more).bind (readGroup fuel modes groups chosen parts) := by
  rw [readParts, h]
  refine congrArg (Option.bind (readGroupOpening modes more)) (funext fun r => ?_)
  obtain ⟨opening, rest⟩ := r
  cases opening with
  | change modes => rfl
  | moded inner => rfl
  | captured name =>
      simp only [readGroup, readInside, Opening.inside?, Option.bind_map]
      rfl

theorem readParts_token {c : Char} (hc : c ∉ [')', '|', '[', '('] ++ marks)
    (h : modes.skip text = c :: more) :
    readParts (fuel + 1) modes groups chosen parts text =
      (readToken modes (c :: more)).bind fun r =>
        readParts fuel modes groups chosen (⟨r.1, 0, true⟩ :: parts) r.2 := by
  simp only [marks, List.cons_append, List.nil_append, List.mem_cons, List.not_mem_nil,
    or_false, not_or] at hc
  rw [readParts, h]
  split <;> simp_all

/-- What the reader may find in front of it. -/
inductive Next : List Char → Prop
  | nothing : Next []
  | close (more : List Char) : Next (')' :: more)
  | bar (more : List Char) : Next ('|' :: more)
  | mark {c : Char} (hc : c ∈ marks) (more : List Char) : Next (c :: more)
  | class (more : List Char) : Next ('[' :: more)
  | group (more : List Char) : Next ('(' :: more)
  | token {c : Char} (hc : c ∉ [')', '|', '[', '('] ++ marks) (more : List Char) : Next (c :: more)

/-- There is nothing else than the seven steps. -/
theorem next (text : List Char) : Next text := by
  cases text with
  | nil => exact .nothing
  | cons c more =>
      by_cases hmark : c ∈ marks
      · exact .mark hmark more
      by_cases hother : c ∈ [')', '|', '[', '(']
      · simp only [List.mem_cons, List.not_mem_nil, or_false] at hother
        obtain rfl | rfl | rfl | rfl := hother
        · exact .close more
        · exact .bar more
        · exact .class more
        · exact .group more
      · exact .token (by simpa only [List.mem_append, not_or] using ⟨hother, hmark⟩) more

/-! ## What a step leaves -/

theorem readMark_suffix (c : Char) : LeavesEnd more (readMark modes (c :: more)) := by
  unfold readMark
  split
  · next heq => exact .some ((List.cons.inj heq).2 ▸ List.suffix_refl _)
  · next heq => exact .some ((List.cons.inj heq).2 ▸ List.suffix_refl _)
  · next heq => exact .some ((List.cons.inj heq).2 ▸ List.suffix_refl _)
  · next heq =>
      obtain ⟨rfl, rfl⟩ := List.cons.inj heq
      exact readBounds_suffix.map fun r => skip_suffix modes r.2.2
  · exact .none

/-- A mark stands for bounds in order. -/
theorem readMark_ordered {r : Nat × Option Nat × List Char} (h : readMark modes text = some r) :
    ∀ m ∈ r.2.1, r.1 ≤ m := by
  unfold readMark at h
  split at h
  · cases h
    simp
  · cases h
    simp
  · cases h
    simp
  · obtain ⟨b, hb, rfl⟩ := Option.map_eq_some_iff.mp h
    unfold readBounds at hb
    simp only [Option.bind_eq_bind, Option.bind_eq_some_iff] at hb
    obtain ⟨⟨least, rest⟩, -, hb⟩ := hb
    split at hb
    · cases hb
      simp
    · split at hb
      · cases hb
        simp
      · simp only [Option.bind_eq_some_iff] at hb
        obtain ⟨⟨most, rest⟩, -, hb⟩ := hb
        split at hb
        · split at hb
          · cases hb
            simpa
          · cases hb
        · cases hb
    · cases hb
  · cases h

theorem readToken_bounded {r : Pattern × List Char} (h : readToken modes text = some r) :
    r.1.Bounded := by
  have hatom {a : Atom} {p : Pattern} (h : a.pattern? modes = some p) : p.Bounded := by
    unfold Atom.pattern? at h
    split at h
    · split at h <;> cases h
      exact bounded_ofSet _ _
    · cases h
      trivial
    · cases h
      exact bounded_ofSet _ _
  unfold readToken at h
  split at h
  · cases h
  · simp only [Option.bind_eq_bind, Option.bind_eq_some_iff] at h
    obtain ⟨a, -, p, hp, h⟩ := h
    cases h
    exact hatom hp
  · obtain ⟨s, -, rfl⟩ := Option.map_eq_some_iff.mp h
    exact bounded_ofSet _ _
  · cases h
    trivial
  · cases h
    trivial
  · obtain ⟨p, hp, rfl⟩ := Option.map_eq_some_iff.mp h
    exact hatom hp

/-- The bounds in all of some parts are in order. -/
def AllBounded (parts : List Part) : Prop := ∀ p ∈ parts, p.pattern.Bounded

theorem AllBounded.cons {p : Part} (hp : p.pattern.Bounded) (h : AllBounded parts) :
    AllBounded (p :: parts) := List.forall_mem_cons.mpr ⟨hp, h⟩

theorem AllBounded.patterns (h : AllBounded parts) :
    ∀ p ∈ parts.reverse.map (·.pattern), p.Bounded := by
  simpa [AllBounded] using h

theorem bounded_joined (h : AllBounded parts) : (Part.joined parts).pattern.Bounded := by
  unfold Part.joined
  split
  · trivial
  · exact h _ List.mem_cons_self
  · exact bounded_sequence h.patterns

theorem bounded_chosen (h : AllBounded parts) : (Part.chosen parts).pattern.Bounded := by
  unfold Part.chosen
  split
  · exact h _ List.mem_cons_self
  · exact bounded_choice h.patterns

theorem bounded_repeatLast {least : Nat} {most : Option Nat} {greedy : Bool} {result : List Part}
    (hbounds : ∀ m ∈ most, least ≤ m) (h : AllBounded parts)
    (hresult : repeatLast least most greedy parts = some result) : AllBounded result := by
  unfold repeatLast at hresult
  split at hresult
  · next p rest =>
      split at hresult <;> cases hresult
      obtain ⟨hp, hrest⟩ := List.forall_mem_cons.mp h
      exact .cons (bounded_repeated hp hbounds greedy) hrest
  · cases hresult

theorem bounded_inside {opening : Opening} {inside : Modes × Groups × (Pattern → Pattern)}
    (h : opening.inside? modes groups = some inside) {p : Pattern} (hp : p.Bounded) :
    (inside.2.2 p).Bounded := by
  cases opening with
  | change modes => cases h
  | moded modes =>
      cases h
      exact hp
  | captured name =>
      obtain ⟨opened, -, rfl⟩ := Option.map_eq_some_iff.mp h
      exact hp

/-- What was read: an end of the text is left, which is empty or begins with a bracket that
closes, and the bounds in the pattern are in order. -/
structure Reads (text : List Char) (chosen parts : List Part) (r : Part × Groups × List Char) :
    Prop where
  rest : r.2.2 <:+ text
  stopped : r.2.2 = [] ∨ ∃ more, r.2.2 = ')' :: more
  bounded : AllBounded chosen → AllBounded parts → r.1.pattern.Bounded

/-- What was read further on was read from here. -/
theorem Reads.onward {text' : List Char} {chosen' parts' : List Part}
    {r : Part × Groups × List Char} (h : Reads text' chosen' parts' r) (hrest : text' <:+ text)
    (hchosen : AllBounded chosen → AllBounded parts → AllBounded chosen')
    (hparts : AllBounded parts → AllBounded parts') : Reads text chosen parts r where
  rest := h.rest.trans hrest
  stopped := h.stopped
  bounded hc hp := h.bounded (hchosen hc hp) (hparts hp)

theorem readParts_reads {r : Part × Groups × List Char}
    (h : readParts fuel modes groups chosen parts text = some r) : Reads text chosen parts r := by
  induction fuel generalizing modes groups chosen parts text r with
  | zero => cases h
  | succ fuel ih =>
      have hwhole (hc : AllBounded chosen) (hp : AllBounded parts) :
          (Part.chosen (.joined parts :: chosen)).pattern.Bounded :=
        bounded_chosen (.cons (bounded_joined hp) hc)
      have hskip := skip_suffix modes text
      generalize hstart : modes.skip text = start at hskip
      cases next start with
      | nothing =>
          rw [readParts_end hstart] at h
          cases h
          exact ⟨List.nil_suffix, .inl rfl, hwhole⟩
      | close more =>
          rw [readParts_close hstart] at h
          cases h
          exact ⟨hskip, .inr ⟨more, rfl⟩, hwhole⟩
      | bar more =>
          rw [readParts_bar hstart] at h
          exact (ih h).onward ((List.suffix_cons _ _).trans hskip)
            (fun hc hp => .cons (bounded_joined hp) hc) fun _ => nofun
      | mark hc more =>
          rw [readParts_mark hc hstart] at h
          simp only [Option.bind_eq_some_iff] at h
          obtain ⟨bounds, hbounds, repeated, hrepeated, h⟩ := h
          refine (ih h).onward ?_ (fun hc _ => hc)
            fun hp => bounded_repeatLast (readMark_ordered hbounds) hp hrepeated
          exact readGreed_suffix.trans ((readMark_suffix _ _ hbounds).trans
            ((List.suffix_cons _ _).trans hskip))
      | «class» more =>
          rw [readParts_class hstart] at h
          obtain ⟨members, hmembers, h⟩ := Option.bind_eq_some_iff.mp h
          refine (ih h).onward ?_ (fun hc _ => hc) fun hp => .cons (bounded_ofSet _ _) hp
          exact (readClass_suffix _ hmembers).trans (readOpening_suffix.trans
            ((List.suffix_cons _ _).trans hskip))
      | group more =>
          rw [readParts_group hstart] at h
          obtain ⟨⟨opening, rest⟩, hopening, h⟩ := Option.bind_eq_some_iff.mp h
          have hrest := (readGroupOpening_suffix _ hopening).trans
            ((List.suffix_cons _ _).trans hskip)
          have hinside {opening : Opening}
              (h : readInside fuel modes groups chosen parts opening rest = some r) :
              Reads text chosen parts r := by
            simp only [readInside, Option.bind_eq_some_iff] at h
            obtain ⟨inside, hinside, inner, hinner, h⟩ := h
            have hreads := ih hinner
            unfold readBehind at h
            split at h
            · next behind heq =>
                have hbehind := List.suffix_cons ')' behind
                rw [← heq] at hbehind
                refine (ih h).onward (hbehind.trans (hreads.rest.trans hrest)) (fun hc _ => hc)
                  fun hp => .cons (bounded_inside hinside (hreads.bounded nofun nofun)) hp
            · cases h
          cases opening with
          | change modes =>
              exact (ih h).onward hrest (fun hc _ => hc) fun hp => .cons trivial hp
          | moded modes => exact hinside h
          | captured name => exact hinside h
      | token hc more =>
          rw [readParts_token hc hstart] at h
          obtain ⟨token, htoken, h⟩ := Option.bind_eq_some_iff.mp h
          refine (ih h).onward ?_ (fun hc _ => hc) fun hp => .cons (readToken_bounded htoken) hp
          exact (readToken_suffix _ _ htoken).trans ((List.suffix_cons _ _).trans hskip)

/-! ## More fuel -/

section

variable {negated : Bool} {m : Members} {pending : Option Pending} {fuel' : Nat}

/-- More fuel reads no class in another way. -/
theorem readClass_more {r : CharSet × Nat × List Char}
    (h : readClass modes fuel negated m pending text = some r) (hfuel : fuel ≤ fuel') :
    readClass modes fuel' negated m pending text = some r := by
  induction fuel generalizing fuel' negated m pending text r with
  | zero => cases h
  | succ fuel ih =>
      obtain ⟨fuel', rfl⟩ := Nat.exists_eq_succ_of_ne_zero (Nat.ne_zero_of_lt hfuel)
      replace hfuel := Nat.le_of_succ_le_succ hfuel
      generalize hstart : modes.skip text = start
      cases nextInClass start with
      | nothing =>
          rw [readClass_end hstart] at h
          cases h
      | close more =>
          rw [readClass_close hstart] at h ⊢
          exact h
      | inner more =>
          rw [readClass_open hstart] at h ⊢
          cases hnamed : readNamed modes more with
          | some named =>
              rw [hnamed] at h
              obtain ⟨s, hs, h⟩ := Option.bind_eq_some_iff.mp h
              exact Option.bind_eq_some_iff.mpr ⟨s, hs, ih h hfuel⟩
          | none =>
              rw [hnamed] at h
              obtain ⟨inner, hinner, h⟩ := Option.bind_eq_some_iff.mp h
              exact Option.bind_eq_some_iff.mpr ⟨inner, ih hinner hfuel, ih h hfuel⟩
      | operate hop =>
          rw [readClass_operate (hstart ▸ hop)] at h ⊢
          exact ih h hfuel
      | item hc hop =>
          rw [readClass_item hstart hc hop] at h ⊢
          obtain ⟨item, hitem, h⟩ := Option.bind_eq_some_iff.mp h
          exact Option.bind_eq_some_iff.mpr ⟨item, hitem, ih h hfuel⟩

/-- More fuel reads nothing in another way. -/
theorem readParts_more {r : Part × Groups × List Char}
    (h : readParts fuel modes groups chosen parts text = some r) (hfuel : fuel ≤ fuel') :
    readParts fuel' modes groups chosen parts text = some r := by
  induction fuel generalizing fuel' modes groups chosen parts text r with
  | zero => cases h
  | succ fuel ih =>
      obtain ⟨fuel', rfl⟩ := Nat.exists_eq_succ_of_ne_zero (Nat.ne_zero_of_lt hfuel)
      replace hfuel := Nat.le_of_succ_le_succ hfuel
      generalize hstart : modes.skip text = start
      cases next start with
      | nothing =>
          rw [readParts_end hstart] at h ⊢
          exact h
      | close more =>
          rw [readParts_close hstart] at h ⊢
          exact h
      | bar more =>
          rw [readParts_bar hstart] at h ⊢
          exact ih h hfuel
      | mark hc more =>
          rw [readParts_mark hc hstart] at h ⊢
          obtain ⟨bounds, hbounds, h⟩ := Option.bind_eq_some_iff.mp h
          obtain ⟨parts, hparts, h⟩ := Option.bind_eq_some_iff.mp h
          exact Option.bind_eq_some_iff.mpr
            ⟨bounds, hbounds, Option.bind_eq_some_iff.mpr ⟨parts, hparts, ih h hfuel⟩⟩
      | «class» more =>
          rw [readParts_class hstart] at h ⊢
          obtain ⟨members, hmembers, h⟩ := Option.bind_eq_some_iff.mp h
          exact Option.bind_eq_some_iff.mpr
            ⟨members, readClass_more hmembers hfuel, ih h hfuel⟩
      | group more =>
          rw [readParts_group hstart] at h ⊢
          obtain ⟨⟨opening, rest⟩, hopening, h⟩ := Option.bind_eq_some_iff.mp h
          refine Option.bind_eq_some_iff.mpr ⟨⟨opening, rest⟩, hopening, ?_⟩
          have hinside {opening : Opening}
              (h : readInside fuel modes groups chosen parts opening rest = some r) :
              readInside fuel' modes groups chosen parts opening rest = some r := by
            obtain ⟨i, hi, h⟩ := Option.bind_eq_some_iff.mp h
            obtain ⟨inner, hinner, h⟩ := Option.bind_eq_some_iff.mp h
            refine Option.bind_eq_some_iff.mpr
              ⟨i, hi, Option.bind_eq_some_iff.mpr ⟨inner, ih hinner hfuel, ?_⟩⟩
            unfold readBehind at h ⊢
            split at h
            · exact ih h hfuel
            · cases h
          cases opening with
          | change modes => exact ih h hfuel
          | moded modes => exact hinside h
          | captured name => exact hinside h
      | token hc more =>
          rw [readParts_token hc hstart] at h ⊢
          obtain ⟨token, htoken, h⟩ := Option.bind_eq_some_iff.mp h
          exact Option.bind_eq_some_iff.mpr ⟨token, htoken, ih h hfuel⟩

end

end InAppMessaging.Pattern
