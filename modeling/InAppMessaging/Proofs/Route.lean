import InAppMessaging.Proofs.Pattern.Pasted
import InAppMessaging.Route

/-!
# A rule and the whole route

A rule is put between its anchors as text, and what comes out is read as one pattern.  Where the
rule is a pattern by itself, that makes no difference but for limits, and for a remark that the rule
ends in: the route is matched if and only if the pattern of the rule accepts all of it.  A rule
that is no pattern by itself may become one: a bracket that nothing opens closes the group that the
rule is put in, and only one of the anchors holds on either side of a bar behind it.

* `found_anchored` — what is anchored is found if the whole text is accepted;
* `wholePart?_pasted`, `straysTo_iff` — what a rule is read as between its anchors;
* `evaluateRule_alone` — **a rule and the whole route**.
-/

namespace InAppMessaging

namespace Pattern

/-- What a text is read as, up to its end or a bracket that nothing opens. -/
def reading? (text : List Char) : Option (Part × Groups × List Char) :=
  readParts (text.length + 1) {} {} [] [] text

/-- What a text is read as, if the whole of it is. -/
def wholePart? (text : List Char) : Option Part :=
  (reading? text).bind fun r => if r.2.2.isEmpty then some r.1 else none

/-- The part is neither nested too deep nor too large for a machine. -/
def Part.Fits (part : Part) : Prop := part.depth ≤ nestingLimit ∧ part.pattern.isWithinLimit = true

/-- A part in a group of its own between the anchors. -/
def Part.anchored (part : Part) : Part where
  pattern := sequence [.look .textStart, part.pattern, .look .textEnd]
  depth := part.depth + 2

theorem wholePart?_eq_some {text : List Char} {part : Part} :
    wholePart? text = some part ↔ ∃ groups, reading? text = some (part, groups, []) := by
  unfold wholePart?
  constructor
  · intro h
    obtain ⟨⟨read, groups, rest⟩, hr, h⟩ := Option.bind_eq_some_iff.mp h
    split at h
    · next hrest =>
        obtain rfl := List.isEmpty_iff.mp hrest
        cases h
        exact ⟨groups, hr⟩
    · cases h
  · rintro ⟨groups, h⟩
    rw [h]
    rfl

theorem ofText?_eq_some {text : List Char} {p : Pattern} :
    ofText? text = some p ↔ ∃ part, wholePart? text = some part ∧ part.Fits ∧ part.pattern = p := by
  have htext : ofText? text = (reading? text).bind fun r =>
      if r.2.2.isEmpty ∧ r.1.depth ≤ nestingLimit ∧ r.1.pattern.isWithinLimit then
        some r.1.pattern else none := rfl
  simp only [htext, wholePart?_eq_some, Option.bind_eq_some_iff]
  constructor
  · rintro ⟨⟨part, groups, rest⟩, hread, h⟩
    split at h
    · next hfits =>
        obtain rfl := List.isEmpty_iff.mp hfits.1
        exact ⟨part, ⟨groups, hread⟩, hfits.2, Option.some.inj h⟩
    · cases h
  · rintro ⟨part, ⟨groups, hread⟩, hfits, rfl⟩
    exact ⟨_, hread, if_pos ⟨rfl, hfits⟩⟩

/-- Only where a text begins nothing stands before a place. -/
theorem behind_eq_none {u : List Char} : behind none u = none ↔ u = [] := by
  have hsome (c : Char) (u : List Char) : (behind (some c) u).isSome := by
    induction u generalizing c with
    | nil => rfl
    | cons d u ih => exact ih d
  cases u with
  | nil => simp
  | cons c u => simpa using Option.isSome_iff_ne_none.mp (hsome c u)

/-- **An anchored pattern is found in a text if and only if the pattern accepts all of it.** -/
theorem found_anchored {part : Part} (h : part.pattern.Bounded) (text : List Char) :
    part.anchored.pattern.found text = true ↔ part.pattern.Accepts none text none := by
  have hbounded : part.anchored.pattern.Bounded :=
    bounded_sequence (by simpa [Bounded] using h)
  rw [found_iff hbounded]
  simp only [Part.anchored, accepts_sequence, acceptsAll_cons, Accepts]
  constructor
  · rintro ⟨u, v, w, rfl, _, _, rfl, ⟨rfl, hstart⟩, x, _, rfl, hx, _, _, rfl, ⟨rfl, hend⟩, rfl⟩
    obtain rfl : u = [] := behind_eq_none.mp (by simpa [Look.holds] using hstart)
    obtain rfl : w = [] := by simpa [Look.holds] using hend
    simpa using hx
  · intro hx
    exact ⟨[], text, [], by simp, [], text, rfl, ⟨rfl, rfl⟩, text, [], by simp, by simpa using hx,
      [], [], rfl, ⟨rfl, rfl⟩, rfl⟩

/-- A rule between its anchors. -/
def pasted (rule : List Char) : List Char := "^(?:".toList ++ rule ++ closing

/-- The rule has a bracket that nothing opens, and where it is pasted that bracket closes the group
of the rule: what is behind it is read on with the closing, outside of the group, and makes `whole`
with the start anchor and the part in front of the bracket. -/
def StraysTo (rule : List Char) (whole : Part) : Prop :=
  ∃ part groups rest groups', reading? rule = some (part, groups, ')' :: rest) ∧
    readParts (rule.length + 5) {} groups [] [⟨part.pattern, part.depth + 1, true⟩,
      ⟨.look .textStart, 0, true⟩] (rest ++ closing) = some (whole, groups', [])

/-- Without modes nothing is skipped. -/
theorem skip_default (cs : List Char) : Modes.skip {} cs = cs := rfl

/-- What is read where a rule is pasted: the rule, up to a bracket, and on behind it. -/
theorem reading?_pasted (rule : List Char) :
    reading? (pasted rule) =
      (readParts (rule.length + 5) {} {} [] [] (rule ++ closing)).bind
        (readBehind (rule.length + 5) {} [] [⟨.look .textStart, 0, true⟩] id) := by
  have htext : pasted rule = '^' :: '(' :: '?' :: ':' :: (rule ++ closing) := by
    simp [pasted]
  have hlength : (rule ++ closing).length = rule.length + 2 := by simp [closing]
  have hstart (more : List Char) :
      readToken {} ('^' :: more) = some (.look .textStart, more) := rfl
  have hopening (more : List Char) :
      readGroupOpening {} ('?' :: ':' :: more) = some (.moded {}, more) := rfl
  rw [reading?, htext]
  simp only [List.length_cons, hlength]
  rw [readParts_token (by decide) (skip_default _), hstart, Option.bind_some,
    readParts_group (skip_default _), hopening, Option.bind_some]
  rfl

/-- Behind the group of a rule the text ends where the rule does. -/
theorem readBehind_closing (fuel : Nat) (part : Part) (groups : Groups) :
    readBehind (fuel + 2) {} [] [⟨.look .textStart, 0, true⟩] id (part, groups, closing) =
      some (part.anchored, groups, []) := by
  have hend : readToken {} ['$'] = some (.look .textEnd, []) := rfl
  change readParts (fuel + 2) {} groups [] _ ['$'] = _
  rw [readParts_token (by decide) (skip_default _), hend, Option.bind_some,
    readParts_end (skip_default _)]
  simp [Part.chosen, Part.joined, Part.anchored]

section

variable {rule : List Char} {part : Part}

/-- A rule that is read to its end by itself, and so is where it is pasted, unless it ends in a
remark. -/
theorem wholePart?_pasted (h : wholePart? rule = some part) :
    (wholePart? (rule ++ closing) = some part ∧
        wholePart? (pasted rule) = none) ∨
      wholePart? (rule ++ closing) = none ∧
        wholePart? (pasted rule) = some part.anchored := by
  obtain ⟨groups, hread⟩ := wholePart?_eq_some.mp h
  have hlength : (rule ++ closing).length = rule.length + 2 := by simp [closing]
  have hfollows : Follows (some (part, groups, [])) (reading? (rule ++ closing)) := by
    rw [← hread]
    exact readParts_follows (Nat.lt_succ_self _) (Nat.lt_succ_self _)
  -- Between the anchors the reader comes to the rule with some fuel to spare.
  have hmore {r : Part × Groups × List Char} (hr : reading? (rule ++ closing) = some r) :
      readParts (rule.length + 5) {} {} [] [] (rule ++ closing) = some r :=
    readParts_more hr (by omega)
  generalize hread' : reading? (rule ++ closing) = read at hfollows
  cases hfollows with
  | same =>
      right
      refine ⟨by rw [wholePart?, hread']; rfl, wholePart?_eq_some.mpr ⟨groups, ?_⟩⟩
      rw [reading?_pasted, hmore hread']
      exact readBehind_closing _ part groups
  | remark _ =>
      left
      refine ⟨wholePart?_eq_some.mpr ⟨groups, hread'⟩, ?_⟩
      rw [wholePart?, reading?_pasted, hmore hread']
      rfl

/-- A rule that is not read to its end by itself is read where it is pasted only if it strays. -/
theorem straysTo_iff (h : wholePart? rule = none) :
    wholePart? (pasted rule) = some part ↔ StraysTo rule part := by
  have hlength : (rule ++ closing).length = rule.length + 2 := by simp [closing]
  have hfollows : Follows (reading? rule)
      (readParts (rule.length + 5) {} {} [] [] (rule ++ closing)) :=
    readParts_follows (Nat.lt_succ_self _) (by omega)
  rw [wholePart?_eq_some, reading?_pasted, StraysTo]
  generalize readParts (rule.length + 5) {} {} [] [] (rule ++ closing) = read at hfollows
  cases hown : reading? rule with
  | none =>
      rw [hown] at hfollows
      constructor
      · rintro ⟨groups, hread⟩
        cases hfollows with
        | same => cases hread
        | overrun hleft =>
            rw [Option.bind_some, readBehind_stop fun hhead =>
              absurd (hleft.subset (List.mem_of_mem_head? hhead)) (by decide)] at hread
            cases hread
      · rintro ⟨_, _, _, _, hread, -⟩
        cases hread
  | some r =>
      obtain ⟨part', groups, rest⟩ := r
      obtain hrest | ⟨more, hmore⟩ := (readParts_reads hown).stopped
      · obtain rfl : rest = [] := hrest
        rw [wholePart?_eq_some.mpr ⟨groups, hown⟩] at h
        cases h
      · obtain rfl : rest = ')' :: more := hmore
        rw [hown] at hfollows
        cases hfollows with
        | same =>
            constructor
            · rintro ⟨groups', hread⟩
              exact ⟨part', groups, more, groups', rfl, hread⟩
            · rintro ⟨_, _, _, groups', heq, hread⟩
              cases heq
              exact ⟨groups', hread⟩
        | remark hleft => cases hleft

end

end Pattern

open Pattern

theorem evaluateRule_eq (rule route : String) :
    evaluateRule rule route =
      match ofText? (pasted rule.toList) with
      | none => .invalidRule
      | some p => if p.found route.toList then .matched else .mismatched := rfl

section

variable {rule route : String}

theorem evaluateRule_eq_invalidRule : evaluateRule rule route = .invalidRule ↔
    ∀ part, wholePart? (pasted rule.toList) = some part → ¬part.Fits := by
  rw [evaluateRule_eq]
  cases h : ofText? (pasted rule.toList) with
  | none =>
      refine iff_of_true rfl fun part hpart hfits => ?_
      rw [ofText?_eq_some.mpr ⟨part, hpart, hfits, rfl⟩] at h
      cases h
  | some p =>
      obtain ⟨part, hpart, hfits, -⟩ := ofText?_eq_some.mp h
      refine iff_of_false ?_ fun hall => hall part hpart hfits
      simp only
      split <;> nofun

theorem evaluateRule_eq_matched : evaluateRule rule route = .matched ↔
    ∃ part, wholePart? (pasted rule.toList) = some part ∧ part.Fits ∧
      part.pattern.found route.toList = true := by
  rw [evaluateRule_eq]
  cases h : ofText? (pasted rule.toList) with
  | none =>
      refine iff_of_false nofun ?_
      rintro ⟨part, hpart, hfits, -⟩
      rw [ofText?_eq_some.mpr ⟨part, hpart, hfits, rfl⟩] at h
      cases h
  | some p =>
      obtain ⟨part, hpart, hfits, rfl⟩ := ofText?_eq_some.mp h
      simp only [hpart, Option.some.injEq, exists_eq_left', hfits, true_and]
      split <;> simp_all

end

/-- **A rule and the whole route.**  A rule that is a pattern by itself is invalid if and only if
it ends in a remark, or is nested too deep or too large where it is pasted; otherwise it is matched
if and only if its pattern accepts the whole route.  A rule that is no pattern by itself is invalid
unless it has a bracket that nothing opens, and strays to a pattern that has other anchors. -/
theorem evaluateRule_alone (rule route : String) :
    (∀ part, wholePart? rule.toList = some part →
      (evaluateRule rule route = .invalidRule ↔
        wholePart? (rule.toList ++ ")$".toList) = some part ∨ ¬part.anchored.Fits) ∧
      (evaluateRule rule route ≠ .invalidRule →
        (evaluateRule rule route = .matched ↔ part.pattern.Accepts none route.toList none))) ∧
    (wholePart? rule.toList = none →
      (evaluateRule rule route = .invalidRule ↔
        ∀ whole, StraysTo rule.toList whole → ¬whole.Fits) ∧
      (evaluateRule rule route = .matched ↔
        ∃ whole, StraysTo rule.toList whole ∧ whole.Fits ∧
          whole.pattern.found route.toList = true)) := by
  rw [evaluateRule_eq_invalidRule, evaluateRule_eq_matched]
  constructor
  · intro part hpart
    obtain ⟨groups, hread⟩ := wholePart?_eq_some.mp hpart
    have hbounded : part.pattern.Bounded := (readParts_reads hread).bounded nofun nofun
    rw [Ne, evaluateRule_eq_invalidRule]
    obtain ⟨hhidden, hpasted⟩ | ⟨hclosed, hpasted⟩ := wholePart?_pasted hpart
    · exact ⟨iff_of_true (by simp [hpasted]) (.inl hhidden), by simp [hpasted]⟩
    · have hopen : wholePart? (rule.toList ++ ")$".toList) ≠ some part := by
        rw [show rule.toList ++ ")$".toList = rule.toList ++ closing from rfl, hclosed]
        nofun
      simp only [hpasted, Option.some.injEq, forall_eq', exists_eq_left', hopen, false_or,
        not_not, found_anchored hbounded]
      exact ⟨trivial, fun hfits => and_iff_right hfits⟩
  · intro hnone
    simp only [straysTo_iff hnone, true_and]

/-- The pattern that the rule `a)|(b` makes where it is pasted: either branch has one anchor. -/
def halfAnchored : Pattern :=
  .alt (.seq (.look .textStart) (.literal ['a']))
    (.seq (.group 1 (.literal ['b'])) (.look .textEnd))

/-- The rule `a)|(b` is no pattern, and matches a route that only begins with an `a`; the rule
`(?x)a#c` is one that accepts `a`, and is invalid all the same. -/
theorem evaluateRule_strays :
    (ofText? "a)|(b".toList = none ∧ evaluateRule "a)|(b" "axyz" = .matched) ∧
      ofText? "(?x)a#c".toList = some (.literal ['a']) ∧
        evaluateRule "(?x)a#c" "a" = .invalidRule := by
  refine ⟨⟨rfl, ?_⟩, rfl, ?_⟩
  · have hstray : StraysTo "a)|(b".toList ⟨halfAnchored, 3, true⟩ := ⟨_, _, _, _, rfl, rfl⟩
    have hfits : Part.Fits ⟨halfAnchored, 3, true⟩ := ⟨by decide, rfl⟩
    have hbounded : halfAnchored.Bounded := ⟨⟨trivial, trivial⟩, trivial, trivial⟩
    have hfound : halfAnchored.found "axyz".toList = true :=
      (found_iff hbounded _).mpr ⟨[], ['a'], ['x', 'y', 'z'], rfl,
        .inl ⟨[], ['a'], rfl, ⟨rfl, rfl⟩, rfl⟩⟩
    exact ((evaluateRule_alone _ _).2 rfl).2.mpr ⟨_, hstray, hfits, hfound⟩
  · exact ((evaluateRule_alone _ _).1 ⟨.literal ['a'], 1, true⟩ rfl).1.mpr (.inl rfl)

end InAppMessaging
