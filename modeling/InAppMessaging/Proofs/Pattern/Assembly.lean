import InAppMessaging.Pattern.Assembly
import InAppMessaging.Proofs.Pattern.Language

/-!
# What is put together accepts what its parts accept

A sequence in its simplest form accepts what its parts accept one after another, and no way of
putting patterns together brings bounds out of order.

* `accepts_sequence` — **a sequence accepts one text after another**;
* `bounded_sequence`, `bounded_choice`, `bounded_repeated` — bounds stay in order.
-/

namespace InAppMessaging.Pattern

/-! ## Sequences -/

/-- The patterns accept texts one after another. -/
def AcceptsAll : List Pattern → Option Char → List Char → Option Char → Prop
  | [], _, text, _ => text = []
  | p :: ps, before, text, after => ∃ u v, text = u ++ v ∧
      p.Accepts before u (ahead v after) ∧ AcceptsAll ps (behind before u) v after

section

variable {before after : Option Char} {text : List Char}

theorem acceptsAll_cons {p : Pattern} {ps : List Pattern} :
    AcceptsAll (p :: ps) before text after ↔ ∃ u v, text = u ++ v ∧
      p.Accepts before u (ahead v after) ∧ AcceptsAll ps (behind before u) v after := Iff.rfl

theorem acceptsAll_singleton {p : Pattern} :
    AcceptsAll [p] before text after ↔ p.Accepts before text after := by
  constructor
  · rintro ⟨u, _, rfl, hu, rfl⟩
    simpa using hu
  · exact fun h => ⟨text, [], by simp, h, rfl⟩

theorem acceptsAll_append {ps qs : List Pattern} :
    AcceptsAll (ps ++ qs) before text after ↔ ∃ u v, text = u ++ v ∧
      AcceptsAll ps before u (ahead v after) ∧ AcceptsAll qs (behind before u) v after := by
  induction ps generalizing before text with
  | nil =>
      constructor
      · exact fun h => ⟨[], text, rfl, rfl, h⟩
      · rintro ⟨_, v, rfl, rfl, h⟩
        exact h
  | cons p ps ih =>
      simp only [List.cons_append, acceptsAll_cons, ih]
      constructor
      · rintro ⟨u, _, rfl, hp, v, w, rfl, hps, hqs⟩
        exact ⟨u ++ v, w, by simp, ⟨u, v, rfl, by rwa [← ahead_append], hps⟩,
          by rwa [behind_append]⟩
      · rintro ⟨_, w, rfl, ⟨u, v, rfl, hp, hps⟩, hqs⟩
        exact ⟨u, v ++ w, by simp, by rwa [ahead_append], v, w, rfl, hps,
          by rwa [behind_append] at hqs⟩

/-- A pattern accepts what its parts accept. -/
theorem acceptsAll_parts {p : Pattern} :
    AcceptsAll p.parts before text after ↔ p.Accepts before text after := by
  induction p generalizing before text with
  | empty => exact Iff.rfl
  | seq a b _ ihb => simp only [parts, acceptsAll_cons, ihb, Accepts]
  | _ => exact acceptsAll_singleton

theorem accepts_chained {ps : List Pattern} :
    (chained ps).Accepts before text after ↔ AcceptsAll ps before text after := by
  induction ps generalizing before text with
  | nil => exact Iff.rfl
  | cons p ps ih =>
      cases ps with
      | nil => exact acceptsAll_singleton.symm
      | cons q rest => simp only [chained, Accepts, acceptsAll_cons (p := p), ih]

/-- A pattern stays in front of others, unless it and the next one are literals. -/
theorem joinLiterals_cons (p : Pattern) (ps : List Pattern) :
    joinLiterals (p :: ps) = p :: joinLiterals ps ∨
      ∃ s t more, p = literal s ∧ joinLiterals ps = literal t :: more ∧
        joinLiterals (p :: ps) = literal (s ++ t) :: more := by
  cases p with
  | literal s =>
      rw [joinLiterals]
      split
      · next t more heq => exact .inr ⟨s, t, more, rfl, heq, rfl⟩
      · exact .inl rfl
  | _ => exact .inl rfl

/-- Literals side by side accept what one literal of both accepts. -/
theorem acceptsAll_joinLiterals {ps : List Pattern} :
    AcceptsAll (joinLiterals ps) before text after ↔ AcceptsAll ps before text after := by
  induction ps generalizing before text with
  | nil => exact Iff.rfl
  | cons p ps ih =>
      have hkept : AcceptsAll (p :: joinLiterals ps) before text after ↔
          AcceptsAll (p :: ps) before text after := by
        simp only [acceptsAll_cons, ih]
      rw [← hkept]
      obtain heq | ⟨s, t, more, rfl, hps, heq⟩ := joinLiterals_cons p ps
      · rw [heq]
      · rw [heq, hps]
        simp only [acceptsAll_cons, Accepts]
        constructor
        · rintro ⟨_, v, rfl, rfl, hmore⟩
          exact ⟨s, t ++ v, by simp, rfl, t, v, rfl, rfl, by rwa [← behind_append]⟩
        · rintro ⟨_, _, rfl, rfl, _, v, rfl, rfl, hmore⟩
          exact ⟨_, v, by simp, rfl, by rwa [behind_append]⟩

/-- **A sequence accepts one text after another.** -/
theorem accepts_sequence {ps : List Pattern} :
    (sequence ps).Accepts before text after ↔ AcceptsAll ps before text after := by
  rw [sequence, accepts_chained, acceptsAll_joinLiterals]
  induction ps generalizing before text with
  | nil => exact Iff.rfl
  | cons p ps ih =>
      rw [List.flatMap_cons, acceptsAll_append]
      simp only [acceptsAll_cons, acceptsAll_parts, ih]

end

/-! ## Bounds -/

theorem bounded_parts {p : Pattern} (h : p.Bounded) : ∀ q ∈ p.parts, q.Bounded := by
  induction p with
  | empty => simp [parts]
  | seq a b _ ihb => simpa [parts] using ⟨h.1, ihb h.2⟩
  | _ => simpa [parts] using h

theorem bounded_chained : ∀ {ps : List Pattern}, (∀ p ∈ ps, p.Bounded) → (chained ps).Bounded
  | [], _ => trivial
  | [p], h => h p (by simp)
  | p :: q :: rest, h => ⟨h p (by simp), bounded_chained fun r hr => h r (by simp [hr])⟩

theorem bounded_joinLiterals {ps : List Pattern} (h : ∀ p ∈ ps, p.Bounded) :
    ∀ p ∈ joinLiterals ps, p.Bounded := by
  induction ps with
  | nil => simp [joinLiterals]
  | cons p ps ih =>
      have hrest := ih fun q hq => h q (by simp [hq])
      obtain heq | ⟨s, t, more, rfl, hps, heq⟩ := joinLiterals_cons p ps
      · simpa [heq] using ⟨h p (by simp), hrest⟩
      · rw [hps] at hrest
        simpa [heq, Bounded] using hrest

theorem bounded_sequence {ps : List Pattern} (h : ∀ p ∈ ps, p.Bounded) : (sequence ps).Bounded := by
  refine bounded_chained (bounded_joinLiterals fun q hq => ?_)
  obtain ⟨p, hp, hq⟩ := List.mem_flatMap.mp hq
  exact bounded_parts (h p hp) q hq

theorem bounded_ofSet (s : CharSet) (bytewise : Bool) : (ofSet s bytewise).Bounded := by
  unfold ofSet
  split
  · trivial
  · split <;> trivial
  · trivial

theorem bounded_branches {p : Pattern} (h : p.Bounded) : ∀ q ∈ p.branches, q.Bounded := by
  induction p with
  | alt a b _ ihb => simpa [branches] using ⟨h.1, ihb h.2⟩
  | _ => simpa [branches] using h

theorem bounded_offered : ∀ {ps : List Pattern}, (∀ p ∈ ps, p.Bounded) → (offered ps).Bounded
  | [], _ => trivial
  | [p], h => h p (by simp)
  | p :: q :: rest, h => ⟨h p (by simp), bounded_offered fun r hr => h r (by simp [hr])⟩

/-- What lists begin with alike is taken from the first of them. -/
theorem mem_commonStart {q : Pattern} {ps qs : List Pattern} (h : q ∈ commonStart ps qs) :
    q ∈ ps := by
  induction ps generalizing qs with
  | nil => cases h
  | cons p ps ih =>
      cases qs with
      | nil => cases h
      | cons r rest =>
          rw [commonStart] at h
          split at h
          · exact (List.mem_cons.mp h).elim (by simp +contextual) fun h =>
              List.mem_cons_of_mem _ (ih h)
          · cases h

theorem mem_sharedStart {q : Pattern} {lists : List (List Pattern)} (h : q ∈ sharedStart lists) :
    ∃ ps ∈ lists, q ∈ ps := by
  cases lists with
  | nil => cases h
  | cons first others =>
      refine ⟨first, by simp, ?_⟩
      rw [sharedStart] at h
      induction others generalizing first with
      | nil => exact h
      | cons next others ih => exact mem_commonStart (ih _ h)

/-- Whoever has several parts has just those. -/
theorem eq_parts_of_severalParts? {p : Pattern} {ps : List Pattern}
    (h : p.severalParts? = some ps) : ps = p.parts := by
  cases p with
  | seq a b => exact (Option.some.inj h).symm
  | _ => cases h

theorem mem_of_mapM_severalParts? {choices : List Pattern} {lists : List (List Pattern)}
    (h : choices.mapM severalParts? = some lists) {ps : List Pattern} (hps : ps ∈ lists) :
    ∃ p ∈ choices, ps = p.parts := by
  induction choices generalizing lists with
  | nil =>
      obtain rfl : [] = lists := by simpa using h
      cases hps
  | cons p choices ih =>
      simp only [List.mapM_cons, Option.bind_eq_bind, Option.bind_eq_some_iff, Option.pure_def,
        Option.some.injEq] at h
      obtain ⟨first, hfirst, others, hothers, rfl⟩ := h
      obtain rfl | hps := List.mem_cons.mp hps
      · exact ⟨p, by simp, eq_parts_of_severalParts? hfirst⟩
      · obtain ⟨q, hq, heq⟩ := ih hothers hps
        exact ⟨q, by simp [hq], heq⟩

theorem bounded_chooseWithin (fuel : Nat) {ps : List Pattern} (h : ∀ p ∈ ps, p.Bounded) :
    (chooseWithin fuel ps).Bounded := by
  have hbranches {ps : List Pattern} (h : ∀ p ∈ ps, p.Bounded) :
      ∀ p ∈ ps.flatMap branches, p.Bounded := fun q hq => by
    obtain ⟨p, hp, hq⟩ := List.mem_flatMap.mp hq
    exact bounded_branches (h p hp) q hq
  induction fuel generalizing ps with
  | zero => exact bounded_offered (hbranches h)
  | succ fuel ih =>
      have hall := hbranches h
      unfold chooseWithin
      generalize ps.flatMap branches = choices at hall ⊢
      split
      · trivial
      · exact hall _ (by simp)
      · split
        · exact bounded_ofSet _ _
        · simp only
          split
          · exact bounded_offered hall
          · refine bounded_sequence fun q hq => ?_
            obtain hq | hq := List.mem_append.mp hq
            · cases hlists : choices.mapM severalParts? with
              | none => simp [hlists] at hq
              | some lists =>
                  rw [hlists, Option.map_some, Option.getD_some] at hq
                  obtain ⟨ps, hps, hq⟩ := mem_sharedStart hq
                  obtain ⟨p, hp, rfl⟩ := mem_of_mapM_severalParts? hlists hps
                  exact bounded_parts (hall p hp) q hq
            · obtain rfl := List.mem_singleton.mp hq
              refine ih fun r hr => ?_
              obtain ⟨p, hp, rfl⟩ := List.mem_map.mp hr
              exact bounded_sequence fun q hq =>
                bounded_parts (hall p hp) q (List.mem_of_mem_drop hq)

theorem bounded_choice {ps : List Pattern} (h : ∀ p ∈ ps, p.Bounded) : (choice ps).Bounded :=
  bounded_chooseWithin _ h

theorem bounded_repeated {p : Pattern} (h : p.Bounded) {least : Nat} {most : Option Nat}
    (hbounds : ∀ m ∈ most, least ≤ m) (greedy : Bool) :
    (p.repeated least most greedy).Bounded := by
  have hput {least : Nat} {most : Option Nat} (hbounds : ∀ m ∈ most, least ≤ m) :
      (if least = 0 ∧ most = some 0 then empty
        else if least = 1 ∧ most = some 1 then p else rep p least most greedy).Bounded := by
    split
    · trivial
    · split
      · exact h
      · exact ⟨hbounds, h⟩
  refine hput ?_
  split
  · rintro _ ⟨⟩
    cases most with
    | none => exact Nat.min_le_right least 1
    | some m =>
        have := hbounds m rfl
        simp only [Option.getD_some]
        omega
  · exact hbounds

end InAppMessaging.Pattern
