import InAppMessaging.Pattern.Basic
import Mathlib.Logic.Basic

/-!
# What a pattern accepts

The texts a pattern accepts between two characters (`Accepts`), said without reading them: a
sequence accepts one text after another, a choice what one of its branches accepts, a repetition
as many copies as its bounds allow.  The matcher takes one character at a time; it decides just
that, for patterns whose bounds are in order (`Bounded`).

* `nullable_iff`, `after_iff` — the empty text is decided at once, any other by its first character;
* `found_iff` — **a pattern is found where some stretch of the text is accepted**.
-/

namespace InAppMessaging.Pattern

/-! ## Places in a text -/

/-- The character before a place that a text leads to. -/
def behind : Option Char → List Char → Option Char
  | before, [] => before
  | _, c :: text => behind (some c) text

/-- The character after a place from which a text leads on. -/
def ahead (text : List Char) (after : Option Char) : Option Char := text.head?.or after

@[simp] theorem behind_nil (before : Option Char) : behind before [] = before := rfl

@[simp] theorem behind_cons (before : Option Char) (c : Char) (text : List Char) :
    behind before (c :: text) = behind (some c) text := rfl

theorem behind_append (before : Option Char) (u v : List Char) :
    behind before (u ++ v) = behind (behind before u) v := by
  induction u generalizing before with
  | nil => rfl
  | cons c u ih => exact ih (some c)

@[simp] theorem ahead_nil (after : Option Char) : ahead [] after = after := rfl

@[simp] theorem ahead_cons (c : Char) (text : List Char) (after : Option Char) :
    ahead (c :: text) after = some c := rfl

theorem ahead_append (u v : List Char) (after : Option Char) :
    ahead (u ++ v) after = ahead u (ahead v after) := by
  cases u <;> rfl

/-! ## Accepted texts -/

/-- So many texts one after another. -/
inductive Copies (L : Option Char → List Char → Option Char → Prop) :
    Nat → Option Char → List Char → Option Char → Prop
  | none {before after : Option Char} : Copies L 0 before [] after
  | more {n : Nat} {before after : Option Char} {u v : List Char}
      (first : L before u (ahead v after)) (rest : Copies L n (behind before u) v after) :
      Copies L (n + 1) before (u ++ v) after

/-- The pattern accepts a text that stands between two characters. -/
def Accepts : Pattern → Option Char → List Char → Option Char → Prop
  | empty, _, text, _ => text = []
  | literal t, _, text, _ => text = t
  | set s _, _, text, _ => ∃ c, text = [c] ∧ s.contains c = true
  | look l, before, text, after => text = [] ∧ l.holds ⟨before, after⟩ = true
  | seq a b, before, text, after => ∃ u v, text = u ++ v ∧
      a.Accepts before u (ahead v after) ∧ b.Accepts (behind before u) v after
  | alt a b, before, text, after => a.Accepts before text after ∨ b.Accepts before text after
  | rep p least most _, before, text, after => ∃ n, least ≤ n ∧ (∀ m ∈ most, n ≤ m) ∧
      Copies p.Accepts n before text after
  | group _ p, before, text, after => p.Accepts before text after

/-- No repetition in the pattern asks for more copies than it allows. -/
def Bounded : Pattern → Prop
  | seq a b | alt a b => a.Bounded ∧ b.Bounded
  | rep p least most _ => (∀ m ∈ most, least ≤ m) ∧ p.Bounded
  | group _ p => p.Bounded
  | _ => True

/-! ## Copies -/

section

variable {L : Option Char → List Char → Option Char → Prop} {n : Nat} {before after : Option Char}

/-- Copies of the empty text may stand before others. -/
theorem Copies.pad {text : List Char} (h : Copies L n before text after)
    (hempty : L before [] (ahead text after)) (k : Nat) : Copies L (n + k) before text after := by
  induction k with
  | zero => exact h
  | succ k ih => exact .more (u := []) hempty ih

theorem Copies.empty (h : L before [] after) (n : Nat) : Copies L n before [] after := by
  have hpad := Copies.pad (L := L) .none h n
  rwa [Nat.zero_add] at hpad

theorem Copies.of_empty (h : Copies L (n + 1) before [] after) : L before [] after := by
  generalize htext : [] = text at h
  cases h with
  | @more _ _ _ u v first _ =>
      obtain ⟨rfl, rfl⟩ := List.append_eq_nil_iff.mp htext.symm
      exact first

/-- Of some copies of a text the first one that is not empty begins it. -/
theorem Copies.uncons {c : Char} {rest : List Char} (h : Copies L n before (c :: rest) after) :
    ∃ k m u v, n = k + (m + 1) ∧ rest = u ++ v ∧ (k = 0 ∨ L before [] (some c)) ∧
      L before (c :: u) (ahead v after) ∧ Copies L m (behind (some c) u) v after := by
  generalize htext : c :: rest = text at h
  induction h with
  | none => cases htext
  | @more n before after u v first others ih =>
      cases u with
      | nil =>
          obtain rfl : v = c :: rest := htext.symm
          obtain ⟨k, m, u, v, rfl, hrest, -, hbegin, hothers⟩ := ih rfl
          exact ⟨k + 1, m, u, v, by omega, hrest, .inr first, hbegin, hothers⟩
      | cons d u =>
          obtain ⟨rfl, rfl⟩ := List.cons.inj htext
          exact ⟨0, n, u, v, by omega, rfl, .inl rfl, first, others⟩

end

/-! ## The empty text -/

/-- The matcher decides the empty text. -/
theorem nullable_iff {p : Pattern} (h : p.Bounded) (ctx : Context) :
    p.nullable ctx = true ↔ p.Accepts ctx.before [] ctx.after := by
  induction p with
  | empty => simp [nullable, Accepts]
  | literal text => cases text <;> simp [nullable, Accepts]
  | set s bytewise => simp [nullable, Accepts]
  | look l => simp [nullable, Accepts]
  | seq a b iha ihb =>
      rw [nullable, Bool.and_eq_true, iha h.1, ihb h.2, Accepts]
      constructor
      · exact fun ⟨ha, hb⟩ => ⟨[], [], rfl, ha, hb⟩
      · rintro ⟨u, v, htext, ha, hb⟩
        obtain ⟨rfl, rfl⟩ := List.append_eq_nil_iff.mp htext.symm
        exact ⟨ha, hb⟩
  | alt a b iha ihb => rw [nullable, Bool.or_eq_true, iha h.1, ihb h.2, Accepts]
  | rep p least most greedy ih =>
      rw [nullable, Bool.or_eq_true, decide_eq_true_eq, ih h.2, Accepts]
      constructor
      · rintro (rfl | hempty)
        · exact ⟨0, Nat.le_refl _, fun _ _ => Nat.zero_le _, .none⟩
        · exact ⟨least, Nat.le_refl _, h.1, .empty hempty least⟩
      · rintro ⟨n, hleast, -, hcopies⟩
        cases n with
        | zero => exact .inl (Nat.le_zero.mp hleast)
        | succ n => exact .inr hcopies.of_empty
  | group index p ih => exact ih h

/-! ## The first character -/

theorem accepts_andThen {p q : Pattern} {before after : Option Char} {text : List Char} :
    (p.andThen q).Accepts before text after ↔ (seq p q).Accepts before text after := by
  induction p generalizing before text with
  | empty =>
      simp only [andThen, Accepts]
      constructor
      · exact fun h => ⟨[], text, rfl, rfl, h⟩
      · rintro ⟨u, v, rfl, rfl, h⟩
        exact h
  | seq a b _ ihb =>
      simp only [andThen, Accepts]
      constructor
      · rintro ⟨u, v, rfl, ha, hrest⟩
        obtain ⟨v, w, rfl, hb, hq⟩ := ihb.mp hrest
        exact ⟨u ++ v, w, by simp, ⟨u, v, rfl, by rwa [← ahead_append], hb⟩,
          by rwa [behind_append]⟩
      · rintro ⟨_, w, rfl, ⟨u, v, rfl, ha, hb⟩, hq⟩
        refine ⟨u, v ++ w, by simp, by rwa [ahead_append], ihb.mpr ⟨v, w, rfl, hb, ?_⟩⟩
        rwa [behind_append] at hq
  | _ => rfl

theorem bounded_andThen {p q : Pattern} (hp : p.Bounded) (hq : q.Bounded) :
    (p.andThen q).Bounded := by
  induction p with
  | empty => exact hq
  | seq a b _ ihb => exact ⟨hp.1, ihb hp.2⟩
  | _ => exact ⟨hp, hq⟩

theorem bounded_after {p q : Pattern} (hp : p.Bounded) {ctx : Context} {c : Char}
    (hq : q ∈ p.after ctx c) : q.Bounded := by
  induction p generalizing q with
  | empty | look _ => simp [after] at hq
  | literal text =>
      simp only [after] at hq
      split at hq
      · obtain rfl := List.mem_singleton.mp hq
        cases text.tail <;> trivial
      · cases hq
  | set s bytewise =>
      simp only [after] at hq
      split at hq
      · obtain rfl := List.mem_singleton.mp hq
        trivial
      · cases hq
  | seq a b iha ihb =>
      rw [after, List.mem_append] at hq
      obtain hq | hq := hq
      · obtain ⟨left, hleft, rfl⟩ := List.mem_map.mp hq
        exact bounded_andThen (iha hp.1 hleft) hp.2
      · split at hq
        · exact ihb hp.2 hq
        · cases hq
  | alt a b iha ihb =>
      rw [after, List.mem_append] at hq
      exact hq.elim (iha hp.1) (ihb hp.2)
  | rep p least most greedy ih =>
      rw [after] at hq
      split at hq
      · cases hq
      · obtain ⟨left, hleft, rfl⟩ := List.mem_map.mp hq
        refine bounded_andThen (ih hp.2 hleft) ⟨?_, hp.2⟩
        intro m hm
        obtain ⟨most, rfl, rfl⟩ := Option.map_eq_some_iff.mp hm
        have hleast := hp.1 most rfl
        split <;> omega
  | group index p ih => exact ih hp hq

/-- The first character of a sequence is the first of its first part, or, if that accepts the
empty text there, the first of its second. -/
theorem accepts_seq_cons {a b : Pattern} {before after : Option Char} {c : Char}
    {rest : List Char} :
    (seq a b).Accepts before (c :: rest) after ↔
      (∃ u v, rest = u ++ v ∧ a.Accepts before (c :: u) (ahead v after) ∧
        b.Accepts (behind (some c) u) v after) ∨
      a.Accepts before [] (some c) ∧ b.Accepts before (c :: rest) after := by
  rw [Accepts]
  constructor
  · rintro ⟨u, v, htext, ha, hb⟩
    cases u with
    | nil =>
        obtain rfl : v = c :: rest := htext.symm
        exact .inr ⟨ha, hb⟩
    | cons d u =>
        obtain ⟨rfl, rfl⟩ := List.cons.inj htext
        exact .inl ⟨u, v, rfl, ha, hb⟩
  · rintro (⟨u, v, rfl, ha, hb⟩ | ⟨ha, hb⟩)
    · exact ⟨c :: u, v, rfl, ha, hb⟩
    · exact ⟨[], c :: rest, rfl, ha, hb⟩

/-- The first character of a repetition is the first of a copy.  Where a copy may be empty, so
many stand in front as are asked for; elsewhere it is the first copy. -/
theorem accepts_rep_cons {p : Pattern} {least : Nat} {most : Option Nat} {greedy : Bool}
    (hbounds : ∀ m ∈ most, least ≤ m) {before after : Option Char} {c : Char} {rest : List Char}
    {empties : Bool} (hempties : empties = true ↔ p.Accepts before [] (some c)) :
    (rep p least most greedy).Accepts before (c :: rest) after ↔
      most ≠ some 0 ∧ ∃ u v, rest = u ++ v ∧ p.Accepts before (c :: u) (ahead v after) ∧
        (rep p (if empties then 0 else least - 1) (most.map (· - 1)) greedy).Accepts
          (behind (some c) u) v after := by
  simp only [Accepts]
  constructor
  · rintro ⟨n, hleast, hmost, hcopies⟩
    obtain ⟨k, m, u, v, rfl, rfl, hpad, hfirst, hothers⟩ := hcopies.uncons
    refine ⟨?_, u, v, rfl, hfirst, m, ?_, ?_, hothers⟩
    · rintro rfl
      have := hmost 0 rfl
      omega
    · split
      · exact Nat.zero_le _
      · next hnot =>
          have hk : k = 0 := hpad.resolve_right fun hempty => hnot (hempties.mpr hempty)
          omega
    · intro bound hbound
      obtain ⟨most, rfl, rfl⟩ := Option.map_eq_some_iff.mp hbound
      have := hmost most rfl
      omega
  · rintro ⟨hzero, u, v, rfl, hfirst, m, hleast, hmost, hothers⟩
    have hcopies : Copies p.Accepts (m + 1) before (c :: (u ++ v)) after :=
      .more (u := c :: u) hfirst hothers
    have hbound : ∀ bound ∈ most, m + 1 ≤ bound := by
      rintro bound rfl
      have hm := hmost (bound - 1) rfl
      have hne : bound ≠ 0 := by rintro rfl; exact hzero rfl
      omega
    by_cases hempty : empties = true
    · refine ⟨m + 1 + (least - (m + 1)), by omega, fun bound h => ?_,
        hcopies.pad (hempties.mp hempty) _⟩
      have := hbounds bound h
      have := hbound bound h
      omega
    · rw [if_neg hempty] at hleast
      exact ⟨m + 1, by omega, hbound, hcopies⟩

/-- What is put behind the patterns that go on accepts what is left of the text. -/
theorem after_andThen {a : Pattern} {before after : Option Char} {c : Char} {rest : List Char}
    (ha : ∀ u after, (∃ q ∈ a.after ⟨before, some c⟩ c, q.Accepts (some c) u after) ↔
      a.Accepts before (c :: u) after) (b : Pattern) :
    (∃ q ∈ (a.after ⟨before, some c⟩ c).map (·.andThen b), q.Accepts (some c) rest after) ↔
      ∃ u v, rest = u ++ v ∧ a.Accepts before (c :: u) (ahead v after) ∧
        b.Accepts (behind (some c) u) v after := by
  simp only [List.mem_map, exists_exists_and_eq_and, accepts_andThen]
  constructor
  · rintro ⟨q, hq, u, v, rfl, hleft, hb⟩
    exact ⟨u, v, rfl, (ha u _).mp ⟨q, hq, hleft⟩, hb⟩
  · rintro ⟨u, v, rfl, hfirst, hb⟩
    obtain ⟨q, hq, hleft⟩ := (ha u _).mpr hfirst
    exact ⟨q, hq, u, v, rfl, hleft, hb⟩

/-- The matcher goes on behind a character. -/
theorem after_iff {p : Pattern} (h : p.Bounded) {before : Option Char} {c : Char} :
    ∀ (rest : List Char) (after : Option Char),
      (∃ q ∈ p.after ⟨before, some c⟩ c, q.Accepts (some c) rest after) ↔
        p.Accepts before (c :: rest) after := by
  induction p with
  | empty | look _ => simp [Pattern.after, Accepts]
  | literal text =>
      intro rest after
      cases text with
      | nil => simp [Pattern.after, Accepts]
      | cons d text =>
          by_cases hd : d = c
          · subst hd
            cases text <;> simp [Pattern.after, Pattern.rest, Accepts]
          · simp [Pattern.after, Accepts, hd, Ne.symm hd]
  | set s bytewise =>
      intro rest after
      rw [Pattern.after, Accepts]
      split
      · next hc =>
          simp only [List.mem_singleton, exists_eq_left, Accepts, List.cons.injEq]
          exact ⟨fun h => ⟨c, ⟨rfl, h⟩, hc⟩, fun ⟨_, h, _⟩ => h.2⟩
      · next hc =>
          simp only [List.not_mem_nil, false_and, exists_false, List.cons.injEq, false_iff]
          rintro ⟨d, ⟨rfl, -⟩, hd⟩
          exact hc hd
  | seq a b iha ihb =>
      intro rest after
      rw [accepts_seq_cons, Pattern.after]
      simp only [List.mem_append, or_and_right, exists_or]
      rw [after_andThen (iha h.1) b]
      refine or_congr Iff.rfl ?_
      rw [← nullable_iff h.1 ⟨before, some c⟩, ← ihb h.2 rest after]
      split <;> simp [*]
  | alt a b iha ihb =>
      intro rest after
      rw [Pattern.after, Accepts, ← iha h.1 rest after, ← ihb h.2 rest after]
      simp only [List.mem_append, or_and_right, exists_or]
  | rep p least most greedy ih =>
      intro rest after
      rw [accepts_rep_cons h.1 (nullable_iff h.2 ⟨before, some c⟩), Pattern.after]
      split
      · next hzero => simp [hzero]
      · next hzero =>
          rw [after_andThen (ih h.2)]
          simp [hzero]
  | group index p ih => exact ih h

/-! ## Stretches of a text -/

/-- A stretch is accepted that begins where a text begins. -/
def Begins (p : Pattern) (before : Option Char) (text : List Char) : Prop :=
  ∃ v w, text = v ++ w ∧ p.Accepts before v w.head?

theorem begins_nil {p : Pattern} (h : p.Bounded) (before : Option Char) :
    p.Begins before [] ↔ p.nullable ⟨before, none⟩ = true := by
  rw [nullable_iff h]
  constructor
  · rintro ⟨v, w, htext, hv⟩
    obtain ⟨rfl, rfl⟩ := List.append_eq_nil_iff.mp htext.symm
    exact hv
  · exact fun hv => ⟨[], [], rfl, hv⟩

theorem begins_cons {p : Pattern} (h : p.Bounded) (before : Option Char) (c : Char)
    (rest : List Char) :
    p.Begins before (c :: rest) ↔ p.nullable ⟨before, some c⟩ = true ∨
      ∃ q ∈ p.after ⟨before, some c⟩ c, q.Begins (some c) rest := by
  rw [nullable_iff h]
  constructor
  · rintro ⟨v, w, htext, hv⟩
    cases v with
    | nil =>
        obtain rfl : w = c :: rest := htext.symm
        exact .inl hv
    | cons d v =>
        obtain ⟨rfl, rfl⟩ := List.cons.inj htext
        obtain ⟨q, hq, hleft⟩ := (after_iff h v _).mpr hv
        exact .inr ⟨q, hq, v, w, rfl, hleft⟩
  · rintro (hv | ⟨q, hq, v, w, rfl, hv⟩)
    · exact ⟨[], c :: rest, rfl, hv⟩
    · exact ⟨c :: v, w, rfl, (after_iff h v _).mp ⟨q, hq, hv⟩⟩

/-- A stretch is accepted that begins somewhere in a text. -/
def Occurs (p : Pattern) (before : Option Char) (text : List Char) : Prop :=
  ∃ u t, text = u ++ t ∧ p.Begins (behind before u) t

theorem occurs_cons {p : Pattern} {before : Option Char} {c : Char} {rest : List Char} :
    p.Occurs before (c :: rest) ↔ p.Begins before (c :: rest) ∨ p.Occurs (some c) rest := by
  constructor
  · rintro ⟨u, t, htext, ht⟩
    cases u with
    | nil =>
        obtain rfl : t = c :: rest := htext.symm
        exact .inl ht
    | cons d u =>
        obtain ⟨rfl, rfl⟩ := List.cons.inj htext
        exact .inr ⟨u, t, rfl, ht⟩
  · rintro (h | ⟨u, t, rfl, ht⟩)
    · exact ⟨[], c :: rest, rfl, h⟩
    · exact ⟨c :: u, t, rfl, ht⟩

/-- The patterns that wait for more stand for the stretches begun before. -/
theorem foundFrom_iff {p : Pattern} (hp : p.Bounded) (text : List Char) :
    ∀ (before : Option Char) (live : List Pattern), (∀ q ∈ live, q.Bounded) →
      (foundFrom p before live text = true ↔
        (∃ q ∈ live, q.Begins before text) ∨ p.Occurs before text) := by
  induction text with
  | nil =>
      intro before live hlive
      have hp' : p.Occurs before [] ↔ p.Begins before [] := by
        constructor
        · rintro ⟨u, t, htext, ht⟩
          obtain ⟨rfl, rfl⟩ := List.append_eq_nil_iff.mp htext.symm
          exact ht
        · exact fun h => ⟨[], [], rfl, h⟩
      rw [hp', begins_nil hp, foundFrom, List.any_cons, Bool.or_eq_true, List.any_eq_true, or_comm]
      refine or_congr (exists_congr fun q => and_congr_right fun hq => ?_) Iff.rfl
      exact (begins_nil (hlive q hq) before).symm
  | cons c rest ih =>
      intro before live hlive
      have hall : ∀ q ∈ p :: live, q.Bounded := by simpa using ⟨hp, hlive⟩
      have hnext : ∀ q ∈ withoutRepeats ((p :: live).flatMap (after ⟨before, some c⟩ c)),
          q.Bounded := by
        intro q hq
        obtain ⟨r, hr, hafter⟩ := List.mem_flatMap.mp (mem_withoutRepeats.mp hq)
        exact bounded_after (hall r hr) hafter
      have hbegins : (∃ q ∈ p :: live, q.Begins before (c :: rest)) ↔
          (p :: live).any (nullable ⟨before, some c⟩) = true ∨
            ∃ r ∈ withoutRepeats ((p :: live).flatMap (after ⟨before, some c⟩ c)),
              r.Begins (some c) rest := by
        simp only [mem_withoutRepeats, List.mem_flatMap, List.any_eq_true]
        constructor
        · rintro ⟨q, hq, hbegins⟩
          obtain hempty | ⟨r, hr, hrest⟩ := (begins_cons (hall q hq) before c rest).mp hbegins
          · exact .inl ⟨q, hq, hempty⟩
          · exact .inr ⟨r, ⟨q, hq, hr⟩, hrest⟩
        · rintro (⟨q, hq, hempty⟩ | ⟨r, ⟨q, hq, hr⟩, hrest⟩)
          · exact ⟨q, hq, (begins_cons (hall q hq) before c rest).mpr (.inl hempty)⟩
          · exact ⟨q, hq, (begins_cons (hall q hq) before c rest).mpr (.inr ⟨r, hr, hrest⟩)⟩
      rw [foundFrom, Bool.or_eq_true, ih _ _ hnext, ← or_assoc, ← hbegins, occurs_cons,
        ← or_assoc]
      refine or_congr ?_ Iff.rfl
      simp only [List.mem_cons, exists_eq_or_imp]
      exact or_comm

/-- **A pattern is found where some stretch of the text is accepted.** -/
theorem found_iff {p : Pattern} (hp : p.Bounded) (text : List Char) :
    p.found text = true ↔ ∃ u v w, text = u ++ (v ++ w) ∧
      p.Accepts (behind none u) v w.head? := by
  rw [found, foundFrom_iff hp text none [] (by simp)]
  simp only [List.not_mem_nil, false_and, exists_false, false_or, Occurs, Begins]
  constructor
  · rintro ⟨u, _, rfl, v, w, rfl, hv⟩
    exact ⟨u, v, w, rfl, hv⟩
  · rintro ⟨u, v, w, rfl, hv⟩
    exact ⟨u, _, rfl, v, w, rfl, hv⟩

end InAppMessaging.Pattern
