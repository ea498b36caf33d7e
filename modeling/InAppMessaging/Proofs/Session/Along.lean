import InAppMessaging.Session.Reduce

/-!
# Along a log of commits

A log of commits leads a session through others, and each of its actions meets one of them.  What
holds of every action at the session that it meets holds *along* the log.

* `Session.along_iff` — the same, said of the parts of the log;
* `Session.Along.keeps` — **what the actions of a log keep holds after every part of it.**
-/

namespace InAppMessaging.Session

variable {P : Session → Action → Prop} {s : Session} {before log : List Action}

/-- Each action of a log has a property at the session that it meets. -/
def Along (P : Session → Action → Prop) (s : Session) : List Action → Prop
  | [] => True
  | a :: rest => P s a ∧ (s.reduce a).Along P rest

theorem along_append {more : List Action} :
    s.Along P (log ++ more) ↔ s.Along P log ∧ (s.reduceAll log).Along P more := by
  induction log generalizing s with
  | nil => exact ⟨fun h => ⟨trivial, h⟩, fun h => h.2⟩
  | cons a rest ih => exact (and_congr_right fun _ => ih).trans and_assoc.symm

/-- What holds along a log holds along its parts. -/
theorem Along.of_prefix (h : s.Along P log) (hpart : before <+: log) : s.Along P before := by
  obtain ⟨after, rfl⟩ := hpart
  exact (along_append.mp h).1

/-- Every action of a log meets the session that those before it left behind. -/
theorem Along.holds_at {a : Action} (h : s.Along P log) (hpart : before ++ [a] <+: log) :
    P (s.reduceAll before) a :=
  (along_append.mp (h.of_prefix hpart)).2.1

/-- Along a log is at the end of each of its parts. -/
theorem along_iff :
    s.Along P log ↔ ∀ before a, before ++ [a] <+: log → P (s.reduceAll before) a := by
  refine ⟨fun h before a hpart => h.holds_at hpart, fun h => ?_⟩
  induction log generalizing s with
  | nil => trivial
  | cons first rest ih =>
      refine ⟨h [] first ⟨rest, rfl⟩, ?_⟩
      apply ih
      intro before a hpart
      exact h (first :: before) a (List.cons_prefix_cons.mpr ⟨rfl, hpart⟩)

/-- What holds of the actions of a log, whatever they meet, holds along it. -/
theorem along_of_forall {Q : Action → Prop} (h : ∀ a ∈ log, Q a) :
    s.Along (fun _ a => Q a) log := by
  induction log generalizing s with
  | nil => trivial
  | cons a rest ih =>
      obtain ⟨ha, hrest⟩ := List.forall_mem_cons.mp h
      exact ⟨ha, ih hrest⟩

/-- **What the actions of a log keep holds after every part of it.** -/
theorem Along.keeps {I : Session → Prop} (hstep : ∀ s a, I s → P s a → I (s.reduce a))
    (h : s.Along P log) (hs : I s) (hpart : before <+: log) : I (s.reduceAll before) := by
  have hbefore := h.of_prefix hpart
  clear hpart h
  induction before generalizing s with
  | nil => exact hs
  | cons a rest ih =>
      obtain ⟨ha, hrest⟩ := hbefore
      have hnext : I (s.reduce a) := hstep s a hs ha
      exact ih hnext hrest

/-- What the actions of a log keep, whatever they meet, holds at its end. -/
theorem reduceAll_keeps {I : Session → Prop} {Q : Action → Prop}
    (hstep : ∀ s a, I s → Q a → I (s.reduce a)) (hs : I s) (hlog : ∀ a ∈ log, Q a) :
    I (s.reduceAll log) :=
  (along_of_forall hlog).keeps hstep hs List.prefix_rfl

end InAppMessaging.Session
