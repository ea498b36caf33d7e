import InAppMessaging.Proofs.Catalog.Gathering

/-!
# Who writes a queue id off

A class keeps under one key whether a queue id is written off.  The text is there from the first
time that a mark puts it there; reading a snapshot leaves it alone, and a new catalog can only
delete it.

* `Tracker.offText?_markSeen` — a view puts it there only if it is the last that the rule allows;
* `Tracker.offText?_markDismissed` — a dismissal does so only if the rule heeds it;
* `Tracker.offText?_update`, `offText?_gatherQueue` — **a catalog writes nothing off**.
-/

namespace InAppMessaging

open Preferences

/-- Deleting any key leaves an absent one absent. -/
theorem Preferences.text?_remove_of_absent {p : Preferences} {key : String}
    (h : p.text? key = none) (other : String) : (p.remove other).text? key = none := by
  by_cases hkey : key = other
  · rw [hkey]
    exact text?_remove_self p other
  · rw [text?_remove_ne p hkey]
    exact h

/-- The stored text that says that a queue id is written off. -/
def StickyClass.offText? (k : StickyClass) (p : Preferences) (q : String) : Option String :=
  p.text? (k.recordKey .dismissed q)

example : StickyClass.broadcast.recordKey .dismissed "o" = "herald.broadcast.dismissed.o" := rfl

/-- Whatever another class writes, the text is as it was. -/
theorem StickyClass.offText?_of_agreeOutside {k l : StickyClass} {p p' : Preferences}
    (hne : k ≠ l) (h : AgreeOutside k.keyRoot p p') (q : String) :
    l.offText? p' q = l.offText? p q :=
  text?_of_agreeOutside hne h (l.beginsWith_recordKey .dismissed q)

namespace Tracker

variable {t : Tracker} {p : Preferences} {now : Int} {token : Option String} {q r : String}

/-- Reading the snapshot leaves the text alone. -/
theorem offText?_stored (t : Tracker) (p : Preferences) (now : Int) (q : String) :
    t.kind.offText? (t.stored p now).2 q = t.kind.offText? p q :=
  text?_stored t p now .dismissed q

theorem offText?_eligible (t : Tracker) (token : Option String) (now : Int) (p : Preferences)
    (q : String) : t.kind.offText? (t.eligible token now p).2 q = t.kind.offText? p q := by
  cases token with
  | none => rfl
  | some token => exact offText?_stored t p now q

/-! ## Marks -/

/-- A view writes its queue id off if it is the only one. -/
theorem offText?_writeView (t : Tracker) (cap : FrequencyCap) (q : String) (now : Int)
    (p : Preferences) : t.kind.offText? (t.writeView cap q now p) q =
      if cap.count = 1 then some "true" else t.kind.offText? p q := by
  have htimes : ∀ n : Int, (p.setInteger (t.kind.recordKey .timesShown q) n).text?
      (t.kind.recordKey .dismissed q) = p.text? (t.kind.recordKey .dismissed q) :=
    fun n => p.text?_setInteger_ne n (StickyClass.recordKey_ne_of_field (by decide))
  unfold writeView StickyClass.offText?
  by_cases hcount : cap.count = 1
  · simp only [hcount, if_true]
    exact text?_setText_self _ _ _
  · by_cases hdelay : 0 < cap.delaySecs
    · simp only [hcount, hdelay, if_true, if_false]
      rw [text?_setInteger_ne _ _ (StickyClass.recordKey_ne_of_field (by decide)), htimes]
    · simp only [hcount, hdelay, if_false]
      exact htimes _

/-- A dismissal writes its queue id off unless the rule ignores it. -/
theorem offText?_writeDismissal (t : Tracker) (cap : FrequencyCap) (q : String)
    (p : Preferences) : t.kind.offText? (t.writeDismissal cap q p) q =
      if cap.ignoreDismiss then t.kind.offText? p q else some "true" := by
  unfold writeDismissal
  split
  · rfl
  · exact text?_setText_self _ _ _

/-- **A view writes off its own queue id at most, and that only if the rule allows no more than
one.** -/
theorem offText?_markSeen (t : Tracker) (token : Option String) (r : String) (now : Int)
    (p : Preferences) (q : String) :
    t.kind.offText? (t.markSeen token r now p) q = t.kind.offText? p q ∨
      (r = q ∧ token ≠ none ∧ (∃ cap, capOf? (t.stored p now).1 q = some cap ∧ cap.count = 1) ∧
        t.kind.offText? (t.markSeen token r now p) q = some "true") := by
  cases token with
  | none => exact .inl rfl
  | some token =>
      by_cases hid : q = r
      · subst hid
        have hread := offText?_stored t p now q
        have hstored : t.stored p now = ((t.stored p now).1, (t.stored p now).2) := rfl
        cases hcap : capOf? (t.stored p now).1 q with
        | none =>
            left
            rw [markSeen_of_no_cap hstored hcap, hread]
        | some cap =>
            rw [markSeen_of_cap hstored hcap, offText?_writeView, hread]
            by_cases hcount : cap.count = 1
            · rw [if_pos hcount]
              exact .inr ⟨rfl, Option.some_ne_none token, ⟨cap, rfl, hcount⟩, rfl⟩
            · rw [if_neg hcount]
              exact .inl rfl
      · left
        rw [← offText?_stored t p now q]
        exact text?_markSeen fun f => StickyClass.recordKey_ne_of_id hid

/-- **A dismissal writes off its own queue id at most, and that only if the rule heeds it.** -/
theorem offText?_markDismissed (t : Tracker) (token : Option String) (r : String) (now : Int)
    (p : Preferences) (q : String) :
    t.kind.offText? (t.markDismissed token r now p) q = t.kind.offText? p q ∨
      (r = q ∧ token ≠ none ∧
        (∃ cap, capOf? (t.stored p now).1 q = some cap ∧ cap.ignoreDismiss = false) ∧
        t.kind.offText? (t.markDismissed token r now p) q = some "true") := by
  cases token with
  | none => exact .inl rfl
  | some token =>
      by_cases hid : q = r
      · subst hid
        have hread := offText?_stored t p now q
        have hstored : t.stored p now = ((t.stored p now).1, (t.stored p now).2) := rfl
        cases hcap : capOf? (t.stored p now).1 q with
        | none =>
            left
            rw [markDismissed_of_no_cap hstored hcap, hread]
        | some cap =>
            rw [markDismissed_of_cap hstored hcap, offText?_writeDismissal, hread]
            cases hignore : cap.ignoreDismiss with
            | true => exact .inl rfl
            | false => exact .inr ⟨rfl, Option.some_ne_none token, ⟨cap, rfl, hignore⟩, rfl⟩
      · left
        rw [← offText?_stored t p now q]
        exact text?_markDismissed fun f => StickyClass.recordKey_ne_of_id hid

/-! ## Catalogs -/

/-- Forgetting queue ids writes none off. -/
theorem offText?_forget (h : t.kind.offText? p q = none) (retained : List (Option String)) :
    t.kind.offText? (t.forget p retained) q = none := by
  unfold forget
  generalize t.snapshot p = ms
  induction ms generalizing p with
  | nil => exact h
  | cons m ms ih =>
      rw [List.foldl_cons]
      apply ih
      cases m.queueId with
      | none => exact h
      | some r =>
          by_cases hr : some r ∈ retained
          · simp only [hr, if_true]
            exact h
          · simp only [hr, if_false]
            exact text?_remove_of_absent (text?_remove_of_absent (text?_remove_of_absent h _) _) _

/-- **A new catalog writes nothing off.** -/
theorem offText?_update {k : StickyClass} (t : Tracker) (h : k.offText? p q = none)
    (token : Option String) (catalog : List Message) (now : Int) :
    k.offText? (t.update token catalog now p) q = none := by
  by_cases hkind : t.kind = k
  · subst hkind
    cases token with
    | none => exact h
    | some token =>
        by_cases hmembers : t.members catalog = []
        · rw [update_eq_clear hmembers]
          exact StickyClass.text?_clear p (t.kind.beginsWith_recordKey .dismissed q)
        · rw [update_eq_store hmembers]
          exact (text?_store t _ _ now .dismissed q).trans (offText?_forget h _)
  · rw [StickyClass.offText?_of_agreeOutside hkind (agreeOutside_update t token catalog now p)]
    exact h

end Tracker

/-- **Gathering a queue writes nothing off.** -/
theorem offText?_gatherQueue {k : StickyClass} {h : Host} {q : String}
    (hoff : k.offText? h.storage.values q = none) (token : Option String) (ms : List Message) :
    k.offText? (gatherQueue token ms h).2.storage.values q = none := by
  have hread : ∀ (t : Tracker) (p : Preferences), k.offText? p q = none →
      k.offText? (t.eligible token h.clock p).2 q = none := by
    intro t p hp
    by_cases hkind : t.kind = k
    · subst hkind
      rw [Tracker.offText?_eligible]
      exact hp
    · rw [StickyClass.offText?_of_agreeOutside hkind (t.agreeOutside_eligible token h.clock p)]
      exact hp
  have hrefreshed : k.offText? (refreshed token ms h) q = none :=
    Tracker.offText?_update _ (Tracker.offText?_update _ hoff token ms h.clock) token ms h.clock
  rw [(gatherQueue_eq token ms h).2]
  exact hread _ _ (hread _ _ hrefreshed)

end InAppMessaging
