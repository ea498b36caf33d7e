import InAppMessaging.Proofs.Catalog.Gathering
import InAppMessaging.Proofs.Eligibility.Refinement
import Mathlib.Data.List.Induction

/-!
# Tracking data of messages that left the catalog

A new catalog deletes the tracking data of the queue ids that the stored snapshot lists and the
catalog does not.  So tracking data stays behind exactly if no snapshot lists its queue id any
more when the catalog comes (`Tracker.Strands`).  Marks are only written for queue ids of the
snapshot, and a catalog takes the tracked queue ids over or deletes them; the one step that can
strand a queue id is a read that finds the snapshot expired and deletes it.

* `Tracker.strands_serve_iff` — what one call does;
* `Tracker.strands_storeAfter_iff` — a history strands a queue id by such a read, and by nothing
  else;
* `Tracker.tracks_update_iff` — **what a catalog leaves of departed messages**.
-/

namespace InAppMessaging

open Preferences

/-- Some part of the tracking data of a queue id is stored. -/
def StickyClass.Tracks (k : StickyClass) (p : Preferences) (q : String) : Prop :=
  ∃ f, p.text? (k.recordKey f q) ≠ none

namespace StickyClass

variable {k : StickyClass} {p p' : Preferences} {q r : String}

/-- What is tracked depends on the keys of the record only. -/
theorem tracks_congr (h : ∀ f, p'.text? (k.recordKey f q) = p.text? (k.recordKey f q)) :
    k.Tracks p' q ↔ k.Tracks p q :=
  exists_congr fun f => by rw [h f]

theorem not_tracks_removeRecord (k : StickyClass) (p : Preferences) (q : String) :
    ¬ k.Tracks (k.removeRecord p q) q :=
  fun ⟨f, hf⟩ => hf (text?_removeRecord_self k p f q)

theorem tracks_removeRecord_of_ne (h : q ≠ r) : k.Tracks (k.removeRecord p r) q ↔ k.Tracks p q :=
  tracks_congr fun _ => text?_removeRecord fun _ => recordKey_ne_of_id h

end StickyClass

namespace CapCall

/-- A call that reads the snapshot. -/
def reads : CapCall → Bool
  | .eligible token => token.isSome
  | .markSeen token _ => token.isSome
  | .markDismissed token _ => token.isSome
  | _ => false

/-- A call that brings a catalog with a member that has a queue id. -/
def Lists (t : Tracker) (q : String) : CapCall → Prop
  | .update (some _) catalog => t.Lists catalog q
  | _ => False

end CapCall

namespace Tracker

variable {t : Tracker} {p p' : Preferences} {now : Int} {token q r : String}
  {catalog : List Message} {call : CapCall}

/-- The stored snapshot lists a queue id, whether it has expired or not. -/
def InSnapshot (t : Tracker) (p : Preferences) (q : String) : Prop :=
  ∃ m ∈ t.snapshot p, m.queueId = some q

/-- A queue id is tracked, and no snapshot lists it. -/
def Strands (t : Tracker) (p : Preferences) (q : String) : Prop :=
  t.kind.Tracks p q ∧ ¬ t.InSnapshot p q

/-! ## Reading the snapshot -/

theorem snapshot_of_gone (h : t.Gone p) : t.snapshot p = [] := by
  unfold snapshot
  rw [h.no_snapshot]
  rfl

/-- Reading the snapshot leaves what is tracked alone. -/
theorem tracks_stored (t : Tracker) (p : Preferences) (now : Int) (q : String) :
    t.kind.Tracks (t.stored p now).2 q ↔ t.kind.Tracks p q :=
  StickyClass.tracks_congr fun f => text?_stored t p now f q

/-- **Reading an expired snapshot strands every queue id that is tracked**; reading one that is
valid strands none. -/
theorem strands_stored (t : Tracker) (p : Preferences) (now : Int) (q : String) :
    t.Strands (t.stored p now).2 q ↔
      t.Strands p q ∨ (t.isExpired p now = true ∧ t.kind.Tracks p q) := by
  unfold Strands
  rw [tracks_stored]
  by_cases hexpired : t.isExpired p now = true
  · have hnone : ¬ t.InSnapshot (t.stored p now).2 q := by
      rintro ⟨m, hm, -⟩
      rw [stored, if_pos hexpired, snapshot_of_gone (gone_dropSnapshot t p)] at hm
      exact absurd hm List.not_mem_nil
    constructor
    · exact fun h => Or.inr ⟨hexpired, h.1⟩
    · rintro (h | h)
      · exact ⟨h.1, hnone⟩
      · exact ⟨h.2, hnone⟩
  · have hsame : (t.stored p now).2 = p := by rw [stored, if_neg hexpired]
    rw [hsame]
    simp [hexpired]

/-! ## Marks -/

/-- A queue id with a rule to go by is in the snapshot that was read. -/
theorem inSnapshot_of_cap {cap : FrequencyCap} (h : capOf? (t.stored p now).1 q = some cap) :
    t.InSnapshot (t.stored p now).2 q := by
  obtain ⟨m, hm, -⟩ := Option.bind_eq_some_iff.mp h
  have hmem := List.mem_of_find?_eq_some hm
  have hid : m.queueId = some q := by simpa using List.find?_some hm
  refine ⟨m, ?_, hid⟩
  unfold stored at hmem ⊢
  by_cases hexpired : t.isExpired p now = true
  · rw [if_pos hexpired] at hmem
    exact absurd hmem List.not_mem_nil
  · rw [if_neg hexpired] at hmem ⊢
    exact hmem

/-- What is written of a queue id in the snapshot strands none. -/
theorem strands_of_listed (hlisted : t.InSnapshot p r)
    (hkeys : ∀ key, (∀ f, key ≠ t.kind.recordKey f r) → p'.text? key = p.text? key) :
    t.Strands p' q ↔ t.Strands p q := by
  have hsnapshot : t.snapshot p' = t.snapshot p :=
    snapshot_congr (hkeys _ fun _ => StickyClass.recordKey_ne_snapshotKey.symm)
  have hin : t.InSnapshot p' q ↔ t.InSnapshot p q := by
    unfold InSnapshot
    rw [hsnapshot]
  by_cases hq : q = r
  · subst hq
    exact ⟨fun h => absurd (hin.mpr hlisted) h.2, fun h => absurd hlisted h.2⟩
  · have htracks : t.kind.Tracks p' q ↔ t.kind.Tracks p q :=
      StickyClass.tracks_congr fun f => hkeys _ fun g => StickyClass.recordKey_ne_of_id hq
    exact and_congr htracks (not_congr hin)

theorem strands_markSeen (t : Tracker) (p : Preferences) (now : Int) (token r q : String) :
    t.Strands (t.markSeen (some token) r now p) q ↔ t.Strands (t.stored p now).2 q := by
  have hstored : t.stored p now = ((t.stored p now).1, (t.stored p now).2) := rfl
  cases hcap : capOf? (t.stored p now).1 r with
  | none => rw [markSeen_of_no_cap hstored hcap]
  | some cap =>
      rw [markSeen_of_cap hstored hcap]
      exact strands_of_listed (inSnapshot_of_cap hcap) fun _ hkey => text?_writeView hkey

theorem strands_markDismissed (t : Tracker) (p : Preferences) (now : Int) (token r q : String) :
    t.Strands (t.markDismissed (some token) r now p) q ↔ t.Strands (t.stored p now).2 q := by
  have hstored : t.stored p now = ((t.stored p now).1, (t.stored p now).2) := rfl
  cases hcap : capOf? (t.stored p now).1 r with
  | none => rw [markDismissed_of_no_cap hstored hcap]
  | some cap =>
      rw [markDismissed_of_cap hstored hcap]
      exact strands_of_listed (inSnapshot_of_cap hcap) fun _ hkey => text?_writeDismissal hkey

/-! ## Catalogs -/

/-- Forgetting deletes what is tracked of the queue ids that the snapshot lists and that are not
retained. -/
theorem tracks_forget {retained : List (Option String)} (h : some q ∉ retained) :
    t.kind.Tracks (t.forget p retained) q ↔ t.Strands p q := by
  unfold Strands InSnapshot forget
  generalize t.snapshot p = ms
  induction ms generalizing p with
  | nil => simp
  | cons m ms ih =>
      rw [List.foldl_cons, ih]
      simp only [List.mem_cons, exists_eq_or_imp, not_or]
      cases hid : m.queueId with
      | none => simp
      | some r =>
          by_cases hq : q = r
          · subst hq
            have hgone := StickyClass.not_tracks_removeRecord t.kind p q
            simp [h, hgone]
          · have hne : ¬ some r = some q := fun heq => hq (Option.some.inj heq).symm
            have hkept :
                t.kind.Tracks (if some r ∈ retained then p else t.kind.removeRecord p r) q ↔
                  t.kind.Tracks p q := by
              split
              · exact Iff.rfl
              · exact StickyClass.tracks_removeRecord_of_ne hq
            simp only [hne, not_false_eq_true, true_and]
            rw [hkept]

/-- Storing a snapshot leaves what is tracked alone. -/
theorem tracks_store (t : Tracker) (p : Preferences) (ms : List Message) (now : Int) (q : String) :
    t.kind.Tracks (t.store p ms now) q ↔ t.kind.Tracks p q :=
  StickyClass.tracks_congr fun f => text?_store t p ms now f q

/-- **Of a queue id that it does not list, a catalog leaves what was stranded.** -/
theorem tracks_update (hmembers : t.members catalog ≠ []) (hq : ¬ t.Lists catalog q)
    (token : String) (now : Int) (p : Preferences) :
    t.kind.Tracks (t.update (some token) catalog now p) q ↔ t.Strands p q := by
  have hretained : some q ∉ (t.members catalog).map (·.queueId) := by
    intro h
    obtain ⟨m, hm, hid⟩ := List.mem_map.mp h
    exact hq ⟨m, hm, hid⟩
  rw [update_eq_store hmembers, tracks_store, tracks_forget hretained]

/-- The snapshot after a catalog lists what the catalog lists. -/
theorem inSnapshot_update (t : Tracker) (token : String) (catalog : List Message) (now : Int)
    (p : Preferences) (q : String) :
    t.InSnapshot (t.update (some token) catalog now p) q ↔ t.Lists catalog q := by
  unfold InSnapshot Lists
  rw [snapshot_update]

theorem not_strands_clear (t : Tracker) (p : Preferences) (q : String) :
    ¬ t.Strands (t.kind.clear p) q :=
  fun ⟨⟨f, hf⟩, _⟩ => hf (StickyClass.text?_clear p (t.kind.beginsWith_recordKey f q))

/-- A catalog keeps stranded what it does not list, and strands nothing else. -/
theorem strands_update (t : Tracker) (token : String) (catalog : List Message) (now : Int)
    (p : Preferences) (q : String) :
    t.Strands (t.update (some token) catalog now p) q ↔
      t.members catalog ≠ [] ∧ ¬ t.Lists catalog q ∧ t.Strands p q := by
  by_cases hmembers : t.members catalog = []
  · rw [update_eq_clear hmembers]
    exact ⟨fun h => absurd h (not_strands_clear t p q), fun h => absurd hmembers h.1⟩
  · by_cases hq : t.Lists catalog q
    · exact ⟨fun h => absurd ((inSnapshot_update t token catalog now p q).mpr hq) h.2,
        fun h => absurd hq h.2.1⟩
    · have htracks := tracks_update hmembers hq token now p
      have hout := mt (inSnapshot_update t token catalog now p q).mp hq
      exact ⟨fun h => ⟨hmembers, hq, htracks.mp h.1⟩, fun h => ⟨htracks.mpr h.2.2, hout⟩⟩

/-! ## Histories -/

/-- **What one call does**: a queue id stays stranded unless the class is cleared or a catalog
lists it, and a read that finds the snapshot expired strands all that is tracked. -/
theorem strands_serve_iff (t : Tracker) (now : Int) (p : Preferences) (call : CapCall)
    (q : String) :
    t.Strands (t.serve now p call).2 q ↔
      (call.clears t = false ∧ ¬ call.Lists t q ∧ t.Strands p q) ∨
        (call.reads = true ∧ t.isExpired p now = true ∧ t.kind.Tracks p q) := by
  have hread : t.Strands (t.stored p now).2 q ↔
      (false = false ∧ ¬ False ∧ t.Strands p q) ∨
        (true = true ∧ t.isExpired p now = true ∧ t.kind.Tracks p q) := by
    rw [strands_stored]
    simp
  cases call with
  | update token catalog =>
      cases token with
      | none => simp [serve, update, CapCall.clears, CapCall.reads, CapCall.Lists]
      | some token =>
          have hupdate := strands_update t token catalog now p q
          simpa [serve, CapCall.clears, CapCall.reads, CapCall.Lists] using hupdate
  | eligible token =>
      cases token with
      | none => simp [serve, eligible, CapCall.clears, CapCall.reads, CapCall.Lists]
      | some token => exact hread
  | markSeen token r =>
      cases token with
      | none => simp [serve, markSeen, CapCall.clears, CapCall.reads, CapCall.Lists]
      | some token => exact (strands_markSeen t p now token r q).trans hread
  | markDismissed token r =>
      cases token with
      | none => simp [serve, markDismissed, CapCall.clears, CapCall.reads, CapCall.Lists]
      | some token => exact (strands_markDismissed t p now token r q).trans hread
  | record r => simp [serve, CapCall.clears, CapCall.reads, CapCall.Lists]
  | clear =>
      have hgone := not_strands_clear t p q
      simp [serve, CapCall.clears, CapCall.reads, hgone]

/-- The store after calls at their times, from an empty one. -/
def storeAfter (t : Tracker) (calls : List (Int × CapCall)) : Preferences :=
  calls.foldl (fun p c => (t.serve c.1 p c.2).2) .empty

theorem storeAfter_concat (t : Tracker) (calls : List (Int × CapCall)) (c : Int × CapCall) :
    t.storeAfter (calls ++ [c]) = (t.serve c.1 (t.storeAfter calls) c.2).2 :=
  List.foldl_append

/-- Somewhere in a history a queue id was tracked when a read found the snapshot expired; since
then the class was not cleared, and no catalog listed the queue id. -/
def LosesSight (t : Tracker) (calls : List (Int × CapCall)) (q : String) : Prop :=
  ∃ before time read after, calls = before ++ (time, read) :: after ∧ read.reads = true ∧
    t.isExpired (t.storeAfter before) time = true ∧ t.kind.Tracks (t.storeAfter before) q ∧
    ∀ c ∈ after, c.2.clears t = false ∧ ¬ c.2.Lists t q

/-- **A history strands a queue id by a read that finds the snapshot expired, and by nothing
else.** -/
theorem strands_storeAfter_iff (t : Tracker) (calls : List (Int × CapCall)) (q : String) :
    t.Strands (t.storeAfter calls) q ↔ t.LosesSight calls q := by
  induction calls using List.reverseRecOn with
  | nil =>
      constructor
      · exact fun ⟨⟨f, hf⟩, _⟩ => absurd rfl hf
      · rintro ⟨before, time, read, after, hcalls, -⟩
        exact absurd hcalls.symm (by simp)
  | append_singleton calls c ih =>
      rw [storeAfter_concat, strands_serve_iff, ih]
      constructor
      · rintro (⟨hclears, hlists, before, time, read, after, rfl, hread, hover, htracks, hsince⟩ |
          ⟨hread, hover, htracks⟩)
        · refine ⟨before, time, read, after ++ [c], by simp, hread, hover, htracks, ?_⟩
          intro d hd
          rcases List.mem_append.mp hd with hd | hd
          · exact hsince d hd
          · rw [List.mem_singleton.mp hd]
            exact ⟨hclears, hlists⟩
        · exact ⟨calls, c.1, c.2, [], rfl, hread, hover, htracks, fun d hd => nomatch hd⟩
      · rintro ⟨before, time, read, after, hcalls, hread, hover, htracks, hsince⟩
        rcases List.eq_nil_or_concat after with rfl | ⟨after, d, rfl⟩
        · -- the last call is the read itself
          obtain ⟨rfl, hlast⟩ := List.append_inj' hcalls rfl
          obtain rfl := List.singleton_inj.mp hlast
          exact Or.inr ⟨hread, hover, htracks⟩
        · have hsplit : calls ++ [c] = (before ++ (time, read) :: after) ++ [d] := by
            simpa using hcalls
          obtain ⟨rfl, hlast⟩ := List.append_inj' hsplit rfl
          obtain rfl := List.singleton_inj.mp hlast
          obtain ⟨hclears, hlists⟩ := hsince c (by simp)
          refine Or.inl ⟨hclears, hlists, before, time, read, after, rfl, hread, hover, htracks, ?_⟩
          exact fun d hd => hsince d (by simp [hd])

/-- **What a catalog leaves of departed messages.**  After any history from an empty store, and a
catalog with members of the class, something is stored of a queue id that no member has if and
only if the history lost sight of it: it was tracked when a read found the snapshot expired and
deleted it, and since then the class was not cleared and no catalog listed the queue id. -/
theorem tracks_update_iff (hmembers : t.members catalog ≠ []) (hq : ¬ t.Lists catalog q)
    (calls : List (Int × CapCall)) (token : String) (now : Int) :
    t.kind.Tracks (t.update (some token) catalog now (t.storeAfter calls)) q ↔
      t.LosesSight calls q :=
  (tracks_update hmembers hq token now _).trans (strands_storeAfter_iff t calls q)

/-- A broadcast that may be shown twice. -/
def twoViews (queueId : String) : Message :=
  { id := "offer", queueId := some queueId,
    delivery := { broadcast := some { frequency := some { count := some 2, delay := some 0 } } } }

/-- An offer is seen once, and then nothing is asked until its snapshot has expired. -/
def lapsedCalls : List (Int × CapCall) :=
  [(1000, .update (some "ada") [twoViews "old"]), (2000, .markSeen (some "ada") "old"),
    (70000, .eligible (some "ada"))]

/-- The next catalog is without the offer, and still the view of it stays in the store. -/
theorem lapsedCalls_leave :
    StickyClass.Tracks .broadcast
      ((⟨.broadcast, 60000⟩ : Tracker).update (some "ada") [twoViews "new"] 70000
        (storeAfter ⟨.broadcast, 60000⟩ lapsedCalls)) "old" := by
  have hdeparted : ¬ (⟨.broadcast, 60000⟩ : Tracker).Lists [twoViews "new"] "old" := by
    rintro ⟨m, hm, hid⟩
    obtain rfl : m = twoViews "new" := List.mem_singleton.mp hm
    exact absurd hid (by decide)
  refine (tracks_update_iff (t := ⟨.broadcast, 60000⟩) (by decide) hdeparted lapsedCalls "ada"
    70000).mpr ?_
  exact ⟨lapsedCalls.take 2, 70000, .eligible (some "ada"), [], rfl, rfl, by decide +kernel,
    ⟨.timesShown, by decide +kernel⟩, fun c hc => nomatch hc⟩

end Tracker

end InAppMessaging
