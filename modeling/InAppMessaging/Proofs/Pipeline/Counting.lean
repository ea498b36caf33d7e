import InAppMessaging.Pipeline.Standard
import InAppMessaging.Proofs.Catalog.Gathering
import InAppMessaging.Proofs.Store.Keeping

/-!
# How often a message was shown

The stored count of views of a queue id.  A display adds to it as long as the snapshot with the
rule of the queue id is stored; nothing that the pipeline does takes anything away, and neither
does a catalog that offers the queue id.  Once the count has come to what the rules allow, the
queue id is gathered no more.

* `Host.remembers_countDisplay`, `Host.timesShown_countDisplay` — what a display does;
* `Pipeline.standard_remembers` — **no stage forgets a view**;
* `Offers.timesShown_gatherQueue` — a catalog that offers the queue id changes nothing;
* `Offers.not_mem_gatherQueue` — **what was shown often enough is not gathered**.
-/

namespace InAppMessaging

open Text

variable {k l : StickyClass} {q r : String}

/-! ## The stored count -/

theorem Text.natural?_le {limit n : Nat} {cs : List Char} (h : natural? limit cs = some n) :
    n ≤ limit := by
  unfold natural? at h
  obtain ⟨digits, -, hdigits⟩ := Option.bind_eq_some_iff.mp h
  split at hdigits
  · next hle =>
      cases hdigits
      exact hle
  · cases hdigits

/-- The stored count is a 32-bit number. -/
theorem StickyClass.timesShown_le (k : StickyClass) (p : Preferences) (q : String) :
    (k.record p q).timesShown ≤ maxWord32 := by
  show (p.natural? (k.recordKey .timesShown q)).getD 0 ≤ maxWord32
  cases hread : p.natural? (k.recordKey .timesShown q) with
  | none => exact Nat.zero_le _
  | some n =>
      obtain ⟨raw, -, hraw⟩ := Option.bind_eq_some_iff.mp hread
      exact Text.natural?_le hraw

namespace Tracker

variable {t : Tracker}

/-- A counted view adds one to the count, as far as a 32-bit number can hold it. -/
theorem timesShown_markSeen {token : Option String} (htoken : token ≠ none) {now : Int}
    {p : Preferences} {cap : FrequencyCap} (hcap : capOf? (t.stored p now).1 q = some cap) :
    (t.kind.record (t.markSeen token q now p) q).timesShown =
      min ((t.kind.record p q).timesShown + 1) maxWord32 := by
  obtain ⟨name, rfl⟩ := Option.ne_none_iff_exists'.mp htoken
  have hstored : t.stored p now = ((t.stored p now).1, (t.stored p now).2) := rfl
  have hrecord := record_stored t p now q
  rw [markSeen_of_cap hstored hcap, record_writeView, hrecord]
  rfl

/-- A view of any queue id takes nothing away from the count of another. -/
theorem timesShown_markSeen_le (t : Tracker) (token : Option String) (r : String) (now : Int)
    (p : Preferences) (k : StickyClass) (q : String) :
    (k.record p q).timesShown ≤ (k.record (t.markSeen token r now p) q).timesShown := by
  by_cases hkind : t.kind = k
  · subst hkind
    cases token with
    | none => exact Nat.le_refl _
    | some token =>
        by_cases hid : q = r
        · subst hid
          have hstored : t.stored p now = ((t.stored p now).1, (t.stored p now).2) := rfl
          cases hcap : capOf? (t.stored p now).1 q with
          | none =>
              exact Nat.le_of_eq (by rw [markSeen_of_no_cap hstored hcap, record_stored])
          | some cap =>
              have hbound := t.kind.timesShown_le p q
              rw [timesShown_markSeen (Option.some_ne_none token) hcap]
              omega
        · exact Nat.le_of_eq (by rw [record_markSeen_ne hid])
  · have hother := t.agreeOutside_markSeen token r now p
    exact Nat.le_of_eq (by rw [StickyClass.record_eq_of_agreeOutside hkind hother q])

/-- A dismissal is not a view. -/
theorem timesShown_markDismissed (t : Tracker) (token : Option String) (r : String) (now : Int)
    (p : Preferences) (k : StickyClass) (q : String) :
    (k.record (t.markDismissed token r now p) q).timesShown = (k.record p q).timesShown := by
  by_cases hkind : t.kind = k
  · subst hkind
    cases token with
    | none => rfl
    | some token =>
        by_cases hid : q = r
        · subst hid
          have hstored : t.stored p now = ((t.stored p now).1, (t.stored p now).2) := rfl
          have hrecord := record_stored t p now q
          cases hcap : capOf? (t.stored p now).1 q with
          | none => rw [markDismissed_of_no_cap hstored hcap, hrecord]
          | some cap =>
              rw [markDismissed_of_cap hstored hcap, record_writeDismissal, hrecord]
              rfl
        · rw [record_markDismissed_ne hid]
  · have hother := t.agreeOutside_markDismissed token r now p
    rw [StickyClass.record_eq_of_agreeOutside hkind hother q]

end Tracker

/-! ## The pipeline -/

namespace Host

/-- The stored values of a host. -/
def values (h : Host) : Preferences := h.storage.values

theorem values_record (e : Event) (h : Host) : (h.record e).values = h.values := rfl

theorem values_recordAll (es : List Event) (h : Host) : (h.recordAll es).values = h.values := by
  induction es generalizing h with
  | nil => rfl
  | cons e rest ih => exact ih (h.record e)

theorem values_wake (t : Task) (h : Host) : (h.wake t).values = h.values := by
  unfold wake
  split <;> rfl

theorem values_requestRefresh (h : Host) : h.requestRefresh.values = h.values := by
  unfold requestRefresh
  dsimp only
  split
  · exact values_wake _ _
  · rfl

/-- How often a queue id was shown, by the stored count of a class. -/
def timesShown (k : StickyClass) (q : String) (h : Host) : Nat :=
  (k.record h.storage.values q).timesShown

/-- No view is forgotten between two hosts. -/
def Remembers (k : StickyClass) (q : String) (h h' : Host) : Prop :=
  h.timesShown k q ≤ h'.timesShown k q

/-- Hosts with the same stored values have the same counts. -/
theorem timesShown_of_values {h h' : Host} (hvalues : h'.values = h.values) :
    h'.timesShown k q = h.timesShown k q :=
  congrArg (fun p => (k.record p q).timesShown) hvalues

theorem remembers_of_values {h h' : Host} (hvalues : h'.values = h.values) :
    Remembers k q h h' :=
  Nat.le_of_eq (timesShown_of_values hvalues).symm

/-- The message of a queue id is stored with its rule, so a view of it would be counted. -/
def counts (k : StickyClass) (q : String) (h : Host) : Bool :=
  (Tracker.capOf? ((h.tracker k).stored h.storage.values h.clock).1 q).isSome

theorem timesShown_track (h : Host) (l : StickyClass)
    (change : Tracker → Int → Preferences → Preferences) (k : StickyClass) (q : String) :
    (h.track l change).timesShown k q =
      (k.record (change (h.tracker l) h.clock h.storage.values) q).timesShown := by
  unfold timesShown track
  rw [Storage.values_put]

/-- A display forgets no view. -/
theorem remembers_countDisplay (m : Message) (s : Session) (h : Host) :
    Remembers k q h (Pipeline.countDisplay m s h) := by
  unfold Pipeline.countDisplay
  split
  · unfold Remembers
    rw [timesShown_track]
    exact Tracker.timesShown_markSeen_le _ _ _ _ _ k q
  · exact Nat.le_refl _

/-- **A display adds to the count** while the message is stored with its rule. -/
theorem timesShown_countDisplay {m : Message} {s : Session} {h : Host}
    (hm : Pipeline.account? m = some (k, q)) (htoken : s.userToken? ≠ none)
    (hcounts : h.counts k q = true) :
    (Pipeline.countDisplay m s h).timesShown k q = min (h.timesShown k q + 1) maxWord32 := by
  obtain ⟨cap, hcap⟩ := Option.isSome_iff_exists.mp hcounts
  unfold Pipeline.countDisplay
  rw [hm]
  dsimp only
  rw [timesShown_track]
  exact Tracker.timesShown_markSeen (t := h.tracker k) htoken hcap

/-- A dismissal changes no count. -/
theorem remembers_countDismissal (m : Message) (closedByUser : Bool) (s : Session) (h : Host) :
    Remembers k q h (Pipeline.countDismissal m closedByUser s h) := by
  unfold Pipeline.countDismissal
  split
  · split
    · unfold Remembers
      rw [timesShown_track, Tracker.timesShown_markDismissed]
      exact Nat.le_refl _
    · exact Nat.le_refl _
  · exact Nat.le_refl _

end Host

namespace Pipeline

variable (k q)

theorem reselect_remembers : reselect.Respects (Host.Remembers k q) := fun _ => trivial

theorem callBack_remembers (a : Action) (h : Host) : Host.Remembers k q h (callBack a h) := by
  unfold callBack
  split
  · exact Host.remembers_of_values (Host.values_recordAll _ h)
  · exact Nat.le_refl _

/-- Logging a view stores nothing. -/
theorem timesShown_logView (a : Action) (m : Message) (s : Session) (h : Host) :
    (logView a m s h).timesShown k q = h.timesShown k q := by
  unfold logView
  split <;> rfl

theorem counts_logView (a : Action) (m : Message) (s : Session) (h : Host) :
    (logView a m s h).counts k q = h.counts k q := by
  unfold logView
  split <;> rfl

/-- Accounting forgets no view. -/
theorem accounting_remembers : accounting.Respects (Host.Remembers k q) := by
  have hview : ∀ a m s h, Host.Remembers k q h (logView a m s h) :=
    fun a m s h => Nat.le_of_eq (timesShown_logView k q a m s h).symm
  intro a
  cases a with
  | display m =>
      exact ⟨hview _ m, fun s h => Host.remembers_countDisplay m s h, trivial⟩
  | dismiss m log viaClose =>
      refine ⟨hview _ m, fun s h => Host.remembers_countDismissal m _ s h, fun s h => ?_,
        fun s => ?_⟩
      · dsimp only
        split
        · exact Host.remembers_of_values (Host.values_requestRefresh h)
        · exact Nat.le_refl _
      · unfold pickNext
        split <;> trivial
  | _ => trivial

/-- Selection forgets no view. -/
theorem selecting_remembers : selecting.Respects (Host.Remembers k q) := by
  have hload : ∀ picked, (loadIfFree picked).Respects (Host.Remembers k q) := by
    intro picked
    cases picked with
    | none => trivial
    | some m =>
        intro s
        dsimp only
        split <;> trivial
  intro a
  simp only [selecting]
  split
  · intro s
    show Program.Respects _ (embedThen _ _)
    unfold embedThen
    split
    · exact hload _
    · exact hload _
  · trivial

/-- **No stage forgets a view.** -/
theorem standard_remembers : ∀ stage ∈ standard, stage.Respects (Host.Remembers k q) := by
  intro stage hstage a
  simp only [standard, List.mem_cons, List.not_mem_nil, or_false] at hstage
  rcases hstage with rfl | rfl | rfl | rfl | rfl | rfl | rfl | rfl
  · trivial
  · simp only [errorReporting]
    split
    · exact ⟨fun _ _ => Nat.le_refl _, trivial⟩
    · trivial
  · exact accounting_remembers k q a
  · simp only [activation]
    split
    · split
      · trivial
      · intro s
        dsimp only
        split
        · trivial
        · exact ⟨fun _ _ => Nat.le_refl _, trivial⟩
    · trivial
  · simp only [identityGuard]
    split
    · trivial
    · intro s
      dsimp only
      split <;> trivial
  · simp only [navigation]
    split
    · intro s
      dsimp only
      split
      · split
        · exact reselect_remembers k q
        · exact reselect_remembers k q
      · exact reselect_remembers k q
    · trivial
  · exact selecting_remembers k q a
  · exact ⟨fun _ h => callBack_remembers k q a h, trivial⟩

end Pipeline

/-! ## Catalogs -/

/-- A catalog offers a queue id: it lists it, as sticky messages of one class, and all rules
of these allow the same number of views. -/
structure Offers (k : StickyClass) (q : String) (count : Nat) (ms : List Message) : Prop where
  listed : ∃ m ∈ ms, m.queueId = some q
  sticky : ∀ m ∈ ms, m.queueId = some q → k.includes m = true
  rules : ∀ m ∈ ms, m.queueId = some q →
    ∃ cap, m.frequency? = some cap ∧ cap.count = (count : Int)

namespace Offers

variable {count : Nat} {ms : List Message}

/-- The class lists the queue id. -/
theorem lists (h : Offers k q count ms) (host : Host) : (host.tracker k).Lists ms q := by
  obtain ⟨m, hm, hq⟩ := h.listed
  exact ⟨m, List.mem_filter.mpr ⟨hm, h.sticky m hm hq⟩, hq⟩

/-- **Gathering changes no count** of a queue id that is offered. -/
theorem timesShown_gatherQueue (h : Offers k q count ms) (token : Option String) (host : Host) :
    (gatherQueue token ms host).2.timesShown k q = host.timesShown k q := by
  unfold Host.timesShown
  rw [record_gatherQueue (h.lists host)]

/-- **What was shown often enough is not gathered.** -/
theorem not_mem_gatherQueue (h : Offers k q count ms) (hcount : 1 ≤ count) {host : Host}
    (hshown : count ≤ host.timesShown k q) (token : Option String) :
    ∀ m ∈ (gatherQueue token ms host).1, m.queueId ≠ some q := by
  intro m hm hq
  obtain ⟨hlisted, hallowed⟩ := mem_gatherQueue hm
  have hincludes := h.sticky m hlisted hq
  obtain ⟨rule, hrule, hallows⟩ := h.rules m hlisted hq
  rcases hallowed with hregular | ⟨l, r, cap, hclass, hr, hcap, hrecord⟩
  · unfold Message.stickyClass? at hregular
    exact absurd hincludes (List.find?_eq_none.mp hregular k (by cases k <;> decide))
  · obtain rfl := StickyClass.eq_of_includes hincludes hclass
    obtain rfl := Option.some.inj (hq.symm.trans hr)
    obtain rfl := Option.some.inj (hrule.symm.trans hcap)
    have hlimited : rule.isUnlimited = false := by
      unfold FrequencyCap.isUnlimited
      rw [hallows]
      exact decide_eq_false (by omega)
    have hover : ¬ ((k.record host.storage.values q).timesShown : Int) < rule.count := by
      unfold Host.timesShown at hshown
      rw [hallows]
      omega
    unfold TrackingRecord.allows at hrecord
    rw [hlimited, Bool.false_or, Bool.and_eq_true] at hrecord
    exact hover (of_decide_eq_true hrecord.2)

end Offers

end InAppMessaging
