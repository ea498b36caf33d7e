import InAppMessaging.Proofs.Eligibility.Tracking

/-!
# Frequency caps over whole histories

A history is a list of calls on one tracker, each with the reading of the clock at which it was
made.  What the rule of one message says is a statement about the history alone: a tally
(`CapTally`) keeps when the last snapshot expires, how often the message was seen while a
snapshot was valid, when last, and whether it was closed.  The store spreads the same facts
over a snapshot and the keys of a record; `CapTally.Mirrors` relates the two, and every call
keeps the relation.

* `CapTally.Mirrors.perform` — one call;
* `CapTally.Mirrors.run` — a whole history;
* `Tracker.mem_eligible_iff` — a message may be shown exactly if its tally says so.
-/

namespace InAppMessaging

open Text

/-! ## Histories -/

/-- A call on a tracker on behalf of a user. -/
inductive TrackerCall where
  | update (token : String) (catalog : List Message)
  | markSeen (token queueId : String)
  | markDismissed (token queueId : String)
  | eligible (token : String)
deriving DecidableEq, Repr

/-- A call with the reading of the clock at which it was made. -/
structure TimedCall where
  time : Int
  call : TrackerCall
deriving DecidableEq, Repr

/-- The store after a call. -/
def Tracker.perform (t : Tracker) (p : Preferences) (c : TimedCall) : Preferences :=
  match c.call with
  | .update token catalog => t.update (some token) catalog c.time p
  | .markSeen token queueId => t.markSeen (some token) queueId c.time p
  | .markDismissed token queueId => t.markDismissed (some token) queueId c.time p
  | .eligible token => (t.eligible (some token) c.time p).2

/-- The store after a history that began with an empty one. -/
def Tracker.run (t : Tracker) (calls : List TimedCall) : Preferences :=
  calls.foldl t.perform .empty

/-- In a list, a message is the only one with its queue id. -/
structure Sole (q : String) (m : Message) (messages : List Message) : Prop where
  mem : m ∈ messages
  eq_of_queueId : ∀ other ∈ messages, other.queueId = some q → other = m

/-- A message of a class with a queue id and a complete rule, whose count fits a 32-bit
word and whose parts are not negative. -/
structure Capped (k : StickyClass) (m : Message) (q : String) (cap : FrequencyCap) : Prop where
  includes : k.includes m = true
  queueId : m.queueId = some q
  frequency : m.frequency? = some cap
  count_nonneg : 0 ≤ cap.count
  count_le : cap.count ≤ maxWord32
  delay_nonneg : 0 ≤ cap.delaySecs

/-- A call brings no catalog but one whose only member of the class with the queue id is the
message. -/
def TimedCall.Keeps (t : Tracker) (q : String) (m : Message) (c : TimedCall) : Prop :=
  ∀ token catalog, c.call = .update token catalog → Sole q m (t.members catalog)

/-! ## Tallies -/

/-- What a history says about one queue id. -/
structure CapTally where
  expiry : Option Int := none
  views : Nat := 0
  lastView : Int := 0
  closed : Bool := false
deriving DecidableEq, Repr

namespace CapTally

/-- There was a catalog, and its snapshot has not expired. -/
def live (s : CapTally) (now : Int) : Bool := s.expiry.any (now ≤ ·)

/-- A tally after one more call. -/
def after (lifetime : Nat) (q : String) (s : CapTally) (c : TimedCall) : CapTally :=
  match c.call with
  | .update _ _ => { s with expiry := some (min (c.time + lifetime) maxSigned64) }
  | .markSeen _ queueId =>
      if queueId = q ∧ s.live c.time then
        { s with views := s.views + 1, lastView := c.time }
      else s
  | .markDismissed _ queueId =>
      if queueId = q ∧ s.live c.time then { s with closed := true } else s
  | .eligible _ => s

/-- The tally of a history. -/
def ofCalls (lifetime : Nat) (q : String) (calls : List TimedCall) : CapTally :=
  calls.foldl (after lifetime q) {}

/-- The record that a rule makes of a tally. -/
def record (cap : FrequencyCap) (s : CapTally) : TrackingRecord where
  timesShown := min s.views maxWord32
  dismissed := (cap.count = 1 && 0 < s.views) || (!cap.ignoreDismiss && s.closed)
  nextEligibleAt :=
    if s.views = 0 ∨ cap.count = 1 ∨ ¬ 0 < cap.delaySecs then none
    else some (clamp64 (s.lastView + cap.delayMs))

/-! ## The record follows the tally -/

/-- One more view changes the record of a tally as it changes a record. -/
theorem record_viewed (cap : FrequencyCap) (s : CapTally) (now : Int) :
    ({ s with views := s.views + 1, lastView := now } : CapTally).record cap =
      (s.record cap).viewed cap now := by
  have htimes : min (s.views + 1) maxWord32 = min (min s.views maxWord32 + 1) maxWord32 := by
    omega
  unfold record TrackingRecord.viewed
  by_cases hcount : cap.count = 1
  · simp [hcount, htimes]
  · by_cases hdelay : 0 < cap.delaySecs
    · simp [hcount, hdelay, htimes]
    · simp [hcount, hdelay, htimes]

theorem record_closed (cap : FrequencyCap) (s : CapTally) :
    ({ s with closed := true } : CapTally).record cap = (s.record cap).closed cap := by
  unfold record TrackingRecord.closed
  cases cap.ignoreDismiss <;> simp

/-- A time that a delay has been added to, at the end of the signed 64-bit range at most. -/
theorem clamp64_add_delayMs {cap : FrequencyCap} {time : Int} (htime : 0 < time)
    (hdelay : 0 ≤ cap.delaySecs) :
    clamp64 (time + cap.delayMs) = min (time + 1000 * cap.delaySecs) maxSigned64 := by
  unfold FrequencyCap.delayMs clamp64 minSigned64 maxSigned64
  omega

/-- Nothing is due at a later time exactly if the delay after the last view is over. -/
theorem nextEligibleAt_passed_iff {cap : FrequencyCap} {s : CapTally} (now : Int)
    (hdelay : 0 ≤ cap.delaySecs) (hpos : 0 < s.views → 0 < s.lastView) :
    (!(s.record cap).nextEligibleAt.any fun next => 0 < next && now < next) = true ↔
      s.views = 0 ∨ cap.delaySecs = 0 ∨ cap.count = 1 ∨
        min (s.lastView + 1000 * cap.delaySecs) maxSigned64 ≤ now := by
  by_cases hnone : s.views = 0 ∨ cap.count = 1 ∨ ¬ 0 < cap.delaySecs
  · have hnext : (s.record cap).nextEligibleAt = none := if_pos hnone
    rw [hnext]
    have hleft : s.views = 0 ∨ cap.delaySecs = 0 ∨ cap.count = 1 ∨
        min (s.lastView + 1000 * cap.delaySecs) maxSigned64 ≤ now := by
      omega
    exact ⟨fun _ => hleft, fun _ => rfl⟩
  · have hlast : 0 < s.lastView := hpos (by omega)
    -- only positive due times count, and this one is
    have hnext : (s.record cap).nextEligibleAt =
        some (min (s.lastView + 1000 * cap.delaySecs) maxSigned64) := by
      rw [← clamp64_add_delayMs hlast hdelay]
      exact if_neg hnone
    have hdue : 0 < min (s.lastView + 1000 * cap.delaySecs) maxSigned64 := by
      unfold maxSigned64
      omega
    rw [hnext]
    simp only [Option.any_some, hdue, decide_true, Bool.true_and, Bool.not_eq_true',
      decide_eq_false_iff_not]
    omega

/-- Within the count a record is dismissed exactly if the user closed the message: a rule of one
view also dismisses with the view, but then the count is used up. -/
theorem dismissal_ignored_iff {cap : FrequencyCap} {s : CapTally}
    (hleft : cap.count = 0 ∨ (s.views : Int) < cap.count) :
    (!(s.record cap).dismissed || cap.ignoreDismiss) = true ↔
      cap.ignoreDismiss = true ∨ s.closed = false := by
  -- the view that would dismiss is also the one that uses up the count
  have honce : (decide (cap.count = 1) && decide (0 < s.views)) = false := by
    rw [Bool.and_eq_false_iff, decide_eq_false_iff_not, decide_eq_false_iff_not]
    omega
  have hdismissed : (s.record cap).dismissed = (!cap.ignoreDismiss && s.closed) := by
    show (decide (cap.count = 1) && decide (0 < s.views) || !cap.ignoreDismiss && s.closed) = _
    rw [honce, Bool.false_or]
  rw [hdismissed]
  cases cap.ignoreDismiss <;> cases s.closed <;> decide

/-- The record allows what the rule says about the tally. -/
theorem allows_record_iff {cap : FrequencyCap} {s : CapTally} (now : Int)
    (hcount : cap.count ≤ maxWord32) (hdelay : 0 ≤ cap.delaySecs)
    (hpos : 0 < s.views → 0 < s.lastView) :
    (s.record cap).allows cap now = true ↔
      (cap.count = 0 ∨ (s.views : Int) < cap.count) ∧
      (cap.ignoreDismiss = true ∨ s.closed = false) ∧
      (s.views = 0 ∨ cap.delaySecs = 0 ∨ cap.count = 1 ∨
        min (s.lastView + 1000 * cap.delaySecs) maxSigned64 ≤ now) := by
  have hviews : (cap.isUnlimited || decide (((s.record cap).timesShown : Int) < cap.count)) =
      true ↔ cap.count = 0 ∨ (s.views : Int) < cap.count := by
    have hshown : (s.record cap).timesShown = min s.views maxWord32 := rfl
    rw [hshown]
    simp only [FrequencyCap.isUnlimited, Bool.or_eq_true, decide_eq_true_eq]
    omega
  have hnext := nextEligibleAt_passed_iff now hdelay hpos
  unfold TrackingRecord.allows
  rw [Bool.and_eq_true, Bool.and_eq_true, hviews, hnext]
  constructor
  · rintro ⟨⟨hopen, hdue⟩, hleft⟩
    exact ⟨hleft, (dismissal_ignored_iff hleft).mp hopen, hdue⟩
  · rintro ⟨hleft, hopen, hdue⟩
    exact ⟨⟨(dismissal_ignored_iff hleft).mpr hopen, hdue⟩, hleft⟩

/-! ## The snapshot follows the tally -/

/-- The store holds a snapshot up to the tallied expiry in which the message is the only one
with its queue id; or it holds none, and what expiry there was is over. -/
def MirrorsSnapshot (t : Tracker) (q : String) (m : Message) (p : Preferences)
    (expiry : Option Int) (last : Int) : Prop :=
  (∃ e messages, expiry = some e ∧ t.Holds p messages e ∧ Sole q m messages) ∨
    (t.Gone p ∧ ∀ e, expiry = some e → e < last)

variable {t : Tracker} {q : String} {m : Message} {cap : FrequencyCap} {p : Preferences}
  {s : CapTally} {last now : Int}

/-- What reading a snapshot returns while it is live. -/
theorem MirrorsSnapshot.stored_of_live (h : MirrorsSnapshot t q m p s.expiry last)
    (hlast : last ≤ now) (hlive : s.live now = true) :
    ∃ messages, Sole q m messages ∧ t.stored p now = (messages, p) := by
  rcases h with ⟨e, messages, he, hholds, hsole⟩ | ⟨-, hover⟩
  · have hnow : now ≤ e := by
      simpa [live, he] using hlive
    exact ⟨messages, hsole, Tracker.stored_of_live hholds hnow⟩
  · cases he : s.expiry with
    | none => simp [live, he] at hlive
    | some e =>
        have hnow : now ≤ e := by
          simpa [live, he] using hlive
        have hpast := hover e he
        omega

/-- Reading a snapshot when it is not live returns none and leaves none. -/
theorem MirrorsSnapshot.stored_of_not_live (h : MirrorsSnapshot t q m p s.expiry last)
    (hlive : s.live now = false) :
    ∃ p', t.stored p now = ([], p') ∧ t.Gone p' := by
  rcases h with ⟨e, messages, he, hholds, -⟩ | ⟨hgone, -⟩
  · have hnow : e < now := by
      simpa [live, he] using hlive
    exact ⟨_, Tracker.stored_of_expired hholds hnow, Tracker.gone_dropSnapshot t p⟩
  · exact ⟨p, Tracker.stored_of_gone hgone, hgone⟩

/-- Whatever a call writes besides, reading the snapshot keeps it in step with the tally. -/
theorem MirrorsSnapshot.of_stored {p' : Preferences}
    (h : MirrorsSnapshot t q m p s.expiry last) (hlast : last ≤ now)
    (hsnapshot : p'.text? t.kind.snapshotKey = (t.stored p now).2.text? t.kind.snapshotKey)
    (hexpiry : p'.text? t.kind.expiryKey = (t.stored p now).2.text? t.kind.expiryKey) :
    MirrorsSnapshot t q m p' s.expiry now := by
  rcases h with ⟨e, messages, he, hholds, hsole⟩ | ⟨hgone, hover⟩
  · by_cases hnow : now ≤ e
    · rw [Tracker.stored_of_live hholds hnow] at hsnapshot hexpiry
      exact Or.inl ⟨e, messages, he, hholds.congr hsnapshot hexpiry, hsole⟩
    · have hlt : e < now := by omega
      -- reading deletes it, and no later call can find it live again
      rw [Tracker.stored_of_expired hholds hlt] at hsnapshot hexpiry
      refine Or.inr ⟨(Tracker.gone_dropSnapshot t p).congr hsnapshot hexpiry, ?_⟩
      intro e' he'
      rw [he] at he'
      obtain rfl := Option.some.inj he'
      exact hlt
  · rw [Tracker.stored_of_gone hgone] at hsnapshot hexpiry
    refine Or.inr ⟨hgone.congr hsnapshot hexpiry, ?_⟩
    intro e he
    exact Int.lt_of_lt_of_le (hover e he) hlast

/-! ## Every call keeps them in step -/

/-- The store says about a message what the tally says. -/
structure Mirrors (t : Tracker) (q : String) (m : Message) (cap : FrequencyCap)
    (p : Preferences) (s : CapTally) (last : Int) : Prop where
  snapshot : MirrorsSnapshot t q m p s.expiry last
  record : t.kind.record p q = s.record cap
  lastView_pos : 0 < s.views → 0 < s.lastView

/-- The rule of the only message with a queue id is the rule of that queue id. -/
theorem capOf?_of_sole {messages : List Message} (hm : Capped t.kind m q cap)
    (hsole : Sole q m messages) : Tracker.capOf? messages q = some cap := by
  have hfind : messages.find? (fun m => m.queueId = some q) = some m := by
    cases h : messages.find? (fun m => m.queueId = some q) with
    | none =>
        have hno := List.find?_eq_none.mp h m hsole.mem
        simp [hm.queueId] at hno
    | some other =>
        have hid : other.queueId = some q := by
          simpa using List.find?_some h
        rw [hsole.eq_of_queueId other (List.mem_of_find?_eq_some h) hid]
  unfold Tracker.capOf?
  rw [hfind]
  exact hm.frequency

/-- An empty store says what the tally of the empty history says. -/
theorem Mirrors.empty (t : Tracker) (q : String) (m : Message) (cap : FrequencyCap)
    (last : Int) : Mirrors t q m cap .empty {} last where
  snapshot := Or.inr ⟨⟨rfl, rfl⟩, fun _ he => nomatch he⟩
  record := by
    show (⟨0, false, none⟩ : TrackingRecord) = CapTally.record cap {}
    simp [CapTally.record]
  lastView_pos := fun h => absurd h (Nat.lt_irrefl 0)

/-- A new catalog keeps store and tally in step. -/
theorem Mirrors.update {token : String} {catalog : List Message}
    (h : Mirrors t q m cap p s last) (hnow : 0 < now) (hm : Capped t.kind m q cap)
    (hsole : Sole q m (t.members catalog)) :
    Mirrors t q m cap (t.update (some token) catalog now p)
      { s with expiry := some (min (now + t.lifetime) maxSigned64) } now where
  snapshot := by
    rw [Tracker.update_eq_store (List.ne_nil_of_mem hsole.mem)]
    exact Or.inl ⟨_, _, rfl, Tracker.holds_store t _ _ hnow, hsole⟩
  record := by
    rw [Tracker.record_update hsole.mem hm.queueId, h.record]
    rfl
  lastView_pos := h.lastView_pos

/-- A view keeps store and tally in step. -/
theorem Mirrors.markSeen (token r : String) (h : Mirrors t q m cap p s last)
    (hlast : last ≤ now) (hnow : 0 < now) (hm : Capped t.kind m q cap) :
    Mirrors t q m cap (t.markSeen (some token) r now p)
      (if r = q ∧ s.live now then { s with views := s.views + 1, lastView := now } else s)
      now := by
  have hsnapshot : MirrorsSnapshot t q m (t.markSeen (some token) r now p) s.expiry now :=
    h.snapshot.of_stored hlast
      (Tracker.text?_markSeen fun _ => StickyClass.recordKey_ne_snapshotKey.symm)
      (Tracker.text?_markSeen fun _ => StickyClass.recordKey_ne_expiryKey.symm)
  by_cases hr : r = q
  · subst hr
    cases hlive : s.live now with
    | true =>
        obtain ⟨messages, hsole, hstored⟩ := h.snapshot.stored_of_live hlast hlive
        have hcap := capOf?_of_sole hm hsole
        rw [if_pos ⟨rfl, rfl⟩]
        refine ⟨hsnapshot, ?_, fun _ => hnow⟩
        rw [Tracker.markSeen_of_cap hstored hcap, Tracker.record_writeView, h.record,
          record_viewed]
    | false =>
        obtain ⟨p', hstored, -⟩ := h.snapshot.stored_of_not_live hlive
        have hkeep : t.kind.record p' r = t.kind.record p r := by
          have hread := Tracker.record_stored t p now r
          rwa [hstored] at hread
        rw [if_neg (by simp)]
        refine ⟨hsnapshot, ?_, h.lastView_pos⟩
        rw [Tracker.markSeen_of_no_cap hstored rfl, hkeep, h.record]
  · rw [if_neg fun hboth => hr hboth.1]
    refine ⟨hsnapshot, ?_, h.lastView_pos⟩
    rw [Tracker.record_markSeen_ne (Ne.symm hr), h.record]

/-- A dismissal keeps store and tally in step. -/
theorem Mirrors.markDismissed (token r : String) (h : Mirrors t q m cap p s last)
    (hlast : last ≤ now) (hm : Capped t.kind m q cap) :
    Mirrors t q m cap (t.markDismissed (some token) r now p)
      (if r = q ∧ s.live now then { s with closed := true } else s) now := by
  have hsnapshot : MirrorsSnapshot t q m (t.markDismissed (some token) r now p) s.expiry now :=
    h.snapshot.of_stored hlast
      (Tracker.text?_markDismissed fun _ => StickyClass.recordKey_ne_snapshotKey.symm)
      (Tracker.text?_markDismissed fun _ => StickyClass.recordKey_ne_expiryKey.symm)
  by_cases hr : r = q
  · subst hr
    cases hlive : s.live now with
    | true =>
        obtain ⟨messages, hsole, hstored⟩ := h.snapshot.stored_of_live hlast hlive
        have hcap := capOf?_of_sole hm hsole
        rw [if_pos ⟨rfl, rfl⟩]
        refine ⟨hsnapshot, ?_, h.lastView_pos⟩
        rw [Tracker.markDismissed_of_cap hstored hcap, Tracker.record_writeDismissal, h.record,
          record_closed]
    | false =>
        obtain ⟨p', hstored, -⟩ := h.snapshot.stored_of_not_live hlive
        have hkeep : t.kind.record p' r = t.kind.record p r := by
          have hread := Tracker.record_stored t p now r
          rwa [hstored] at hread
        rw [if_neg (by simp)]
        refine ⟨hsnapshot, ?_, h.lastView_pos⟩
        rw [Tracker.markDismissed_of_no_cap hstored rfl, hkeep, h.record]
  · rw [if_neg fun hboth => hr hboth.1]
    refine ⟨hsnapshot, ?_, h.lastView_pos⟩
    rw [Tracker.record_markDismissed_ne (Ne.symm hr), h.record]

/-- **Every call keeps store and tally in step.** -/
theorem Mirrors.perform {c : TimedCall} (h : Mirrors t q m cap p s last)
    (hlast : last ≤ c.time) (hnow : 0 < c.time) (hm : Capped t.kind m q cap)
    (hc : c.Keeps t q m) :
    Mirrors t q m cap (t.perform p c) (s.after t.lifetime q c) c.time := by
  obtain ⟨now, call⟩ := c
  cases call with
  | update token catalog => exact h.update hnow hm (hc token catalog rfl)
  | markSeen token r => exact h.markSeen token r hlast hnow hm
  | markDismissed token r => exact h.markDismissed token r hlast hm
  | eligible token =>
      refine ⟨h.snapshot.of_stored hlast rfl rfl, ?_, h.lastView_pos⟩
      exact (Tracker.record_stored t p now q).trans h.record

/-- Store and tally stay in step while time passes. -/
theorem Mirrors.later (h : Mirrors t q m cap p s last) (hlast : last ≤ now) :
    Mirrors t q m cap p s now where
  snapshot := by
    rcases h.snapshot with hheld | ⟨hgone, hover⟩
    · exact Or.inl hheld
    · exact Or.inr ⟨hgone, fun e he => Int.lt_of_lt_of_le (hover e he) hlast⟩
  record := h.record
  lastView_pos := h.lastView_pos

/-- **Store and tally are in step after every history.** -/
theorem Mirrors.run {calls : List TimedCall} (h : Mirrors t q m cap p s last)
    (hclock : (last :: (calls.map TimedCall.time ++ [now])).Pairwise (· ≤ ·))
    (hpos : ∀ c ∈ calls, 0 < c.time) (hm : Capped t.kind m q cap)
    (hcalls : ∀ c ∈ calls, c.Keeps t q m) :
    Mirrors t q m cap (calls.foldl t.perform p) (calls.foldl (after t.lifetime q) s) now := by
  induction calls generalizing p s last with
  | nil => exact h.later ((List.pairwise_cons.mp hclock).1 now List.mem_cons_self)
  | cons c calls ih =>
      obtain ⟨hfirst, hrest⟩ := List.pairwise_cons.mp hclock
      have hstep := h.perform (hfirst c.time List.mem_cons_self)
        (hpos c List.mem_cons_self) hm (hcalls c List.mem_cons_self)
      exact ih hstep hrest (fun d hd => hpos d (List.mem_cons_of_mem c hd))
        fun d hd => hcalls d (List.mem_cons_of_mem c hd)

end CapTally

/-! ## The verdict -/

/-- The readings of the clock, up to that of a last question, are positive and never go
back. -/
structure Clocked (calls : List TimedCall) (now : Int) : Prop where
  pos : ∀ time ∈ calls.map TimedCall.time ++ [now], 0 < time
  ordered : (calls.map TimedCall.time ++ [now]).Pairwise (· ≤ ·)

/-- A capped message is judged by its record alone. -/
theorem Tracker.isEligible_of_capped {t : Tracker} {q : String} {m : Message}
    {cap : FrequencyCap} (hm : Capped t.kind m q cap) (p : Preferences) (now : Int) :
    t.isEligible p now m = (t.kind.record p q).allows cap now := by
  have hvalid : cap.isValid = true := by
    simp [FrequencyCap.isValid, hm.count_nonneg, hm.delay_nonneg]
  unfold isEligible
  simp only [hm.queueId, hm.frequency, hvalid, Bool.true_and]

/-- **Frequency caps are exact over whole histories.**  After any history whose catalogs all
contain a capped message as the only member of its class with its queue id, it may be shown
exactly if the snapshot is live, views are left, it was not closed for good, and the delay
after the last view is over. -/
theorem Tracker.mem_eligible_iff (t : Tracker) {q token : String} {m : Message}
    {cap : FrequencyCap} {calls : List TimedCall} {now : Int} (hm : Capped t.kind m q cap)
    (hcalls : ∀ c ∈ calls, c.Keeps t q m) (hclock : Clocked calls now) :
    m ∈ (t.eligible (some token) now (t.run calls)).1 ↔
      (CapTally.ofCalls t.lifetime q calls).live now = true ∧
      (cap.count = 0 ∨ ((CapTally.ofCalls t.lifetime q calls).views : Int) < cap.count) ∧
      (cap.ignoreDismiss = true ∨ (CapTally.ofCalls t.lifetime q calls).closed = false) ∧
      ((CapTally.ofCalls t.lifetime q calls).views = 0 ∨ cap.delaySecs = 0 ∨ cap.count = 1 ∨
        min ((CapTally.ofCalls t.lifetime q calls).lastView + 1000 * cap.delaySecs)
          maxSigned64 ≤ now) := by
  have hzero : (0 :: (calls.map TimedCall.time ++ [now])).Pairwise (· ≤ ·) :=
    List.pairwise_cons.mpr ⟨fun time h => Int.le_of_lt (hclock.pos time h), hclock.ordered⟩
  have hpos : ∀ c ∈ calls, 0 < c.time := fun c hc =>
    hclock.pos c.time (List.mem_append_left _ (List.mem_map_of_mem hc))
  have hmirrors : CapTally.Mirrors t q m cap (t.run calls)
      (CapTally.ofCalls t.lifetime q calls) now :=
    (CapTally.Mirrors.empty t q m cap 0).run hzero hpos hm hcalls
  generalize CapTally.ofCalls t.lifetime q calls = s at hmirrors ⊢
  have hallows := CapTally.allows_record_iff now hm.count_le hm.delay_nonneg
    hmirrors.lastView_pos
  rw [mem_eligible, isEligible_of_capped hm, record_stored, hmirrors.record, hallows]
  cases hlive : s.live now with
  | true =>
      obtain ⟨messages, hsole, hstored⟩ := hmirrors.snapshot.stored_of_live (Int.le_refl now) hlive
      rw [hstored]
      exact ⟨fun h => ⟨rfl, h.2⟩, fun h => ⟨hsole.mem, h.2⟩⟩
  | false =>
      obtain ⟨p', hstored, -⟩ := hmirrors.snapshot.stored_of_not_live hlive
      rw [hstored]
      exact ⟨fun h => absurd h.1 List.not_mem_nil, fun h => absurd h.1 (by decide)⟩

/-- A broadcast message that may be seen twice, ten seconds apart. -/
def twiceMessage : Message :=
  { id := "welcome", queueId := some "q",
    delivery := { broadcast := some { frequency := some { count := some 2, delay := some 10 } } } }

/-- After its first view it comes back when the ten seconds are over, and not before. -/
theorem Tracker.twiceMessage_eligible :
    (twiceMessage ∈ ((⟨.broadcast, 60000⟩ : Tracker).eligible (some "ada") 12000
      (Tracker.run ⟨.broadcast, 60000⟩
        [⟨1000, .update "ada" [twiceMessage]⟩, ⟨2000, .markSeen "ada" "q"⟩])).1) ∧
    (twiceMessage ∉ ((⟨.broadcast, 60000⟩ : Tracker).eligible (some "ada") 11999
      (Tracker.run ⟨.broadcast, 60000⟩
        [⟨1000, .update "ada" [twiceMessage]⟩, ⟨2000, .markSeen "ada" "q"⟩])).1) := by
  have hm : Capped .broadcast twiceMessage "q" ⟨2, 10, false⟩ :=
    ⟨by decide, by decide, by decide, by decide, by decide, by decide⟩
  have hcalls : ∀ c ∈ [⟨1000, .update "ada" [twiceMessage]⟩, ⟨2000, .markSeen "ada" "q"⟩],
      TimedCall.Keeps ⟨.broadcast, 60000⟩ "q" twiceMessage c := by
    intro c hc token catalog hcall
    rcases List.mem_cons.mp hc with rfl | hc
    · obtain ⟨-, rfl⟩ := TrackerCall.update.inj hcall
      exact ⟨by decide, fun other hother _ => List.mem_singleton.mp hother⟩
    · obtain rfl := List.mem_singleton.mp hc
      exact TrackerCall.noConfusion hcall
  constructor
  · exact (Tracker.mem_eligible_iff ⟨.broadcast, 60000⟩ hm hcalls
      ⟨by decide, by decide⟩).mpr (by decide)
  · intro hmem
    have hverdict := (Tracker.mem_eligible_iff ⟨.broadcast, 60000⟩ hm hcalls
      ⟨by decide, by decide⟩).mp hmem
    revert hverdict
    decide

end InAppMessaging
