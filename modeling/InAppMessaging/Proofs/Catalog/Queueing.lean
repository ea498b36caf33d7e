import InAppMessaging.Proofs.Catalog.Gathering

/-!
# The queue that an answer calls for

An answer with messages calls for one queue.  Messages without a sticky block go into it as they
come; the members of a class go into it if they may be tracked and their stored record permits
them (`StickyClass.Admits`).  The sticky ones leave the answer, are written as a snapshot that
replaces an older one, and are read back from it.  On this way nothing is lost, because a
snapshot has not expired at the moment at which it is written, and nothing is found that the
answer did not bring.

* `TrackingRecord.allows_iff` — what it takes for a record to permit a message;
* `Tracker.isExpired_update` — **what has just been stored has not expired**;
* `Tracker.eligible_of_fresh` — reading a fresh snapshot back filters the members;
* `gatherQueue_messages` — **what is gathered, message for message**;
* `applyAnswer_of_messages` — **an answer with messages neither loses nor invents any**.
-/

namespace InAppMessaging

open Preferences Text

/-! ## What goes into the queue -/

/-- A record permits a message at a time under its rule. -/
structure TrackingRecord.Permits (r : TrackingRecord) (cap : FrequencyCap) (now : Int) :
    Prop where
  /-- If the message was dismissed for good, the rule ignores it. -/
  dismissal : r.dismissed = true → cap.ignoreDismiss = true
  /-- No delay is running. -/
  delay : ∀ next, r.nextEligibleAt = some next → 0 < next → next ≤ now
  /-- There is no limit, or there are views left. -/
  views : cap.count = 0 ∨ (r.timesShown : Int) < cap.count

/-- A member of a class goes into the queue: it has a queue id and a complete rule without
negative numbers, and the record of its queue id permits it. -/
def StickyClass.Admits (k : StickyClass) (p : Preferences) (now : Int) (m : Message) : Prop :=
  k.includes m = true ∧ ∃ q cap, m.queueId = some q ∧ m.frequency? = some cap ∧
    0 ≤ cap.count ∧ 0 ≤ cap.delaySecs ∧ (k.record p q).Permits cap now

/-- What it takes for a record to permit a message. -/
theorem TrackingRecord.allows_iff {r : TrackingRecord} {cap : FrequencyCap} {now : Int} :
    r.allows cap now = true ↔ r.Permits cap now := by
  have hdismissal : (!r.dismissed || cap.ignoreDismiss) = true ↔
      (r.dismissed = true → cap.ignoreDismiss = true) := by
    cases r.dismissed <;> simp
  have hdelay : (!r.nextEligibleAt.any fun next => 0 < next && now < next) = true ↔
      ∀ next, r.nextEligibleAt = some next → 0 < next → next ≤ now := by
    cases r.nextEligibleAt with
    | none => simp
    | some next =>
        simp only [Option.any_some, Option.some.injEq, forall_eq', Bool.not_eq_true',
          Bool.and_eq_false_iff, decide_eq_false_iff_not]
        omega
  have hviews : (cap.isUnlimited || (r.timesShown : Int) < cap.count) = true ↔
      cap.count = 0 ∨ (r.timesShown : Int) < cap.count := by
    simp [FrequencyCap.isUnlimited]
  unfold allows
  rw [Bool.and_eq_true, Bool.and_eq_true, hdismissal, hdelay, hviews]
  constructor
  · rintro ⟨⟨hfirst, hsecond⟩, hthird⟩
    exact ⟨hfirst, hsecond, hthird⟩
  · rintro ⟨hfirst, hsecond, hthird⟩
    exact ⟨⟨hfirst, hsecond⟩, hthird⟩

namespace Tracker

variable {t : Tracker} {p p' : Preferences} {now : Int} {m : Message} {ms : List Message}

/-- What it takes for a stored member to be eligible. -/
theorem admits_iff : t.kind.Admits p now m ↔
    t.kind.includes m = true ∧ t.isEligible p now m = true := by
  unfold StickyClass.Admits isEligible FrequencyCap.isValid
  refine and_congr_right fun _ => ?_
  cases m.queueId with
  | none => simp
  | some q =>
      cases m.frequency? with
      | none => simp
      | some cap => simp [TrackingRecord.allows_iff, and_assoc]

end Tracker

instance StickyClass.decidableAdmits (k : StickyClass) (p : Preferences) (now : Int) :
    DecidablePred (k.Admits p now) :=
  fun _ => decidable_of_iff _ (Tracker.admits_iff (t := ⟨k, 0⟩)).symm

/-- The members of a class that go into the queue, in their order; without a token there are
none. -/
def StickyClass.admitted (k : StickyClass) (token : Option String) (p : Preferences) (now : Int)
    (ms : List Message) : List Message :=
  if token.isSome then ms.filter (k.Admits p now) else []

/-! ## Reading back what was stored -/

namespace Tracker

variable {t u : Tracker} {p p' : Preferences} {now : Int} {ms : List Message}

/-- **What has just been stored has not expired**, whatever the lifetime. -/
theorem isExpired_update (hnow : now ≤ maxSigned64) (token : String) :
    t.isExpired (t.update (some token) ms now p) now = false := by
  by_cases hmembers : t.members ms = []
  · have habsent : (t.update (some token) ms now p).text? t.kind.expiryKey = none := by
      rw [update_eq_clear hmembers]
      exact StickyClass.text?_clear p t.kind.beginsWith_expiryKey
    unfold isExpired integer?
    rw [habsent]
    rfl
  · have hexpiry : ¬ (0 < clamp64 (now + clamp64 t.lifetime) ∧
        clamp64 (now + clamp64 t.lifetime) < now) := by
      unfold clamp64 minSigned64
      unfold maxSigned64 at hnow ⊢
      omega
    unfold isExpired
    rw [update_eq_store hmembers, expiry_store, Option.getD_some]
    simpa using hexpiry

/-- What the other class writes leaves the expiry alone. -/
theorem isExpired_of_agreeOutside (hne : u.kind ≠ t.kind)
    (h : AgreeOutside u.kind.keyRoot p p') : t.isExpired p' now = t.isExpired p now := by
  have hexpiry := StickyClass.text?_of_agreeOutside hne h t.kind.beginsWith_expiryKey
  unfold isExpired
  rw [integer?_congr hexpiry]

/-- **Reading a fresh snapshot back** gives the members that are permitted by the records from
before, if those of listed queue ids have been kept. -/
theorem eligible_of_fresh (token : String) (before : Preferences)
    (hlive : t.isExpired p now = false)
    (hsnapshot : t.snapshot p = t.members ms)
    (hrecord : ∀ q, t.Lists ms q → t.kind.record p q = t.kind.record before q) :
    (t.eligible (some token) now p).1 = ms.filter (t.kind.Admits before now) := by
  have hread : (t.eligible (some token) now p).1 =
      (ms.filter t.kind.includes).filter (t.isEligible p now) := by
    unfold eligible stored
    rw [hlive, hsnapshot]
    rfl
  have hkept : ∀ m ∈ ms, t.kind.includes m = true →
      t.isEligible p now m = t.isEligible before now m := by
    intro m hm hincludes
    unfold isEligible
    cases hq : m.queueId with
    | none => rfl
    | some q =>
        have hsame := hrecord q ⟨m, List.mem_filter.mpr ⟨hm, hincludes⟩, hq⟩
        cases m.frequency? with
        | none => rfl
        | some cap =>
            dsimp only
            rw [hsame]
  rw [hread, List.filter_filter]
  refine List.filter_congr fun m hm => ?_
  rw [Bool.eq_iff_iff, Bool.and_eq_true, decide_eq_true_iff, admits_iff, and_comm]
  refine and_congr_right fun hincludes => ?_
  rw [hkept m hm hincludes]

end Tracker

section Gathering

variable {h : Host} {token : Option String} {ms : List Message}

/-- A refreshed snapshot has not expired. -/
theorem isExpired_refreshed (hclock : h.clock ≤ maxSigned64) (name : String)
    (ms : List Message) (k : StickyClass) :
    (h.tracker k).isExpired (refreshed (some name) ms h) h.clock = false := by
  cases k with
  | broadcast =>
      have hother : (h.tracker .anonymous).kind ≠ (h.tracker .broadcast).kind :=
        anonymous_ne_broadcast
      rw [Tracker.isExpired_of_agreeOutside hother (agreeOutside_refreshed (some name) ms h)]
      exact Tracker.isExpired_update hclock name
  | anonymous => exact Tracker.isExpired_update hclock name

/-- **What is gathered, message for message.** -/
theorem gatherQueue_messages (hclock : h.clock ≤ maxSigned64) (token : Option String)
    (ms : List Message) :
    (gatherQueue token ms h).1 = ms.filter (fun m => !m.isSticky) ++
      StickyClass.broadcast.admitted token h.storage.values h.clock ms ++
      StickyClass.anonymous.admitted token h.storage.values h.clock ms := by
  have hregular : regularMessages ms = ms.filter fun m => !m.isSticky := by
    unfold regularMessages
    refine List.filter_congr fun m _ => ?_
    rw [← m.isBroadcast_or_isAnonymous, Bool.not_or]
  rw [(gatherQueue_eq token ms h).1, hregular]
  cases token with
  | none => rfl
  | some name =>
      -- The broadcasts are read first, which leaves the anonymous messages as they were stored.
      have hother : (h.tracker .broadcast).kind ≠ (h.tracker .anonymous).kind :=
        anonymous_ne_broadcast.symm
      have hagree := agreeOutside_readBack (some name) ms h
      have hlive : (h.tracker .anonymous).isExpired (readBack (some name) ms h) h.clock =
          false := by
        rw [Tracker.isExpired_of_agreeOutside hother hagree]
        exact isExpired_refreshed hclock name ms .anonymous
      have hsnapshot : (h.tracker .anonymous).snapshot (readBack (some name) ms h) =
          (h.tracker .anonymous).members ms := by
        rw [Tracker.snapshot_of_agreeOutside hother hagree]
        exact snapshot_refreshed name ms h .anonymous
      have hbroadcast := Tracker.eligible_of_fresh name h.storage.values
        (isExpired_refreshed hclock name ms .broadcast)
        (snapshot_refreshed name ms h .broadcast) fun q hq => record_refreshed hq
      have hanonymous := Tracker.eligible_of_fresh name h.storage.values hlive hsnapshot
        fun q hq => record_readBack hq
      rw [hbroadcast, hanonymous]
      rfl

/-! ## Without a token -/

/-- Without a token gathering touches nothing that is stored. -/
theorem storage_gatherQueue_of_no_token (ms : List Message) (h : Host) :
    (gatherQueue none ms h).2.storage = h.storage := by
  have htrack : ∀ k : StickyClass, ∀ h : Host,
      h.track k (fun t => t.update none ms) = h :=
    fun k => Host.track_of_kept k fun t now p => t.update_of_no_token ms now p
  have heligible : ∀ k : StickyClass, ∀ h : Host, h.eligible k none = ([], h) := by
    intro k h
    show ([], { h with storage := h.storage.put h.storage.values }) = ([], h)
    rw [Storage.put_values]
  simp only [gatherQueue, htrack, heligible]

end Gathering

/-! ## How often a message is queued -/

/-- A message stays in a filtered list as often as it was there, or not at all. -/
theorem count_filter_eq (keep : Message → Bool) (m : Message) (ms : List Message) :
    (ms.filter keep).count m = if keep m then ms.count m else 0 := by
  by_cases hkeep : keep m = true
  · rw [if_pos hkeep, List.count_filter hkeep]
  · rw [if_neg hkeep, List.count_eq_zero]
    exact fun hmem => hkeep (List.mem_filter.mp hmem).2

theorem count_admitted (k : StickyClass) (token : Option String) (p : Preferences) (now : Int)
    (ms : List Message) (m : Message) :
    (k.admitted token p now ms).count m = 0 ∨
      (k.includes m = true ∧ (k.admitted token p now ms).count m = ms.count m) := by
  unfold StickyClass.admitted
  by_cases htoken : token.isSome = true
  · rw [if_pos htoken, count_filter_eq]
    by_cases hadmits : k.Admits p now m
    · rw [if_pos (decide_eq_true hadmits)]
      exact Or.inr ⟨hadmits.1, rfl⟩
    · rw [if_neg (by simpa using hadmits)]
      exact Or.inl rfl
  · rw [if_neg htoken]
    exact Or.inl rfl

/-- The three parts of the queue have no message in common. -/
theorem count_queue (token : Option String) (p : Preferences) (now : Int) (ms : List Message)
    (m : Message) :
    let queue := ms.filter (fun m => !m.isSticky) ++
      StickyClass.broadcast.admitted token p now ms ++
      StickyClass.anonymous.admitted token p now ms
    queue.count m = ms.count m ∨ queue.count m = 0 := by
  have hclasses : (StickyClass.broadcast.includes m || StickyClass.anonymous.includes m) =
      m.isSticky := m.isBroadcast_or_isAnonymous
  have hapart : ¬ (StickyClass.broadcast.includes m = true ∧
      StickyClass.anonymous.includes m = true) := by
    rintro ⟨hbroadcast, hanonymous⟩
    exact absurd (StickyClass.eq_of_includes hbroadcast hanonymous) (by decide)
  have hbroadcast := count_admitted .broadcast token p now ms m
  have hanonymous := count_admitted .anonymous token p now ms m
  intro queue
  rw [List.count_append, List.count_append, count_filter_eq]
  cases hsticky : m.isSticky with
  | false =>
      rw [hsticky, Bool.or_eq_false_iff] at hclasses
      grind
  | true => grind

/-! ## The answer -/

/-- The action replaces the queue. -/
def Action.replacesQueue : Action → Bool
  | .processQueue _ => true
  | _ => false

/-- The cadence has nothing to do with the queue. -/
theorem cadenceActions_keep_queue (s : Session) (r : CatalogResponse) :
    (cadenceActions s r).filter Action.replacesQueue = [] := by
  unfold cadenceActions
  rw [List.filter_append, List.append_eq_nil_iff]
  constructor
  · cases r.announcedInterval?.filter (· ≠ s.pollInterval) <;> rfl
  · cases r.announcedRealtime?.filter (· ≠ s.realtime) <;> rfl

/-- **An answer with messages neither loses nor invents any.**  It calls for exactly one queue:
the messages without a sticky block, then, if there is a token, the broadcasts and then the
anonymous messages that go into the queue by the records from before, each part in the order of
the answer.  So a message is queued as often as the answer has it or not at all, and without a
token nothing that is stored changes. -/
theorem applyAnswer_of_messages {s : Session} {r : CatalogResponse} {h : Host}
    (hsuccess : 200 ≤ r.status ∧ r.status < 300) (hcontent : r.status ≠ 204)
    (hclock : h.clock ≤ maxSigned64) :
    let queue := r.messages.filter (fun m => !m.isSticky) ++
      StickyClass.broadcast.admitted s.userToken? h.storage.values h.clock r.messages ++
      StickyClass.anonymous.admitted s.userToken? h.storage.values h.clock r.messages
    (applyAnswer s r h).1.filter Action.replacesQueue = [.processQueue queue] ∧
      (∀ m, queue.count m = r.messages.count m ∨ queue.count m = 0) ∧
      (s.userToken? = none → (applyAnswer s r h).2.storage = h.storage) := by
  have houtcome : r.outcome = .messages r.messages := by
    unfold CatalogResponse.outcome
    rw [if_neg (by omega), if_pos hsuccess]
  have haction : queueAction s r h =
      (.processQueue (gatherQueue s.userToken? r.messages h).1,
        (gatherQueue s.userToken? r.messages h).2) := by
    unfold queueAction
    rw [houtcome]
  intro queue
  refine ⟨?_, count_queue s.userToken? h.storage.values h.clock r.messages, ?_⟩
  · have hqueue : (gatherQueue s.userToken? r.messages h).1 = queue :=
      gatherQueue_messages hclock s.userToken? r.messages
    unfold applyAnswer
    rw [haction, hqueue, List.filter_cons_of_pos rfl, cadenceActions_keep_queue]
  · intro htoken
    unfold applyAnswer
    rw [haction, htoken]
    exact storage_gatherQueue_of_no_token r.messages h

/-- News without a queue id, which no rule is about. -/
def news : Message := { id := "news" }

/-- A broadcast that may be shown once. -/
def onceMessage (queueId : String) : Message :=
  { id := "offer", queueId := some queueId,
    delivery := { broadcast := some { frequency := some { count := some 1, delay := some 0 } } } }

/-- One broadcast was shown, and the snapshot that was stored then has expired. -/
def lapsedHost : Host where
  storage := .memory <| .ofList
    [("herald.broadcast.messages_json", encodeSnapshot [onceMessage "old", onceMessage "seen"]),
      ("herald.broadcast.expires_at_ms", "1000"), ("herald.broadcast.times_shown.seen", "1")]
  clock := 5000

/-- Of two broadcasts in an answer the one that was shown stays out of the queue, and the
expired one does not come back. -/
theorem lapsedHost_queues :
    (200 ≤ 200 ∧ 200 < 300) ∧ lapsedHost.clock ≤ maxSigned64 ∧
      (applyAnswer { userId := some "ada" }
        ⟨200, [onceMessage "new", news, onceMessage "seen"], []⟩ lapsedHost).1.filter
          Action.replacesQueue = [.processQueue [news, onceMessage "new"]] := by
  have hsuccess : 200 ≤ 200 ∧ 200 < 300 := by decide
  have hclock : lapsedHost.clock ≤ maxSigned64 := by decide
  have hqueue := applyAnswer_of_messages (s := { userId := some "ada" })
    (r := ⟨200, [onceMessage "new", news, onceMessage "seen"], []⟩) hsuccess (by decide) hclock
  exact ⟨hsuccess, hclock, hqueue.1.trans (by decide +kernel)⟩

end InAppMessaging
