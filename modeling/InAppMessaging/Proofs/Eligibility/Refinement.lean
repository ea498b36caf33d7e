import InAppMessaging.Proofs.Eligibility.Ledger
import InAppMessaging.Proofs.Eligibility.Separation
import Mathlib.Logic.Function.Basic

/-!
# Trackers answer as their ledgers do

Two trackers, one for each class, write texts into one store.  Beside them stands one ledger
for each class, which knows nothing of keys, texts or the other class.  A ledger *describes*
a store (`Ledger.Describes`) if it says what the store holds for its class; every call keeps
that and has the same answer on both sides, and since a call stays within the root of its
class, the other ledger goes on describing the store it never heard of.

* `Ledger.Describes.serve` — one call, on the class it is for;
* `Ledger.Describes.of_agreeOutside` — one call, on the other class;
* `Tracker.serveAll_refines` — **whole runs have equal answers**.
-/

namespace InAppMessaging

open Text Preferences

/-! ## Calls on trackers -/

/-- What a tracker does with a call. -/
def Tracker.serve (t : Tracker) (now : Int) (p : Preferences) : CapCall → CapAnswer × Preferences
  | .update token catalog => (.done, t.update token catalog now p)
  | .eligible token => (.messages (t.eligible token now p).1, (t.eligible token now p).2)
  | .markSeen token q => (.done, t.markSeen token q now p)
  | .markDismissed token q => (.done, t.markDismissed token q now p)
  | .record q => (.record (t.kind.record p q), p)
  | .clear => (.done, t.kind.clear p)

/-- A call that forgets all a tracker keeps. -/
def CapCall.clears (t : Tracker) : CapCall → Bool
  | .clear => true
  | .update (some _) catalog => (t.members catalog).isEmpty
  | _ => false

/-- A call for a class, at a time. -/
structure CapRequest where
  kind : StickyClass
  time : Int
  call : CapCall
deriving DecidableEq, Repr

/-- The tracker of a class, if snapshots of the classes live for given times. -/
def StickyClass.tracker (lifetime : StickyClass → Nat) (k : StickyClass) : Tracker :=
  ⟨k, lifetime k⟩

/-- Answers calls one after another from the store that both trackers share. -/
def Tracker.serveAll (lifetime : StickyClass → Nat) (p : Preferences) :
    List CapRequest → List CapAnswer × Preferences
  | [] => ([], p)
  | r :: rest =>
      let served := (r.kind.tracker lifetime).serve r.time p r.call
      let others := serveAll lifetime served.2 rest
      (served.1 :: others.1, others.2)

/-- The ledgers of both classes. -/
abbrev Ledgers := StickyClass → Ledger

namespace Ledgers

/-- Answers one call from the ledger of its class. -/
def serve (lifetime : StickyClass → Nat) (ls : Ledgers) (r : CapRequest) : CapAnswer × Ledgers :=
  let served := (ls r.kind).serve (r.kind.tracker lifetime) r.time r.call
  (served.1, Function.update ls r.kind served.2)

/-- Answers calls one after another. -/
def serveAll (lifetime : StickyClass → Nat) (ls : Ledgers) :
    List CapRequest → List CapAnswer × Ledgers
  | [] => ([], ls)
  | r :: rest =>
      let served := ls.serve lifetime r
      let others := serveAll lifetime served.2 rest
      (served.1 :: others.1, others.2)

/-- A call changes the ledger of its class. -/
theorem serve_self (lifetime : StickyClass → Nat) (ls : Ledgers) (r : CapRequest) :
    (ls.serve lifetime r).2 r.kind =
      ((ls r.kind).serve (r.kind.tracker lifetime) r.time r.call).2 :=
  Function.update_self _ _ _

/-- A call leaves the ledger of the other class alone. -/
theorem serve_of_ne (lifetime : StickyClass → Nat) (ls : Ledgers) {r : CapRequest}
    {k : StickyClass} (h : k ≠ r.kind) : (ls.serve lifetime r).2 k = ls k :=
  Function.update_of_ne h _ _

end Ledgers

/-! ## Forgotten records -/

namespace StickyClass

variable {k : StickyClass} {p : Preferences} {q : String}

/-- After its deletion nothing is stored of a record. -/
theorem text?_removeRecord_self (k : StickyClass) (p : Preferences) (f : TrackingField)
    (q : String) : (k.removeRecord p q).text? (k.recordKey f q) = none := by
  unfold removeRecord
  cases f with
  | nextEligibleAt => exact text?_remove_self _ _
  | dismissed =>
      rw [text?_remove_ne _ (recordKey_ne_of_field (by decide)), text?_remove_self]
  | timesShown =>
      rw [text?_remove_ne _ (recordKey_ne_of_field (by decide)),
        text?_remove_ne _ (recordKey_ne_of_field (by decide)), text?_remove_self]

/-- After its deletion there is no record. -/
theorem record_removeRecord_self (k : StickyClass) (p : Preferences) (q : String) :
    k.record (k.removeRecord p q) q = {} := by
  have habsent := fun f => text?_removeRecord_self k p f q
  unfold record Preferences.natural? bool? integer?
  rw [habsent .timesShown, habsent .dismissed, habsent .nextEligibleAt]
  rfl

end StickyClass

/-- Forgetting deletes the record of each stored queue id that is not retained. -/
theorem Tracker.record_forget_of_not_retained (t : Tracker) (p : Preferences) {q : String}
    {retained : List (Option String)} (h : some q ∉ retained) :
    t.kind.record (t.forget p retained) q =
      if (t.snapshot p).any (fun m => m.queueId = some q) then {} else t.kind.record p q := by
  unfold forget
  generalize t.snapshot p = ms
  induction ms generalizing p with
  | nil => rfl
  | cons m ms ih =>
      rw [List.foldl_cons, ih, List.any_cons]
      by_cases hlater : (ms.any fun m => m.queueId = some q) = true
      · rw [if_pos hlater, if_pos (by rw [hlater, Bool.or_true])]
      · rw [if_neg hlater, Bool.eq_false_iff.mpr hlater, Bool.or_false]
        cases hid : m.queueId with
        | none => rfl
        | some r =>
            by_cases hqr : q = r
            · subst hqr
              simp only [h, if_false, decide_true, if_true]
              exact StickyClass.record_removeRecord_self t.kind p q
            · have hne : ¬ some r = some q := fun heq => hqr (Option.some.inj heq).symm
              simp only [hne, decide_false, Bool.false_eq_true, if_false]
              split
              · rfl
              · exact StickyClass.record_removeRecord_ne hqr

/-! ## Ledgers and stores -/

namespace Ledger

variable {l : Ledger} {t : Tracker} {p p' : Preferences} {now : Int} {token : Option String}

/-- A ledger says what a store holds for the class of a tracker. -/
structure Describes (l : Ledger) (t : Tracker) (p : Preferences) : Prop where
  gone : l.catalog = none → t.Gone p
  snapshot_eq : ∀ c, l.catalog = some c → t.snapshot p = c.messages
  expiry_eq : ∀ c, l.catalog = some c → p.integer? t.kind.expiryKey = some c.expiry
  record_eq : ∀ q, t.kind.record p q = l.record q

namespace Describes

/-- A ledger depends on the keys of its class only. -/
theorem congr (h : l.Describes t p)
    (hkeys : ∀ key, beginsWith t.kind.keyRoot key = true → p'.text? key = p.text? key) :
    l.Describes t p' where
  gone hnone := (h.gone hnone).congr (hkeys _ t.kind.beginsWith_snapshotKey)
    (hkeys _ t.kind.beginsWith_expiryKey)
  snapshot_eq c hc :=
    (Tracker.snapshot_congr (hkeys _ t.kind.beginsWith_snapshotKey)).trans (h.snapshot_eq c hc)
  expiry_eq c hc :=
    (integer?_congr (hkeys _ t.kind.beginsWith_expiryKey)).trans (h.expiry_eq c hc)
  record_eq q :=
    (StickyClass.record_congr fun f => hkeys _ (t.kind.beginsWith_recordKey f q)).trans
      (h.record_eq q)

/-- **What is written within the root of another class is no concern of a ledger.** -/
theorem of_agreeOutside {k : StickyClass} (h : l.Describes t p) (hne : k ≠ t.kind)
    (hagree : AgreeOutside k.keyRoot p p') : l.Describes t p' :=
  h.congr fun _ hkey => StickyClass.text?_of_agreeOutside hne hagree hkey

/-- A store without keys of the class is described by the ledger that says nothing. -/
theorem of_absent (h : ∀ key, beginsWith t.kind.keyRoot key = true → p.text? key = none) :
    ({} : Ledger).Describes t p where
  gone _ := ⟨h _ t.kind.beginsWith_snapshotKey, h _ t.kind.beginsWith_expiryKey⟩
  snapshot_eq := nofun
  expiry_eq := nofun
  record_eq := StickyClass.record_of_absent h

theorem cleared (t : Tracker) (p : Preferences) : ({} : Ledger).Describes t (t.kind.clear p) :=
  of_absent fun _ hkey => StickyClass.text?_clear p hkey

/-- Both sides read the same messages, and drop them at the same time. -/
theorem stored (h : l.Describes t p) (now : Int) :
    (t.stored p now).1 = (l.read now).1 ∧ (l.read now).2.Describes t (t.stored p now).2 := by
  unfold read
  cases hcatalog : l.catalog with
  | none =>
      rw [Tracker.stored_of_gone (h.gone hcatalog)]
      exact ⟨rfl, h⟩
  | some c =>
      have hexpired : t.isExpired p now = c.isExpired now := by
        unfold Tracker.isExpired KeptCatalog.isExpired
        rw [h.expiry_eq c hcatalog]
        rfl
      unfold Tracker.stored
      rw [hexpired]
      dsimp only
      by_cases hover : c.isExpired now = true
      · rw [if_pos hover, if_pos hover]
        refine ⟨rfl, fun _ => t.gone_dropSnapshot p, nofun, nofun, fun q => ?_⟩
        exact (t.record_dropSnapshot p q).trans (h.record_eq q)
      · rw [if_neg hover, if_neg hover]
        exact ⟨h.snapshot_eq c hcatalog, h⟩

/-- The queue ids of the stored snapshot are those of the kept catalog. -/
theorem any_snapshot (h : l.Describes t p) (q : String) :
    (t.snapshot p).any (fun m => m.queueId = some q) = l.catalog.any (·.lists q) := by
  cases hcatalog : l.catalog with
  | none =>
      have hsnapshot : t.snapshot p = [] := by
        unfold Tracker.snapshot
        rw [(h.gone hcatalog).no_snapshot]
        rfl
      rw [hsnapshot]
      rfl
  | some c =>
      rw [h.snapshot_eq c hcatalog]
      rfl

/-- Both sides forget the records of the queue ids that depart. -/
theorem record_forget (h : l.Describes t p) (members : List Message) (q : String) :
    t.kind.record (t.forget p (members.map (·.queueId))) q =
      if l.departs members q then {} else l.record q := by
  unfold departs
  by_cases hmem : some q ∈ members.map (·.queueId)
  · have hstays : (members.any fun m => m.queueId = some q) = true := by
      obtain ⟨m, hm, hq⟩ := List.mem_map.mp hmem
      exact List.any_eq_true.mpr ⟨m, hm, decide_eq_true hq⟩
    rw [Tracker.record_forget hmem, hstays, h.record_eq]
    simp only [Bool.not_true, Bool.and_false, Bool.false_eq_true, if_false]
  · have hleaves : (members.any fun m => m.queueId = some q) = false := by
      refine List.any_eq_false.mpr fun m hm hq => ?_
      exact hmem (List.mem_map.mpr ⟨m, hm, of_decide_eq_true hq⟩)
    rw [Tracker.record_forget_of_not_retained t p hmem, h.any_snapshot, hleaves, h.record_eq]
    simp only [Bool.not_false, Bool.and_true]

/-- A new catalog. -/
theorem update (h : l.Describes t p) (token : Option String) (catalog : List Message)
    (now : Int) : (l.update t token catalog now).Describes t (t.update token catalog now p) := by
  cases token with
  | none =>
      unfold Ledger.update
      rw [if_pos rfl]
      exact h
  | some token =>
      by_cases hmembers : t.members catalog = []
      · have hclear : t.update (some token) catalog now p = t.kind.clear p := by
          unfold Tracker.update
          rw [hmembers]
        unfold Ledger.update
        rw [hclear, if_neg (Option.some_ne_none token), if_pos hmembers]
        exact cleared t p
      · have hcatalog : (l.update t (some token) catalog now).catalog =
            some ⟨t.members catalog, clamp64 (now + clamp64 t.lifetime)⟩ := by
          unfold Ledger.update
          rw [if_neg (Option.some_ne_none token), if_neg hmembers]
        rw [Tracker.update_eq_store hmembers]
        refine ⟨fun hnone => ?_, fun c hc => ?_, fun c hc => ?_, fun q => ?_⟩
        · exact absurd (hcatalog.symm.trans hnone) (Option.some_ne_none _)
        · rw [Tracker.snapshot_store, ← Option.some.inj (hcatalog.symm.trans hc)]
        · rw [Tracker.expiry_store, ← Option.some.inj (hcatalog.symm.trans hc)]
        · rw [Tracker.record_store, h.record_forget,
            record_update (Option.some_ne_none token) hmembers]

/-- The same messages are eligible on both sides. -/
theorem eligible (h : l.Describes t p) (token : Option String) (now : Int) :
    (t.eligible token now p).1 = (l.eligible token now).1 ∧
      (l.eligible token now).2.Describes t (t.eligible token now p).2 := by
  cases token with
  | none =>
      unfold Ledger.eligible
      rw [if_pos rfl]
      exact ⟨rfl, h⟩
  | some token =>
      obtain ⟨hmessages, hafter⟩ := h.stored now
      have htest : t.isEligible (t.stored p now).2 now = (l.read now).2.isEligible now := by
        funext m
        unfold Tracker.isEligible Ledger.isEligible
        cases m.queueId with
        | none => rfl
        | some q =>
            cases m.frequency? with
            | none => rfl
            | some cap =>
                dsimp only
                rw [hafter.record_eq]
      unfold Ledger.eligible
      rw [if_neg (Option.some_ne_none token)]
      refine ⟨?_, hafter⟩
      show (t.stored p now).1.filter (t.isEligible (t.stored p now).2 now) = _
      rw [hmessages, htest]

/-- Entering a record, if what is written is the record and nothing else. -/
theorem enter {q : String} {new : TrackingRecord} (h : l.Describes t p)
    (hkeys : ∀ key, (∀ f, key ≠ t.kind.recordKey f q) → p'.text? key = p.text? key)
    (hnew : t.kind.record p' q = new) : (l.enter q new).Describes t p' := by
  have hsnapshot : p'.text? t.kind.snapshotKey = p.text? t.kind.snapshotKey :=
    hkeys _ fun _ => StickyClass.recordKey_ne_snapshotKey.symm
  have hexpiry : p'.text? t.kind.expiryKey = p.text? t.kind.expiryKey :=
    hkeys _ fun _ => StickyClass.recordKey_ne_expiryKey.symm
  refine ⟨fun hnone => (h.gone hnone).congr hsnapshot hexpiry, fun c hc => ?_, fun c hc => ?_,
    fun r => ?_⟩
  · exact (Tracker.snapshot_congr hsnapshot).trans (h.snapshot_eq c hc)
  · exact (integer?_congr hexpiry).trans (h.expiry_eq c hc)
  · by_cases hr : r = q
    · subst hr
      exact hnew.trans (l.record_enter_self r new).symm
    · have hold : t.kind.record p' r = t.kind.record p r :=
        StickyClass.record_congr fun f => hkeys _ fun g => StickyClass.recordKey_ne_of_id hr
      rw [hold, h.record_eq, record_enter_of_ne l new hr]

/-- A view. -/
theorem markSeen (h : l.Describes t p) (token : Option String) (q : String) (now : Int) :
    (l.markSeen token q now).Describes t (t.markSeen token q now p) := by
  unfold Ledger.markSeen mark
  cases token with
  | none => exact h
  | some token =>
      obtain ⟨hmessages, hafter⟩ := h.stored now
      have hstored : t.stored p now = ((l.read now).1, (t.stored p now).2) :=
        Prod.ext hmessages rfl
      rw [if_neg (Option.some_ne_none token)]
      cases hcap : Tracker.capOf? (l.read now).1 q with
      | none =>
          rw [Tracker.markSeen_of_no_cap hstored hcap]
          exact hafter
      | some cap =>
          rw [Tracker.markSeen_of_cap hstored hcap]
          refine hafter.enter (fun key hkey => Tracker.text?_writeView hkey) ?_
          rw [Tracker.record_writeView, hafter.record_eq]

/-- A dismissal. -/
theorem markDismissed (h : l.Describes t p) (token : Option String) (q : String) (now : Int) :
    (l.markDismissed token q now).Describes t (t.markDismissed token q now p) := by
  unfold Ledger.markDismissed mark
  cases token with
  | none => exact h
  | some token =>
      obtain ⟨hmessages, hafter⟩ := h.stored now
      have hstored : t.stored p now = ((l.read now).1, (t.stored p now).2) :=
        Prod.ext hmessages rfl
      rw [if_neg (Option.some_ne_none token)]
      cases hcap : Tracker.capOf? (l.read now).1 q with
      | none =>
          rw [Tracker.markDismissed_of_no_cap hstored hcap]
          exact hafter
      | some cap =>
          rw [Tracker.markDismissed_of_cap hstored hcap]
          refine hafter.enter (fun key hkey => Tracker.text?_writeDismissal hkey) ?_
          rw [Tracker.record_writeDismissal, hafter.record_eq]

/-- **A call has one answer, and keeps the ledger a description of the store.** -/
theorem serve (h : l.Describes t p) (now : Int) (call : CapCall) :
    (t.serve now p call).1 = (l.serve t now call).1 ∧
      (l.serve t now call).2.Describes t (t.serve now p call).2 := by
  cases call with
  | update token catalog => exact ⟨rfl, h.update token catalog now⟩
  | eligible token =>
      obtain ⟨hmessages, hafter⟩ := h.eligible token now
      exact ⟨congrArg CapAnswer.messages hmessages, hafter⟩
  | markSeen token q => exact ⟨rfl, h.markSeen token q now⟩
  | markDismissed token q => exact ⟨rfl, h.markDismissed token q now⟩
  | record q => exact ⟨congrArg CapAnswer.record (h.record_eq q), h⟩
  | clear => exact ⟨rfl, cleared t p⟩

end Describes

end Ledger

/-! ## Runs -/

namespace Tracker

/-- A call changes keys of its class only. -/
theorem agreeOutside_serve (t : Tracker) (now : Int) (p : Preferences) (call : CapCall) :
    AgreeOutside t.kind.keyRoot p (t.serve now p call).2 := by
  cases call with
  | update token catalog => exact t.agreeOutside_update token catalog now p
  | eligible token => exact t.agreeOutside_eligible token now p
  | markSeen token q => exact t.agreeOutside_markSeen token q now p
  | markDismissed token q => exact t.agreeOutside_markDismissed token q now p
  | record q => exact AgreeOutside.refl _ p
  | clear => exact t.kind.agreeOutside_clear p

/-- After a call that forgets, no key of the class is stored. -/
theorem text?_serve_of_clears {t : Tracker} {call : CapCall} (h : call.clears t = true)
    (now : Int) (p : Preferences) {key : String}
    (hkey : beginsWith t.kind.keyRoot key = true) : (t.serve now p call).2.text? key = none := by
  cases call with
  | clear => exact StickyClass.text?_clear p hkey
  | update token catalog =>
      cases token with
      | none => exact nomatch h
      | some token =>
          have hmembers : t.members catalog = [] := List.isEmpty_iff.mp h
          have hclear : t.update (some token) catalog now p = t.kind.clear p := by
            unfold update
            rw [hmembers]
          exact (congrArg (fun p => text? p key) hclear).trans (StickyClass.text?_clear p hkey)
  | _ => exact nomatch h

/-- Both ledgers describe the store after one more call. -/
theorem serve_refines {lifetime : StickyClass → Nat} {p : Preferences} {ls : Ledgers}
    (h : ∀ k, (ls k).Describes (k.tracker lifetime) p) (r : CapRequest) :
    ((r.kind.tracker lifetime).serve r.time p r.call).1 = (ls.serve lifetime r).1 ∧
      ∀ k, ((ls.serve lifetime r).2 k).Describes (k.tracker lifetime)
        ((r.kind.tracker lifetime).serve r.time p r.call).2 := by
  obtain ⟨hanswer, hafter⟩ := (h r.kind).serve r.time r.call
  refine ⟨hanswer, fun k => ?_⟩
  by_cases hk : k = r.kind
  · subst hk
    rw [Ledgers.serve_self]
    exact hafter
  · have hagree := (r.kind.tracker lifetime).agreeOutside_serve r.time p r.call
    rw [Ledgers.serve_of_ne lifetime ls hk]
    exact (h k).of_agreeOutside (Ne.symm hk) hagree

/-- Runs have equal answers from any store that the ledgers describe. -/
theorem serveAll_of_describes {lifetime : StickyClass → Nat} {p : Preferences} {ls : Ledgers}
    (h : ∀ k, (ls k).Describes (k.tracker lifetime) p) (rs : List CapRequest) :
    (serveAll lifetime p rs).1 = (ls.serveAll lifetime rs).1 := by
  induction rs generalizing p ls with
  | nil => rfl
  | cons r rest ih =>
      obtain ⟨hanswer, hafter⟩ := serve_refines h r
      unfold serveAll Ledgers.serveAll
      exact congrArg₂ List.cons hanswer (ih hafter)

/-- **Trackers answer as ledgers do.**  For every sequence of calls on the two classes, from a
store without entries, each answer is the one the ledgers give; there a call for one class
leaves the ledger of the other as it was, and a mark on one queue id the records of the others.
A call that clears a class leaves none of its keys in the store. -/
theorem serveAll_refines (lifetime : StickyClass → Nat) :
    (∀ rs, (serveAll lifetime .empty rs).1 =
      (Ledgers.serveAll lifetime (fun _ => {}) rs).1) ∧
    (∀ (ls : Ledgers) (r : CapRequest) (k : StickyClass), k ≠ r.kind →
      (ls.serve lifetime r).2 k = ls k) ∧
    (∀ (l : Ledger) (token : Option String) (now : Int) (q r : String), r ≠ q →
      (l.markSeen token q now).record r = l.record r ∧
        (l.markDismissed token q now).record r = l.record r) ∧
    (∀ (rs : List CapRequest) (k : StickyClass) (now : Int) (call : CapCall) (key : String),
      call.clears (k.tracker lifetime) = true → beginsWith k.keyRoot key = true →
        (serveAll lifetime .empty (rs ++ [⟨k, now, call⟩])).2.text? key = none) := by
  refine ⟨fun rs => ?_, fun ls r k hk => ?_, fun l token now q r hr => ?_,
    fun rs k now call key hclears hkey => ?_⟩
  · exact serveAll_of_describes (fun k => Ledger.Describes.of_absent fun _ _ => rfl) rs
  · exact Ledgers.serve_of_ne lifetime ls hk
  · exact ⟨Ledger.record_mark_of_ne _ token now l hr, Ledger.record_mark_of_ne _ token now l hr⟩
  · have hlast : ∀ p, (serveAll lifetime p (rs ++ [⟨k, now, call⟩])).2.text? key = none := by
      intro p
      induction rs generalizing p with
      | nil => exact text?_serve_of_clears hclears now p hkey
      | cons r rest ih => exact ih _
    exact hlast .empty

/-- A broadcast message without a queue id worth the name. -/
def namelessMessage : Message :=
  { id := "shout", queueId := some "",
    delivery := { broadcast := some { frequency := some { count := some 2, delay := some 10 } } } }

/-- An anonymous message whose queue id spells a key. -/
def keyedMessage : Message :=
  { id := "whisper", queueId := some "herald.broadcast.times_shown.",
    delivery :=
      { anonymous := some true
        broadcast := some { frequency := some { count := some 1, delay := some 0 } } } }

/-- Calls on both classes with queue ids that look like parts of keys. -/
def awkwardRequests : List CapRequest :=
  [⟨.broadcast, 1000, .update (some "ada") [namelessMessage, keyedMessage]⟩,
   ⟨.anonymous, 1000, .update (some "ada") [namelessMessage, keyedMessage]⟩,
   ⟨.broadcast, 2000, .markSeen (some "ada") ""⟩,
   ⟨.anonymous, 2000, .markSeen none "herald.broadcast.times_shown."⟩,
   ⟨.anonymous, 2000, .record "herald.broadcast.times_shown."⟩,
   ⟨.broadcast, 2000, .record ""⟩,
   ⟨.anonymous, 2000, .markDismissed (some "ada") "herald.broadcast.times_shown."⟩,
   ⟨.broadcast, 11999, .eligible (some "ada")⟩,
   ⟨.broadcast, 12000, .eligible (some "ada")⟩,
   ⟨.anonymous, 12000, .eligible (some "ada")⟩]

/-- The answers keep the classes and the queue ids apart, and a cleared class is empty. -/
theorem awkwardRequests_answered :
    (serveAll (fun _ => 60000) .empty awkwardRequests).1 =
      [.done, .done, .done, .done, .record {}, .record ⟨1, false, some 12000⟩, .done,
        .messages [], .messages [namelessMessage], .messages []] ∧
    (serveAll (fun _ => 60000) .empty
      (awkwardRequests ++ [⟨.broadcast, 13000, .update (some "ada") [keyedMessage]⟩])).2.text?
        "herald.broadcast.times_shown." = none := by
  obtain ⟨hanswers, -, -, hcleared⟩ := serveAll_refines fun _ => 60000
  constructor
  · rw [hanswers]
    decide
  · exact hcleared awkwardRequests .broadcast 13000 _ _ (by decide) (by decide)

end Tracker

end InAppMessaging
