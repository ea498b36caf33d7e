import InAppMessaging.Proofs.Pipeline.Acceptance
import InAppMessaging.Proofs.Selection
import Mathlib.Data.List.Permutation

/-!
# The queue is in order

The reduction takes any list for a queue.  Every queue that is committed went through selection,
though, and what else changes the queue only takes messages out of it.  So the queue of every
session of a run is in order: each message has a queue id, no two have the same, and the more
urgent ones come first.

* `orderly_candidates` — selection puts a list in order;
* `Session.orderly_reduce` — what is accepted keeps the queue in order;
* `Runner.handleAll_orderly` — **the queue is in order throughout a run, and no message was
  shown when it was queued.**
-/

namespace InAppMessaging

open Pipeline

variable {messages : List Message}

/-- A list of messages that may stand in the queue as it is. -/
structure Orderly (messages : List Message) : Prop where
  /-- Every message can be told by its queue id. -/
  tracked : ∀ m ∈ messages, m.queueId ≠ none
  /-- No two of them have the same. -/
  distinct : messages.Pairwise fun a b => a.queueId ≠ b.queueId
  /-- A message with a priority comes after such messages only that have one too, and no greater
  one. -/
  sorted : messages.Pairwise fun a b =>
    ∀ q, b.priority = some q → ∃ p, a.priority = some p ∧ p ≤ q

theorem orderly_nil : Orderly [] where
  tracked := fun _ hm => absurd hm List.not_mem_nil
  distinct := List.Pairwise.nil
  sorted := List.Pairwise.nil

/-- Taking messages out leaves the rest in order. -/
theorem Orderly.filter (h : Orderly messages) (keep : Message → Bool) :
    Orderly (messages.filter keep) where
  tracked := fun m hm => h.tracked m ((List.mem_filter.mp hm).1)
  distinct := h.distinct.filter keep
  sorted := h.sorted.filter keep

/-- What being more urgent, or level, means for the priorities. -/
theorem priority_of_moreUrgent {a b : Message} (h : moreUrgent a b = true) :
    ∀ q, b.priority = some q → ∃ p, a.priority = some p ∧ p ≤ q := by
  intro q hq
  unfold moreUrgent at h
  rw [hq] at h
  cases hp : a.priority with
  | none =>
      rw [hp] at h
      exact absurd h Bool.false_ne_true
  | some p =>
      rw [hp] at h
      exact ⟨p, rfl, of_decide_eq_true h⟩

/-- **Selection puts a list in order.** -/
theorem orderly_candidates (messages : List Message) (shown : TextSet) :
    Orderly (candidates messages shown) where
  tracked := by
    intro m hm hnone
    obtain ⟨q, hq, -⟩ := exists_fresh_of_mem_candidates hm
    exact absurd (hnone.symm.trans hq).symm (Option.some_ne_none q)
  distinct := candidates_distinct messages shown
  sorted := (candidates_sorted messages shown).imp priority_of_moreUrgent

namespace Session

variable {s : Session} {a : Action}

/-- A message that is displayed leaves the others in order. -/
theorem orderly_dequeue (h : Orderly s.queue.messages) (m : Message) :
    Orderly (s.dequeue m).queue.messages := by
  unfold dequeue
  cases m.queueId with
  | none => exact h
  | some q => exact h.filter _

/-- **What is accepted keeps the queue in order.** -/
theorem orderly_reduce (h : Orderly s.queue.messages) (ha : s.Accepts a) :
    Orderly (s.reduce a).queue.messages := by
  cases a with
  | processQueue queue =>
      obtain ⟨given, rfl⟩ := ha.selected queue rfl
      show Orderly (MessageQueue.ofList (candidates given s.shown)).messages
      rw [ofList_candidates]
      exact orderly_candidates given s.shown
  | clearQueue | reset => exact orderly_nil
  | display m =>
      have hqueue : (s.reduce (.display m)).queue = (s.dequeue m).queue := s.queue_displayed _ m
      rw [hqueue]
      exact orderly_dequeue h m
  | dismiss m log viaClose =>
      have hqueue : (s.reduce (.dismiss m log viaClose)).queue = s.queue := s.queue_dismissed _ m
      rw [hqueue]
      exact h
  | loadingFailed m =>
      have hqueue : (s.reduce (.loadingFailed m)).queue = s.queue := s.queue_dismissed _ m
      rw [hqueue]
      exact h
  | _ => exact h

/-- Along a log of what is accepted the queue is in order. -/
theorem Along.orderly {before log : List Action} (h : ({} : Session).Along Accepts log)
    (hpart : before <+: log) : Orderly (({} : Session).reduceAll before).queue.messages :=
  h.keeps (I := fun s => Orderly s.queue.messages) (fun _ _ hs ha => orderly_reduce hs ha)
    orderly_nil hpart

/-- A queue that is accepted is queued as it is, and none of it was shown. -/
theorem Accepts.queued {queue : List Message} (ha : s.Accepts (.processQueue queue)) :
    (s.reduce (.processQueue queue)).queue.messages = queue ∧
      ∀ m ∈ queue, ∃ q, m.queueId = some q ∧ s.shown.contains q = false := by
  obtain ⟨given, rfl⟩ := ha.selected queue rfl
  exact ⟨ofList_candidates given s.shown, fun m hm => exists_fresh_of_mem_candidates hm⟩

end Session

namespace Runner

variable {V : Type}

/-- **The queue is in order throughout a run.**  Every run from the first session passes through
the sessions that its log of commits makes, and the queue of each of them is in order.  Whenever
a queue is committed, by an action from outside or for one that is dispatched, it is put into
the session as it is, and each of its messages has a queue id that was not shown until then and
is not shown by that. -/
theorem handleAll_orderly (subscribers : List (Subscriber V Host)) (host : Host)
    (actions : List Action) :
    let run := handleAll { session := {}, subscribers, host } actions
    let log := run.committed.reverse
    run.session = ({} : Session).reduceAll log ∧
    (∀ before, before <+: log → Orderly (({} : Session).reduceAll before).queue.messages) ∧
    ∀ before queue, before ++ [.processQueue queue] <+: log →
      let s := ({} : Session).reduceAll (before ++ [.processQueue queue])
      s.queue.messages = queue ∧ s.shown = (({} : Session).reduceAll before).shown ∧
        ∀ m ∈ queue, ∃ q, m.queueId = some q ∧ s.shown.contains q = false := by
  obtain ⟨hsession, haccepted⟩ := log_handleAll subscribers host actions
  intro run log
  refine ⟨hsession, fun before hpart => haccepted.orderly hpart, ?_⟩
  intro before queue hpart
  have hqueued := (haccepted.holds_at hpart).queued
  rw [Session.reduceAll_append]
  exact ⟨hqueued.1, rfl, hqueued.2⟩

/-- The first list is out of order, repeats a queue id and has a message without one.  What is
displayed then goes away, which has the rest processed again, and the second list repeats it. -/
def untidyLists : List Action :=
  [.setUser "ada", .setRealtime true,
    .processQueue [banner, { id := "untracked" }, { coupon with priority := some 7 }, coupon],
    .display banner, .dismiss banner false false, .processQueue [banner, coupon]]

/-- The run of the untidy lists. -/
def untidyRun : Runner Unit Host := handleAll { session := {}, host := {} } untidyLists

/-- What is queued of the two lists. -/
theorem untidyRun_orderly :
    [.setUser "ada", .setRealtime true,
        .processQueue [{ coupon with priority := some 7 }, banner]] <+:
      untidyRun.committed.reverse ∧
    untidyRun.session.queue.messages = [coupon] ∧
    untidyRun.session.shown.contains "b" = true ∧
    Orderly untidyRun.session.queue.messages := by
  obtain ⟨hsession, horderly, -⟩ :=
    handleAll_orderly ([] : List (Subscriber Unit Host)) {} untidyLists
  have hlast : Orderly untidyRun.session.queue.messages := by
    have hlog := horderly _ List.prefix_rfl
    rw [← hsession] at hlog
    exact hlog
  refine ⟨?_, by cbv, by cbv, hlast⟩
  exact List.isPrefixOf_iff_prefix.mp (by decide_cbv)

end Runner

end InAppMessaging
