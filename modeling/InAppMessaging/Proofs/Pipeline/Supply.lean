import InAppMessaging.Proofs.Pipeline.Aftermath
import InAppMessaging.Proofs.Pipeline.Queue
import InAppMessaging.Proofs.Session.Along
import InAppMessaging.Proofs.Store.Visits

/-!
# Which messages come up

An action *brings* messages: some it puts on a surface, some into the queue.  Given which
messages may come up and which may be queued, `Action.Brings` says that an action brings no
others, and `Deed.Brings` that a deed commits such an action and presents no other message.  A
queue brings its candidates and nothing else, and whatever else follows from an action comes
out of the queue at hand.

* `Session.Holds.afterDeeds` — the queue holds what was brought into it;
* `queueDeeds_bring` — **a queue brings its candidates**;
* `actionDeeds_bring` — **an action brings its own messages and those of the queue at hand**.
-/

namespace InAppMessaging

open Pipeline

variable {up queued : Message → Bool}

/-! ## Bringing -/

/-- An action puts no other messages on a surface and no others into the queue. -/
def Action.Brings (up queued : Message → Bool) : Action → Prop
  | .load m _ => up m = true
  | .embed ms => ∀ m ∈ ms, up m = true
  | .processQueue ms => ∀ m ∈ ms, queued m = true
  | _ => True

/-- A message that may not come up comes to the modal surface. -/
def Event.presentsBeyond (up : Message → Bool) : Event → Bool
  | .presented m _ => !up m
  | _ => false

/-- How messages that may not come up came to the modal surface, the last one first. -/
def Host.presentedBeyond (up : Message → Bool) (h : Host) : List Event :=
  h.journal.filter (Event.presentsBeyond up)

/-- A deed brings no other messages. -/
def Deed.Brings (up queued : Message → Bool) : Deed Host → Prop
  | .commit a => a.Brings up queued
  | .act effect => ∀ s h, (effect s h).presentedBeyond up = h.presentedBeyond up
  | .failed => True

/-- Several deeds bring no other messages. -/
def AllBring (up queued : Message → Bool) (ds : List (Deed Host)) : Prop :=
  ∀ d ∈ ds, d.Brings up queued

theorem allBring_nil (up queued : Message → Bool) : AllBring up queued [] :=
  fun _ hd => absurd hd List.not_mem_nil

theorem AllBring.cons {d : Deed Host} {ds : List (Deed Host)} (hd : d.Brings up queued)
    (hds : AllBring up queued ds) : AllBring up queued (d :: ds) :=
  List.forall_mem_cons.mpr ⟨hd, hds⟩

theorem AllBring.append {ds es : List (Deed Host)} (hds : AllBring up queued ds)
    (hes : AllBring up queued es) : AllBring up queued (ds ++ es) :=
  List.forall_mem_append.mpr ⟨hds, hes⟩

/-- Deeds present nothing but what they bring. -/
theorem AllBring.presentedBeyond_performAll {V : Type} {r : Runner V Host}
    {ds : List (Deed Host)} (hds : AllBring up queued ds)
    (hkeeps : r.Keeps (Host.presentedBeyond up)) :
    (r.performAll ds).host.presentedBeyond up = r.host.presentedBeyond up := by
  refine Runner.performAll_keeps hkeeps fun d hd => ?_
  have hbrings := hds d hd
  cases d with
  | act effect => exact hbrings
  | commit a => trivial
  | failed => trivial

/-- Recording something else presents nothing. -/
theorem Host.presentedBeyond_record {e : Event} (h : Host) (he : e.presentsBeyond up = false) :
    (h.record e).presentedBeyond up = h.presentedBeyond up := by
  show (e :: h.journal).filter (Event.presentsBeyond up) = _
  rw [List.filter_cons, if_neg (by rw [he]; exact Bool.false_ne_true)]
  rfl

/-! ## The queue at hand -/

namespace Session

variable {s : Session}

/-- The queue holds no other messages. -/
def Holds (s : Session) (queued : Message → Bool) : Prop :=
  ∀ m ∈ s.queue.messages, queued m = true

/-- The candidates of the queue are held by it. -/
theorem Holds.candidates (h : s.Holds queued) (shown : TextSet) :
    ∀ m ∈ candidates s.queue.messages shown, queued m = true :=
  fun m hm => h m (mem_candidates hm)

/-- The queue changes by what is brought into it. -/
theorem Holds.reduce (h : s.Holds queued) {a : Action} (ha : a.Brings up queued) :
    (s.reduce a).Holds queued := by
  cases a with
  | processQueue ms => exact fun m hm => ha m (MessageQueue.mem_ofList.mp hm)
  | clearQueue => exact fun m hm => absurd hm List.not_mem_nil
  | reset sessionId => exact fun m hm => absurd hm List.not_mem_nil
  | display m =>
      intro other hother
      have hqueued : other ∈ (s.dequeue m).queue.messages := s.queue_displayed _ m ▸ hother
      unfold dequeue at hqueued
      cases hid : m.queueId with
      | none =>
          rw [hid] at hqueued
          exact h other hqueued
      | some r =>
          rw [hid] at hqueued
          exact h other (List.mem_filter.mp hqueued).1
  | dismiss m log viaClose => exact fun other hother => h other (s.queue_dismissed _ m ▸ hother)
  | loadingFailed m => exact fun other hother => h other (s.queue_dismissed _ m ▸ hother)
  | _ => exact h

/-- The queue holds what deeds brought into it. -/
theorem Holds.afterDeeds (h : s.Holds queued) {ds : List (Deed Host)}
    (hds : AllBring up queued ds) : (s.afterDeeds ds).Holds queued := by
  have hcommits : ∀ a ∈ commits ds, a.Brings up queued :=
    fun a ha => hds (.commit a) (mem_commits.mp ha)
  rw [afterDeeds_eq]
  exact reduceAll_keeps (I := fun s => s.Holds queued) (fun _ _ hs ha => hs.reduce ha) h hcommits

end Session

namespace Pipeline

variable {s : Session} {ms : List Message} {m : Message} {a : Action}

/-! ## The deeds of each action -/

theorem presentedBeyond_callBack (a : Action) (h : Host) :
    (callBack a h).presentedBeyond up = h.presentedBeyond up :=
  filter_journal_callBack (fun _ => rfl) a h

theorem landed_bring (a : Action) (ha : a.Brings up queued) : AllBring up queued (landed a) :=
  AllBring.cons ha (AllBring.cons (fun _ h => presentedBeyond_callBack a h) (allBring_nil _ _))

theorem reported_bring (up queued : Message → Bool) (text : String) :
    AllBring up queued (reported text) :=
  AllBring.cons (fun _ h => h.presentedBeyond_record rfl)
    (landed_bring (.reportError text) trivial)

theorem guarded_bring {ds : List (Deed Host)} (h : AllBring up queued ds) (s : Session) :
    AllBring up queued (guarded s ds) := by
  unfold guarded
  split
  · exact h
  · exact reported_bring up queued _

theorem loadDeeds_bring (hm : up m = true) (position : Option Position) (s : Session) :
    AllBring up queued (loadDeeds m position s) := by
  have hload : AllBring up queued (guarded s (landed (.load m position))) :=
    guarded_bring (landed_bring (.load m position) hm) s
  have hpresent : (Event.presented m (position.getD m.position)).presentsBeyond up = false := by
    show (!up m) = false
    rw [hm]
    rfl
  unfold loadDeeds
  cases m.isEmbedded with
  | true => exact hload
  | false =>
      cases s.modal.isDisplayed with
      | true => exact reported_bring up queued _
      | false => exact AllBring.cons (fun _ h => h.presentedBeyond_record hpresent) hload

theorem embedPicked_bring (hms : ∀ m ∈ ms, up m = true) (s : Session) :
    AllBring up queued (embedPicked ms s) := by
  unfold embedPicked
  split
  · exact allBring_nil _ _
  · exact guarded_bring (landed_bring (.embed ms) hms) s

theorem loadPicked_bring {picked : Option Message} (hpicked : ∀ m, picked = some m → up m = true)
    (s : Session) : AllBring up queued (loadPicked picked s) := by
  cases picked with
  | none => exact allBring_nil _ _
  | some m =>
      unfold loadPicked
      dsimp only
      split
      · exact allBring_nil _ _
      · exact loadDeeds_bring (hpicked m rfl) none s

/-- What is picked for the elements is among the candidates. -/
theorem mem_candidates_of_inline (h : m ∈ (s.select ms).inline) : m ∈ candidates ms s.shown :=
  (firstOfEach_sublist _ _ _).subset h

/-- What is picked for the modal surface is among the candidates. -/
theorem mem_candidates_of_modal (h : (s.select ms).modal = some m) : m ∈ candidates ms s.shown :=
  List.mem_of_find?_eq_some h

variable (hmay : ∀ m, queued m = true → up m = true)

include hmay in
/-- **A queue brings its candidates.** -/
theorem queueDeeds_bring (h : ∀ m ∈ candidates ms s.shown, queued m = true) :
    AllBring up queued (queueDeeds ms s) := by
  unfold queueDeeds
  refine guarded_bring ?_ s
  cases ms with
  | nil => exact landed_bring (.processQueue []) fun m hm => absurd hm List.not_mem_nil
  | cons first rest =>
      have hinline : ∀ m ∈ (s.select (first :: rest)).inline, up m = true :=
        fun m hm => hmay m (h m (mem_candidates_of_inline hm))
      have hmodal : ∀ m, (s.select (first :: rest)).modal = some m → up m = true :=
        fun m hm => hmay m (h m (mem_candidates_of_modal hm))
      exact (landed_bring (.processQueue _) h).append
        ((embedPicked_bring hinline _).append (loadPicked_bring hmodal _))

theorem presentedBeyond_logView (a : Action) (m : Message) (s : Session) (h : Host) :
    (logView a m s h).presentedBeyond up = h.presentedBeyond up := by
  unfold logView
  split
  · exact h.presentedBeyond_record rfl
  · rfl

theorem presentedBeyond_countDisplay (m : Message) (s : Session) (h : Host) :
    (countDisplay m s h).presentedBeyond up = h.presentedBeyond up := by
  unfold countDisplay
  split <;> rfl

theorem presentedBeyond_countDismissal (m : Message) (closedByUser : Bool) (s : Session)
    (h : Host) : (countDismissal m closedByUser s h).presentedBeyond up = h.presentedBeyond up := by
  unfold countDismissal
  split
  · split <;> rfl
  · rfl

theorem presentedBeyond_requestRefresh (h : Host) :
    h.requestRefresh.presentedBeyond up = h.presentedBeyond up := by
  unfold Host.requestRefresh Host.wake
  dsimp only
  split
  · split <;> rfl
  · rfl

theorem displayDeeds_bring (up queued : Message → Bool) (m : Message) (s : Session) :
    AllBring up queued (displayDeeds m s) :=
  AllBring.cons (fun s h => presentedBeyond_logView _ m s h)
    (AllBring.cons (fun s h => presentedBeyond_countDisplay m s h)
      (guarded_bring (landed_bring (.display m) trivial) s))

theorem leaveDeeds_bring (up queued : Message → Bool) (m : Message) (log viaClose : Bool)
    (s : Session) : AllBring up queued (leaveDeeds m log viaClose s) := by
  have hrefresh : ∀ b : Bool, ∀ h : Host,
      (if b then h.requestRefresh else h).presentedBeyond up = h.presentedBeyond up := by
    intro b h
    cases b with
    | true => exact presentedBeyond_requestRefresh h
    | false => rfl
  exact AllBring.cons (fun s h => presentedBeyond_logView _ m s h)
    (AllBring.cons (fun s h => presentedBeyond_countDismissal m _ s h)
      (AllBring.cons (fun _ h => hrefresh _ h)
        (guarded_bring (landed_bring (.dismiss m log viaClose) trivial) s)))

include hmay in
theorem dismissDeeds_bring (h : s.Holds queued) (m : Message) (log viaClose : Bool) :
    AllBring up queued (dismissDeeds m log viaClose s) := by
  have hleave := leaveDeeds_bring up queued m log viaClose s
  refine hleave.append ?_
  split
  · exact queueDeeds_bring hmay ((h.afterDeeds hleave).candidates _)
  · exact allBring_nil _ _

include hmay in
theorem routeDeeds_bring (h : s.Holds queued) (route : String) :
    AllBring up queued (routeDeeds route s) := by
  have hroute : (Action.setRoute route).Brings up queued := trivial
  have hmoved : (s.reduce (.setRoute route)).Holds queued := h.reduce hroute
  refine (landed_bring (.setRoute route) hroute).append ?_
  unfold evaluateDeeds
  split
  · split
    · exact queueDeeds_bring hmay (hmoved.candidates _)
    · have hdismiss := dismissDeeds_bring hmay hmoved ‹Message› false true
      exact hdismiss.append (queueDeeds_bring hmay ((hmoved.afterDeeds hdismiss).candidates _))
  · exact queueDeeds_bring hmay (hmoved.candidates _)

include hmay in
/-- **An action brings its own messages and those of the queue at hand.** -/
theorem actionDeeds_bring (h : s.Holds queued) (ha : a.Brings up queued) :
    AllBring up queued (actionDeeds a s) := by
  cases a with
  | reportError text => exact reported_bring up queued text
  | load m position => exact loadDeeds_bring ha position s
  | processQueue ms => exact queueDeeds_bring hmay fun m hm => ha m (mem_candidates hm)
  | display m => exact displayDeeds_bring up queued m s
  | dismiss m log viaClose => exact dismissDeeds_bring hmay h m log viaClose
  | setRoute route => exact routeDeeds_bring hmay h route
  | embed | clearQueue | tap | loadingFailed => exact guarded_bring (landed_bring _ ha) s
  | _ => exact landed_bring _ ha

end Pipeline

end InAppMessaging
