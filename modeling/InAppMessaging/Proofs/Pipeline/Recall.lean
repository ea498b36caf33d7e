import InAppMessaging.Proofs.Pipeline.Modal
import InAppMessaging.Proofs.Pipeline.Supply

/-!
# Dismissed messages that come back

A dismissal empties the modal surface.  While realtime updates are in use the queue is processed
again right after it.  A display takes its message out of the queue, a dismissal does not; so a
message that was dismissed before it was displayed, or that was queued again meanwhile, may be
the very one that is picked (`Session.Recalls`).  Then it is presented once more, and loading
when the dismissal is over.

* `Session.active_afterDismissal_iff` — a dismissed message is back exactly if it is recalled;
* `Session.CountsDisplayed.reduce` — what is displayed was shown, unless it is persistent, so
  it is not recalled (`Session.not_recalls_of_displayed`);
* `Runner.timesPresented_handle_dismiss` — a dismissal presents its message once if it recalls
  it, and otherwise not at all;
* `Runner.dismissed_returns_iff` — **which dismissed messages come back.**
-/

namespace InAppMessaging

open Pipeline

/-! ## What is picked after a dismissal -/

/-- The dismissal of a message has the queue processed again, and the message is picked. -/
structure Session.Recalls (s : Session) (m : Message) (log viaClose : Bool) : Prop where
  /-- The queue is processed after the dismissal. -/
  realtime : s.usesRealtime = true
  /-- The message fits the route. -/
  fits : m.matchesRoute s.route = true
  /-- It is still a candidate, and the first one for the modal surface that fits the route. -/
  first : ∃ urgent rest,
    candidates s.queue.messages (s.markViewed (.dismiss m log viaClose) m).shown =
      urgent ++ m :: rest ∧
    ∀ p ∈ urgent, p.isEmbedded = true ∨ p.matchesRoute s.route = false

namespace Session

variable {s : Session} {m : Message} {log viaClose : Bool}

/-- A message is recalled only while somebody is known. -/
theorem Recalls.hasIdentity (h : s.Recalls m log viaClose) : s.hasIdentity = true := by
  cases hidentity : s.hasIdentity with
  | true => rfl
  | false =>
      have hunused := usesRealtime_of_no_identity hidentity
      exact absurd (hunused.symm.trans h.realtime) Bool.false_ne_true

/-- A message that is recalled was queued, and its dismissal was not the view that counts. -/
theorem Recalls.queued (h : s.Recalls m log viaClose) :
    m ∈ s.queue.messages ∧ ∃ q, m.queueId = some q ∧
      (s.markViewed (.dismiss m log viaClose) m).shown.contains q = false := by
  obtain ⟨urgent, rest, hcandidates, -⟩ := h.first
  have hm : m ∈ candidates s.queue.messages
      (s.markViewed (.dismiss m log viaClose) m).shown := by
    rw [hcandidates]
    exact List.mem_append_right urgent List.mem_cons_self
  exact ⟨mem_candidates hm, exists_fresh_of_mem_candidates hm⟩

/-- After a dismissal the queue loads the first candidate for the modal surface. -/
theorem loads_dismissed (s : Session) (hm : m.isEmbedded = false) (log viaClose : Bool) :
    (s.reduce (.dismiss m log viaClose)).loads
        (s.reduce (.dismiss m log viaClose)).queue.messages =
      modalCandidate?
        (candidates s.queue.messages (s.markViewed (.dismiss m log viaClose) m).shown)
        s.route := by
  rw [s.reduce_dismiss_of_modal hm log viaClose]
  rfl

/-- A dismissal from the modal surface does not change whether realtime updates are in use. -/
theorem usesRealtime_dismissed (s : Session) (hm : m.isEmbedded = false) (log viaClose : Bool) :
    (s.reduce (.dismiss m log viaClose)).usesRealtime = s.usesRealtime := by
  rw [s.reduce_dismiss_of_modal hm log viaClose]
  rfl

/-- **A message is recalled exactly if it is what the queue loads next.** -/
theorem recalls_iff (hm : m.isEmbedded = false) :
    s.Recalls m log viaClose ↔ s.usesRealtime = true ∧
      (s.reduce (.dismiss m log viaClose)).loads
        (s.reduce (.dismiss m log viaClose)).queue.messages = some m := by
  have hpasses : ∀ p : Message, (!p.isEmbedded && p.matchesRoute s.route) = false ↔
      p.isEmbedded = true ∨ p.matchesRoute s.route = false := by
    intro p
    rw [Bool.and_eq_false_iff, Bool.not_eq_false']
  rw [s.loads_dismissed hm log viaClose]
  unfold modalCandidate?
  rw [List.find?_eq_some_iff_append]
  constructor
  · rintro ⟨hrealtime, hfits, urgent, rest, hcandidates, hbefore⟩
    refine ⟨hrealtime, ?_, urgent, rest, hcandidates, fun p hp => ?_⟩
    · rw [hm, hfits]
      rfl
    · rw [Bool.not_eq_true']
      exact (hpasses p).mpr (hbefore p hp)
  · rintro ⟨hrealtime, hfound, urgent, rest, hcandidates, hbefore⟩
    refine ⟨hrealtime, (Bool.and_eq_true_iff.mp hfound).2, urgent, rest, hcandidates, ?_⟩
    intro p hp
    exact (hpasses p).mp (Bool.not_eq_true' _ ▸ hbefore p hp)

/-- **A dismissed message is back exactly if it is recalled.** -/
theorem active_afterDismissal_iff (hm : m.isEmbedded = false) :
    (s.afterDismissal m log viaClose).modal.active? = some m ↔ s.Recalls m log viaClose := by
  have hmodal : (s.reduce (.dismiss m log viaClose)).modal = .dismissed m := by
    rw [s.reduce_dismiss_of_modal hm log viaClose]
  rw [recalls_iff hm, ← s.usesRealtime_dismissed hm log viaClose]
  unfold afterDismissal
  generalize s.reduce (.dismiss m log viaClose) = left at hmodal ⊢
  dsimp only
  by_cases hused : left.usesRealtime = true
  · rw [if_pos hused, modal_afterQueue_eq, hmodal]
    cases left.loads left.queue.messages with
    | none =>
        exact ⟨fun h => absurd h.symm (Option.some_ne_none m),
          fun h => absurd h.2.symm (Option.some_ne_none m)⟩
    | some p => exact ⟨fun h => ⟨hused, h⟩, fun h => h.2⟩
  · rw [if_neg hused, hmodal]
    exact ⟨fun h => absurd h.symm (Option.some_ne_none m), fun h => absurd h.1 hused⟩

/-! ## What was displayed -/

/-- What is displayed on the modal surface was shown, unless it is persistent. -/
def CountsDisplayed (s : Session) : Prop :=
  ∀ m q, s.modal = .displayed m → m.isPersistent = false → m.queueId = some q →
    s.shown.contains q = true

/-- **Every action keeps it so**: only a display puts a message on the surface that way, and it
is the view that counts. -/
theorem CountsDisplayed.reduce (h : s.CountsDisplayed) (a : Action) :
    (s.reduce a).CountsDisplayed := by
  intro m q hmodal hviewed hid
  have hgone : ∀ a other, (s.dismissed a other).modal = .displayed m →
      s.modal = .displayed m := by
    intro a other hother
    have hactive : (s.dismissed a other).modal.isActive = true := by
      rw [hother]
      rfl
    exact (modal_of_active_dismissed hactive).symm.trans hother
  cases a with
  | reset sessionId => exact ModalState.noConfusion hmodal
  | load other position => exact ModalState.noConfusion hmodal
  | display other =>
      have hsurface : (if other.isEmbedded then s.modal else .displayed other) = .displayed m :=
        (s.modal_displayed (.display other) other).symm.trans hmodal
      by_cases hother : other.isEmbedded = true
      · rw [if_pos hother] at hsurface
        exact shown_reduce (h m q hsurface hviewed hid) fun _ => Action.noConfusion
      · rw [if_neg hother] at hsurface
        obtain rfl := ModalState.displayed.inj hsurface
        have hmarks : (Action.display other).marksShown = true := by
          show (!other.isPersistent) = true
          rw [hviewed]
          rfl
        show (s.displayed (.display other) other).shown.contains q = true
        rw [shown_displayed]
        exact shown_marked hid hmarks
  | dismiss other log viaClose =>
      have hbefore := hgone (.dismiss other log viaClose) other hmodal
      exact shown_reduce (h m q hbefore hviewed hid) fun _ => Action.noConfusion
  | loadingFailed other =>
      have hbefore := hgone (.loadingFailed other) other hmodal
      exact shown_reduce (h m q hbefore hviewed hid) fun _ => Action.noConfusion
  | _ => exact h m q hmodal hviewed hid

/-- Deeds keep it so. -/
theorem CountsDisplayed.afterDeeds (h : s.CountsDisplayed) (ds : List (Deed Host)) :
    (s.afterDeeds ds).CountsDisplayed := by
  rw [afterDeeds_eq]
  exact reduceAll_keeps (fun _ a hs _ => hs.reduce a) h fun _ _ => trivial

/-- **A displayed message is not recalled**, unless it is persistent. -/
theorem not_recalls_of_displayed (h : s.CountsDisplayed) (hmodal : s.modal = .displayed m)
    (hviewed : m.isPersistent = false) : ¬ s.Recalls m log viaClose := by
  intro hrecalls
  obtain ⟨-, q, hid, hfresh⟩ := hrecalls.queued
  have hshown := shown_markViewed (h m q hmodal hviewed hid) (.dismiss m log viaClose) m
  rw [hfresh] at hshown
  exact absurd hshown Bool.false_ne_true

end Session

/-! ## How often a message is presented -/

/-- How often a message was presented. -/
def Host.timesPresented (m : Message) (h : Host) : Nat :=
  (h.presentedBeyond fun p => p ≠ m).length

/-- Presentations are among what the collaborators see. -/
theorem Host.presentedBeyond_eq (up : Message → Bool) (h : Host) :
    h.presentedBeyond up = h.outward.calls.filter (Event.presentsBeyond up) := by
  show h.journal.filter _ = (h.journal.filter Event.isOutward).filter _
  rw [List.filter_filter]
  refine List.filter_congr fun e _ => ?_
  cases e with
  | presented p position => exact (Bool.and_true _).symm
  | _ => rfl

namespace Runner

variable {V : Type} {r : Runner V Host} {m : Message}

/-- Whoever keeps what the collaborators see presents nothing. -/
theorem Keeps.presentedBeyond (h : r.Keeps Host.outward) (up : Message → Bool) :
    r.Keeps (Host.presentedBeyond up) := by
  refine h.mono fun host host' hsame => ?_
  rw [Host.presentedBeyond_eq, Host.presentedBeyond_eq, hsame]

/-- What collaborators see of a queue, empty or not, is the callbacks and the one load. -/
theorem outward_handle_queue (hidentity : r.session.hasIdentity = true)
    (hkeeps : r.Keeps Host.outward) (messages : List Message) :
    (r.handle standard (.processQueue messages)).host.outward =
      (r.host.outward.more
        (r.host.outward.callbacks (.embed (r.session.select messages).inline))).more
        ((r.session.loads messages).toList.map fun p => .presented p p.position) := by
  by_cases hmessages : messages = []
  · subst hmessages
    have hdeeds : actionDeeds (.processQueue []) r.session = landed (.processQueue []) :=
      guarded_of_identity hidentity _
    have hnone : r.session.loads [] = none := by
      unfold Session.loads
      rw [select_nil, ite_self]
    have hsilent : r.host.outward.callbacks (.embed (r.session.select []).inline) = [] := by
      rw [select_nil]
      exact Outward.callbacks_of_none _ rfl
    rw [handle_standard, hdeeds, outward_landed_of_none hkeeps rfl, hnone, hsilent]
    rfl
  · exact r.outward_handle_processQueue hidentity hmessages hkeeps

/-- A queue presents the message that it loads, once. -/
theorem timesPresented_handle_queue (hidentity : r.session.hasIdentity = true)
    (hkeeps : r.Keeps Host.outward) (messages : List Message) (m : Message) :
    (r.handle standard (.processQueue messages)).host.timesPresented m =
      r.host.timesPresented m + if r.session.loads messages = some m then 1 else 0 := by
  have hsilent : (r.host.outward.callbacks (.embed (r.session.select messages).inline)).filter
      (Event.presentsBeyond fun p => p ≠ m) = [] := by
    refine List.filter_eq_nil_iff.mpr fun e he => ?_
    unfold Outward.callbacks at he
    split at he
    · obtain ⟨c, -, rfl⟩ := List.mem_map.mp (List.mem_reverse.mp he)
      exact Bool.false_ne_true
    · exact absurd he List.not_mem_nil
  unfold Host.timesPresented
  rw [Host.presentedBeyond_eq, Host.presentedBeyond_eq,
    outward_handle_queue hidentity hkeeps messages]
  unfold Outward.more
  dsimp only
  rw [List.filter_append, List.filter_append, hsilent, List.nil_append, List.length_append,
    Nat.add_comm]
  congr 1
  cases r.session.loads messages with
  | none => rfl
  | some p =>
      by_cases hp : p = m
      · subst hp
        simp [Event.presentsBeyond]
      · simp [Event.presentsBeyond, hp]

/-- **How often a dismissal presents its message**: once if it recalls it, and otherwise not at
all. -/
theorem timesPresented_handle_dismiss (hidentity : r.session.hasIdentity = true)
    (hkeeps : r.Keeps Host.outward) (hm : m.isEmbedded = false) (log viaClose : Bool) :
    let after := r.handle standard (.dismiss m log viaClose)
    (r.session.Recalls m log viaClose →
      after.host.timesPresented m = r.host.timesPresented m + 1) ∧
    (¬ r.session.Recalls m log viaClose →
      after.host.timesPresented m = r.host.timesPresented m) := by
  have hleave := leaveDeeds_bring (fun p => p ≠ m) (fun _ => true) m log viaClose r.session
  have hsession : (r.performAll (leaveDeeds m log viaClose r.session)).session =
      r.session.reduce (.dismiss m log viaClose) := by
    rw [performAll_session]
    unfold leaveDeeds
    rw [guarded_of_identity hidentity]
    rfl
  have hleft : (r.performAll (leaveDeeds m log viaClose r.session)).host.timesPresented m =
      r.host.timesPresented m :=
    congrArg List.length (hleave.presentedBeyond_performAll (hkeeps.presentedBeyond _))
  have hkept := keeps_performAll hkeeps (leaveDeeds m log viaClose r.session)
  have hknown : (r.session.reduce (.dismiss m log viaClose)).hasIdentity = true :=
    Session.hasIdentity_reduce (fun _ hreset => nomatch hreset) hidentity
  intro after
  have hafter : after = (r.performAll (leaveDeeds m log viaClose r.session)).performAll
      (if (r.session.reduce (.dismiss m log viaClose)).usesRealtime then
        reselectDeeds (r.session.reduce (.dismiss m log viaClose)) else []) := by
    rw [← hsession, performAll_session, ← performAll_append]
    exact handle_standard _ _
  rw [Session.recalls_iff hm, ← r.session.usesRealtime_dismissed hm log viaClose, hafter,
    ← hleft]
  rw [← hsession] at hknown ⊢
  generalize r.performAll (leaveDeeds m log viaClose r.session) = left at hkept hknown ⊢
  by_cases hused : left.session.usesRealtime = true
  · have hqueue : left.performAll (reselectDeeds left.session) =
        left.handle standard (.processQueue left.session.queue.messages) :=
      (handle_standard (.processQueue _) left).symm
    have htimes := timesPresented_handle_queue hknown hkept left.session.queue.messages m
    rw [if_pos hused, hqueue, htimes]
    exact ⟨fun hrecalls => by rw [if_pos hrecalls.2],
      fun hnot => by rw [if_neg fun hloads => hnot ⟨hused, hloads⟩]; rfl⟩
  · rw [if_neg hused]
    exact ⟨fun hrecalls => absurd hrecalls.1 hused, fun _ => rfl⟩

/-- While nobody is known a dismissal presents nothing. -/
theorem timesPresented_handle_dismiss_of_none (hidentity : r.session.hasIdentity = false)
    (hkeeps : r.Keeps Host.outward) (m : Message) (log viaClose : Bool) :
    (r.handle standard (.dismiss m log viaClose)).host.timesPresented m =
      r.host.timesPresented m := by
  have hleave := leaveDeeds_bring (fun p => p ≠ m) (fun _ => true) m log viaClose r.session
  have hsame : r.session.afterDeeds (leaveDeeds m log viaClose r.session) = r.session :=
    afterDeeds_guarded_of_none hidentity (landed (.dismiss m log viaClose))
  have hdeeds : dismissDeeds m log viaClose r.session = leaveDeeds m log viaClose r.session := by
    unfold dismissDeeds
    dsimp only
    rw [hsame, usesRealtime_of_no_identity hidentity]
    exact List.append_nil _
  have hall : r.handle standard (.dismiss m log viaClose) =
      r.performAll (dismissDeeds m log viaClose r.session) :=
    handle_standard (.dismiss m log viaClose) r
  rw [hall, hdeeds]
  exact congrArg List.length (hleave.presentedBeyond_performAll (hkeeps.presentedBeyond _))

/-! ## Every reachable session -/

/-- In a reachable session what is displayed was shown, unless it is persistent. -/
theorem countsDisplayed_handleAll (h : r.session.CountsDisplayed) (actions : List Action) :
    (r.handleAll actions).session.CountsDisplayed := by
  refine handleAll_keeps (I := fun r => r.session.CountsDisplayed) (fun r a hr => ?_) h actions
  rw [handle_session]
  exact hr.afterDeeds (actionDeeds a r.session)

/-- The subscribers keep a view through a run. -/
theorem keeps_handleAll {α : Type} {view : Host → α} (h : r.Keeps view)
    (actions : List Action) : (r.handleAll actions).Keeps view := by
  refine handleAll_keeps (I := fun r => r.Keeps view) (fun r a hr => ?_) h actions
  rw [handle_standard]
  exact keeps_performAll hr (actionDeeds a r.session)

/-- **Which dismissed messages come back.**  In every session reachable from the first one, with
realtime updates in use or not, a dismissed message that is not meant for an element is back on
the modal surface exactly if it is recalled, and in that case it was presented once during its
dismissal, otherwise not at all; what subscribers do besides is theirs.  A displayed message is
not recalled, unless it is persistent. -/
theorem dismissed_returns_iff (hfirst : r.session = {}) (actions : List Action)
    (hm : m.isEmbedded = false) (log viaClose : Bool) :
    let before := r.handleAll actions
    let after := before.handle standard (.dismiss m log viaClose)
    (after.session.modal.active? = some m ↔ before.session.Recalls m log viaClose) ∧
    (r.Keeps Host.outward →
      (before.session.Recalls m log viaClose →
        after.host.timesPresented m = before.host.timesPresented m + 1) ∧
      (¬ before.session.Recalls m log viaClose →
        after.host.timesPresented m = before.host.timesPresented m)) ∧
    (before.session.modal = .displayed m → m.isPersistent = false →
      ¬ before.session.Recalls m log viaClose) := by
  have hcounts : (r.handleAll actions).session.CountsDisplayed := by
    refine countsDisplayed_handleAll (fun m q hmodal => ?_) actions
    rw [hfirst] at hmodal
    exact ModalState.noConfusion hmodal
  have hstart : (r.handleAll actions).session.Known := by
    refine known_handleAll ?_ actions
    rw [hfirst]
    exact Or.inl rfl
  intro before after
  refine ⟨?_, ?_, Session.not_recalls_of_displayed hcounts⟩
  · have hsession : after.session = before.session.handled (.dismiss m log viaClose) :=
      before.handle_session (.dismiss m log viaClose)
    rw [hsession]
    rcases hidentity : before.session.hasIdentity with _ | _
    · -- Nobody is known, so the surface has not been used, and the dismissal does not happen.
      have hinitial : before.session.modal = .initial := by
        rcases hstart with hinitial | hknown
        · exact hinitial
        · exact absurd (hidentity.symm.trans hknown) Bool.false_ne_true
      have hsame : before.session.handled (.dismiss m log viaClose) = before.session :=
        Session.handled_of_no_identity hidentity (.dismiss m log viaClose)
      rw [hsame, hinitial]
      constructor
      · exact fun h => absurd h.symm (Option.some_ne_none m)
      · exact fun hrecalls => absurd (hidentity.symm.trans hrecalls.hasIdentity) Bool.false_ne_true
    · rw [Session.handled_of_identity hidentity]
      exact Session.active_afterDismissal_iff hm
  · intro hkeeps
    have hkept : before.Keeps Host.outward := keeps_handleAll hkeeps actions
    rcases hidentity : before.session.hasIdentity with _ | _
    · have hsame := timesPresented_handle_dismiss_of_none hidentity hkept m log viaClose
      refine ⟨fun hrecalls => ?_, fun _ => hsame⟩
      exact absurd (hidentity.symm.trans hrecalls.hasIdentity) Bool.false_ne_true
    · exact timesPresented_handle_dismiss hidentity hkept hm log viaClose

/-- While realtime updates are in use a banner is queued, and being loaded. -/
def bannerLoading : Runner Unit Host :=
  handleAll { session := {}, host := {} }
    [.setUser "ada", .setRealtime true, .processQueue [banner]]

/-- The user closes the banner, and it is presented once more. -/
theorem bannerLoading_returns :
    let after := bannerLoading.handle standard (.close banner)
    after.session.modal.active? = some banner ∧
      after.host.timesPresented banner = bannerLoading.host.timesPresented banner + 1 := by
  obtain ⟨hreturns, hpresented, -⟩ := dismissed_returns_iff (r := { session := {}, host := {} })
    rfl [.setUser "ada", .setRealtime true, .processQueue [banner]] (m := banner) (by decide)
    true true
  have hback : (bannerLoading.handle standard (.close banner)).session.modal.active? =
      some banner := by decide +kernel
  have hrecalls := hreturns.mp hback
  exact ⟨hback, (hpresented fun u hu => absurd hu List.not_mem_nil).1 hrecalls⟩

end Runner

end InAppMessaging
