import InAppMessaging.Proofs.Pipeline.Queue
import InAppMessaging.Proofs.Store.Visits

/-!
# What a change of route brings about

A change of route may take a message off the modal surface, and has the queue processed once
more; where realtime updates are in use, the withdrawal has processed it before.  Whichever of
these happens, the queue is processed last, by a session with the new route, and after that the
screen fits (`Session.Fits`).

* `Session.fits_afterQueue` — **a queue leaves a screen that fits the route**;
* `Session.fits_afterRoute` — so does a change of route;
* `Deed.FollowsQueue` — what a queue can bring about, which is neither a dismissal nor a view;
* `dismissals_routeDeeds` — the one dismissal a change of route commits, if any;
* `Runner.handle_setRoute` — **everything a change of route brings about.**
-/

namespace InAppMessaging

open Pipeline

/-! ## The screen -/

/-- A withdrawal is not the view that counts, not even that of a persistent message. -/
theorem Message.marksShown_withdraw (m : Message) : (Action.withdraw m).marksShown = false := by
  show (m.isPersistent && false && true) = false
  rw [Bool.and_false, Bool.false_and]

namespace Session

variable {s : Session} {m : Message} {route : String} {messages : List Message}

/-- The screen fits a route. -/
structure Fits (s : Session) (route : String) : Prop where
  /-- The message on the modal surface may stay. -/
  stays : ∀ m, s.modal.active? = some m → m.stillMatchesRoute route = true
  /-- If the modal surface is free, no message that waits for it may be picked. -/
  waits : s.modal.active? = none → ∀ m ∈ s.queue.messages, m.isEmbedded = false →
    m.matchesRoute (some route) = false

/-- The message on the modal surface, if a route takes it away. -/
def misfit? (s : Session) (route : String) : Option Message :=
  s.modal.active?.filter fun m => !m.stillMatchesRoute route

/-- A queue changes what is queued and what is on the surfaces, and nothing else. -/
theorem afterQueue_eq (s : Session) (messages : List Message) :
    ∃ queue inline modal, s.afterQueue messages = { s with queue, inline, modal } :=
  ⟨_, _, _, s.afterQueue_eq_select messages⟩

/-- Withdrawing a message empties the modal surface and counts no view. -/
theorem reduce_withdraw (s : Session) (hm : m.isEmbedded = false) :
    s.reduce (.withdraw m) = { s with modal := .dismissed m } := by
  have hviewed : s.markViewed (.withdraw m) m = s := by
    unfold markViewed
    rw [m.marksShown_withdraw]
    cases m.queueId <;> rfl
  have hleft := s.reduce_dismiss_of_modal hm false true
  rw [show s.markViewed (.dismiss m false true) m = s from hviewed] at hleft
  exact hleft

/-- **A queue leaves a screen that fits the route**, if what is on the modal surface may stay:
either something is there, or what could have been picked would have been. -/
theorem fits_afterQueue (hroute : s.route = some route)
    (hstays : ∀ m, s.modal.active? = some m → m.stillMatchesRoute route = true) :
    (s.afterQueue messages).Fits route := by
  rw [s.afterQueue_eq_select messages]
  cases hpicked : (s.select messages).modal with
  | some p =>
      have hfind : modalCandidate? (candidates messages s.shown) s.route = some p := hpicked
      have hfound := List.find?_some hfind
      rw [Bool.and_eq_true, hroute] at hfound
      have hmatches := hfound.2
      by_cases hactive : s.modal.isActive = true
      · simp only [hactive, if_true]
        refine ⟨hstays, fun hfree => ?_⟩
        have hbusy : s.modal.active?.isSome = true := hactive
        rw [hfree] at hbusy
        exact absurd hbusy Bool.false_ne_true
      · simp only [hactive]
        refine ⟨fun m hm => ?_, fun hfree => absurd hfree (Option.some_ne_none p)⟩
        obtain rfl := Option.some.inj hm
        exact Message.stillMatchesRoute_of_matchesRoute hmatches
  | none =>
      have hfind : modalCandidate? (candidates messages s.shown) s.route = none := hpicked
      refine ⟨hstays, fun _ m hm hmodal => ?_⟩
      have hcandidate : m ∈ candidates messages s.shown := MessageQueue.mem_ofList.mp hm
      have hpassed := List.find?_eq_none.mp hfind m hcandidate
      rw [hmodal, hroute] at hpassed
      simpa using hpassed

/-- Processing a queue again leaves a screen that fits the route, and the views that were
counted. -/
theorem fits_reprocessed (hroute : s.route = some route)
    (hstays : ∀ m, s.modal.active? = some m → m.stillMatchesRoute route = true) :
    (s.afterQueue messages).Fits route ∧ (s.afterQueue messages).route = some route ∧
      (s.afterQueue messages).shown = s.shown := by
  obtain ⟨queue, inline, modal, hqueue⟩ := s.afterQueue_eq messages
  refine ⟨fits_afterQueue hroute hstays, ?_, ?_⟩
  · exact (congrArg Session.route hqueue).trans hroute
  · rw [hqueue]

/-- What is left after a withdrawal has the same route and the same views, and nothing on its
modal surface but what fits. -/
theorem afterDismissal_withdraw (hroute : s.route = some route) (hm : m.isEmbedded = false) :
    (s.afterDismissal m false true).route = some route ∧
      (s.afterDismissal m false true).shown = s.shown ∧
      ∀ p, (s.afterDismissal m false true).modal.active? = some p →
        p.stillMatchesRoute route = true := by
  have hleft : s.reduce (.dismiss m false true) = { s with modal := .dismissed m } :=
    s.reduce_withdraw hm
  unfold afterDismissal
  rw [hleft]
  generalize hgone : ({ s with modal := .dismissed m } : Session) = left
  have hfree : ∀ p, left.modal.active? = some p → p.stillMatchesRoute route = true := by
    intro p hp
    rw [← hgone] at hp
    exact absurd hp.symm (Option.some_ne_none p)
  have hsame : left.route = some route ∧ left.shown = s.shown := by
    rw [← hgone]
    exact ⟨hroute, rfl⟩
  dsimp only
  cases left.usesRealtime with
  | false => exact ⟨hsame.1, hsame.2, hfree⟩
  | true =>
      obtain ⟨hfits, hnext, hshown⟩ := fits_reprocessed hsame.1 hfree
      exact ⟨hnext, hshown.trans hsame.2, hfits.stays⟩

/-- **A change of route leaves a screen that fits it**, and the views that were counted.
Whatever happens to the message on the surface, the queue comes after it. -/
theorem fits_afterRoute (hmodal : ∀ m, s.modal.active? = some m → m.isEmbedded = false) :
    (s.afterRoute route).Fits route ∧ (s.afterRoute route).route = some route ∧
      (s.afterRoute route).shown = s.shown := by
  have hmoved : (s.reduce (.setRoute route)).route = some route := rfl
  have hshown : (s.reduce (.setRoute route)).shown = s.shown := rfl
  have hactive : (s.reduce (.setRoute route)).modal = s.modal := rfl
  unfold afterRoute
  rw [← hshown]
  generalize s.reduce (.setRoute route) = moved at hmoved hactive ⊢
  dsimp only
  cases hcurrent : moved.modal.active? with
  | none =>
      refine fits_reprocessed hmoved fun p hp => ?_
      exact absurd (hcurrent.symm.trans hp).symm (Option.some_ne_none p)
  | some m =>
      cases hstill : m.stillMatchesRoute route with
      | true =>
          simp only [hstill, if_true]
          refine fits_reprocessed hmoved fun p hp => ?_
          obtain rfl := Option.some.inj (hcurrent.symm.trans hp)
          exact hstill
      | false =>
          have hm : m.isEmbedded = false := hmodal m (hactive ▸ hcurrent)
          obtain ⟨hleft, hviews, hfits⟩ := afterDismissal_withdraw hmoved hm
          obtain ⟨hscreen, hroute, hsame⟩ := fits_reprocessed hleft hfits
          simp only [hstill, Bool.false_eq_true, if_false]
          exact ⟨hscreen, hroute, hsame.trans hviews⟩

end Session

/-! ## What a queue can bring about -/

/-- The action can follow from a queue: it is one itself, puts messages on surfaces, or reports
an error. -/
def Action.followsQueue : Action → Bool
  | .processQueue _ | .embed _ | .load .. | .reportError _ => true
  | _ => false

/-- The action takes a message away. -/
def Action.isDismissal : Action → Bool
  | .dismiss .. => true
  | _ => false

/-- The deed can follow from a queue. -/
inductive Deed.FollowsQueue : Deed Host → Prop
  | commit {a : Action} (h : a.followsQueue = true) : FollowsQueue (.commit a)
  | callBack (a : Action) : FollowsQueue (.act fun _ => callBack a)
  | errorLogged (text : String) : FollowsQueue (.act fun _ h => h.record (.errorLogged text))
  | present (m : Message) (position : Option Position) : FollowsQueue (.act (present m position))

/-- A view is logged. -/
def Event.isView : Event → Bool
  | .viewLogged .. => true
  | _ => false

/-- The views that were logged, the last one first. -/
def Host.viewsLogged (h : Host) : List Event := h.journal.filter Event.isView

/-- Recording something else logs no view. -/
theorem Host.viewsLogged_record {e : Event} (h : Host) (he : e.isView = false) :
    (h.record e).viewsLogged = h.viewsLogged := by
  show (e :: h.journal).filter Event.isView = _
  rw [List.filter_cons_of_neg (by rw [he]; exact Bool.false_ne_true)]
  rfl

namespace Pipeline

variable {s : Session} {m : Message} {ds : List (Deed Host)} {messages : List Message}

theorem landed_followsQueue {a : Action} (h : a.followsQueue = true) :
    ∀ d ∈ landed a, d.FollowsQueue :=
  List.forall_mem_cons.mpr ⟨.commit h, List.forall_mem_singleton.mpr (.callBack a)⟩

theorem reported_followsQueue (text : String) : ∀ d ∈ reported text, d.FollowsQueue :=
  List.forall_mem_cons.mpr ⟨.errorLogged text, landed_followsQueue rfl⟩

theorem guarded_followsQueue (h : ∀ d ∈ ds, d.FollowsQueue) (s : Session) :
    ∀ d ∈ guarded s ds, d.FollowsQueue := by
  unfold guarded
  split
  · exact h
  · exact reported_followsQueue noUserText

theorem loadDeeds_followsQueue (m : Message) (position : Option Position) (s : Session) :
    ∀ d ∈ loadDeeds m position s, d.FollowsQueue := by
  have hload : ∀ d ∈ guarded s (landed (.load m position)), d.FollowsQueue :=
    guarded_followsQueue (landed_followsQueue rfl) s
  unfold loadDeeds
  split
  · exact hload
  · split
    · exact reported_followsQueue modalBusyText
    · exact List.forall_mem_cons.mpr ⟨.present m position, hload⟩

/-- **What a queue brings about.** -/
theorem queueDeeds_followsQueue (messages : List Message) (s : Session) :
    ∀ d ∈ queueDeeds messages s, d.FollowsQueue := by
  have hembed : ∀ ms s, ∀ d ∈ embedPicked ms s, d.FollowsQueue := by
    intro ms s
    unfold embedPicked
    split
    · exact fun d hd => absurd hd List.not_mem_nil
    · exact guarded_followsQueue (landed_followsQueue rfl) s
  have hload : ∀ picked s, ∀ d ∈ loadPicked picked s, d.FollowsQueue := by
    intro picked s
    unfold loadPicked
    split
    · split
      · exact fun d hd => absurd hd List.not_mem_nil
      · exact loadDeeds_followsQueue _ none s
    · exact fun d hd => absurd hd List.not_mem_nil
  refine guarded_followsQueue ?_ s
  split
  · exact landed_followsQueue rfl
  · exact List.forall_mem_append.mpr ⟨landed_followsQueue rfl,
      List.forall_mem_append.mpr ⟨hembed _ _, hload _ _⟩⟩

/-- Calling the listener back logs no view. -/
theorem viewsLogged_callBack (a : Action) (h : Host) :
    (callBack a h).viewsLogged = h.viewsLogged :=
  filter_journal_callBack (fun _ => rfl) a h

end Pipeline

/-- A view of the host that callbacks, the error log and the presenter leave alone. -/
structure Untouched {α : Type} (view : Host → α) : Prop where
  calledBack : ∀ a h, view (callBack a h) = view h
  errorLogged : ∀ text h, view (h.record (.errorLogged text)) = view h
  presented : ∀ m position s h, view (present m position s h) = view h

/-- None of these logs a view. -/
theorem Host.untouched_viewsLogged : Untouched viewsLogged where
  calledBack := viewsLogged_callBack
  errorLogged _ h := h.viewsLogged_record rfl
  presented _ _ _ h := h.viewsLogged_record rfl

/-- What follows from a queue leaves such a view alone. -/
theorem Deed.FollowsQueue.keeps {α : Type} {view : Host → α} (hview : Untouched view)
    {d : Deed Host} (h : d.FollowsQueue) : d.Keeps view := by
  cases h with
  | commit h => trivial
  | callBack a => exact fun _ => hview.calledBack a
  | errorLogged text => exact fun _ => hview.errorLogged text
  | present m position => exact hview.presented m position

/-- What follows from a queue takes no message away. -/
theorem dismissals_of_followsQueue {ds : List (Deed Host)} (h : ∀ d ∈ ds, d.FollowsQueue) :
    (commits ds).filter Action.isDismissal = [] := by
  refine List.filter_eq_nil_iff.mpr fun a ha hdismissal => ?_
  cases h (.commit a) (mem_commits.mp ha) with
  | commit hqueue =>
      cases a with
      | dismiss m log viaClose => exact absurd hqueue Bool.false_ne_true
      | _ => exact absurd hdismissal Bool.false_ne_true

/-! ## What a change of route can bring about -/

namespace Pipeline

variable {s : Session} {m : Message}

/-- A commit, and calling the listener back, leave a view alone that callbacks leave alone. -/
theorem landed_keeps {α : Type} {view : Host → α}
    (hcalled : ∀ a h, view (callBack a h) = view h) (a : Action) :
    ∀ d ∈ landed a, d.Keeps view :=
  List.forall_mem_cons.mpr ⟨trivial, List.forall_mem_singleton.mpr fun _ => hcalled a⟩

/-- So does reporting that an action is held back. -/
theorem guarded_keeps {α : Type} {view : Host → α} (hview : Untouched view) (a : Action)
    (s : Session) : ∀ d ∈ guarded s (landed a), d.Keeps view := by
  unfold guarded
  split
  · exact landed_keeps hview.calledBack a
  · exact fun d hd => (reported_followsQueue noUserText d hd).keeps hview

/-- So does selection. -/
theorem reselectDeeds_keeps {α : Type} {view : Host → α} (hview : Untouched view) (s : Session) :
    ∀ d ∈ reselectDeeds s, d.Keeps view :=
  fun d hd => (queueDeeds_followsQueue s.queue.messages s d hd).keeps hview

/-- A withdrawal logs no view. -/
theorem withdraw_keeps (m : Message) (s : Session) :
    ∀ d ∈ dismissDeeds m false true s, d.Keeps Host.viewsLogged := by
  have hlog : (Deed.act (logView (.dismiss m false true) m)).Keeps Host.viewsLogged := by
    intro s h
    unfold logView
    rw [show (Action.dismiss m false true).marksShown = false from m.marksShown_withdraw]
    rfl
  have hcount : (Deed.act (countDismissal m (false && true))).Keeps Host.viewsLogged := by
    intro s h
    unfold countDismissal
    split
    · split <;> rfl
    · rfl
  have hrefresh : (Deed.act fun _ h =>
      if (false && true) && m.isPersistent then Host.requestRefresh h else h).Keeps
        Host.viewsLogged := fun _ _ => rfl
  have hland : ∀ d ∈ guarded s (landed (.dismiss m false true)), d.Keeps Host.viewsLogged :=
    guarded_keeps Host.untouched_viewsLogged (.dismiss m false true) s
  refine List.forall_mem_append.mpr ⟨?_, ?_⟩
  · exact List.forall_mem_cons.mpr ⟨hlog, List.forall_mem_cons.mpr ⟨hcount,
      List.forall_mem_cons.mpr ⟨hrefresh, hland⟩⟩⟩
  · split
    · exact reselectDeeds_keeps Host.untouched_viewsLogged _
    · exact fun d hd => absurd hd List.not_mem_nil

/-- A change of route logs no view. -/
theorem routeDeeds_keeps (route : String) (s : Session) :
    ∀ d ∈ routeDeeds route s, d.Keeps Host.viewsLogged := by
  have hqueue : ∀ s, ∀ d ∈ reselectDeeds s, d.Keeps Host.viewsLogged :=
    reselectDeeds_keeps Host.untouched_viewsLogged
  refine List.forall_mem_append.mpr
    ⟨landed_keeps viewsLogged_callBack (.setRoute route), ?_⟩
  unfold evaluateDeeds
  split
  · split
    · exact hqueue _
    · exact List.forall_mem_append.mpr ⟨withdraw_keeps _ _, hqueue _⟩
  · exact hqueue _

/-- A withdrawal is one dismissal. -/
theorem dismissals_withdraw (h : s.hasIdentity = true) (m : Message) :
    (commits (dismissDeeds m false true s)).filter Action.isDismissal = [.withdraw m] := by
  have hown : (commits (leaveDeeds m false true s)).filter Action.isDismissal =
      [.withdraw m] := by
    unfold leaveDeeds
    rw [guarded_of_identity h]
    rfl
  have hnext : ∀ s : Session, (commits (if s.usesRealtime then reselectDeeds s else [])).filter
      Action.isDismissal = [] := by
    intro s
    split
    · exact dismissals_of_followsQueue (queueDeeds_followsQueue _ s)
    · rfl
  show (commits (leaveDeeds m false true s ++ _)).filter _ = _
  rw [commits_append, List.filter_append, hown, hnext]
  rfl

/-- **A change of route commits one dismissal**, the withdrawal of what does not fit, if
anything does not. -/
theorem dismissals_routeDeeds (h : s.hasIdentity = true) (route : String) :
    (commits (routeDeeds route s)).filter Action.isDismissal =
      (s.misfit? route).toList.map Action.withdraw := by
  have hqueue : ∀ s, (commits (reselectDeeds s)).filter Action.isDismissal = [] :=
    fun s => dismissals_of_followsQueue (queueDeeds_followsQueue _ s)
  have hmoved : (s.reduce (.setRoute route)).hasIdentity = true := h
  have hmisfit : s.misfit? route = (s.reduce (.setRoute route)).misfit? route := rfl
  show (commits (landed (.setRoute route) ++ evaluateDeeds route _)).filter _ = _
  rw [commits_append, List.filter_append, hmisfit]
  generalize s.reduce (.setRoute route) = moved at hmoved ⊢
  show (commits (evaluateDeeds route moved)).filter _ = _
  unfold evaluateDeeds Session.misfit?
  cases moved.modal.active? with
  | none => exact hqueue moved
  | some m =>
      cases hstill : m.stillMatchesRoute route with
      | true =>
          simp only [hstill, if_true, Option.filter_some, Bool.not_true]
          exact hqueue moved
      | false =>
          simp only [hstill, Bool.false_eq_true, if_false, Option.filter_some, Bool.not_false]
          rw [commits_append, List.filter_append, dismissals_withdraw hmoved, hqueue]
          rfl

end Pipeline

/-! ## The whole effect -/

/-- What a change of route brings about, from one runner to another. -/
structure RouteOutcome {V : Type} (r r' : Runner V Host) (route : String) : Prop where
  /-- The session is on the route. -/
  moved : r'.session.route = some route
  /-- The screen fits it. -/
  screen : r'.session.Fits route
  /-- Whatever was on the modal surface and does not fit is gone. -/
  gone : ∀ m, r.session.misfit? route = some m → r'.session.modal.active? ≠ some m
  /-- It was dismissed exactly once, without counting as a view, and nothing else was. -/
  dismissals : ∃ log, r'.committed.reverse = r.committed.reverse ++ log ∧
    log.filter Action.isDismissal = (r.session.misfit? route).toList.map Action.withdraw
  /-- No view is logged; what subscribers do besides is theirs. -/
  views : r.Keeps Host.viewsLogged → r'.host.viewsLogged = r.host.viewsLogged
  /-- The same queue ids are shown. -/
  shown : r'.session.shown = r.session.shown

/-- **Everything a change of route brings about** while somebody is known and no message that
is meant for an element is on the modal surface. -/
theorem Runner.handle_setRoute {V : Type} (r : Runner V Host) (route : String)
    (hidentity : r.session.hasIdentity = true)
    (hmodal : ∀ m, r.session.modal.active? = some m → m.isEmbedded = false) :
    RouteOutcome r (r.handle standard (.setRoute route)) route := by
  have hsession : (r.handle standard (.setRoute route)).session = r.session.afterRoute route := by
    rw [handle_session, Session.handled_of_identity hidentity]
    rfl
  have hdeeds : r.handle standard (.setRoute route) =
      r.performAll (routeDeeds route r.session) := handle_standard (.setRoute route) r
  obtain ⟨hfits, hroute, hshown⟩ := Session.fits_afterRoute hmodal
  rw [← hsession] at hfits hroute hshown
  refine ⟨hroute, hfits, ?_, ?_, ?_, hshown⟩
  · intro m hmisfit hactive
    have hstill := hfits.stays m hactive
    have hleaves := (Option.filter_eq_some_iff.mp hmisfit).2
    rw [hstill] at hleaves
    exact absurd hleaves Bool.false_ne_true
  · refine ⟨commits (routeDeeds route r.session), ?_, dismissals_routeDeeds hidentity route⟩
    rw [hdeeds, Runner.performAll_committed]
  · intro hkeeps
    rw [hdeeds]
    exact Runner.performAll_keeps hkeeps (routeDeeds_keeps route r.session)

/-- An offer for the shop. -/
def shopOffer : Message :=
  { id := "offer", queueId := some "o", delivery := { routeRule := some "shop" } }

/-- A hint that fits everywhere. -/
def hint : Message := { id := "hint", queueId := some "h" }

/-- While realtime updates are in use the offer for the shop is displayed, and the hint
waits. -/
def shopRunner : Runner Unit Host where
  session :=
    { userId := some "ada", realtime := true, route := some "shop"
      queue := .ofList [hint], modal := .displayed shopOffer }
  host := {}

/-- In the cart the offer for the shop is withdrawn, and the hint takes its place. -/
theorem shopRunner_cart :
    RouteOutcome shopRunner (shopRunner.handle standard (.setRoute "cart")) "cart" ∧
      shopRunner.Keeps Host.viewsLogged ∧ shopRunner.session.misfit? "cart" = some shopOffer ∧
      (shopRunner.handle standard (.setRoute "cart")).session.modal = .loading hint := by
  refine ⟨?_, ?_, by decide +kernel, by decide +kernel⟩
  · refine shopRunner.handle_setRoute "cart" (by decide) fun m hm => ?_
    obtain rfl := Option.some.inj hm
    rfl
  · exact fun u hu => absurd hu List.not_mem_nil

end InAppMessaging
