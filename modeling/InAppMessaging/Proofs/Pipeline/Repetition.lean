import InAppMessaging.Proofs.Pipeline.Navigation
import InAppMessaging.Proofs.Pipeline.Supply
import InAppMessaging.Proofs.Selection.Characterization

/-!
# What is repeated

A queue that arrives twice has the second selection meet what the first one left: the candidates
queued, the elements with their picks ready, and a message on the modal surface if one could be
picked.  None of that changes what is picked, and all of it is in place already.  The same holds
of a change of route to the route at hand, which leaves a screen that fits and then has the queue
processed again.  Such an action comes to nothing (`Uneventful`): the session stays as it is, and
of the collaborators only the listener hears of it.

* `Session.select_afterQueue` — a queue leaves alone what selection picks;
* `Session.afterQueue_again` — **processing the same selection again changes nothing**;
* `queueDeeds_keep_of_no_load` — a queue that loads nothing only calls the listener back;
* `Runner.handle_processQueue_again` — **redelivering a queue comes to nothing**;
* `Runner.handle_setRoute_again` — **so does navigating to the same route again.**
-/

namespace InAppMessaging

open Pipeline

/-! ## The session -/

namespace Session

variable {s : Session} {messages given : List Message} {route : String}

/-- The queue holds the candidates. -/
theorem queue_afterQueue (s : Session) (messages : List Message) :
    (s.afterQueue messages).queue = .ofList (s.select messages).queue := by
  rw [s.afterQueue_eq_select messages]

/-- The elements are given what was picked for them. -/
theorem inline_afterQueue (s : Session) (messages : List Message) :
    (s.afterQueue messages).inline = (s.embed (s.select messages).inline).inline := by
  rw [s.afterQueue_eq_select messages]

/-- Each element that a message was picked for has it ready. -/
theorem find?_afterQueue {m : Message} {elementId : String}
    (hm : m ∈ (s.select messages).inline) (helement : m.delivery.elementId = some elementId) :
    (s.afterQueue messages).inline.find? elementId = some (.readyToEmbed m elementId) := by
  rw [inline_afterQueue]
  exact s.find?_embed (inlineCandidates_pairwise _ _) hm helement

/-- The same elements show a message after a queue: only to one that shows none a message is
given, and that is not shown yet. -/
theorem isEmbedded_afterQueue (s : Session) (messages : List Message) (elementId : String) :
    ((s.afterQueue messages).inline.find? elementId).any InlineState.isEmbedded =
      (s.inline.find? elementId).any InlineState.isEmbedded := by
  by_cases hpicked : ∃ m ∈ (s.select messages).inline, m.delivery.elementId = some elementId
  · obtain ⟨m, hm, helement⟩ := hpicked
    obtain ⟨other, hother, hfree⟩ := exists_element_of_select hm
    obtain rfl := Option.some.inj (helement.symm.trans hother)
    rw [find?_afterQueue hm helement, hfree]
    rfl
  · rw [inline_afterQueue, s.find?_embed_ne]
    intro m hm helement
    exact hpicked ⟨m, hm, helement⟩

/-- **A queue leaves alone what selection picks**, of whatever list. -/
theorem select_afterQueue (s : Session) (messages given : List Message) :
    (s.afterQueue messages).select given = s.select given := by
  have hkept : (s.afterQueue messages).shown = s.shown ∧
      (s.afterQueue messages).route = s.route := by
    obtain ⟨queue, inline, modal, hqueue⟩ := s.afterQueue_eq messages
    rw [hqueue]
    exact ⟨rfl, rfl⟩
  have hfree : freeElement (s.afterQueue messages) = freeElement s := by
    funext m
    unfold freeElement
    simp only [hkept.2, isEmbedded_afterQueue]
  unfold select inlineCandidates
  rw [hkept.1, hkept.2, hfree]

/-- After a queue the same selection loads nothing: if a message was picked, the modal surface is
taken. -/
theorem loads_afterQueue (h : s.select given = s.select messages) :
    (s.afterQueue messages).loads given = none := by
  unfold loads
  rw [select_afterQueue, h, modal_afterQueue_eq]
  unfold loads
  cases (s.select messages).modal with
  | none => exact ite_self none
  | some p =>
      cases hactive : s.modal.isActive with
      | true =>
          show (if s.modal.isActive then none else some p) = none
          rw [hactive]
          rfl
      | false => rfl

/-- **Processing the same selection again changes nothing.** -/
theorem afterQueue_again (h : s.select given = s.select messages) :
    (s.afterQueue messages).afterQueue given = s.afterQueue messages := by
  have hpicked : (s.afterQueue messages).select given = s.select messages :=
    (s.select_afterQueue messages given).trans h
  have hqueue : ((s.afterQueue messages).afterQueue given).queue =
      (s.afterQueue messages).queue := by
    rw [queue_afterQueue, queue_afterQueue, hpicked]
  have hinline : ((s.afterQueue messages).afterQueue given).inline =
      (s.afterQueue messages).inline := by
    rw [inline_afterQueue, hpicked, embed_of_ready]
    intro m hm elementId helement
    exact find?_afterQueue hm helement
  have hmodal : ((s.afterQueue messages).afterQueue given).modal =
      (s.afterQueue messages).modal := by
    rw [modal_afterQueue_eq, loads_afterQueue h]
    rfl
  obtain ⟨queue, inline, modal, hrest⟩ := (s.afterQueue messages).afterQueue_eq given
  rw [hrest] at hqueue hinline hmodal ⊢
  dsimp only at hqueue hinline hmodal
  rw [hqueue, hinline, hmodal]

/-- What is selected of the queue a list has left is what is selected of the list. -/
theorem select_queue_afterQueue (s : Session) (messages : List Message) :
    s.select (s.afterQueue messages).queue.messages = s.select messages := by
  have hqueue : (s.afterQueue messages).queue.messages = candidates messages s.shown := by
    rw [queue_afterQueue]
    exact ofList_candidates messages s.shown
  rw [hqueue]
  refine select_congr ?_
  rw [candidates_candidates]
  exact filter_candidates (fun _ hid => hid) messages

/-- A session that is on a route stays as it is when the route is set. -/
theorem reduce_setRoute_of_route (h : s.route = some route) : s.reduce (.setRoute route) = s := by
  show { s with route := some route } = s
  rw [← h]

/-- On a screen that fits a route nothing is taken off the modal surface for it. -/
theorem misfit?_of_fits (h : s.Fits route) : s.misfit? route = none := by
  unfold misfit?
  cases hactive : s.modal.active? with
  | none => rfl
  | some m =>
      rw [Option.filter_some, h.stays m hactive]
      rfl

/-- **Setting the route of a screen that fits it** has the queue processed, and nothing else. -/
theorem afterRoute_of_fits (hroute : s.route = some route) (h : s.Fits route) :
    s.afterRoute route = s.afterQueue s.queue.messages := by
  unfold afterRoute
  rw [reduce_setRoute_of_route hroute]
  dsimp only
  cases hactive : s.modal.active? with
  | none => rfl
  | some m => simp only [h.stays m hactive, if_true]

/-- **Setting the same route again changes nothing.** -/
theorem afterRoute_again (hmodal : ∀ m, s.modal.active? = some m → m.isEmbedded = false)
    (route : String) :
    (s.afterRoute route).afterRoute route = s.afterRoute route ∧
      (s.afterRoute route).loads (s.afterRoute route).queue.messages = none := by
  obtain ⟨hfits, hroute, -⟩ := fits_afterRoute hmodal
  rw [afterRoute_of_fits hroute hfits]
  -- Whatever was withdrawn, processing a queue is the last that the first change brought about.
  obtain ⟨kept, hlast⟩ : ∃ kept : Session,
      s.afterRoute route = kept.afterQueue kept.queue.messages := ⟨_, rfl⟩
  have hsame := kept.select_queue_afterQueue kept.queue.messages
  rw [hlast]
  exact ⟨afterQueue_again hsame, loads_afterQueue hsame⟩

end Session

/-! ## The deeds -/

namespace Pipeline

variable {s : Session} {messages : List Message} {route : String} {α : Type} {view : Host → α}

/-- **A queue that loads nothing only calls the listener back.** -/
theorem queueDeeds_keep_of_no_load (hidentity : s.hasIdentity = true)
    (hloads : s.loads messages = none) (hcalled : ∀ a h, view (callBack a h) = view h) :
    ∀ d ∈ queueDeeds messages s, d.Keeps view := by
  have hembed : ∀ (ms : List Message) (s : Session), s.hasIdentity = true →
      ∀ d ∈ embedPicked ms s, d.Keeps view := by
    intro ms s hidentity
    unfold embedPicked
    split
    · exact fun d hd => absurd hd List.not_mem_nil
    · rw [guarded_of_identity hidentity]
      exact landed_keeps hcalled (.embed ms)
  unfold queueDeeds
  rw [guarded_of_identity hidentity]
  split
  · exact landed_keeps hcalled (.processQueue [])
  · unfold Session.loads at hloads
    generalize s.select messages = picked at hloads ⊢
    have hqueued : (s.reduce (.processQueue picked.queue)).hasIdentity = true := hidentity
    refine List.forall_mem_append.mpr ⟨landed_keeps hcalled _, ?_⟩
    refine List.forall_mem_append.mpr ⟨hembed _ _ hqueued, ?_⟩
    rw [afterDeeds_landed, afterDeeds_embedPicked hqueued]
    have hfree : ((s.reduce (.processQueue picked.queue)).embed picked.inline).modal.isActive =
        s.modal.isActive := rfl
    unfold loadPicked
    cases hmodal : picked.modal with
    | none => exact fun d hd => absurd hd List.not_mem_nil
    | some p =>
        have hactive : s.modal.isActive = true := by
          rw [hmodal] at hloads
          exact Decidable.of_not_not fun hnot => by simp [hnot] at hloads
        dsimp only
        rw [hfree, if_pos hactive]
        exact fun d hd => absurd hd List.not_mem_nil

/-- **On a screen that fits the route** setting it has the queue processed, and nothing else. -/
theorem routeDeeds_of_fits (hroute : s.route = some route) (h : s.Fits route) :
    routeDeeds route s = landed (.setRoute route) ++ queueDeeds s.queue.messages s := by
  unfold routeDeeds evaluateDeeds
  rw [Session.reduce_setRoute_of_route hroute]
  cases hactive : s.modal.active? with
  | none => rfl
  | some m =>
      simp only [h.stays m hactive, if_true]
      rfl

end Pipeline

/-! ## Nothing comes of it -/

/-- What was presented, the last one first. -/
def Host.presentations (h : Host) : List Event := h.presentedBeyond fun _ => false

/-- An action has come to nothing, from one runner to another. -/
structure Uneventful {V : Type} (r r' : Runner V Host) : Prop where
  /-- The session is the same. -/
  session : r'.session = r.session
  /-- No message was dismissed. -/
  dismissals : ∃ log, r'.committed.reverse = r.committed.reverse ++ log ∧
    log.filter Action.isDismissal = []
  /-- No message was presented; what subscribers do besides is theirs. -/
  presented : r.Keeps Host.presentations → r'.host.presentations = r.host.presentations
  /-- No view was logged. -/
  views : r.Keeps Host.viewsLogged → r'.host.viewsLogged = r.host.viewsLogged

namespace Runner

variable {V : Type} {r : Runner V Host}

/-- Deeds come to nothing if they leave the session, dismiss nothing and only call the listener
back. -/
theorem uneventful_performAll {ds : List (Deed Host)}
    (hsession : r.session.afterDeeds ds = r.session)
    (hdismissals : (commits ds).filter Action.isDismissal = [])
    (hkeep : ∀ view : Host → List Event, (∀ a h, view (callBack a h) = view h) →
      ∀ d ∈ ds, d.Keeps view) : Uneventful r (r.performAll ds) where
  session := (performAll_session r ds).trans hsession
  dismissals := ⟨commits ds, performAll_committed r ds, hdismissals⟩
  presented := fun h =>
    performAll_keeps h (hkeep Host.presentations fun a h => presentedBeyond_callBack a h)
  views := fun h => performAll_keeps h (hkeep Host.viewsLogged viewsLogged_callBack)

/-- A queue comes to nothing if it leaves the session and loads nothing. -/
theorem uneventful_processQueue {messages : List Message}
    (hidentity : r.session.hasIdentity = true)
    (hsession : r.session.afterQueue messages = r.session)
    (hloads : r.session.loads messages = none) :
    Uneventful r (r.handle standard (.processQueue messages)) := by
  have hdeeds : r.handle standard (.processQueue messages) =
      r.performAll (queueDeeds messages r.session) := handle_standard (.processQueue messages) r
  rw [hdeeds]
  apply uneventful_performAll
  · exact (afterDeeds_queueDeeds hidentity messages).trans hsession
  · exact dismissals_of_followsQueue (queueDeeds_followsQueue messages r.session)
  · intro view hcalled
    exact queueDeeds_keep_of_no_load hidentity hloads hcalled

/-- **Redelivering a queue comes to nothing.**  While somebody is known, processing the same list
of messages again, or the queue that it has left, changes nothing about the session and presents
no message. -/
theorem handle_processQueue_again (r : Runner V Host) (messages : List Message)
    (hidentity : r.session.hasIdentity = true) :
    let once := r.handle standard (.processQueue messages)
    Uneventful once (once.handle standard (.processQueue messages)) ∧
      Uneventful once (once.handle standard (.processQueue once.session.queue.messages)) := by
  intro once
  have hsession : once.session = r.session.afterQueue messages := by
    show (r.handle standard (.processQueue messages)).session = _
    rw [handle_session, Session.handled_of_identity hidentity]
    rfl
  have hknown : once.session.hasIdentity = true := by
    rw [hsession, hasIdentity_afterQueue]
    exact hidentity
  have hagain : ∀ given, r.session.select given = r.session.select messages →
      Uneventful once (once.handle standard (.processQueue given)) := by
    intro given hsame
    apply uneventful_processQueue hknown
    · rw [hsession]
      exact Session.afterQueue_again hsame
    · rw [hsession]
      exact Session.loads_afterQueue hsame
  constructor
  · exact hagain messages rfl
  · apply hagain
    rw [hsession]
    exact r.session.select_queue_afterQueue messages

/-- The mixed queue with one queue id repeated. -/
def repeatedQueue : List Message := mixedQueue ++ [{ id := "twin", queueId := some "b" }]

/-- The queue comes again as it was and as it was queued.  Only the first time the banner is
presented. -/
theorem busyRunner_again :
    let once := busyRunner.handle standard (.processQueue repeatedQueue)
    Uneventful once (once.handle standard (.processQueue repeatedQueue)) ∧
      Uneventful once (once.handle standard (.processQueue once.session.queue.messages)) ∧
      once.session.queue.messages = mixedQueue ∧
      once.host.presentations.length = 1 ∧ once.Keeps Host.presentations := by
  have hkeeps : busyRunner.Keeps Host.presentations := by
    intro u hu
    obtain rfl := List.mem_singleton.mp hu
    exact fun s h => rfl
  obtain ⟨hlist, hqueue⟩ := busyRunner.handle_processQueue_again repeatedQueue (by decide)
  refine ⟨hlist, hqueue, by cbv, by cbv, ?_⟩
  rw [handle_standard]
  exact keeps_performAll hkeeps _

/-- **Navigating to the same route again comes to nothing**, with and without realtime updates, if
somebody is known and no message that is meant for an element is on the modal surface. -/
theorem handle_setRoute_again (r : Runner V Host) (route : String)
    (hidentity : r.session.hasIdentity = true)
    (hmodal : ∀ m, r.session.modal.active? = some m → m.isEmbedded = false) :
    let once := r.handle standard (.setRoute route)
    Uneventful once (once.handle standard (.setRoute route)) := by
  intro once
  have hsession : once.session = r.session.afterRoute route := by
    show (r.handle standard (.setRoute route)).session = _
    rw [handle_session, Session.handled_of_identity hidentity]
    rfl
  have hknown : once.session.hasIdentity = true := by
    rw [hsession]
    exact hasIdentity_afterRoute hidentity route
  obtain ⟨hsame, hloads⟩ := Session.afterRoute_again hmodal route
  have hfits : (r.session.afterRoute route).Fits route := (Session.fits_afterRoute hmodal).1
  have hroute : (r.session.afterRoute route).route = some route :=
    (Session.fits_afterRoute hmodal).2.1
  rw [← hsession] at hsame hloads hfits hroute
  have hdeeds : once.handle standard (.setRoute route) =
      once.performAll (routeDeeds route once.session) := handle_standard (.setRoute route) once
  rw [hdeeds]
  apply uneventful_performAll
  · exact (afterDeeds_routeDeeds hknown route).trans hsame
  · rw [dismissals_routeDeeds hknown, Session.misfit?_of_fits hfits]
    rfl
  · intro view hcalled
    rw [routeDeeds_of_fits hroute hfits]
    exact List.forall_mem_append.mpr
      ⟨landed_keeps hcalled (.setRoute route), queueDeeds_keep_of_no_load hknown hloads hcalled⟩

/-- The offer for the shop was withdrawn in the cart, where the hint has taken its place; going to
the cart again leaves it there. -/
theorem shopRunner_cart_again :
    let once := shopRunner.handle standard (.setRoute "cart")
    Uneventful once (once.handle standard (.setRoute "cart")) ∧
      once.Keeps Host.presentations ∧ once.Keeps Host.viewsLogged ∧
      once.session.modal = .loading hint ∧ once.host.presentations.length = 1 := by
  have halone : ∀ view : Host → List Event,
      (shopRunner.handle standard (.setRoute "cart")).Keeps view := by
    intro view
    rw [handle_standard]
    exact keeps_performAll (fun u hu => absurd hu List.not_mem_nil) _
  refine ⟨shopRunner.handle_setRoute_again "cart" (by decide) ?_, halone _, halone _,
    by decide +kernel, by decide +kernel⟩
  intro m hm
  obtain rfl := Option.some.inj hm
  rfl

end Runner

end InAppMessaging
