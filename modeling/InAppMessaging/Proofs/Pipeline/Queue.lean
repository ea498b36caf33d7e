import InAppMessaging.Proofs.Pipeline.Aftermath
import InAppMessaging.Proofs.Selection
import InAppMessaging.Proofs.Store.Keeping

/-!
# What a queue brings about

A queue that arrives while somebody is known passes all stages, and two dispatches of its own
pass them again.  What is left of that at the end is said here in full, for the session and for
the collaborators of the host: the presenter, the listener, the log of views and of errors, and
the stored preferences (`Host.outward`).

* `afterQueue_eq_select` — the session after a queue, field by field;
* `outward_landed`, `outward_loadPicked` — what the collaborators see of an action that lands,
  and of the loading of a pick;
* `Runner.handle_processQueue` — **everything a queue brings about.**
-/

namespace InAppMessaging

open Pipeline

/-! ## What collaborators see -/

/-- A call to the presenter, the listener, or the log of views or of errors. -/
def Event.isOutward : Event → Bool
  | .presented .. | .callback _ | .viewLogged .. | .errorLogged _ => true
  | _ => false

/-- What the collaborators of a host have seen, the last call first. -/
structure Outward where
  calls : List Event
  storage : Storage
  listens : Bool

/-- What the collaborators have seen so far. -/
def Host.outward (h : Host) : Outward :=
  ⟨h.journal.filter Event.isOutward, h.storage, h.listens⟩

/-- More calls, the last one first. -/
def Outward.more (o : Outward) (calls : List Event) : Outward :=
  { o with calls := calls ++ o.calls }

theorem Outward.more_nil (o : Outward) : o.more [] = o := rfl

/-- The calls of the listener for an action, the last one first. -/
def Outward.callbacks (o : Outward) (a : Action) : List Event :=
  if o.listens then (a.callbacks.map Event.callback).reverse else []

/-- An action that causes no callbacks is not seen by the listener. -/
theorem Outward.callbacks_of_none (o : Outward) {a : Action} (h : a.callbacks = []) :
    o.callbacks a = [] := by
  unfold callbacks
  rw [h]
  split <;> rfl

/-- Events that are recorded come before the older ones, the last one first. -/
theorem Host.journal_recordAll (es : List Event) (h : Host) :
    h.recordAll es = { h with journal := es.reverse ++ h.journal } := by
  unfold recordAll
  induction es generalizing h with
  | nil => rfl
  | cons e es ih =>
      rw [List.foldl_cons, ih, List.reverse_cons, List.append_assoc]
      rfl

/-- The listener is called back. -/
theorem outward_callBack (a : Action) (h : Host) :
    (callBack a h).outward = h.outward.more (h.outward.callbacks a) := by
  have hcalls : ∀ cs : List Callback,
      ((cs.map Event.callback).reverse).filter Event.isOutward =
        (cs.map Event.callback).reverse := by
    intro cs
    refine List.filter_eq_self.mpr ?_
    intro e he
    obtain ⟨c, -, rfl⟩ := List.mem_map.mp (List.mem_reverse.mp he)
    rfl
  unfold callBack Outward.callbacks
  cases hlistens : h.listens with
  | false =>
      have hclosed : h.outward.listens = false := hlistens
      rw [hclosed]
      rfl
  | true =>
      have hopen : h.outward.listens = true := hlistens
      rw [hopen, if_pos rfl, if_pos rfl, Host.journal_recordAll]
      unfold Host.outward Outward.more
      rw [List.filter_append, hcalls]

/-- Whoever does not look at callbacks sees nothing of them. -/
theorem filter_journal_callBack {select : Event → Bool}
    (hselect : ∀ c, select (.callback c) = false) (a : Action) (h : Host) :
    (callBack a h).journal.filter select = h.journal.filter select := by
  have hcalls : ((a.callbacks.map Event.callback).reverse).filter select = [] := by
    refine List.filter_eq_nil_iff.mpr fun e he => ?_
    obtain ⟨c, -, rfl⟩ := List.mem_map.mp (List.mem_reverse.mp he)
    rw [hselect c]
    exact Bool.false_ne_true
  unfold callBack
  cases h.listens with
  | false => rfl
  | true =>
      rw [if_pos rfl, Host.journal_recordAll]
      dsimp only
      rw [List.filter_append, hcalls, List.nil_append]

namespace Pipeline

variable {V : Type} {r : Runner V Host} {s : Session}

theorem outward_landed (h : r.Keeps Host.outward) (a : Action) :
    (r.performAll (landed a)).host.outward = r.host.outward.more (r.host.outward.callbacks a) := by
  show (callBack a (r.commit a).host).outward = _
  rw [outward_callBack, Runner.commit_keeps h]

theorem outward_landed_of_none (h : r.Keeps Host.outward) {a : Action} (ha : a.callbacks = []) :
    (r.performAll (landed a)).host.outward = r.host.outward := by
  rw [outward_landed h, Outward.callbacks_of_none _ ha, Outward.more_nil]

/-- Of picks for elements they see the callbacks. -/
theorem outward_embedPicked (h : r.Keeps Host.outward) (hidentity : s.hasIdentity = true)
    (messages : List Message) :
    (r.performAll (embedPicked messages s)).host.outward =
      r.host.outward.more (r.host.outward.callbacks (.embed messages)) := by
  unfold embedPicked
  cases messages with
  | nil =>
      rw [Outward.callbacks_of_none _ rfl, Outward.more_nil]
      rfl
  | cons m rest =>
      rw [guarded_of_identity hidentity]
      exact outward_landed h _

/-- Of a pick for the modal surface they see that it is presented, if the surface is free. -/
theorem outward_loadPicked (h : r.Keeps Host.outward) (hidentity : s.hasIdentity = true)
    {picked : Option Message} (hmodal : ∀ p, picked = some p → p.isEmbedded = false) :
    (r.performAll (loadPicked picked s)).host.outward =
      r.host.outward.more
        (if s.modal.isActive then [] else picked.toList.map fun p => .presented p p.position) := by
  cases picked with
  | none =>
      rw [Option.toList_none, List.map_nil, ite_self, Outward.more_nil]
      rfl
  | some p =>
      unfold loadPicked
      dsimp only
      cases hactive : s.modal.isActive with
      | true => rfl
      | false =>
          have hfree := isDisplayed_of_not_isActive hactive
          have hloads : loadDeeds p none s =
              .act (present p none) :: landed (.load p none) := by
            unfold loadDeeds
            rw [hmodal p rfl, hfree, guarded_of_identity hidentity]
            rfl
          rw [if_neg Bool.false_ne_true, if_neg Bool.false_ne_true, hloads,
            Runner.performAll_cons]
          exact outward_landed_of_none (r := r.act (present p none)) h rfl

end Pipeline

/-! ## What is picked -/

/-- The queue, the elements and the modal surface after a queue that was not empty. -/
theorem Session.afterQueue_of_ne_nil (s : Session) {messages : List Message}
    (h : messages ≠ []) :
    s.afterQueue messages =
      { s with
        queue := .ofList (s.select messages).queue
        inline := (s.embed (s.select messages).inline).inline
        modal :=
          match (s.select messages).modal with
          | some p => if s.modal.isActive then s.modal else .loading p
          | none => s.modal } := by
  unfold afterQueue
  rw [List.isEmpty_eq_false_iff.mpr h, if_neg Bool.false_ne_true]
  generalize s.select messages = picked
  dsimp only
  cases picked.modal with
  | none => rfl
  | some p => cases s.modal.isActive <;> rfl

/-- An empty queue is no exception: nothing is picked of it. -/
theorem Session.afterQueue_eq_select (s : Session) (messages : List Message) :
    s.afterQueue messages =
      { s with
        queue := .ofList (s.select messages).queue
        inline := (s.embed (s.select messages).inline).inline
        modal :=
          match (s.select messages).modal with
          | some p => if s.modal.isActive then s.modal else .loading p
          | none => s.modal } := by
  by_cases hmessages : messages = []
  · subst hmessages
    rw [select_nil]
    rfl
  · exact s.afterQueue_of_ne_nil hmessages

/-- The message of a selection that is loaded: the pick for the modal surface, if that is
free. -/
def Session.loads (s : Session) (messages : List Message) : Option Message :=
  if s.modal.isActive then none else (s.select messages).modal

/-- A queue loads its pick, or leaves the modal surface as it is. -/
theorem Session.modal_afterQueue_eq (s : Session) (messages : List Message) :
    (s.afterQueue messages).modal =
      ((s.loads messages).map ModalState.loading).getD s.modal := by
  rw [s.afterQueue_eq_select]
  unfold loads
  cases (s.select messages).modal with
  | none => cases s.modal.isActive <;> rfl
  | some p => cases s.modal.isActive <;> rfl

/-- The pick for the modal surface is not meant for an element. -/
theorem not_isEmbedded_of_select {s : Session} {messages : List Message} {p : Message}
    (h : (s.select messages).modal = some p) : p.isEmbedded = false := by
  have hfind : modalCandidate? (candidates messages s.shown) s.route = some p := h
  have hfound := List.find?_some hfind
  rw [Bool.and_eq_true, Bool.not_eq_true'] at hfound
  exact hfound.1

theorem exists_element_of_select {s : Session} {messages : List Message} {m : Message}
    (h : m ∈ (s.select messages).inline) : ∃ elementId, m.delivery.elementId = some elementId ∧
      (s.inline.find? elementId).any InlineState.isEmbedded = false :=
  exists_element_of_mem_inlineCandidates h

/-- Each pick for an element causes one callback. -/
theorem callbacks_embed_select (s : Session) (messages : List Message) :
    (Action.embed (s.select messages).inline).callbacks =
      (s.select messages).inline.map fun m => .embed m (m.delivery.elementId.getD "") := by
  have hpicks : ∀ m ∈ (s.select messages).inline, m.delivery.elementId.isSome = true := by
    intro m hm
    obtain ⟨elementId, helement, -⟩ := exists_element_of_select hm
    rw [helement]
    rfl
  show List.filterMap _ _ = _
  generalize (s.select messages).inline = picks at hpicks ⊢
  induction picks with
  | nil => rfl
  | cons m rest ih =>
      obtain ⟨hm, hrest⟩ := List.forall_mem_cons.mp hpicks
      obtain ⟨elementId, helement⟩ := Option.isSome_iff_exists.mp hm
      rw [List.map_cons, ← ih hrest, List.filterMap_cons, helement]
      rfl

/-! ## The whole effect -/

/-- All that a queue changes from one runner to another. -/
structure QueueOutcome {V : Type} (r r' : Runner V Host) (messages : List Message) : Prop where
  /-- The queue holds the candidates. -/
  queue : r'.session.queue.messages = candidates messages r.session.shown
  /-- Each element that a message was picked for has it ready. -/
  filled : ∀ m ∈ (r.session.select messages).inline, ∃ elementId,
    m.delivery.elementId = some elementId ∧
      r'.session.inline.find? elementId = some (.readyToEmbed m elementId)
  /-- Each other element holds what it held. -/
  kept : ∀ elementId,
    (∀ m ∈ (r.session.select messages).inline, m.delivery.elementId ≠ some elementId) →
      r'.session.inline.find? elementId = r.session.inline.find? elementId
  /-- Each element that showed a message shows it still. -/
  embedded : ∀ elementId state, r.session.inline.find? elementId = some state →
    state.isEmbedded = true → r'.session.inline.find? elementId = some state
  /-- The modal surface loads the pick, if it was free. -/
  modal : r'.session.modal =
    ((r.session.loads messages).map ModalState.loading).getD r.session.modal
  /-- Nothing else of the session changes. -/
  rest : r'.session = { r.session with
    queue := r'.session.queue, inline := r'.session.inline, modal := r'.session.modal }
  /-- The listener is called back once for each pick for an element, in the order of selection,
  and then the presenter once for the pick that is loaded; what subscribers do besides is
  theirs. -/
  calls : r.Keeps Host.outward → r'.host.outward.calls =
    (r.session.loads messages).toList.map (fun p => .presented p p.position) ++
      (if r.host.listens then
        ((r.session.select messages).inline.map fun m =>
          .callback (.embed m (m.delivery.elementId.getD ""))).reverse
      else []) ++ r.host.outward.calls
  /-- No preference is written. -/
  storage : r.Keeps Host.outward → r'.host.storage = r.host.storage

/-- What the collaborators see of a queue. -/
theorem Runner.outward_handle_processQueue {V : Type} (r : Runner V Host)
    {messages : List Message} (hidentity : r.session.hasIdentity = true)
    (hmessages : messages ≠ []) (hkeeps : r.Keeps Host.outward) :
    (r.handle standard (.processQueue messages)).host.outward =
      (r.host.outward.more
        (r.host.outward.callbacks (.embed (r.session.select messages).inline))).more
        ((r.session.loads messages).toList.map fun p => .presented p p.position) := by
  have hmodal : ∀ p, (r.session.select messages).modal = some p → p.isEmbedded = false :=
    fun p => not_isEmbedded_of_select
  have hloads : (r.session.loads messages).toList =
      if r.session.modal.isActive then [] else (r.session.select messages).modal.toList := by
    unfold Session.loads
    split <;> rfl
  have hdeeds : actionDeeds (.processQueue messages) r.session =
      selectDeeds (r.session.select messages) r.session := by
    show queueDeeds messages r.session = _
    unfold queueDeeds
    rw [guarded_of_identity hidentity, List.isEmpty_eq_false_iff.mpr hmessages,
      if_neg Bool.false_ne_true]
  rw [handle_standard, hdeeds, hloads]
  generalize r.session.select messages = picked at hmodal ⊢
  have hqueued : (r.session.reduce (.processQueue picked.queue)).hasIdentity = true := hidentity
  have hfilled : ((r.session.reduce (.processQueue picked.queue)).embed
      picked.inline).hasIdentity = true := hidentity
  unfold selectDeeds
  dsimp only
  rw [performAll_append, performAll_append, afterDeeds_landed, afterDeeds_embedPicked hqueued,
    outward_loadPicked (Runner.keeps_performAll (Runner.keeps_performAll hkeeps _) _) hfilled
      hmodal,
    outward_embedPicked (Runner.keeps_performAll hkeeps _) hqueued,
    outward_landed_of_none hkeeps rfl]
  have hfree : ((r.session.reduce (.processQueue picked.queue)).embed
      picked.inline).modal.isActive = r.session.modal.isActive := rfl
  rw [hfree]
  split <;> rfl

/-- **Everything a queue brings about** while somebody is known. -/
theorem Runner.handle_processQueue {V : Type} (r : Runner V Host) {messages : List Message}
    (hidentity : r.session.hasIdentity = true) (hmessages : messages ≠ []) :
    QueueOutcome r (r.handle standard (.processQueue messages)) messages := by
  have hsession : (r.handle standard (.processQueue messages)).session =
      r.session.afterQueue messages := by
    rw [handle_session, Session.handled_of_identity hidentity]
    rfl
  have hfields := r.session.afterQueue_of_ne_nil hmessages
  have hout := r.outward_handle_processQueue hidentity hmessages
  have hkept : ∀ elementId,
      (∀ m ∈ (r.session.select messages).inline, m.delivery.elementId ≠ some elementId) →
        (r.session.afterQueue messages).inline.find? elementId =
          r.session.inline.find? elementId := by
    intro elementId hnone
    rw [hfields]
    exact r.session.find?_embed_ne hnone
  rw [← hsession] at hfields hkept
  refine ⟨?_, ?_, hkept, ?_, ?_, ?_, ?_, ?_⟩
  · rw [hfields]
    exact ofList_candidates messages r.session.shown
  · intro m hm
    obtain ⟨elementId, helement, -⟩ := exists_element_of_select hm
    refine ⟨elementId, helement, ?_⟩
    rw [hfields]
    exact r.session.find?_embed (inlineCandidates_pairwise _ _) hm helement
  · intro elementId state hstate hembedded
    rw [← hstate]
    refine hkept elementId fun m hm helement => ?_
    obtain ⟨other, hother, hfree⟩ := exists_element_of_select hm
    rw [helement] at hother
    obtain rfl := Option.some.inj hother
    rw [hstate, Option.any_some, hembedded] at hfree
    exact Bool.noConfusion hfree
  · rw [hfields]
    unfold Session.loads
    cases (r.session.select messages).modal with
    | none => cases r.session.modal.isActive <;> rfl
    | some p => cases r.session.modal.isActive <;> rfl
  · rw [hfields]
  · intro hkeeps
    have hcalls := congrArg Outward.calls (hout hkeeps)
    unfold Outward.callbacks at hcalls
    rw [callbacks_embed_select, List.map_map] at hcalls
    rw [hcalls, List.append_assoc]
    rfl
  · exact fun hkeeps => congrArg Outward.storage (hout hkeeps)

/-- A runner that knows a user, has a subscriber, and shows a message in the element `top`. -/
def busyRunner : Runner Unit Host where
  session :=
    { userId := some "ada"
      inline := ⟨.ofList [("top", .embedded { id := "shown", queueId := some "s" } "top")]⟩ }
  subscribers := [⟨1, .session fun s h => h.record (.told 1 (.text s.route)), none⟩]
  host := {}

/-- A queue with a message for the modal surface, one for a free element and one for the
element that is taken. -/
def mixedQueue : List Message :=
  [{ id := "banner", queueId := some "b" },
   { id := "tip", queueId := some "t", delivery := { elementId := some "side" } },
   { id := "late", queueId := some "l", delivery := { elementId := some "top" } }]

/-- What the mixed queue brings about. -/
theorem busyRunner_mixedQueue :
    QueueOutcome busyRunner (busyRunner.handle standard (.processQueue mixedQueue)) mixedQueue ∧
      busyRunner.Keeps Host.outward := by
  constructor
  · exact busyRunner.handle_processQueue (by decide) (by decide)
  · intro u hu
    obtain rfl := List.mem_singleton.mp hu
    exact fun s h => rfl

end InAppMessaging
