import InAppMessaging.Pipeline.Standard
import InAppMessaging.Proofs.Store.Deeds

/-!
# The deeds of the standard pipeline

The eight stages and the dispatches between them, written out: for each action the list of what
is done when it meets a session.  Dispatches nest five deep at most, in a change of route that
withdraws a message whose successor is loaded, so the list is the same at every greater limit.

* `deeds_standard` — **the deeds of every action**;
* `handle_standard` — what a runner does with an action from outside.
-/

namespace InAppMessaging.Pipeline

/-! ## The lists -/

/-- An action is committed and the listener called back. -/
def landed (a : Action) : List (Deed Host) := [.commit a, .act fun _ => callBack a]

/-- An error is logged and its report committed. -/
def reported (text : String) : List (Deed Host) :=
  (.act fun _ h => h.record (.errorLogged text)) :: landed (.reportError text)

/-- What needs an identity is done if there is one. -/
def guarded (s : Session) (ds : List (Deed Host)) : List (Deed Host) :=
  if s.hasIdentity then ds else reported noUserText

/-- A message is loaded. -/
def loadDeeds (m : Message) (position : Option Position) (s : Session) : List (Deed Host) :=
  if m.isEmbedded then guarded s (landed (.load m position))
  else if s.modal.isDisplayed then reported modalBusyText
  else .act (present m position) :: guarded s (landed (.load m position))

/-- Picked messages are embedded, if there are any. -/
def embedPicked (messages : List Message) (s : Session) : List (Deed Host) :=
  if messages.isEmpty then [] else guarded s (landed (.embed messages))

/-- A picked message is loaded, if the modal surface is free. -/
def loadPicked (picked : Option Message) (s : Session) : List (Deed Host) :=
  match picked with
  | some m => if s.modal.isActive then [] else loadDeeds m none s
  | none => []

/-- A selection is put into the queue, embedded and loaded. -/
def selectDeeds (picked : Selection) (s : Session) : List (Deed Host) :=
  let queued := landed (.processQueue picked.queue)
  let embedded := embedPicked picked.inline (s.afterDeeds queued)
  queued ++ (embedded ++ loadPicked picked.modal ((s.afterDeeds queued).afterDeeds embedded))

/-- A queue is processed. -/
def queueDeeds (messages : List Message) (s : Session) : List (Deed Host) :=
  guarded s <|
    if messages.isEmpty then landed (.processQueue []) else selectDeeds (s.select messages) s

/-- Selection runs over the queue at hand. -/
def reselectDeeds (s : Session) : List (Deed Host) := queueDeeds s.queue.messages s

/-- A message is displayed. -/
def displayDeeds (m : Message) (s : Session) : List (Deed Host) :=
  .act (logView (.display m) m) :: .act (countDisplay m) :: guarded s (landed (.display m))

/-- A message goes away, before the next one is picked. -/
def leaveDeeds (m : Message) (log viaClose : Bool) (s : Session) : List (Deed Host) :=
  .act (logView (.dismiss m log viaClose) m) :: .act (countDismissal m (log && viaClose)) ::
    (.act fun _ h => if (log && viaClose) && m.isPersistent then h.requestRefresh else h) ::
      guarded s (landed (.dismiss m log viaClose))

/-- A message goes away, and while realtime updates are in use the next one is picked. -/
def dismissDeeds (m : Message) (log viaClose : Bool) (s : Session) : List (Deed Host) :=
  let left := leaveDeeds m log viaClose s
  left ++ if (s.afterDeeds left).usesRealtime then reselectDeeds (s.afterDeeds left) else []

/-- The screen is re-evaluated for a route. -/
def evaluateDeeds (route : String) (s : Session) : List (Deed Host) :=
  match s.modal.active? with
  | some m =>
      if m.stillMatchesRoute route then reselectDeeds s
      else
        let withdrawn := dismissDeeds m false true s
        withdrawn ++ reselectDeeds (s.afterDeeds withdrawn)
  | none => reselectDeeds s

/-- The route changes. -/
def routeDeeds (route : String) (s : Session) : List (Deed Host) :=
  landed (.setRoute route) ++ evaluateDeeds route (s.reduce (.setRoute route))

/-- The deeds of an action. -/
def actionDeeds (a : Action) (s : Session) : List (Deed Host) :=
  match a with
  | .reportError text => reported text
  | .load m position => loadDeeds m position s
  | .processQueue messages => queueDeeds messages s
  | .display m => displayDeeds m s
  | .dismiss m log viaClose => dismissDeeds m log viaClose s
  | .setRoute route => routeDeeds route s
  | a => if isPreparation a then landed a else guarded s (landed a)

/-! ## Stage by stage -/

section Stages

variable {dispatch : Action → Session → List (Deed Host)} {rest : List (Stage Host)}
  {stage : Stage Host} {a : Action}

theorem deedsThrough_forwardOnly (h : stage.handle a = .forwardOnly a) (s : Session) :
    deedsThrough dispatch (stage :: rest) a s = deedsThrough dispatch rest a s := by
  simp only [deedsThrough, h, Program.forwardOnly, Program.deeds, failureDeeds, List.append_nil]

/-- A stage that acts on the host before it forwards. -/
theorem deedsThrough_act {effect : Session → Host → Host}
    (h : stage.handle a = .act effect (.forwardOnly a)) (s : Session) :
    deedsThrough dispatch (stage :: rest) a s =
      .act effect :: deedsThrough dispatch rest a s := by
  simp only [deedsThrough, h, Program.forwardOnly, Program.deeds, failureDeeds, List.append_nil]

/-- None of the stages has anything to do with an action. -/
def Passes (stages : List (Stage Host)) (a : Action) : Prop :=
  ∀ stage ∈ stages, stage.handle a = .forwardOnly a

theorem passes_cons {stages : List (Stage Host)} (h : stage.handle a = .forwardOnly a)
    (hs : Passes stages a) : Passes (stage :: stages) a :=
  List.forall_mem_cons.mpr ⟨h, hs⟩

theorem passes_nil : Passes [] a := fun _ h => absurd h List.not_mem_nil

/-- Stages that have nothing to do with an action leave it to those behind them. -/
theorem deedsThrough_passes {stages : List (Stage Host)} (h : Passes stages a) (s : Session) :
    deedsThrough dispatch (stages ++ rest) a s = deedsThrough dispatch rest a s := by
  induction stages with
  | nil => rfl
  | cons stage stages ih =>
      rw [List.cons_append, deedsThrough_forwardOnly (h stage List.mem_cons_self)]
      exact ih fun other hother => h other (List.mem_cons_of_mem stage hother)

theorem deedsThrough_listening (s : Session) :
    deedsThrough dispatch [listening] a s = landed a := rfl

variable (herror : ∀ text s, dispatch (.reportError text) s = reported text)

include herror in
/-- The guard lets an action pass if there is an identity. -/
theorem deedsThrough_identityGuard (h : isPreparation a = false) (s : Session) :
    deedsThrough dispatch (identityGuard :: rest) a s =
      guarded s (deedsThrough dispatch rest a s) := by
  unfold guarded
  rw [← herror noUserText s]
  cases hs : s.hasIdentity <;>
    simp [deedsThrough, identityGuard, h, hs, Program.forwardOnly, Program.deeds, failureDeeds]

/-- With an identity the guard has nothing to do with an action. -/
theorem deedsThrough_identityGuard_of_identity (h : isPreparation a = false) {s : Session}
    (hs : s.hasIdentity = true) :
    deedsThrough dispatch (identityGuard :: rest) a s = deedsThrough dispatch rest a s := by
  simp [deedsThrough, identityGuard, h, hs, Program.forwardOnly, Program.deeds, failureDeeds]

include herror in
/-- From the guard on most actions meet nobody before they are committed. -/
theorem deedsThrough_guarded (h : isPreparation a = false)
    (htail : Passes [navigation, selecting] a) (s : Session) :
    deedsThrough dispatch [identityGuard, navigation, selecting, listening] a s =
      guarded s (landed a) := by
  have hpass : deedsThrough dispatch ([navigation, selecting] ++ [listening]) a s = landed a := by
    rw [deedsThrough_passes htail, deedsThrough_listening]
  rw [deedsThrough_identityGuard herror h]
  exact congrArg (guarded s) hpass

/-! ## Action by action -/

/-- A reported error is logged. -/
theorem through_reportError (text : String) (s : Session) :
    deedsThrough dispatch standard (.reportError text) s = reported text := by
  have hrest : Passes [accounting, activation, identityGuard, navigation, selecting]
      (.reportError text) :=
    passes_cons rfl <| passes_cons rfl <| passes_cons rfl <| passes_cons rfl <|
      passes_cons rfl passes_nil
  have hlog : errorReporting.handle (.reportError text) =
      .act (fun _ h => h.record (.errorLogged text)) (.forwardOnly (.reportError text)) := rfl
  show deedsThrough dispatch (watching :: errorReporting ::
    ([accounting, activation, identityGuard, navigation, selecting] ++ [listening])) _ s = _
  rw [deedsThrough_forwardOnly rfl, deedsThrough_act hlog, deedsThrough_passes hrest]
  rfl

theorem through_landed (h : Passes [watching, errorReporting, accounting, activation,
    identityGuard, navigation, selecting] a) (s : Session) :
    deedsThrough dispatch standard a s = landed a :=
  deedsThrough_passes h s

include herror in
/-- An action that only the guard looks at is committed if there is an identity. -/
theorem through_guarded (h : isPreparation a = false)
    (hhead : Passes [watching, errorReporting, accounting, activation] a)
    (htail : Passes [navigation, selecting] a) (s : Session) :
    deedsThrough dispatch standard a s = guarded s (landed a) := by
  show deedsThrough dispatch ([watching, errorReporting, accounting, activation] ++
    [identityGuard, navigation, selecting, listening]) a s = _
  rw [deedsThrough_passes hhead, deedsThrough_guarded herror h htail]

include herror in
/-- A message is loaded. -/
theorem through_load (m : Message) (position : Option Position) (s : Session) :
    deedsThrough dispatch standard (.load m position) s = loadDeeds m position s := by
  have hhead : Passes [watching, errorReporting, accounting] (.load m position) :=
    passes_cons rfl <| passes_cons rfl <| passes_cons rfl passes_nil
  have htail : Passes [navigation, selecting] (.load m position) :=
    passes_cons rfl <| passes_cons rfl passes_nil
  have hguard := deedsThrough_guarded herror (a := .load m position) rfl htail s
  show deedsThrough dispatch ([watching, errorReporting, accounting] ++
    activation :: [identityGuard, navigation, selecting, listening]) (.load m position) s = _
  rw [deedsThrough_passes hhead]
  unfold loadDeeds
  rw [← hguard]
  cases hembedded : m.isEmbedded with
  | true =>
      rw [deedsThrough_forwardOnly (by simp [activation, hembedded])]
      rfl
  | false =>
      have hhandle : activation.handle (.load m position) = .read fun s =>
          if s.modal.isDisplayed then .dispatch (.reportError modalBusyText) .done
          else .act (present m position) (.forwardOnly (.load m position)) := by
        simp [activation, hembedded]
      generalize [identityGuard, navigation, selecting, listening] = rest
      rw [deedsThrough, hhandle]
      cases hmodal : s.modal.isDisplayed with
      | true =>
          simp [Program.deeds, hmodal, herror, failureDeeds]
      | false =>
          simp [Program.deeds, Program.forwardOnly, hmodal, failureDeeds]

/-- Picked messages are embedded before the rest of the program. -/
theorem deeds_embedThen {forward : Action → Session → List (Deed Host)}
    (hembed : ∀ messages s, dispatch (.embed messages) s = guarded s (landed (.embed messages)))
    (messages : List Message) (next : Program Host) (s : Session) :
    (embedThen messages next).deeds dispatch forward s =
      (embedPicked messages s ++
          (next.deeds dispatch forward (s.afterDeeds (embedPicked messages s))).1,
        (next.deeds dispatch forward (s.afterDeeds (embedPicked messages s))).2) := by
  unfold embedThen embedPicked
  cases messages.isEmpty with
  | true => rfl
  | false => simp [Program.deeds, hembed]

/-- A picked message is loaded if the surface is free. -/
theorem deeds_loadIfFree {forward : Action → Session → List (Deed Host)}
    (hload : ∀ m s, dispatch (.load m none) s = loadDeeds m none s)
    (picked : Option Message) (s : Session) :
    (loadIfFree picked).deeds dispatch forward s = (loadPicked picked s, none) := by
  cases picked with
  | none => rfl
  | some m =>
      unfold loadIfFree loadPicked
      cases hactive : s.modal.isActive with
      | true => simp [Program.deeds, hactive]
      | false => simp [Program.deeds, hactive, Action.present, hload]

include herror in
/-- A queue is processed. -/
theorem through_processQueue
    (hembed : ∀ messages s, dispatch (.embed messages) s = guarded s (landed (.embed messages)))
    (hload : ∀ m s, dispatch (.load m none) s = loadDeeds m none s)
    (messages : List Message) (s : Session) :
    deedsThrough dispatch standard (.processQueue messages) s = queueDeeds messages s := by
  have hhead : Passes [watching, errorReporting, accounting, activation]
      (.processQueue messages) :=
    passes_cons rfl <| passes_cons rfl <| passes_cons rfl <| passes_cons rfl passes_nil
  show deedsThrough dispatch ([watching, errorReporting, accounting, activation] ++
    identityGuard :: navigation :: [selecting, listening]) (.processQueue messages) s = _
  rw [deedsThrough_passes hhead, deedsThrough_identityGuard herror rfl,
    deedsThrough_forwardOnly rfl]
  unfold queueDeeds
  congr 1
  cases messages with
  | nil => exact deedsThrough_forwardOnly rfl s
  | cons m rest =>
      have hhandle : selecting.handle (.processQueue (m :: rest)) = .read fun s =>
          .forward (.processQueue (s.select (m :: rest)).queue)
            (embedThen (s.select (m :: rest)).inline
              (loadIfFree (s.select (m :: rest)).modal)) := rfl
      rw [deedsThrough, hhandle]
      simp only [Program.deeds, deedsThrough_listening, deeds_embedThen hembed,
        deeds_loadIfFree hload, failureDeeds, List.append_nil]
      rfl

/-- The next message is picked while realtime updates are in use. -/
theorem deeds_pickNext {forward : Action → Session → List (Deed Host)}
    (hqueue : ∀ messages s, dispatch (.processQueue messages) s = queueDeeds messages s)
    (s : Session) :
    (pickNext s).deeds dispatch forward s =
      (if s.usesRealtime then reselectDeeds s else [], none) := by
  unfold pickNext
  cases s.usesRealtime with
  | true => simp [Program.deeds, hqueue, reselectDeeds]
  | false => simp [Program.deeds]

include herror in
/-- A message is displayed. -/
theorem through_display (m : Message) (s : Session) :
    deedsThrough dispatch standard (.display m) s = displayDeeds m s := by
  have hhead : Passes [watching, errorReporting] (.display m) :=
    passes_cons rfl <| passes_cons rfl passes_nil
  have htail : Passes [navigation, selecting] (.display m) :=
    passes_cons rfl <| passes_cons rfl passes_nil
  have hhandle : accounting.handle (.display m) = .act (logView (.display m) m)
      (.act (countDisplay m) (.forwardOnly (.display m))) := rfl
  have hguard := deedsThrough_guarded herror (a := .display m) rfl htail s
  show deedsThrough dispatch ([watching, errorReporting] ++ accounting :: activation ::
    [identityGuard, navigation, selecting, listening]) (.display m) s = _
  rw [deedsThrough_passes hhead]
  unfold displayDeeds
  rw [← hguard]
  generalize [identityGuard, navigation, selecting, listening] = rest
  rw [deedsThrough, hhandle]
  have hactivation : ∀ s, deedsThrough dispatch (activation :: rest) (.display m) s =
      deedsThrough dispatch rest (.display m) s := deedsThrough_forwardOnly rfl
  simp only [Program.deeds, Program.forwardOnly, failureDeeds, List.append_nil, hactivation]

include herror in
/-- A message goes away. -/
theorem through_dismiss
    (hqueue : ∀ messages s, dispatch (.processQueue messages) s = queueDeeds messages s)
    (m : Message) (log viaClose : Bool) (s : Session) :
    deedsThrough dispatch standard (.dismiss m log viaClose) s =
      dismissDeeds m log viaClose s := by
  have hhead : Passes [watching, errorReporting] (.dismiss m log viaClose) :=
    passes_cons rfl <| passes_cons rfl passes_nil
  have htail : Passes [navigation, selecting] (.dismiss m log viaClose) :=
    passes_cons rfl <| passes_cons rfl passes_nil
  have hguard := deedsThrough_guarded herror (a := .dismiss m log viaClose) rfl htail s
  have hhandle : accounting.handle (.dismiss m log viaClose) =
      .act (logView (.dismiss m log viaClose) m) (.act (countDismissal m (log && viaClose))
        (.act (fun _ h => if (log && viaClose) && m.isPersistent then h.requestRefresh else h)
          (.forward (.dismiss m log viaClose) (.read pickNext)))) := rfl
  show deedsThrough dispatch ([watching, errorReporting] ++ accounting :: activation ::
    [identityGuard, navigation, selecting, listening]) (.dismiss m log viaClose) s = _
  rw [deedsThrough_passes hhead]
  unfold dismissDeeds leaveDeeds
  rw [← hguard]
  generalize [identityGuard, navigation, selecting, listening] = rest
  have hactivation : deedsThrough dispatch (activation :: rest) (.dismiss m log viaClose) s =
      deedsThrough dispatch rest (.dismiss m log viaClose) s := deedsThrough_forwardOnly rfl s
  rw [deedsThrough, hhandle]
  simp only [Program.deeds, hactivation, deeds_pickNext hqueue, failureDeeds, List.append_nil]
  rfl

/-- A change of route is passed on, and then the message on the modal surface is judged by it. -/
theorem handle_navigation (route : String) :
    navigation.handle (.setRoute route) =
      .forward (.setRoute route) (.read fun s =>
        match s.modal.active? with
        | some m =>
            if m.stillMatchesRoute route then reselect else .dispatch (.withdraw m) reselect
        | none => reselect) := rfl

/-- The route changes. -/
theorem through_setRoute
    (hqueue : ∀ messages s, dispatch (.processQueue messages) s = queueDeeds messages s)
    (hdismiss : ∀ m log viaClose s,
      dispatch (.dismiss m log viaClose) s = dismissDeeds m log viaClose s)
    (route : String) (s : Session) :
    deedsThrough dispatch standard (.setRoute route) s = routeDeeds route s := by
  have hhead : Passes [watching, errorReporting, accounting, activation, identityGuard]
      (.setRoute route) :=
    passes_cons rfl <| passes_cons rfl <| passes_cons rfl <| passes_cons rfl <|
      passes_cons rfl passes_nil
  have hselecting : deedsThrough dispatch [selecting, listening] (.setRoute route) s =
      landed (.setRoute route) := deedsThrough_forwardOnly rfl s
  have hreselect : ∀ forward s, (reselect : Program Host).deeds dispatch forward s =
      (reselectDeeds s, none) := by
    intro forward s
    simp [reselect, Program.deeds, hqueue, reselectDeeds]
  show deedsThrough dispatch ([watching, errorReporting, accounting, activation,
    identityGuard] ++ navigation :: [selecting, listening]) (.setRoute route) s = _
  rw [deedsThrough_passes hhead, deedsThrough, handle_navigation]
  simp only [Program.deeds, hselecting]
  unfold routeDeeds evaluateDeeds
  have hsession : s.afterDeeds (landed (.setRoute route)) = s.reduce (.setRoute route) := rfl
  rw [hsession]
  generalize s.reduce (.setRoute route) = s'
  cases s'.modal.active? with
  | none => simp [hreselect, failureDeeds]
  | some m =>
      cases hmatch : m.stillMatchesRoute route with
      | true => simp [hmatch, hreselect, failureDeeds]
      | false => simp [hmatch, hreselect, failureDeeds, Program.deeds, Action.withdraw, hdismiss]

end Stages

/-! ## All actions -/

section Levels

variable (levels : Nat)

theorem deeds_reportError (text : String) (s : Session) :
    deeds standard (levels + 1) (.reportError text) s = reported text :=
  through_reportError text s

/-- The deeds of embedding messages. -/
theorem deeds_embed (messages : List Message) (s : Session) :
    deeds standard (levels + 2) (.embed messages) s = guarded s (landed (.embed messages)) :=
  through_guarded (deeds_reportError levels) rfl
    (passes_cons rfl <| passes_cons rfl <| passes_cons rfl <| passes_cons rfl passes_nil)
    (passes_cons rfl <| passes_cons rfl passes_nil) s

theorem deeds_load (m : Message) (position : Option Position) (s : Session) :
    deeds standard (levels + 2) (.load m position) s = loadDeeds m position s :=
  through_load (deeds_reportError levels) m position s

theorem deeds_processQueue (messages : List Message) (s : Session) :
    deeds standard (levels + 3) (.processQueue messages) s = queueDeeds messages s :=
  through_processQueue (deeds_reportError (levels + 1)) (deeds_embed levels)
    (fun m s => deeds_load levels m none s) messages s

theorem deeds_dismiss (m : Message) (log viaClose : Bool) (s : Session) :
    deeds standard (levels + 4) (.dismiss m log viaClose) s = dismissDeeds m log viaClose s :=
  through_dismiss (deeds_reportError (levels + 2)) (deeds_processQueue levels) m log viaClose s

/-- **The deeds of every action.** -/
theorem deeds_standard (a : Action) (s : Session) :
    deeds standard (levels + 5) a s = actionDeeds a s := by
  have herror := deeds_reportError (levels + 3)
  cases a with
  | reportError text => exact deeds_reportError (levels + 4) text s
  | load m position => exact deeds_load (levels + 3) m position s
  | processQueue messages => exact deeds_processQueue (levels + 2) messages s
  | display m => exact through_display herror m s
  | dismiss m log viaClose => exact deeds_dismiss (levels + 1) m log viaClose s
  | setRoute route =>
      exact through_setRoute (deeds_processQueue (levels + 1)) (deeds_dismiss levels) route s
  | embed messages => exact deeds_embed (levels + 3) messages s
  | clearQueue | tap | loadingFailed =>
      exact through_guarded herror rfl
        (passes_cons rfl <| passes_cons rfl <| passes_cons rfl <| passes_cons rfl passes_nil)
        (passes_cons rfl <| passes_cons rfl passes_nil) s
  | initialise | setPollInterval | setUser | setAnonymous | setRealtime | reset =>
      exact through_landed (passes_cons rfl <| passes_cons rfl <| passes_cons rfl <|
        passes_cons rfl <| passes_cons rfl <| passes_cons rfl <| passes_cons rfl passes_nil) s

end Levels

/-- **What a runner does with an action from outside.** -/
theorem handle_standard {V : Type} (a : Action) (r : Runner V Host) :
    r.handle standard a = r.performAll (actionDeeds a r.session) := by
  rw [← deeds_standard 59]
  exact r.process_eq standard maxDispatchDepth a

end InAppMessaging.Pipeline
