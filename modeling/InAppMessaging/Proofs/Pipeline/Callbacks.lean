import InAppMessaging.Proofs.Pipeline.Front
import InAppMessaging.Proofs.Pipeline.Modal
import InAppMessaging.Proofs.Pipeline.Queue
import InAppMessaging.Proofs.Store.Visits

/-!
# The listener hears what is committed

The listener is called back by the last stage, after an action was committed and before any stage
in front goes on with it.  Whatever those stages do then, the callbacks come in the order of the
commits.  That is so for every pipeline that ends in the listening stage, as long as nobody else
calls the listener.

* `Echoes` — performing some deeds calls back for what they commit, and for nothing else;
* `echoes_deeds` — **the deeds of a pipeline that ends in the listening stage do**, at every
  limit of dispatches;
* `front_keeps` — none of the other standard stages calls the listener;
* `Runner.callbacks_obeyAll` — **over a run of the standard pipeline the listener is called back
  for the actions that are committed, one after another.**
-/

namespace InAppMessaging

open Pipeline

/-! ## What the listener hears -/

/-- The callback of an event. -/
def Event.callback? : Event → Option Callback
  | .callback c => some c
  | _ => none

/-- The callbacks so far, the first one first. -/
def Host.callbacks (h : Host) : List Callback := h.journal.reverse.filterMap Event.callback?

/-- What the listener has heard, and whether there is one. -/
def Host.heard (h : Host) : Bool × List Callback := (h.listens, h.callbacks)

namespace Host

/-- Events are recorded behind those that are there. -/
theorem heard_recordAll (es : List Event) (h : Host) :
    (h.recordAll es).heard = (h.listens, h.callbacks ++ es.filterMap Event.callback?) := by
  rw [journal_recordAll]
  show (h.listens, (es.reverse ++ h.journal).reverse.filterMap Event.callback?) = _
  rw [List.reverse_append, List.reverse_reverse, List.filterMap_append]
  rfl

/-- An event that is no callback is not heard. -/
theorem heard_record {e : Event} (he : e.callback? = none) (h : Host) :
    (h.record e).heard = h.heard := by
  have hone := h.heard_recordAll [e]
  rw [List.filterMap_cons_none he, List.filterMap_nil, List.append_nil] at hone
  exact hone

theorem heard_wake (t : Task) (h : Host) : (h.wake t).heard = h.heard := by
  unfold wake
  split <;> rfl

/-- Asking for a fetch is not heard. -/
theorem heard_requestRefresh (h : Host) : h.requestRefresh.heard = h.heard := by
  unfold requestRefresh
  dsimp only
  split
  · exact heard_wake .poller _
  · rfl

/-- A listener hears the callbacks of an action. -/
theorem heard_callBack (a : Action) {h : Host} (hlistens : h.listens = true) :
    (callBack a h).heard = (true, h.callbacks ++ a.callbacks) := by
  have hcalls : (a.callbacks.map Event.callback).filterMap Event.callback? = a.callbacks := by
    rw [List.filterMap_map]
    exact List.filterMap_some
  rw [callBack, if_pos hlistens, heard_recordAll, hcalls, hlistens]

end Host

/-! ## Deeds -/

/-- Performing some deeds calls the listener back for what they commit, and for nothing else. -/
def Echoes (V : Type) (ds : List (Deed Host)) : Prop :=
  ∀ r : Runner V Host, r.Keeps Host.heard → r.host.listens = true →
    (r.performAll ds).host.heard =
      (true, r.host.callbacks ++ (commits ds).flatMap Action.callbacks)

namespace Echoes

variable {V : Type} {ds es : List (Deed Host)}

theorem append (hds : Echoes V ds) (hes : Echoes V es) : Echoes V (ds ++ es) := by
  intro r hkeeps hlistens
  have hfirst := hds r hkeeps hlistens
  have hlistens' : (r.performAll ds).host.listens = true := congrArg Prod.fst hfirst
  have hcallbacks : (r.performAll ds).host.callbacks = _ := congrArg Prod.snd hfirst
  rw [Runner.performAll_append, hes _ (Runner.keeps_performAll hkeeps ds) hlistens', hcallbacks,
    commits_append, List.flatMap_append, List.append_assoc]

/-- Deeds that commit nothing and do not call the listener. -/
theorem of_keeps (hkeeps : ∀ d ∈ ds, d.Keeps Host.heard) (hcommits : commits ds = []) :
    Echoes V ds := by
  intro r hr hlistens
  rw [Runner.performAll_keeps hr hkeeps, hcommits, List.flatMap_nil, List.append_nil, Host.heard,
    hlistens]

/-- An action that reaches the listening stage is heard of once it is committed. -/
theorem listening (a : Action) : Echoes V [.commit a, .act fun _ => callBack a] := by
  intro r hkeeps hlistens
  have hcommit := Runner.commit_keeps hkeeps a
  have hlistens' : (r.commit a).host.listens = true :=
    (congrArg Prod.fst hcommit).trans hlistens
  have hcallbacks : (r.commit a).host.callbacks = r.host.callbacks := congrArg Prod.snd hcommit
  show (callBack a (r.commit a).host).heard = (true, r.host.callbacks ++ (a.callbacks ++ []))
  rw [Host.heard_callBack a hlistens', hcallbacks, List.append_nil]

end Echoes

/-! ## Pipelines -/

section Pipelines

variable {V : Type} {dispatch forward : Action → Session → List (Deed Host)}

theorem Program.echoes_deeds (hdispatch : ∀ a s, Echoes V (dispatch a s))
    (hforward : ∀ a s, Echoes V (forward a s)) {p : Program Host} (hp : p.Keeps Host.heard)
    (s : Session) : Echoes V (p.deeds dispatch forward s).1 := by
  have hnothing : Echoes V [] := .of_keeps (fun d hd => absurd hd List.not_mem_nil) rfl
  induction p generalizing s with
  | done => exact hnothing
  | fail causes => exact hnothing
  | read next ih => exact ih s (hp s) s
  | act effect next ih =>
      obtain ⟨heffect, hnext⟩ := hp
      have hact : Echoes V [.act effect] :=
        .of_keeps (List.forall_mem_singleton.mpr heffect) rfl
      exact hact.append (ih hnext s)
  | dispatch a next ih => exact (hdispatch a s).append (ih hp _)
  | forward a next ih => exact (hforward a s).append (ih hp _)

theorem echoes_failureDeeds (hdispatch : ∀ a s, Echoes V (dispatch a s)) (stage : String)
    (a : Action) (s : Session) (causes : Option (List String)) :
    Echoes V (failureDeeds dispatch stage a s causes) := by
  cases causes with
  | none => exact .of_keeps (fun d hd => absurd hd List.not_mem_nil) rfl
  | some causes =>
      have hfailed : Echoes V [.failed] := .of_keeps (List.forall_mem_singleton.mpr trivial) rfl
      apply hfailed.append
      cases a.isErrorReport with
      | true =>
          exact .of_keeps (List.forall_mem_singleton.mpr fun s h => Host.heard_record rfl h) rfl
      | false => exact hdispatch _ s

/-- On its way through stages that do not call the listener, the listening stage behind them. -/
theorem echoes_deedsThrough (hdispatch : ∀ a s, Echoes V (dispatch a s))
    {ahead : List (Stage Host)} (hahead : ∀ stage ∈ ahead, stage.Keeps Host.heard) (a : Action)
    (s : Session) : Echoes V (deedsThrough dispatch (ahead ++ [listening]) a s) := by
  induction ahead generalizing a s with
  | nil => exact .listening a
  | cons stage rest ih =>
      obtain ⟨hstage, hrest⟩ := List.forall_mem_cons.mp hahead
      exact (Program.echoes_deeds hdispatch (ih hrest) (hstage a) s).append
        (echoes_failureDeeds hdispatch stage.name a _ _)

/-- **A pipeline that ends in the listening stage calls the listener back for what it commits**,
and neither for what a stage holds back nor for what is dropped at the limit. -/
theorem echoes_deeds {ahead : List (Stage Host)}
    (hahead : ∀ stage ∈ ahead, stage.Keeps Host.heard) (levels : Nat) (a : Action) (s : Session) :
    Echoes V (deeds (ahead ++ [listening]) levels a s) := by
  induction levels generalizing a s with
  | zero =>
      exact .of_keeps (List.forall_mem_singleton.mpr fun s h => Host.heard_record rfl h) rfl
  | succ levels ih => exact echoes_deedsThrough ih hahead a s

end Pipelines

/-! ## The standard pipeline -/

/-- Nothing that the stages in front of the listener do is heard. -/
theorem Pipeline.unmoved_heard : Unmoved Host.heard where
  errorLogged _ h := Host.heard_record rfl h
  viewLogged _ _ h := Host.heard_record rfl h
  presented _ _ h := Host.heard_record rfl h
  stored _ _ := rfl
  refreshed := Host.heard_requestRefresh

/-! ## Runs -/

/-- A command does nothing to a view of the host, and neither does whoever joins by it. -/
def Command.Keeps {V H α : Type} (view : H → α) : Command V H → Prop
  | .run _ => True
  | .subscribe _ watch => watch.Keeps view
  | .unsubscribe _ => True
  | .barrier reached => ∀ h, view (reached h) = view h

namespace Runner

variable {V : Type} {r : Runner V Host}

/-- A command calls the listener back for what it commits. -/
theorem heard_obey (hkeeps : r.Keeps Host.heard) (hlistens : r.host.listens = true)
    {command : Command V Host} (hcommand : command.Keeps Host.heard) :
    ∃ log, (r.obey standard command).committed.reverse = r.committed.reverse ++ log ∧
      (r.obey standard command).host.heard =
        (true, r.host.callbacks ++ log.flatMap Action.callbacks) ∧
      (r.obey standard command).Keeps Host.heard := by
  have hnothing {h : Host} (hheard : h.heard = r.host.heard) :
      h.heard = (true, r.host.callbacks ++ List.flatMap Action.callbacks []) := by
    rw [hheard, List.flatMap_nil, List.append_nil, Host.heard, hlistens]
  cases command with
  | run a =>
      have hprocess : r.obey standard (.run a) =
          r.performAll (deeds standard maxDispatchDepth a r.session) :=
        r.process_eq standard maxDispatchDepth a
      rw [hprocess]
      exact ⟨_, r.performAll_committed _,
        echoes_deeds (front_keeps unmoved_heard) maxDispatchDepth a r.session r hkeeps hlistens,
        keeps_performAll hkeeps _⟩
  | subscribe id watch =>
      refine ⟨[], (List.append_nil _).symm,
        hnothing (Subscriber.register_keeps hcommand id r.session r.host), ?_⟩
      refine List.forall_mem_append.mpr ⟨hkeeps, List.forall_mem_singleton.mpr ?_⟩
      show (Subscriber.register id watch r.session r.host).1.watch.Keeps Host.heard
      rw [Subscriber.register_watch]
      exact hcommand
  | unsubscribe id =>
      exact ⟨[], (List.append_nil _).symm, hnothing rfl,
        fun u hu => hkeeps u (List.mem_filter.mp hu).1⟩
  | barrier reached =>
      exact ⟨[], (List.append_nil _).symm, hnothing (hcommand r.host), hkeeps⟩

/-- **The listener is called back for the actions that are committed, one after another**, and for
nothing else. -/
theorem callbacks_obeyAll (hkeeps : r.Keeps Host.heard) (hlistens : r.host.listens = true)
    {commands : List (Command V Host)} (hcommands : ∀ c ∈ commands, c.Keeps Host.heard) :
    ∃ log, (r.obeyAll standard commands).committed.reverse = r.committed.reverse ++ log ∧
      (r.obeyAll standard commands).host.callbacks =
        r.host.callbacks ++ log.flatMap Action.callbacks := by
  induction commands generalizing r with
  | nil => exact ⟨[], (List.append_nil _).symm, (List.append_nil _).symm⟩
  | cons command rest ih =>
      obtain ⟨hcommand, hrest⟩ := List.forall_mem_cons.mp hcommands
      obtain ⟨first, hfirst, hheard, hkeeps'⟩ := heard_obey hkeeps hlistens hcommand
      have hlistens' : (r.obey standard command).host.listens = true := congrArg Prod.fst hheard
      have hcallbacks : (r.obey standard command).host.callbacks = _ := congrArg Prod.snd hheard
      obtain ⟨later, hlater, hcalls⟩ := ih hkeeps' hlistens' hrest
      refine ⟨first ++ later, ?_, ?_⟩
      · show ((r.obey standard command).obeyAll standard rest).committed.reverse = _
        rw [hlater, hfirst, List.append_assoc]
      · show ((r.obey standard command).obeyAll standard rest).host.callbacks = _
        rw [hcalls, hcallbacks, List.flatMap_append, List.append_assoc]

/-- A runner that knows somebody. -/
def acquainted : Runner Unit Host := { session := { userId := some "ann" }, host := {} }

/-- A banner is displayed and closed while somebody watches; before that a load is held back, since
the banner is still there. -/
def bannerCommands : List (Command Unit Host) :=
  [.subscribe 0 (.session fun _ h => h.record .reconnectAsked), .run (.display banner),
    .run (.load banner none), .run (.dismiss banner true true)]

theorem callbacks_banner :
    (acquainted.obeyAll standard bannerCommands).host.callbacks =
        [.shown banner, .dismissed banner] ∧
      ∃ log, (acquainted.obeyAll standard bannerCommands).committed.reverse = [] ++ log ∧
        (acquainted.obeyAll standard bannerCommands).host.callbacks =
          [] ++ log.flatMap Action.callbacks := by
  have hcommands : ∀ c ∈ bannerCommands, c.Keeps Host.heard := by
    have hwatch : (.session fun _ h => h.record .reconnectAsked : Watch Unit Host).Keeps
        Host.heard := fun _ h => Host.heard_record rfl h
    intro c hc
    simp only [bannerCommands, List.mem_cons, List.not_mem_nil, or_false] at hc
    rcases hc with rfl | rfl | rfl | rfl
    · exact hwatch
    all_goals trivial
  exact ⟨by decide +kernel,
    callbacks_obeyAll (fun u hu => absurd hu List.not_mem_nil) rfl hcommands⟩

end Runner

end InAppMessaging
