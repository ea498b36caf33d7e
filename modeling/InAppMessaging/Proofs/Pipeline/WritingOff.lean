import InAppMessaging.Proofs.Eligibility.WritingOff
import InAppMessaging.Proofs.Pipeline.Counting
import InAppMessaging.Proofs.Pipeline.Dispatches
import InAppMessaging.Proofs.Pipeline.Navigation

/-!
# Which actions write a queue id off

Of everything the pipeline does with an action, only the accounts of a display and of a dismissal
touch the records of the sticky classes.  An action from outside may be one of these itself; and a
change of route withdraws a message that does not fit, which is a dismissal of its own, though not
one that a broadcast is written off for.

* `Host.offText?_countDisplay`, `Host.offText?_countDismissal` — what the accounts write;
* `WritesOff` — the visits that write a queue id off, by the rule that is stored;
* `evaluateDeeds_cases` — of all that a change of route does, only the withdrawal stores something;
* `Runner.visit_of_writtenOff` — **whenever a deed writes a queue id off, such a visit is at it**,
  and for a broadcast it is that of the action from outside.
-/

namespace InAppMessaging

open Pipeline

variable {k : StickyClass} {q : String}

/-! ## Accounts -/

namespace Host

/-- The stored text that says that a queue id is written off. -/
def offText? (k : StickyClass) (q : String) (h : Host) : Option String := k.offText? h.values q

/-- The rule for a queue id, as the stored snapshot has it while it is valid. -/
def rule? (k : StickyClass) (q : String) (h : Host) : Option FrequencyCap :=
  Tracker.capOf? ((h.tracker k).stored h.values h.clock).1 q

theorem offText?_of_values {h h' : Host} (hvalues : h'.values = h.values) :
    h'.offText? k q = h.offText? k q :=
  congrArg (k.offText? · q) hvalues

theorem offText?_track (h : Host) (l : StickyClass)
    (change : Tracker → Int → Preferences → Preferences) (k : StickyClass) (q : String) :
    (h.track l change).offText? k q =
      k.offText? (change (h.tracker l) h.clock h.values) q := by
  unfold offText? values track
  rw [Storage.values_put]

theorem values_logView (a : Action) (m : Message) (s : Session) (h : Host) :
    (logView a m s h).values = h.values := by
  unfold logView
  split <;> rfl

/-- **The account of a display** writes off the queue id of a message of the class if its stored
rule allows one view, and nothing else. -/
theorem offText?_countDisplay (k : StickyClass) (q : String) (m : Message) (s : Session)
    (h : Host) : (countDisplay m s h).offText? k q = h.offText? k q ∨
      (account? m = some (k, q) ∧ s.userToken? ≠ none ∧
        (∃ cap, h.rule? k q = some cap ∧ cap.count = 1) ∧
        (countDisplay m s h).offText? k q = some "true") := by
  unfold countDisplay
  cases haccount : account? m with
  | none => exact .inl rfl
  | some account =>
      obtain ⟨l, r⟩ := account
      dsimp only
      rw [offText?_track]
      by_cases hkind : l = k
      · subst hkind
        rcases (h.tracker l).offText?_markSeen s.userToken? r h.clock h.values q with
          hsame | ⟨rfl, htoken, hrule, htext⟩
        · exact .inl hsame
        · exact .inr ⟨rfl, htoken, hrule, htext⟩
      · exact .inl (StickyClass.offText?_of_agreeOutside hkind
          ((h.tracker l).agreeOutside_markSeen s.userToken? r h.clock h.values) q)

/-- **The account of a dismissal** writes off the queue id of a message of the class if its stored
rule heeds dismissals, and nothing else; that of a broadcast only if the user closed it. -/
theorem offText?_countDismissal (k : StickyClass) (q : String) (m : Message)
    (closedByUser : Bool) (s : Session) (h : Host) :
    (countDismissal m closedByUser s h).offText? k q = h.offText? k q ∨
      (account? m = some (k, q) ∧ s.userToken? ≠ none ∧
        (∃ cap, h.rule? k q = some cap ∧ cap.ignoreDismiss = false) ∧
        (k = .broadcast → closedByUser = true) ∧
        (countDismissal m closedByUser s h).offText? k q = some "true") := by
  unfold countDismissal
  cases haccount : account? m with
  | none => exact .inl rfl
  | some account =>
      obtain ⟨l, r⟩ := account
      dsimp only
      cases hoff : writtenOff l closedByUser with
      | false => exact .inl rfl
      | true =>
          rw [if_pos rfl, offText?_track]
          by_cases hkind : l = k
          · subst hkind
            rcases (h.tracker l).offText?_markDismissed s.userToken? r h.clock h.values q with
              hsame | ⟨rfl, htoken, hrule, htext⟩
            · exact .inl hsame
            · refine .inr ⟨rfl, htoken, hrule, ?_, htext⟩
              rintro rfl
              exact hoff
          · exact .inl (StickyClass.offText?_of_agreeOutside hkind
              ((h.tracker l).agreeOutside_markDismissed s.userToken? r h.clock h.values) q)

end Host

/-- A visit writes a queue id off, by the rule that the host has stored for it: it displays a
message of the queue id that may be shown once, or takes one away whose rule heeds that.  A
broadcast has to be closed by the user. -/
inductive WritesOff (k : StickyClass) (q : String) (h : Host) : Visit → Prop
  | display {levels : Nat} {m : Message} {s : Session} {cap : FrequencyCap}
      (hm : account? m = some (k, q)) (htoken : s.userToken? ≠ none)
      (hrule : h.rule? k q = some cap) (hlast : cap.count = 1) :
      WritesOff k q h ⟨levels, .display m, s⟩
  | dismiss {levels : Nat} {m : Message} {log viaClose : Bool} {s : Session} {cap : FrequencyCap}
      (hm : account? m = some (k, q)) (htoken : s.userToken? ≠ none)
      (hrule : h.rule? k q = some cap) (hheeded : cap.ignoreDismiss = false)
      (hclosed : k = .broadcast → log = true ∧ viaClose = true) :
      WritesOff k q h ⟨levels, .dismiss m log viaClose, s⟩

/-! ## Deeds that store nothing -/

namespace Pipeline

/-- Callbacks, the error log and the presenter store nothing. -/
theorem untouched_values : Untouched Host.values where
  calledBack a h := by
    unfold callBack
    split
    · exact Host.values_recordAll _ h
    · rfl
  errorLogged _ _ := rfl
  presented _ _ _ _ := rfl

/-- After the account of a dismissal nothing more is stored for it. -/
theorem dismissDeeds_eq (m : Message) (log viaClose : Bool) (s : Session) :
    ∃ rest, dismissDeeds m log viaClose s = [.act (logView (.dismiss m log viaClose) m)] ++
        .act (countDismissal m (log && viaClose)) :: rest ∧
      ∀ d ∈ rest, d.Keeps Host.values := by
  refine ⟨_, rfl, List.forall_mem_append.mpr ⟨List.forall_mem_cons.mpr ⟨fun _ h => ?_,
    guarded_keeps untouched_values (.dismiss m log viaClose) s⟩, ?_⟩⟩
  · dsimp only
    split
    · exact Host.values_requestRefresh h
    · rfl
  · split
    · exact reselectDeeds_keeps untouched_values _
    · exact fun d hd => absurd hd List.not_mem_nil

theorem logView_keepsValues (a : Action) (m : Message) :
    ∀ d ∈ [Deed.act (logView a m)], d.Keeps Host.values :=
  List.forall_mem_singleton.mpr fun s h => Host.values_logView a m s h

/-- Where the others store nothing, a deed that stores something is the one that may. -/
theorem eq_of_not_keepsValues {earlier later before after : List (Deed Host)} {d w : Deed Host}
    (hearlier : ∀ d ∈ earlier, d.Keeps Host.values) (hlater : ∀ d ∈ later, d.Keeps Host.values)
    (heq : earlier ++ w :: later = before ++ d :: after) (hd : ¬ d.Keeps Host.values) :
    before = earlier ∧ d = w ∧ after = later := by
  rcases List.append_eq_append_iff.mp heq with ⟨between, rfl, hrest⟩ | ⟨between, rfl, hrest⟩
  · cases between with
    | nil =>
        obtain ⟨rfl, rfl⟩ := List.cons.inj hrest
        exact ⟨List.append_nil _, rfl, rfl⟩
    | cons other between =>
        obtain ⟨-, rfl⟩ := List.cons.inj hrest
        exact absurd (hlater d (List.mem_append_right _ List.mem_cons_self)) hd
  · cases between with
    | nil =>
        obtain ⟨rfl, rfl⟩ := List.cons.inj hrest
        exact ⟨(List.append_nil _).symm, rfl, rfl⟩
    | cons other between =>
        obtain ⟨rfl, -⟩ := List.cons.inj hrest
        exact absurd (hearlier d (List.mem_append_right _ List.mem_cons_self)) hd

/-! ## Re-evaluating the screen -/

/-- Of all that a re-evaluation does, only the withdrawal of what does not fit can store
something. -/
theorem evaluateDeeds_cases (route : String) (s : Session) :
    (∀ d ∈ evaluateDeeds route s, d.Keeps Host.values) ∨
      ∃ m next, s.modal.active? = some m ∧ m.stillMatchesRoute route = false ∧
        evaluateDeeds route s = dismissDeeds m false true s ++ next ∧
          ∀ d ∈ next, d.Keeps Host.values := by
  unfold evaluateDeeds
  cases s.modal.active? with
  | none => exact .inl (reselectDeeds_keeps untouched_values s)
  | some m =>
      cases hmatch : m.stillMatchesRoute route with
      | true =>
          left
          simp only [hmatch, if_true]
          exact reselectDeeds_keeps untouched_values s
      | false =>
          exact .inr ⟨m, _, rfl, hmatch, if_neg (Bool.not_eq_true _ ▸ hmatch),
            reselectDeeds_keeps untouched_values _⟩

/-- A withdrawal is dispatched on behalf of the route that it makes way for. -/
theorem dispatchesThrough_withdraw {dispatch : Action → Session → List (Deed Host)} {route : String}
    {s : Session} {m : Message} (hactive : (s.reduce (.setRoute route)).modal.active? = some m)
    (hmatch : m.stillMatchesRoute route = false) :
    (.withdraw m, s.reduce (.setRoute route)) ∈
      dispatchesThrough dispatch standard (.setRoute route) s := by
  have hhead : Passes [watching, errorReporting, accounting, activation, identityGuard]
      (.setRoute route) :=
    passes_cons rfl <| passes_cons rfl <| passes_cons rfl <| passes_cons rfl <|
      passes_cons rfl passes_nil
  have hselecting : deedsThrough dispatch [selecting, listening] (.setRoute route) s =
      landed (.setRoute route) := deedsThrough_forwardOnly rfl s
  have hsession : s.afterDeeds (landed (.setRoute route)) = s.reduce (.setRoute route) := rfl
  show _ ∈ dispatchesThrough dispatch ([watching, errorReporting, accounting, activation,
    identityGuard] ++ navigation :: [selecting, listening]) (.setRoute route) s
  rw [dispatchesThrough_passes hhead, dispatchesThrough, handle_navigation]
  simp only [Program.dispatches, hselecting, hsession, hactive, hmatch]
  simp [Program.dispatches]

end Pipeline

/-! ## Runs -/

section Runs

variable {V : Type} {r : Runner V Host} {a : Action} {before after : List (Deed Host)}
  {d : Deed Host}

/-- A deed that changes what is written off stores something. -/
theorem Runner.not_keepsValues (hkeeps : r.Keeps Host.values)
    (hchanged : (r.perform d).host.offText? k q ≠ r.host.offText? k q) :
    ¬ d.Keeps Host.values := by
  intro hd
  have hvalues : (r.performAll [d]).host.values = r.host.values :=
    performAll_keeps hkeeps (List.forall_mem_singleton.mpr hd)
  exact hchanged (Host.offText?_of_values hvalues)

namespace Pipeline

/-- The account of a display writes a queue id off by the last view that the rule allows. -/
theorem writesOff_display {m : Message} (habsent : r.host.offText? k q = none)
    (hoff : (r.perform (.act (countDisplay m))).host.offText? k q ≠ none) (levels : Nat) :
    WritesOff k q r.host ⟨levels, .display m, r.session⟩ ∧
      (r.perform (.act (countDisplay m))).host.offText? k q = some "true" := by
  rcases Host.offText?_countDisplay k q m r.session r.host with
    hsame | ⟨hm, htoken, ⟨cap, hrule, hlast⟩, htext⟩
  · exact absurd (hsame.trans habsent) hoff
  · exact ⟨.display hm htoken hrule hlast, htext⟩

/-- The account of a dismissal does so if the rule heeds it. -/
theorem writesOff_dismiss {m : Message} {log viaClose : Bool}
    (habsent : r.host.offText? k q = none)
    (hoff : (r.perform (.act (countDismissal m (log && viaClose)))).host.offText? k q ≠ none)
    (levels : Nat) :
    WritesOff k q r.host ⟨levels, .dismiss m log viaClose, r.session⟩ ∧
      (r.perform (.act (countDismissal m (log && viaClose)))).host.offText? k q =
        some "true" := by
  rcases Host.offText?_countDismissal k q m (log && viaClose) r.session r.host with
    hsame | ⟨hm, htoken, ⟨cap, hrule, hheeded⟩, hclosed, htext⟩
  · exact absurd (hsame.trans habsent) hoff
  · exact ⟨.dismiss hm htoken hrule hheeded fun hk => Bool.and_eq_true_iff.mp (hclosed hk), htext⟩

end Pipeline

/-- A deed in the course of an action writes a queue id off: a visit is at it, which does so by
the rule that is stored at the time. -/
structure WritesOffAt (k : StickyClass) (q : String) (r : Runner V Host) (a : Action)
    (before : List (Deed Host)) (d : Deed Host) (v : Visit) : Prop where
  visited : v ∈ visits standard maxDispatchDepth a r.session
  /-- The deed lies in the stretch of the visit's deeds. -/
  inside : ∃ earlier begun ended later, before = earlier ++ begun ∧
    v.session = r.session.afterDeeds earlier ∧ v.deeds standard = begun ++ d :: ended ∧
    deeds standard maxDispatchDepth a r.session = earlier ++ v.deeds standard ++ later
  writes : WritesOff k q (r.performAll before).host v
  /-- Nobody but the user writes a broadcast off. -/
  own : k = .broadcast → v = ⟨maxDispatchDepth, a, r.session⟩

/-- What an action from outside does by itself. -/
theorem WritesOffAt.of_self (hdeeds : deeds standard maxDispatchDepth a r.session =
      before ++ d :: after)
    (h : WritesOff k q (r.performAll before).host ⟨maxDispatchDepth, a, r.session⟩) :
    WritesOffAt k q r a before d ⟨maxDispatchDepth, a, r.session⟩ where
  visited := mem_visits_self standard maxDispatchDepth a r.session
  inside := ⟨[], before, after, [], rfl, rfl, hdeeds, (List.append_nil _).symm⟩
  writes := h
  own _ := rfl

/-- A change of route writes a queue id off by the withdrawal of a message that does not fit. -/
theorem Runner.visit_of_withdrawal {route : String}
    (hdeeds : deeds standard maxDispatchDepth (.setRoute route) r.session = before ++ d :: after)
    (hstores : ¬ d.Keeps Host.values) (habsent : (r.performAll before).host.offText? k q = none)
    (hoff : ((r.performAll before).perform d).host.offText? k q ≠ none) :
    ((r.performAll before).perform d).host.offText? k q = some "true" ∧
      ∃ v, WritesOffAt k q r (.setRoute route) before d v := by
  let s := r.session.reduce (.setRoute route)
  have hroute : deeds standard maxDispatchDepth (.setRoute route) r.session =
      landed (.setRoute route) ++ evaluateDeeds route s :=
    deeds_standard 59 (.setRoute route) r.session
  have hlands : ∀ d ∈ landed (.setRoute route), d.Keeps Host.values :=
    landed_keeps untouched_values.calledBack _
  rcases evaluateDeeds_cases route s with hnone | ⟨m, next, hactive, hmatch, hwithdraw, hnext⟩
  · have hmem : d ∈ landed (.setRoute route) ++ evaluateDeeds route s := by
      rw [← hroute, hdeeds]
      exact List.mem_append_right _ List.mem_cons_self
    exact absurd (List.forall_mem_append.mpr ⟨hlands, hnone⟩ d hmem) hstores
  · obtain ⟨rest, hdismiss, hrest⟩ := dismissDeeds_eq m false true s
    have hlist : (landed (.setRoute route) ++ [.act (logView (.dismiss m false true) m)]) ++
        .act (countDismissal m (false && true)) :: (rest ++ next) = before ++ d :: after := by
      rw [← hdeeds, hroute, hwithdraw, hdismiss]
      simp only [List.append_assoc, List.cons_append, List.nil_append]
    have hearlier := List.forall_mem_append.mpr
      ⟨hlands, logView_keepsValues (.dismiss m false true) m⟩
    obtain ⟨rfl, rfl, rfl⟩ := eq_of_not_keepsValues hearlier
      (List.forall_mem_append.mpr ⟨hrest, hnext⟩) hlist hstores
    obtain ⟨hwrites, htext⟩ := writesOff_dismiss habsent hoff 63
    have hvisit : Visit.deeds standard ⟨63, .withdraw m, s⟩ = dismissDeeds m false true s :=
      deeds_dismiss 59 m false true s
    refine ⟨htext, ⟨63, .withdraw m, s⟩, ?_, ?_, hwrites, ?_⟩
    · exact List.mem_cons_of_mem _ (List.mem_flatMap.mpr ⟨(.withdraw m, s),
        dispatchesThrough_withdraw hactive hmatch, mem_visits_self standard 63 _ s⟩)
    · refine ⟨landed (.setRoute route), _, rest, next, rfl, rfl, hvisit.trans hdismiss, ?_⟩
      rw [hvisit, List.append_assoc, ← hwithdraw]
      exact hroute
    · -- a broadcast is not written off by a dismissal that is not the user's own
      intro hk
      cases hwrites with
      | dismiss hm htoken hrule hheeded hclosed =>
          exact absurd (hclosed hk).1 Bool.false_ne_true

/-- **Whenever a deed writes a queue id off, a visit is at it that does so by the rule that is
stored**, and for a broadcast it is that of the action from outside. -/
theorem Runner.visit_of_writtenOff (hkeeps : r.Keeps Host.values)
    (hdeeds : deeds standard maxDispatchDepth a r.session = before ++ d :: after)
    (habsent : (r.performAll before).host.offText? k q = none)
    (hoff : ((r.performAll before).perform d).host.offText? k q ≠ none) :
    ((r.performAll before).perform d).host.offText? k q = some "true" ∧
      ∃ v, WritesOffAt k q r a before d v := by
  have hstores : ¬ d.Keeps Host.values := by
    refine not_keepsValues (keeps_performAll hkeeps before) (k := k) (q := q) ?_
    rw [habsent]
    exact hoff
  have hnothing : (∀ d ∈ actionDeeds a r.session, d.Keeps Host.values) → False := by
    intro hds
    have hmem : d ∈ deeds standard maxDispatchDepth a r.session :=
      hdeeds ▸ List.mem_append_right _ List.mem_cons_self
    exact hstores (hds d (deeds_standard 59 a r.session ▸ hmem))
  have hfollows : (∀ d ∈ actionDeeds a r.session, d.FollowsQueue) → False :=
    fun hds => hnothing fun d hd => (hds d hd).keeps untouched_values
  cases a with
  | display m =>
      have hlist := (deeds_standard 59 (.display m) r.session).symm.trans hdeeds
      obtain ⟨rfl, rfl, rfl⟩ := eq_of_not_keepsValues (logView_keepsValues (.display m) m)
        (guarded_keeps untouched_values (.display m) r.session) hlist hstores
      obtain ⟨hwrites, htext⟩ := writesOff_display habsent hoff maxDispatchDepth
      exact ⟨htext, _, .of_self hdeeds hwrites⟩
  | dismiss m log viaClose =>
      have hlist := (deeds_standard 59 (.dismiss m log viaClose) r.session).symm.trans hdeeds
      obtain ⟨rest, hdismiss, hrest⟩ := dismissDeeds_eq m log viaClose r.session
      obtain ⟨rfl, rfl, rfl⟩ := eq_of_not_keepsValues
        (logView_keepsValues (.dismiss m log viaClose) m) hrest (hdismiss.symm.trans hlist) hstores
      obtain ⟨hwrites, htext⟩ := writesOff_dismiss habsent hoff maxDispatchDepth
      exact ⟨htext, _, .of_self hdeeds hwrites⟩
  | setRoute route => exact visit_of_withdrawal hdeeds hstores habsent hoff
  | reportError text => exact (hfollows (reported_followsQueue text)).elim
  | load m position => exact (hfollows (loadDeeds_followsQueue m position _)).elim
  | processQueue messages => exact (hfollows (queueDeeds_followsQueue messages _)).elim
  | embed | clearQueue | tap | loadingFailed => exact (hnothing (guarded_keeps untouched_values _ _)).elim
  | _ => exact (hnothing (landed_keeps untouched_values.calledBack _)).elim

end Runs

end InAppMessaging
