import InAppMessaging.Proofs.Pipeline.Blank
import InAppMessaging.Proofs.Selection.Characterization

/-!
# Shown messages are not selected again

What *spares* a queue id brings no message that has it.  A queue that meets a session where a
queue id was shown is processed without it, and the queue of a run always meets somebody who is
known, if anything was shown.

* `Pipeline.allSpare_queueDeeds_iff` — **which lists bring a queue id**;
* `Session.hasIdentity_of_mem_visitsAll` — whoever is passed with something shown is known;
* `Runner.handleAll_spares_shown` — **what was shown stays shown until a reset, and until then
  no queue brings it back**, whoever sends the queue.
-/

namespace InAppMessaging

open Pipeline

variable {q : String}

/-! ## Sparing a queue id -/

/-- A message does not have a queue id. -/
def Message.lacks (q : String) (m : Message) : Bool := m.queueId ≠ some q

theorem Message.lacks_iff {m : Message} : m.lacks q = true ↔ m.queueId ≠ some q :=
  decide_eq_true_iff

/-- An action brings no message with a queue id. -/
def Action.Spares (q : String) : Action → Prop := Action.Brings (Message.lacks q) (Message.lacks q)

/-- Deeds bring no message with a queue id. -/
def AllSpare (q : String) : List (Deed Host) → Prop :=
  AllBring (Message.lacks q) (Message.lacks q)

/-- A queue id that was shown is no candidate's. -/
theorem lacks_of_mem_candidates {s : Session} {ms : List Message}
    (h : s.shown.contains q = true) : ∀ m ∈ candidates ms s.shown, m.lacks q = true := by
  intro m hm
  refine Message.lacks_iff.mpr fun hq => ?_
  obtain ⟨k, hid, hfresh⟩ := exists_fresh_of_mem_candidates hm
  obtain rfl := Option.some.inj (hq.symm.trans hid)
  rw [h] at hfresh
  exact absurd hfresh (by decide)

/-! ## Lists that bring a queue id -/

/-- A list brings a queue id: it has a message with it, somebody is known, and the queue id was
not shown. -/
def Session.admits (q : String) (s : Session) (ms : List Message) : Bool :=
  s.hasIdentity && !s.shown.contains q && ms.any fun m => !m.lacks q

section Admitting

variable {s : Session} {ms : List Message}

/-- Where somebody is known, a list that does not bring a queue id has no candidate with it. -/
theorem lacks_of_not_admits (hidentity : s.hasIdentity = true) (h : s.admits q ms = false) :
    ∀ m ∈ candidates ms s.shown, m.lacks q = true := by
  intro m hm
  unfold Session.admits at h
  rw [hidentity, Bool.true_and, Bool.and_eq_false_iff, Bool.not_eq_false'] at h
  obtain hshown | hlacks := h
  · exact lacks_of_mem_candidates hshown m hm
  · have hnot := List.any_eq_false.mp hlacks m (mem_candidates hm)
    rwa [Bool.not_eq_true', Bool.not_eq_false] at hnot

/-- A list that brings a queue id has a candidate with it, the first such message of the list. -/
theorem exists_candidate_of_admits (h : s.admits q ms = true) :
    ∃ m ∈ candidates ms s.shown, m.lacks q = false := by
  unfold Session.admits at h
  obtain ⟨hopen, hlist⟩ := Bool.and_eq_true_iff.mp h
  have hshown := (Bool.and_eq_true_iff.mp hopen).2
  have hsome : (ms.find? fun m => !m.lacks q).isSome = true :=
    List.find?_isSome.mpr (List.any_eq_true.mp hlist)
  obtain ⟨m, hfound⟩ := Option.isSome_iff_exists.mp hsome
  have hlacks : m.lacks q = false := by
    simpa using List.find?_some hfound
  refine ⟨m, mem_candidates_iff.mpr ⟨q, ?_, ?_⟩, hlacks⟩
  · rwa [Bool.not_eq_true'] at hshown
  · refine (IsFirst.congr fun other => ?_).mp (find?_eq_some_iff_isFirst.mp hfound)
    unfold Message.lacks
    simp

namespace Pipeline

/-- A list that does not bring a queue id brings no message with it. -/
theorem queueDeeds_spare {up : Message → Bool} (hmay : ∀ m, m.lacks q = true → up m = true)
    (h : s.admits q ms = false) : AllBring up (Message.lacks q) (queueDeeds ms s) := by
  cases hidentity : s.hasIdentity with
  | true => exact queueDeeds_bring hmay (lacks_of_not_admits hidentity h)
  | false =>
      unfold queueDeeds
      rw [guarded_of_none hidentity]
      exact reported_bring up (Message.lacks q) _

/-- A list that is not empty is committed as its candidates, where somebody is known. -/
theorem commit_candidates (hidentity : s.hasIdentity = true) (hms : ms ≠ []) :
    .commit (.processQueue (candidates ms s.shown)) ∈ queueDeeds ms s := by
  unfold queueDeeds
  rw [guarded_of_identity hidentity, if_neg (by simpa using hms)]
  exact List.mem_append_left _ List.mem_cons_self

/-- **Which lists bring a queue id.** -/
theorem allSpare_queueDeeds_iff : AllSpare q (queueDeeds ms s) ↔ s.admits q ms = false := by
  refine ⟨fun hspare => Bool.eq_false_iff.mpr fun h => ?_, queueDeeds_spare fun _ hm => hm⟩
  obtain ⟨m, hm, hlacks⟩ := exists_candidate_of_admits h
  have hidentity := (Bool.and_eq_true_iff.mp (Bool.and_eq_true_iff.mp h).1).1
  have hms : ms ≠ [] := List.ne_nil_of_mem (mem_candidates hm)
  have hbrings : m.lacks q = true := hspare _ (commit_candidates hidentity hms) m hm
  rw [hlacks] at hbrings
  exact absurd hbrings Bool.false_ne_true

end Pipeline

end Admitting

/-! ## Along a run -/

namespace Session

variable {s : Session}

/-- What was shown stays shown through commits without a reset. -/
theorem shown_reduceAll (h : s.shown.contains q = true) {actions : List Action}
    (hkeep : ∀ sessionId, .reset sessionId ∉ actions) :
    (s.reduceAll actions).shown.contains q = true := by
  refine reduceAll_keeps (I := fun s => s.shown.contains q = true)
    (fun _ _ hs ha => shown_reduce hs ha) h fun a ha sessionId hreset => ?_
  exact hkeep sessionId (hreset ▸ ha)

/-- **Whoever is passed with something shown has an identity.** -/
theorem hasIdentity_of_mem_visitsAll {actions : List Action} {v : Visit}
    (hv : v ∈ ({} : Session).visitsAll actions) (hshown : v.session.shown.contains q = true) :
    v.session.hasIdentity = true := by
  obtain ⟨before, after, hdeeds, hsession⟩ := visitsAll_within _ _ _ hv
  have haccepted : ({} : Session).Along Accepts (commits (({} : Session).deedsAll actions)) :=
    accepted_deedsAll {} actions
  have hpart : commits before <+: commits (({} : Session).deedsAll actions) := by
    rw [hdeeds, commits_append, commits_append, List.append_assoc]
    exact List.prefix_append _ _
  rw [hsession, afterDeeds_eq] at hshown ⊢
  exact haccepted.known_of_shown hpart hshown

end Session

/-! ## The main result -/

/-- With an identity a queue is committed. -/
theorem Pipeline.commit_queueDeeds {s : Session} (h : s.hasIdentity = true)
    (messages : List Message) : ∃ queue, .processQueue queue ∈ commits (queueDeeds messages s) := by
  unfold queueDeeds
  rw [guarded_of_identity h]
  split
  · exact ⟨_, List.mem_cons_self⟩
  · exact ⟨_, List.mem_cons_self⟩

/-- **A queue is committed without what was shown.** -/
theorem Pipeline.commit_queueDeeds_spares {s : Session} {q : String} {messages : List Message}
    (hidentity : s.hasIdentity = true) (hshown : s.shown.contains q = true) :
    ∃ queue, .processQueue queue ∈ commits (queueDeeds messages s) ∧
      ∀ m ∈ queue, m.queueId ≠ some q := by
  obtain ⟨queue, hcommit⟩ := commit_queueDeeds hidentity messages
  have hbring : (Action.processQueue queue).Spares q :=
    queueDeeds_bring (fun _ hm => hm) (lacks_of_mem_candidates hshown) _ (mem_commits.mp hcommit)
  exact ⟨queue, hcommit, fun m hm => Message.lacks_iff.mp (hbring m hm)⟩

namespace Runner

variable {V : Type}

/-- **Shown messages stay shown and are not selected again.**  Every run from the first session
passes through the sessions that its log of commits makes, and a queue id that was shown in one
of them is shown in every later one until a reset.  Whenever a queue enters the pipeline while a
queue id is shown, from outside or by a dispatch, it meets a session of the log of commits, and
there it is processed without any message that has the queue id: one is neither committed into
the queue, nor presented, loaded or embedded, nor is its loading or embedding as much as
dispatched; and the queue is committed. -/
theorem handleAll_spares_shown (subscribers : List (Subscriber V Host)) (host : Host)
    (actions : List Action) (q : String) :
    let run := handleAll { session := {}, subscribers, host } actions
    let log := run.committed.reverse
    run.session = ({} : Session).reduceAll log ∧
    (∀ before after, before ++ after <+: log → (∀ sessionId, .reset sessionId ∉ after) →
      (({} : Session).reduceAll before).shown.contains q = true →
        (({} : Session).reduceAll (before ++ after)).shown.contains q = true) ∧
    (∀ v ∈ ({} : Session).visitsAll actions, ∀ messages, v.action = .processQueue messages →
      v.session.shown.contains q = true →
        (∃ before after, log = before ++ commits (v.deeds standard) ++ after ∧
          v.session = ({} : Session).reduceAll before) ∧
        AllSpare q (v.deeds standard) ∧
        (∀ w ∈ v.nested standard, w.action.Spares q) ∧
        ∃ queue, .processQueue queue ∈ commits (v.deeds standard) ∧
          ∀ m ∈ queue, m.queueId ≠ some q) := by
  have hlog : (handleAll { session := {}, subscribers, host } actions).committed.reverse =
      commits (({} : Session).deedsAll actions) := by
    rw [handleAll_eq, performAll_committed]
    rfl
  intro run log
  refine ⟨?_, fun before after _ hkeep hshown => ?_, fun v hv messages hqueue hshown => ?_⟩
  · show (handleAll { session := {}, subscribers, host } actions).session = _
    rw [handleAll_eq, performAll_session, Session.afterDeeds_eq]
    exact congrArg _ hlog.symm
  · rw [Session.reduceAll_append]
    exact Session.shown_reduceAll hshown hkeep
  · obtain ⟨levels, action, s⟩ := v
    dsimp only at hqueue hshown
    subst hqueue
    have hspare : ∀ m ∈ candidates messages s.shown, m.lacks q = true :=
      lacks_of_mem_candidates hshown
    obtain ⟨before, after, hdeeds, hsession⟩ := Session.visitsAll_within _ _ _ hv
    have hlevels : 3 ≤ levels := Session.depth_le_of_mem_visitsAll _ hv
    obtain ⟨more, rfl⟩ : ∃ more, levels = more + 3 := ⟨levels - 3, by omega⟩
    have hown : Visit.deeds standard ⟨more + 3, .processQueue messages, s⟩ =
        queueDeeds messages s := deeds_processQueue more messages s
    have hidentity : s.hasIdentity = true := Session.hasIdentity_of_mem_visitsAll hv hshown
    refine ⟨⟨commits before, commits after, ?_, ?_⟩, ?_, ?_, ?_⟩
    · show (handleAll { session := {}, subscribers, host } actions).committed.reverse = _
      rw [hlog, hdeeds, commits_append, commits_append]
    · rw [← Session.afterDeeds_eq]
      exact hsession
    · rw [hown]
      exact queueDeeds_bring (fun _ hm => hm) hspare
    · exact nested_processQueue_bring hspare _
    · rw [hown]
      exact commit_queueDeeds_spares hidentity hshown

/-- A banner is displayed, and the catalog lists it once more. -/
def bannerTwice : List Action :=
  [.setUser "ada", .processQueue [banner], .display banner, .processQueue [banner, coupon]]

/-- The second time only the coupon is queued. -/
theorem bannerTwice_spared :
    ∃ v ∈ ({} : Session).visitsAll bannerTwice, v.action = .processQueue [banner, coupon] ∧
      v.session.shown.contains "b" = true ∧ AllSpare "b" (v.deeds standard) ∧
      commits (v.deeds standard) = [.processQueue [coupon]] := by
  have hv := ({} : Session).mem_visitsAll [.setUser "ada", .processQueue [banner], .display banner]
    (.processQueue [banner, coupon]) []
  obtain ⟨-, -, hqueues⟩ := handleAll_spares_shown ([] : List (Subscriber Unit Host)) {}
    bannerTwice "b"
  obtain ⟨-, hspare, -, -⟩ := hqueues _ hv [banner, coupon] rfl (by decide +kernel)
  exact ⟨_, hv, rfl, by decide +kernel, hspare, by decide +kernel⟩

end Runner

end InAppMessaging
