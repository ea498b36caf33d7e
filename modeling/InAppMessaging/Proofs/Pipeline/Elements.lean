import InAppMessaging.Proofs.Pipeline.Carrying

/-!
# Elements along a run

A run from the first session passes through the sessions that its log of commits makes.  In all
of them every entry is under its own element exactly if none of the commits strays, and none
does if every queue id has one home: one element that all messages from outside with that queue
id are meant for, if they are meant for any.

* `Session.not_strays_of_home` — where queue ids have a home, no action strays;
* `Runner.handleAll_sited_iff` — **when entries sit under their elements, and which element a
  settled message changes.**
-/

namespace InAppMessaging

open Pipeline

/-- If a message has a queue id and an element, then the element is the home of the queue id. -/
def Message.livesIn (home : String → String) (m : Message) : Bool :=
  match m.queueId, m.delivery.elementId with
  | some queueId, some elementId => elementId = home queueId
  | _, _ => true

theorem Message.element_of_livesIn {home : String → String} {m : Message}
    (h : m.livesIn home = true) {queueId elementId : String} (hid : m.queueId = some queueId)
    (helement : m.delivery.elementId = some elementId) : elementId = home queueId := by
  unfold livesIn at h
  rw [hid, helement] at h
  exact of_decide_eq_true h

namespace Session

variable {s : Session} {a : Action} {home : String → String}

/-- **Where queue ids have a home no action strays**: what holds the queue id is at home, and so
is the message that is settled. -/
theorem not_strays_of_home (hsited : s.inline.Sited) (hs : s.Only (Message.livesIn home))
    (ha : a.Carries (Message.livesIn home)) : ¬ s.Strays a := by
  rintro ⟨m, state, elementId, queueId, holder, hsettled, helement, hid, hholder, hne⟩
  obtain ⟨held, hheld, hheldId⟩ := InlineSurfaces.find?_of_holder? hholder
  have hheldElement := (hsited holder held hheld).message
  have hholderHome : holder = home queueId :=
    Message.element_of_livesIn (hs.elements holder held hheld) hheldId hheldElement
  have hlives := ha.about m (Action.message?_of_settled hsettled).1
  have hhome : elementId = home queueId := Message.element_of_livesIn hlives hid helement
  exact hne (hholderHome.trans hhome.symm)

/-- Along a log whose queue ids have a home every entry stays under its element. -/
theorem sited_reduceAll_of_home (hsited : s.inline.Sited) (hs : s.Only (Message.livesIn home))
    {log : List Action} (hlog : ∀ a ∈ log, a.Carries (Message.livesIn home)) :
    (s.reduceAll log).inline.Sited := by
  have hboth : (s.reduceAll log).inline.Sited ∧ (s.reduceAll log).Only (Message.livesIn home) := by
    refine reduceAll_keeps (I := fun s => s.inline.Sited ∧ s.Only (Message.livesIn home))
      (fun s a hs ha => ⟨?_, hs.2.reduce ha⟩) ⟨hsited, hs⟩ hlog
    exact (sited_reduce_iff hs.1 a).mpr (not_strays_of_home hs.1 hs.2 ha)
  exact hboth.1

end Session

namespace Runner

variable {V : Type}

/-- **When entries sit under their elements.**  Every run from the first session passes through
the sessions that its log of commits makes.  In all of these every entry is under its own
element exactly if no commit strays, which is so if every queue id of the actions from outside
has one home.  An action that settles a message for an element changes the first holder of its
queue id, and no other element. -/
theorem handleAll_sited_iff (subscribers : List (Subscriber V Host)) (host : Host)
    (actions : List Action) :
    let run := handleAll { session := {}, subscribers, host } actions
    let log := run.committed.reverse
    run.session = ({} : Session).reduceAll log ∧
    ((∀ before, before <+: log → (({} : Session).reduceAll before).inline.Sited) ↔
      ∀ before a, before ++ [a] <+: log → ¬ (({} : Session).reduceAll before).Strays a) ∧
    (∀ home, (∀ a ∈ actions, a.Carries (Message.livesIn home)) →
      ∀ before, before <+: log → (({} : Session).reduceAll before).inline.Sited) ∧
    (∀ before a, before ++ [a] <+: log → ∀ m state elementId queueId,
      a.settled? = some (m, state) → m.delivery.elementId = some elementId →
      m.queueId = some queueId → ∀ other,
        (({} : Session).reduceAll (before ++ [a])).inline.find? other =
          if (({} : Session).reduceAll before).inline.holder? queueId = some other then
            some (state elementId)
          else (({} : Session).reduceAll before).inline.find? other) := by
  have hempty : ({} : Session).inline.Sited := InlineSurfaces.every_empty _
  have hlog : (handleAll { session := {}, subscribers, host } actions).committed.reverse =
      commits (({} : Session).deedsAll actions) :=
    committed_handleAll { session := {}, subscribers, host } actions
  have hsession := session_handleAll { session := {}, subscribers, host } actions
  rw [← hlog] at hsession
  intro run log
  refine ⟨hsession, Session.sited_reduceAll_iff hempty log, ?_, ?_⟩
  · intro home hactions before hpart
    have hfirst : ({} : Session).Only (Message.livesIn home) := Session.only_empty _
    have hcarry := (Session.deedsAll_carry hfirst hactions).commits
    rw [← hlog] at hcarry
    exact Session.sited_reduceAll_of_home hempty hfirst fun a ha =>
      hcarry a (hpart.subset ha)
  · intro before a _ m state elementId queueId hsettled helement hid other
    rw [Session.reduceAll_append]
    exact Session.find?_reduce_of_settled _ hsettled helement hid other

/-- A tip for an element. -/
def tipFor (elementId : String) : Message :=
  { id := "tip", queueId := some "t", delivery := { elementId := some elementId } }

/-- The catalog moves the tip from one element to another, where it is displayed. -/
def tipMoved : List Action :=
  [.setUser "ada", .processQueue [tipFor "left"], .processQueue [tipFor "right"],
    .display (tipFor "right")]

/-- The element on the left is said to show the tip on the right, so a commit strayed. -/
theorem tipMoved_strays :
    let run := handleAll ({ session := {}, host := {} } : Runner Unit Host) tipMoved
    run.session.inline.find? "left" = some (.embedded (tipFor "right") "right") ∧
      ¬ ∀ before a, before ++ [a] <+: run.committed.reverse →
        ¬ (({} : Session).reduceAll before).Strays a := by
  obtain ⟨hsession, hsited, -, -⟩ :=
    handleAll_sited_iff ([] : List (Subscriber Unit Host)) {} tipMoved
  intro run
  have hleft : run.session.inline.find? "left" = some (.embedded (tipFor "right") "right") := by
    decide +kernel
  refine ⟨hleft, fun hstays => ?_⟩
  have hall := hsited.mpr hstays _ List.prefix_rfl
  rw [← hsession] at hall
  have hmessage := (hall "left" _ hleft).message
  exact absurd hmessage (by decide)

end Runner

end InAppMessaging
