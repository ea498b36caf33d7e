import InAppMessaging.Proofs.Pipeline.Acceptance

/-!
# Nobody known, nothing held

While nobody is known only preparations are committed, and those bring no message.  Somebody
stays known until a reset, and a reset clears all that is about messages.  So a session that
knows nobody holds none, whatever came before.

* `Session.blank_reduce` — an action that is accepted keeps it so;
* `Runner.handleAll_blank_of_unknown` — **a session that a run passes through is blank while
  nobody is known.**
-/

namespace InAppMessaging

open Pipeline

namespace Session

variable {s : Session} {a : Action} {q : String}

/-- A session without messages: none is queued, on a surface or remembered as shown, and realtime
updates are not in use. -/
structure Blank (s : Session) : Prop where
  queue : s.queue = .empty
  shown : s.shown = .empty
  modal : s.modal = .initial
  elements : s.inline = {}
  realtime : s.usesRealtime = false

/-- The first session holds nothing. -/
theorem blank_empty : ({} : Session).Blank := ⟨rfl, rfl, rfl, rfl, rfl⟩

/-- Preparations bring no message. -/
theorem Blank.reduce_preparation (h : s.Blank) (ha : isPreparation a = true)
    (hunknown : (s.reduce a).hasIdentity = false) : (s.reduce a).Blank := by
  have hrealtime := usesRealtime_of_no_identity hunknown
  obtain ⟨hqueue, hshown, hmodal, helements, -⟩ := h
  cases a with
  | reset sessionId => exact ⟨rfl, rfl, rfl, rfl, hrealtime⟩
  | initialise | setUser | setAnonymous | setRoute | setRealtime | setPollInterval
  | reportError => exact ⟨hqueue, hshown, hmodal, helements, hrealtime⟩
  | _ => exact absurd ha Bool.false_ne_true

/-- **An action that is accepted keeps it so.** -/
theorem blank_reduce (h : s.hasIdentity = false → s.Blank) (ha : s.Accepts a)
    (hunknown : (s.reduce a).hasIdentity = false) : (s.reduce a).Blank := by
  by_cases hreset : ∃ sessionId, a = .reset sessionId
  · obtain ⟨sessionId, rfl⟩ := hreset
    exact ⟨rfl, rfl, rfl, rfl, usesRealtime_of_no_identity hunknown⟩
  · have hbefore : s.hasIdentity = false := by
      cases hidentity : s.hasIdentity with
      | false => rfl
      | true =>
          have hstays := hasIdentity_reduce (fun sessionId hsame => hreset ⟨sessionId, hsame⟩)
            hidentity
          exact absurd (hunknown.symm.trans hstays) Bool.false_ne_true
    cases hpreparation : isPreparation a with
    | true => exact (h hbefore).reduce_preparation hpreparation hunknown
    | false => exact absurd (hbefore.symm.trans (ha.known hpreparation)) Bool.false_ne_true

/-- Along a log of what is accepted a session that knows nobody is blank. -/
theorem Along.blank {before log : List Action} (h : ({} : Session).Along Accepts log)
    (hpart : before <+: log) (hunknown : (({} : Session).reduceAll before).hasIdentity = false) :
    (({} : Session).reduceAll before).Blank :=
  h.keeps (I := fun s => s.hasIdentity = false → s.Blank)
    (fun _ _ hs ha => blank_reduce hs ha) (fun _ => blank_empty) hpart hunknown

/-- Whoever has something shown along such a log has an identity. -/
theorem Along.known_of_shown {before log : List Action} (h : ({} : Session).Along Accepts log)
    (hpart : before <+: log) (hshown : (({} : Session).reduceAll before).shown.contains q = true) :
    (({} : Session).reduceAll before).hasIdentity = true := by
  cases hidentity : (({} : Session).reduceAll before).hasIdentity with
  | true => rfl
  | false =>
      have hempty := (h.blank hpart hidentity).shown
      rw [hempty] at hshown
      exact absurd hshown Bool.false_ne_true

end Session

namespace Runner

variable {V : Type}

/-- **A session that knows nobody is blank.**  Every run from the first session passes through
the sessions that its log of commits makes.  Where one of them has neither a user id nor an
anonymous id, nothing is queued, nothing was shown, the modal surface was not used, no element
has a message, and realtime updates are not in use. -/
theorem handleAll_blank_of_unknown (subscribers : List (Subscriber V Host)) (host : Host)
    (actions : List Action) :
    let run := handleAll { session := {}, subscribers, host } actions
    run.session = ({} : Session).reduceAll run.committed.reverse ∧
    ∀ before, before <+: run.committed.reverse →
      (({} : Session).reduceAll before).userId = none →
      (({} : Session).reduceAll before).anonymousId = none →
        (({} : Session).reduceAll before).Blank := by
  obtain ⟨hsession, haccepted⟩ := log_handleAll subscribers host actions
  intro run
  refine ⟨hsession, fun before hpart huser hanonymous => ?_⟩
  exact haccepted.blank hpart (Session.hasIdentity_eq_false huser hanonymous)

/-- A banner is displayed and a coupon waits, and then the user is forgotten. -/
def adaForgotten : List Action :=
  [.setRealtime true, .setUser "ada", .display banner, .processQueue [coupon], .reset "next"]

/-- Before the reset there was something to clear. -/
theorem adaForgotten_blank :
    let run := handleAll ({ session := {}, host := {} } : Runner Unit Host) adaForgotten
    (∃ before, before <+: run.committed.reverse ∧
      let s := ({} : Session).reduceAll before
      s.queue.messages = [coupon] ∧ s.shown.contains "b" = true ∧
        s.modal = .displayed banner ∧ s.usesRealtime = true) ∧
      run.session.Blank := by
  obtain ⟨hsession, hblank⟩ :=
    handleAll_blank_of_unknown ([] : List (Subscriber Unit Host)) {} adaForgotten
  intro run
  refine ⟨⟨run.committed.reverse.dropLast, List.dropLast_prefix _, by decide +kernel⟩, ?_⟩
  rw [hsession]
  exact hblank _ List.prefix_rfl (by decide +kernel) (by decide +kernel)

end Runner

end InAppMessaging
