import InAppMessaging.Proofs.Store.Visits

/-!
# Running actions one call at a time

`Runner.process` nests dispatches, forwards and stages as its recursion does, and counts down the
levels that are left.  The machine here keeps what is begun and not finished on a stack of calls,
and counts how many dispatches are under way: a dispatch is dropped when there are as many as may
nest, and takes itself off the count when it returns.  Every moment of a run can be looked at.

* `CallStack.Path.determined` — a machine has one way to go;
* `CallStack.resume_carries`, `CallStack.pass_carries`, `CallStack.dispatch_carries` — **the
  machine computes what `Runner.execute`, `Runner.run` and `Runner.process` compute**, whatever is
  on the stack below;
* `CallStack.inbox_path` — actions from outside, one after another;
* `CallStack.dispatch_account` — **every dispatch returns, at the depth it began, and what is
  dispatched, dropped, failed and committed on the way is accounted for.**
-/

namespace InAppMessaging

variable {V H : Type}

/-- What a program comes to that has nothing left to do. -/
def Program.ending : Option (List String) → Program H
  | none => .done
  | some causes => .fail causes

/-! ## Calls -/

/-- Something that is begun and not finished, or about to begin. -/
inductive Call (H : Type) where
  | dispatch (a : Action)
  | pass (stages : List (Stage H)) (a : Action)
  | resume (stage : Stage H) (behind : List (Stage H)) (a : Action) (rest : Program H)
  | finish

namespace Call

/-- The action a dispatch takes up. -/
def taken : Call H → List Action
  | .dispatch a => [a]
  | _ => []

/-- The action a program asks to have dispatched next.  One that fails asks for a report, unless
it was handling one. -/
def asked : Call H → List Action
  | .resume _ _ _ (.dispatch b _) => [b]
  | .resume stage _ a (.fail causes) =>
      if a.isErrorReport then []
      else [.reportError (stage.name ++ ": " ++ failureText causes)]
  | _ => []

/-- A stage's program fails. -/
def fails : Call H → Bool
  | .resume _ _ _ (.fail _) => true
  | _ => false

/-- A dispatch is under way. -/
def isFinish : Call H → Bool
  | .finish => true
  | _ => false

end Call

/-- How many dispatches are under way. -/
def nesting (calls : List (Call H)) : Nat := calls.countP Call.isFinish

/-- The machine at a moment: the runner, the count of dispatches under way, and the calls, the
one to go on with first. -/
@[ext] structure CallStack (V H : Type) where
  runner : Runner V H
  depth : Nat
  calls : List (Call H)

namespace CallStack

/-- What the dispatch that is about to begin takes up, if one is. -/
def taken (m : CallStack V H) : List Action := m.calls.head?.elim [] Call.taken

/-- What is asked to be dispatched next, if anything is. -/
def asked (m : CallStack V H) : List Action := m.calls.head?.elim [] Call.asked

/-- A stage's program is about to fail. -/
def fails (m : CallStack V H) : Bool := m.calls.head?.any Call.fails

variable [ErrorLog H] {stages : List (Stage H)}

/-- Goes on with a call that stood above others. -/
def advance (stages : List (Stage H)) (r : Runner V H) (depth : Nat) (below : List (Call H)) :
    Call H → CallStack V H
  | .dispatch a =>
      if maxDispatchDepth ≤ depth then ⟨r.logError depthExceededText, depth, below⟩
      else ⟨r, depth + 1, .pass stages a :: .finish :: below⟩
  | .finish => ⟨r, depth - 1, below⟩
  | .pass [] a => ⟨r.commit a, depth, below⟩
  | .pass (stage :: behind) a =>
      ⟨r, depth, .resume stage behind a (stage.handle a) :: below⟩
  | .resume _ _ _ .done => ⟨r, depth, below⟩
  | .resume stage _ a (.fail causes) =>
      let r := { r with failures := r.failures + 1 }
      if a.isErrorReport then
        ⟨r.logError ("failed while reporting an error: " ++ failureText causes), depth, below⟩
      else ⟨r, depth, .dispatch (.reportError (stage.name ++ ": " ++ failureText causes)) :: below⟩
  | .resume stage behind a (.read next) =>
      ⟨r, depth, .resume stage behind a (next r.session) :: below⟩
  | .resume stage behind a (.act effect next) =>
      ⟨r.act effect, depth, .resume stage behind a next :: below⟩
  | .resume stage behind a (.dispatch b next) =>
      ⟨r, depth, .dispatch b :: .resume stage behind a next :: below⟩
  | .resume stage behind a (.forward b next) =>
      ⟨r, depth, .pass behind b :: .resume stage behind a next :: below⟩

/-- The next moment, as long as there is a call to go on with. -/
def step (stages : List (Stage H)) (m : CallStack V H) : Option (CallStack V H) :=
  match m.calls with
  | [] => none
  | call :: below => some (advance stages m.runner m.depth below call)

/-- The machine goes from one moment to another, through the moments listed, the first included
and the last not. -/
inductive Path (stages : List (Stage H)) :
    CallStack V H → List (CallStack V H) → CallStack V H → Prop
  | nil (m : CallStack V H) : Path stages m [] m
  | cons {m next finish : CallStack V H} {passed : List (CallStack V H)}
      (hstep : m.step stages = some next) (tail : Path stages next passed finish) :
      Path stages m (m :: passed) finish

namespace Path

variable {m start mid finish : CallStack V H} {passed before after : List (CallStack V H)}

theorem trans (h : Path stages start before mid) (h' : Path stages mid after finish) :
    Path stages start (before ++ after) finish := by
  induction h with
  | nil m => exact h'
  | cons hstep tail ih => exact .cons hstep (ih h')

/-- A path can be entered at each of its moments. -/
theorem from_mid (h : Path stages start (before ++ m :: after) finish) :
    Path stages m (m :: after) finish := by
  induction before generalizing start with
  | nil =>
      cases h with
      | cons hstep tail => exact .cons hstep tail
  | cons first rest ih =>
      cases h with
      | cons hstep tail => exact ih tail

/-- What comes after a moment is its next moment. -/
theorem head_next (h : Path stages start (m :: after) finish) :
    (after ++ [finish]).head? = m.step stages := by
  cases h with
  | cons hstep tail =>
      rw [hstep]
      cases tail <;> rfl

/-- A machine has one way to go: of two paths from one moment, one goes through the end of the
other. -/
theorem determined (h : Path stages start before mid) (h' : Path stages start after finish) :
    mid ∈ after ++ [finish] ∨ finish ∈ before := by
  induction h generalizing after with
  | nil m =>
      left
      cases h' with
      | nil => exact List.mem_singleton_self _
      | cons hstep tail => exact List.mem_cons_self
  | cons hstep tail ih =>
      cases h' with
      | nil => exact .inr List.mem_cons_self
      | cons hstep' tail' =>
          obtain rfl := Option.some.inj (hstep.symm.trans hstep')
          rcases ih tail' with hmid | hfinish
          · exact .inl (List.mem_cons_of_mem _ hmid)
          · exact .inr (List.mem_cons_of_mem _ hfinish)

end Path

/-! ## What one step changes -/

section Advance

variable (stages : List (Stage H)) (r : Runner V H) (depth : Nat) (below : List (Call H))

/-- One dispatch too many is dropped. -/
theorem advance_dropped (h : maxDispatchDepth ≤ depth) (a : Action) :
    advance stages r depth below (.dispatch a) =
      ⟨r.logError depthExceededText, depth, below⟩ := if_pos h

/-- A dispatch that may nest is counted, and takes itself off the count when it is finished. -/
theorem advance_entered (h : depth < maxDispatchDepth) (a : Action) :
    advance stages r depth below (.dispatch a) =
      ⟨r, depth + 1, .pass stages a :: .finish :: below⟩ := if_neg (Nat.not_le.mpr h)

/-- A stage that fails on a report has its failure logged. -/
theorem advance_logged {a : Action} (h : a.isErrorReport = true) (stage : Stage H)
    (behind : List (Stage H)) (causes : List String) :
    advance stages r depth below (.resume stage behind a (.fail causes)) =
      ⟨{ r with failures := r.failures + 1 }.logError
        ("failed while reporting an error: " ++ failureText causes), depth, below⟩ := if_pos h

/-- A stage that fails on anything else has its failure reported. -/
theorem advance_reported {a : Action} (h : a.isErrorReport = false) (stage : Stage H)
    (behind : List (Stage H)) (causes : List String) :
    advance stages r depth below (.resume stage behind a (.fail causes)) =
      ⟨{ r with failures := r.failures + 1 }, depth,
        .dispatch (.reportError (stage.name ++ ": " ++ failureText causes)) :: below⟩ :=
  if_neg (Bool.eq_false_iff.mp h)

/-- One step counts a failure if a program fails, and only then. -/
theorem advance_failures (call : Call H) :
    (advance stages r depth below call).runner.failures =
      r.failures + if call.fails then 1 else 0 := by
  cases call with
  | dispatch a =>
      by_cases h : maxDispatchDepth ≤ depth
      · rw [advance_dropped stages r depth below h]
        rfl
      · rw [advance_entered stages r depth below (Nat.lt_of_not_le h)]
        rfl
  | finish => rfl
  | pass behind a => cases behind <;> rfl
  | resume stage behind a p =>
      cases p with
      | fail causes =>
          cases h : a.isErrorReport with
          | true =>
              rw [advance_logged stages r depth below h]
              rfl
          | false =>
              rw [advance_reported stages r depth below h]
              rfl
      | done => rfl
      | read next => rfl
      | act effect next => rfl
      | dispatch b next => rfl
      | forward b next => rfl

/-- One step commits an action at most, and changes the session with it. -/
theorem advance_committed (call : Call H) :
    ∃ log, (advance stages r depth below call).runner.committed.reverse =
        r.committed.reverse ++ log ∧
      (advance stages r depth below call).runner.session = r.session.reduceAll log := by
  have hsame {r' : Runner V H} (hcommitted : r'.committed = r.committed)
      (hsession : r'.session = r.session) : ∃ log,
      r'.committed.reverse = r.committed.reverse ++ log ∧
        r'.session = r.session.reduceAll log :=
    ⟨[], by rw [hcommitted, List.append_nil], hsession⟩
  cases call with
  | dispatch a =>
      by_cases h : maxDispatchDepth ≤ depth
      · rw [advance_dropped stages r depth below h]
        exact hsame rfl rfl
      · rw [advance_entered stages r depth below (Nat.lt_of_not_le h)]
        exact hsame rfl rfl
  | finish => exact hsame rfl rfl
  | pass behind a =>
      cases behind with
      | nil => exact ⟨[a], List.reverse_cons, rfl⟩
      | cons stage behind => exact hsame rfl rfl
  | resume stage behind a p =>
      cases p with
      | fail causes =>
          cases h : a.isErrorReport with
          | true =>
              rw [advance_logged stages r depth below h]
              exact hsame rfl rfl
          | false =>
              rw [advance_reported stages r depth below h]
              exact hsame rfl rfl
      | done => exact hsame rfl rfl
      | read next => exact hsame rfl rfl
      | act effect next => exact hsame rfl rfl
      | dispatch b next => exact hsame rfl rfl
      | forward b next => exact hsame rfl rfl

end Advance

/-! ## What a path changes -/

/-- A step goes on with the first call. -/
theorem step_eq_some {m next : CallStack V H} (h : m.step stages = some next) :
    ∃ call below, m.calls = call :: below ∧ next = advance stages m.runner m.depth below call := by
  obtain ⟨r, depth, calls⟩ := m
  cases calls with
  | nil => exact nomatch h
  | cons call below => exact ⟨call, below, rfl, (Option.some.inj h).symm⟩

namespace Path

variable {m start finish : CallStack V H} {passed : List (CallStack V H)}

/-- What comes after a moment is what its first call comes to. -/
theorem next {before after : List (CallStack V H)} {call : Call H} {below : List (Call H)}
    (h : Path stages start passed finish) (hpassed : passed = before ++ m :: after)
    (hcalls : m.calls = call :: below) :
    (after ++ [finish]).head? = some (advance stages m.runner m.depth below call) := by
  rw [hpassed] at h
  rw [h.from_mid.head_next, step, hcalls]

/-- Every failing program is counted once, and nothing else is. -/
theorem failures (h : Path stages start passed finish) :
    finish.runner.failures = start.runner.failures + passed.countP fails := by
  induction h with
  | nil m => rfl
  | @cons m next finish passed hstep tail ih =>
      obtain ⟨call, below, hcalls, rfl⟩ := step_eq_some hstep
      have hfails : m.fails = call.fails := by
        unfold CallStack.fails
        rw [hcalls]
        rfl
      rw [ih, advance_failures, List.countP_cons, hfails]
      omega

/-- What is committed stays committed, and the session changes by the commits that follow. -/
theorem committed (h : Path stages start passed finish) :
    ∃ log, finish.runner.committed.reverse = start.runner.committed.reverse ++ log ∧
      finish.runner.session = start.runner.session.reduceAll log := by
  induction h with
  | nil m => exact ⟨[], (List.append_nil _).symm, rfl⟩
  | @cons m next finish passed hstep tail ih =>
      obtain ⟨call, below, hcalls, rfl⟩ := step_eq_some hstep
      obtain ⟨first, hfirst, hsession⟩ :=
        advance_committed stages m.runner m.depth below call
      obtain ⟨later, hlater, hfinish⟩ := ih
      refine ⟨first ++ later, ?_, ?_⟩
      · rw [hlater, hfirst, List.append_assoc]
      · rw [hfinish, hsession, Session.reduceAll_append]

end Path

/-! ## What is carried out above a stack -/

/-- The machine works on calls above others, and has as many dispatches under way as there are
among them, beyond those that were under way before. -/
def Above (depth : Nat) (below : List (Call H)) (m : CallStack V H) : Prop :=
  ∃ calls, calls ≠ [] ∧ m.calls = calls ++ below ∧ m.depth = depth + nesting calls ∧
    m.depth ≤ max depth maxDispatchDepth

/-- Whatever stands below them, some calls take a runner to another one and leave others, at the
depth at which they began; and what is dispatched on the way is what was waiting to be, and then
what was asked for, one by one. -/
def Carries (stages : List (Stage H)) (depth : Nat) (waiting : List Action) (r : Runner V H)
    (calls : List (Call H)) (r' : Runner V H) (calls' : List (Call H)) : Prop :=
  ∀ below, ∃ passed,
    Path stages ⟨r, depth, calls ++ below⟩ passed ⟨r', depth, calls' ++ below⟩ ∧
      (∀ m ∈ passed, m.Above depth below) ∧
      passed.flatMap taken = waiting ++ passed.flatMap asked

namespace Carries

variable {depth : Nat} {waiting : List Action} {r r' r'' : Runner V H}
  {calls calls' calls'' : List (Call H)}

theorem refl (r : Runner V H) (calls : List (Call H)) :
    Carries stages depth [] r calls r calls :=
  fun _ => ⟨[], .nil _, fun _ hm => absurd hm List.not_mem_nil, rfl⟩

theorem trans (h : Carries stages depth waiting r calls r' calls')
    (h' : Carries stages depth [] r' calls' r'' calls'') :
    Carries stages depth waiting r calls r'' calls'' := by
  intro below
  obtain ⟨first, hfirst, habove, htaken⟩ := h below
  obtain ⟨later, hlater, habove', htaken'⟩ := h' below
  refine ⟨first ++ later, hfirst.trans hlater, List.forall_mem_append.mpr ⟨habove, habove'⟩, ?_⟩
  rw [List.flatMap_append, List.flatMap_append, htaken, htaken', List.nil_append,
    List.append_assoc]

/-- One step that stays at its depth, and then the rest. -/
theorem cons {call : Call H} {waiting' : List Action}
    (hadvance : ∀ below, advance stages r depth below call = ⟨r', depth, calls' ++ below⟩)
    (hfinish : call.isFinish = false) (htaken : call.taken ++ waiting' = waiting ++ call.asked)
    (h : Carries stages depth waiting' r' calls' r'' calls'') :
    Carries stages depth waiting r [call] r'' calls'' := by
  intro below
  obtain ⟨later, hlater, habove, hlaterTaken⟩ := h below
  have hstep : step stages ⟨r, depth, call :: below⟩ = some ⟨r', depth, calls' ++ below⟩ :=
    congrArg some (hadvance below)
  have hfirst : Above depth below ⟨r, depth, call :: below⟩ := by
    refine ⟨[call], List.cons_ne_nil _ _, rfl, ?_, Nat.le_max_left _ _⟩
    simp only [nesting, List.countP_cons, List.countP_nil, hfinish, Bool.false_eq_true, if_false,
      Nat.add_zero]
  refine ⟨_ :: later, .cons hstep hlater, List.forall_mem_cons.mpr ⟨hfirst, habove⟩, ?_⟩
  show call.taken ++ later.flatMap taken = waiting ++ (call.asked ++ later.flatMap asked)
  rw [hlaterTaken, ← List.append_assoc, htaken, List.append_assoc]

/-- What is carried out above some calls is carried out above one more. -/
theorem above (h : Carries stages depth waiting r calls r' calls') {call : Call H}
    (hfinish : call.isFinish = false) :
    Carries stages depth waiting r (calls ++ [call]) r' (calls' ++ [call]) := by
  intro below
  obtain ⟨passed, hpath, habove, htaken⟩ := h (call :: below)
  refine ⟨passed, ?_, fun m hm => ?_, htaken⟩
  · simp only [List.append_assoc, List.singleton_append]
    exact hpath
  · obtain ⟨above, hne, hcalls, hdepth, hle⟩ := habove m hm
    refine ⟨above ++ [call], List.append_ne_nil_of_left_ne_nil hne _, ?_, ?_, hle⟩
    · rw [hcalls, List.append_assoc, List.singleton_append]
    · have hnesting : nesting (above ++ [call]) = nesting above := by
        simp only [nesting, List.countP_append, List.countP_cons, List.countP_nil, hfinish,
          Bool.false_eq_true, if_false, Nat.add_zero]
      rw [hdepth, hnesting]

/-- What an action comes to on its way through the stages is what its dispatch comes to, at one
level less. -/
theorem nest {a : Action} (hdepth : depth < maxDispatchDepth)
    (h : Carries stages (depth + 1) [] r [.pass stages a] r' []) :
    Carries stages depth [a] r [.dispatch a] r' [] := by
  intro below
  obtain ⟨passed, hpath, habove, htaken⟩ := h (.finish :: below)
  have hfirst : step stages ⟨r, depth, .dispatch a :: below⟩ =
      some ⟨r, depth + 1, .pass stages a :: .finish :: below⟩ :=
    congrArg some (advance_entered stages r depth below hdepth a)
  have hlast : Path stages ⟨r', depth + 1, .finish :: below⟩ [⟨r', depth + 1, .finish :: below⟩]
      ⟨r', depth, below⟩ := .cons rfl (.nil _)
  have hrest : Path stages ⟨r, depth + 1, .pass stages a :: .finish :: below⟩
      (passed ++ [⟨r', depth + 1, .finish :: below⟩]) ⟨r', depth, below⟩ := hpath.trans hlast
  refine ⟨_, .cons hfirst hrest, ?_, ?_⟩
  · refine List.forall_mem_cons.mpr ⟨?_, List.forall_mem_append.mpr ⟨fun m hm => ?_, ?_⟩⟩
    · exact ⟨[.dispatch a], List.cons_ne_nil _ _, rfl, rfl, Nat.le_max_left _ _⟩
    · obtain ⟨above, hne, hcalls, hcount, hle⟩ := habove m hm
      refine ⟨above ++ [.finish], List.append_ne_nil_of_left_ne_nil hne _, ?_, ?_, by omega⟩
      · rw [hcalls, List.append_assoc]
        rfl
      · rw [hcount, nesting, nesting, List.countP_append]
        show depth + 1 + _ = depth + (_ + 1)
        omega
    · refine List.forall_mem_singleton.mpr ⟨[.finish], List.cons_ne_nil _ _, rfl, rfl, ?_⟩
      show depth + 1 ≤ max depth maxDispatchDepth
      omega
  · show a :: (passed ++ [_]).flatMap taken = a :: (passed ++ [_]).flatMap asked
    rw [List.flatMap_append, List.flatMap_append, htaken]
    rfl

end Carries

/-- Whatever carries out a call that is met on a way is a part of the way, as long as the way does
not end within it. -/
theorem Carries.reached {m start finish : CallStack V H} {passed before after : List (CallStack V H)}
    {waiting : List Action} {call : Call H} {below calls' : List (Call H)} {r' : Runner V H}
    (h : Carries stages m.depth waiting m.runner [call] r' calls')
    (hpath : Path stages start passed finish) (hpassed : passed = before ++ m :: after)
    (hcalls : m.calls = call :: below) (hbelow : finish.calls.length ≤ below.length)
    (hleft : calls' ≠ [call]) : ⟨r', m.depth, calls' ++ below⟩ ∈ after ++ [finish] := by
  obtain ⟨part, hpart, habove, -⟩ := h below
  have hfinish : finish ∉ part := by
    intro hmem
    obtain ⟨calls, hne, hfinish, -, -⟩ := habove finish hmem
    have hlength := congrArg List.length hfinish
    have hpos := List.length_pos_iff.mpr hne
    rw [List.length_append] at hlength
    omega
  have hstart : m = ⟨m.runner, m.depth, [call] ++ below⟩ := CallStack.ext rfl rfl hcalls
  rw [← hstart] at hpart
  rw [hpassed] at hpath
  have hreached := (hpart.determined hpath.from_mid).resolve_right hfinish
  rcases List.mem_cons.mp hreached with hsame | hmem
  · have hcalls' : calls' ++ below = [call] ++ below := by
      rw [← hsame] at hcalls
      exact hcalls
    exact absurd (List.append_cancel_right hcalls') hleft
  · exact hmem

/-! ## What the calls come to -/

section Calls

variable {depth : Nat} {dispatch : Action → Runner V H → Runner V H}

/-- **A stage's program is carried out to its end**, and there it is done or fails. -/
theorem resume_carries {forward : Action → Runner V H → Runner V H} (stage : Stage H)
    {behind : List (Stage H)}
    (hdispatch : ∀ b r, Carries stages depth [b] r [.dispatch b] (dispatch b r) [])
    (hforward : ∀ b r, Carries stages depth [] r [.pass behind b] (forward b r) [])
    (a : Action) (p : Program H) (r : Runner V H) :
    Carries stages depth [] r [.resume stage behind a p] (Runner.execute dispatch forward p r).1
      [.resume stage behind a (.ending (Runner.execute dispatch forward p r).2)] := by
  induction p generalizing r with
  | done => exact .refl r _
  | fail causes => exact .refl r _
  | read next ih => exact .cons (fun _ => rfl) rfl rfl (ih r.session r)
  | act effect next ih => exact .cons (fun _ => rfl) rfl rfl (ih (r.act effect))
  | dispatch b next ih =>
      have hnested : Carries stages depth [b] r
          [.dispatch b, .resume stage behind a next] (dispatch b r)
          [.resume stage behind a next] := (hdispatch b r).above rfl
      exact .cons (fun _ => rfl) rfl rfl (hnested.trans (ih (dispatch b r)))
  | forward b next ih =>
      have hbehind : Carries stages depth [] r
          [.pass behind b, .resume stage behind a next] (forward b r)
          [.resume stage behind a next] := (hforward b r).above rfl
      exact .cons (fun _ => rfl) rfl rfl (hbehind.trans (ih (forward b r)))

/-- What follows a failure is what the runner does about it. -/
theorem fail_carries
    (hdispatch : ∀ b r, Carries stages depth [b] r [.dispatch b] (dispatch b r) [])
    (stage : Stage H) (behind : List (Stage H)) (a : Action) (causes : List String)
    (r : Runner V H) :
    Carries stages depth [] r [.resume stage behind a (.fail causes)]
      (r.reportFailure dispatch stage.name a causes) [] := by
  unfold Runner.reportFailure
  cases hreport : a.isErrorReport with
  | true =>
      have hasked : (Call.resume stage behind a (.fail causes)).asked = [] := if_pos hreport
      refine .cons (fun below => advance_logged stages r depth below hreport _ _ _) rfl ?_ (.refl _ [])
      rw [hasked]
      rfl
  | false =>
      have hasked : (Call.resume stage behind a (.fail causes)).asked =
          [.reportError (stage.name ++ ": " ++ failureText causes)] :=
        if_neg (Bool.eq_false_iff.mp hreport)
      refine .cons (fun below => advance_reported stages r depth below hreport _ _ _) rfl ?_
        (hdispatch _ _)
      rw [hasked]
      rfl

/-- **An action is carried through stages.** -/
theorem pass_carries
    (hdispatch : ∀ b r, Carries stages depth [b] r [.dispatch b] (dispatch b r) [])
    (behind : List (Stage H)) (a : Action) (r : Runner V H) :
    Carries stages depth [] r [.pass behind a] (Runner.run dispatch behind a r) [] := by
  induction behind generalizing a r with
  | nil => exact .cons (fun _ => rfl) rfl rfl (.refl _ [])
  | cons stage behind ih =>
      have hprogram := resume_carries stage hdispatch ih a (stage.handle a) r
      refine .cons (fun _ => rfl) rfl rfl (hprogram.trans ?_)
      rw [Runner.run]
      generalize Runner.execute dispatch (Runner.run dispatch behind) (stage.handle a) r = result
      obtain ⟨r', outcome⟩ := result
      cases outcome with
      | none => exact .cons (fun _ => rfl) rfl rfl (.refl _ [])
      | some causes => exact fail_carries hdispatch stage behind a causes r'

end Calls

/-- **A dispatch is processed**, with as many levels left as the depth leaves. -/
theorem dispatch_carries (stages : List (Stage H)) (depth : Nat) (a : Action) (r : Runner V H) :
    Carries stages depth [a] r [.dispatch a] (r.process stages (maxDispatchDepth - depth) a) [] := by
  induction hlevels : maxDispatchDepth - depth generalizing depth a r with
  | zero =>
      have hdepth : maxDispatchDepth ≤ depth := by omega
      exact .cons (fun below => advance_dropped stages r depth below hdepth a) rfl rfl (.refl _ [])
  | succ levels ih =>
      apply Carries.nest (by omega)
      exact pass_carries (fun b r => ih (depth + 1) b r (by omega)) stages a r

/-- Actions from outside are handled one after another: each begins with no dispatch under way,
and never are more under way than may nest. -/
theorem inbox_path (stages : List (Stage H)) (actions : List Action) (r : Runner V H) :
    ∃ passed, Path stages ⟨r, 0, actions.map .dispatch⟩ passed
        ⟨actions.foldl (fun r a => r.handle stages a) r, 0, []⟩ ∧
      ∀ m ∈ passed, m.depth ≤ maxDispatchDepth := by
  induction actions generalizing r with
  | nil => exact ⟨[], .nil _, fun _ hm => absurd hm List.not_mem_nil⟩
  | cons a rest ih =>
      obtain ⟨first, hfirst, habove, -⟩ :=
        dispatch_carries stages 0 a r (rest.map .dispatch)
      obtain ⟨later, hlater, hdepths⟩ := ih (r.handle stages a)
      refine ⟨first ++ later, hfirst.trans hlater, List.forall_mem_append.mpr ⟨?_, hdepths⟩⟩
      intro m hm
      obtain ⟨calls, -, -, -, hle⟩ := habove m hm
      rwa [Nat.zero_max] at hle

/-! ## The account of a dispatch -/

/-- What is to be said of the way from the moment at which an action is about to be dispatched to
the moment at which it has returned. -/
structure Account (stages : List (Stage H)) (a : Action) (start : CallStack V H)
    (passed : List (CallStack V H)) (finish : CallStack V H) : Prop where
  /-- There is an end to it. -/
  path : Path stages start passed finish
  /-- Whatever was on the stack below stays there, and the depth counts the dispatches that are
  under way beyond it: there are never more than may nest. -/
  nested : ∀ m ∈ passed, m.Above finish.depth finish.calls
  /-- What is dispatched is the action and then what is asked for, one by one. -/
  dispatched : passed.flatMap taken = a :: passed.flatMap asked
  /-- A dispatch that finds as many under way as may nest leaves a line in the error log, and
  nothing else. -/
  dropped : ∀ before m after b below, passed = before ++ m :: after →
    m.calls = .dispatch b :: below → maxDispatchDepth ≤ m.depth →
    (after ++ [finish]).head? = some ⟨m.runner.logError depthExceededText, m.depth, below⟩
  /-- Every dispatch returns, at the depth at which it began. -/
  returned : ∀ before m after b below, passed = before ++ m :: after →
    m.calls = .dispatch b :: below →
    ⟨m.runner.process stages (maxDispatchDepth - m.depth) b, m.depth, below⟩ ∈ after ++ [finish]
  /-- Every stage's program is carried out to its end, with all that it dispatches and forwards
  before it fails. -/
  carried : ∀ before m after stage behind b below, passed = before ++ m :: after →
    m.calls = .pass (stage :: behind) b :: below →
    let result := Runner.execute (Runner.process stages (maxDispatchDepth - m.depth))
      (Runner.run (Runner.process stages (maxDispatchDepth - m.depth)) behind)
      (stage.handle b) m.runner
    ⟨result.1, m.depth, .resume stage behind b (.ending result.2) :: below⟩ ∈ after
  /-- Each failure is counted, and nothing else is. -/
  failures : finish.runner.failures = start.runner.failures + passed.countP fails
  /-- A stage that fails on anything but a report has the report dispatched next. -/
  reported : ∀ before m after stage behind b causes below, passed = before ++ m :: after →
    m.calls = .resume stage behind b (.fail causes) :: below → b.isErrorReport = false →
    after.head? = some ⟨{ m.runner with failures := m.runner.failures + 1 }, m.depth,
      .dispatch (.reportError (stage.name ++ ": " ++ failureText causes)) :: below⟩
  /-- One that fails on a report dispatches nothing more. -/
  logged : ∀ before m after stage behind b causes below, passed = before ++ m :: after →
    m.calls = .resume stage behind b (.fail causes) :: below → b.isErrorReport = true →
    (after ++ [finish]).head? = some ⟨{ m.runner with failures := m.runner.failures + 1 }.logError
      ("failed while reporting an error: " ++ failureText causes), m.depth, below⟩
  /-- What has been committed at any moment is not undone. -/
  kept : ∀ m ∈ passed, ∃ log,
    finish.runner.committed.reverse = m.runner.committed.reverse ++ log ∧
      finish.runner.session = m.runner.session.reduceAll log

omit [ErrorLog H] in
/-- The calls below the first one at a moment of the way reach down to those that stay. -/
theorem Above.length_le {depth : Nat} {kept below : List (Call H)} {m : CallStack V H}
    {call : Call H} (h : m.Above depth kept) (hcalls : m.calls = call :: below) :
    kept.length ≤ below.length := by
  obtain ⟨calls, hne, habove, -, -⟩ := h
  have hlength := congrArg List.length (hcalls.symm.trans habove)
  have hpos := List.length_pos_iff.mpr hne
  rw [List.length_cons, List.length_append] at hlength
  omega

/-- **Every dispatch returns, at the depth it began, and what is dispatched, dropped, failed and
committed on the way is accounted for**, whatever the stages do. -/
theorem dispatch_account (stages : List (Stage H)) (a : Action) (r : Runner V H) (depth : Nat)
    (below : List (Call H)) :
    ∃ passed, Account stages a ⟨r, depth, .dispatch a :: below⟩ passed
      ⟨r.process stages (maxDispatchDepth - depth) a, depth, below⟩ := by
  obtain ⟨passed, hpath, habove, htaken⟩ := dispatch_carries stages depth a r below
  refine ⟨passed, ?_⟩
  have hbelow {m : CallStack V H} {before after : List (CallStack V H)} {call : Call H}
      {below' : List (Call H)} (hpassed : passed = before ++ m :: after)
      (hcalls : m.calls = call :: below') : below.length ≤ below'.length := by
    have hmem : m ∈ passed := by
      rw [hpassed]
      exact List.mem_append_right _ List.mem_cons_self
    exact (habove m hmem).length_le hcalls
  exact {
    path := hpath
    nested := habove
    dispatched := htaken
    failures := hpath.failures
    dropped := by
      intro before m after b below' hpassed hcalls hdepth
      rw [← advance_dropped stages m.runner m.depth below' hdepth b]
      exact hpath.next hpassed hcalls
    returned := by
      intro before m after b below' hpassed hcalls
      exact (dispatch_carries stages m.depth b m.runner).reached hpath hpassed hcalls
        (hbelow hpassed hcalls) (List.cons_ne_nil _ _).symm
    carried := by
      intro before m after stage behind b below' hpassed hcalls result
      have hdispatch (b : Action) (q : Runner V H) := dispatch_carries stages m.depth b q
      have hprogram := resume_carries stage hdispatch (pass_carries hdispatch behind) b
        (stage.handle b) m.runner
      have hwhole : Carries stages m.depth [] m.runner [.pass (stage :: behind) b] result.1
          [.resume stage behind b (.ending result.2)] :=
        .cons (fun _ => rfl) rfl rfl hprogram
      have hreached := hwhole.reached hpath hpassed hcalls (hbelow hpassed hcalls) nofun
      rcases List.mem_append.mp hreached with hmem | hfinish
      · exact hmem
      · have hshort := congrArg (·.calls.length) (List.mem_singleton.mp hfinish)
        have hle := hbelow hpassed hcalls
        simp only [List.length_append, List.length_singleton, List.length_nil] at hshort
        omega
    reported := by
      intro before m after stage behind b causes below' hpassed hcalls hreport
      have hhead := hpath.next hpassed hcalls
      rw [advance_reported _ _ _ _ hreport] at hhead
      cases after with
      | cons next rest => exact hhead
      | nil =>
          have hshort := congrArg (·.calls.length) (Option.some.inj hhead)
          have hle := hbelow hpassed hcalls
          simp only [List.length_cons, List.nil_append] at hshort
          omega
    logged := by
      intro before m after stage behind b causes below' hpassed hcalls hreport
      rw [← advance_logged stages m.runner m.depth below' hreport stage behind causes]
      exact hpath.next hpassed hcalls
    kept := by
      intro m hm
      obtain ⟨before, after, rfl⟩ := List.append_of_mem hm
      exact hpath.from_mid.committed }

end CallStack

end InAppMessaging
