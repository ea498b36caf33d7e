import InAppMessaging.Engine.App
import InAppMessaging.Proofs.Engine.Interleaving
import InAppMessaging.Proofs.Pipeline.Cadence

/-!
# How long the poller waits

What an answer announces about the cadence reaches the session through the inbox of the store,
and the poller reads the session as soon as it has sent what the answer calls for.  `Patrol` is
the poller of an app beside its store, each going on whenever it likes, with an account of the
cadences that anyone has sent and of what the answers announced.

The poller waits for the cadence that was committed last.  All that was sent before its fetch is
committed by then; what the answer itself announces may not be.  And as long as nothing is
committed the wait is the default of a session, whatever the configuration says.

* `Moment.goes_stepStore` — the store commits the cadences that were sent, in their order;
* `Moment.Reckons.after`, `Patrol.sound_run` — an account of them stays right;
* `Patrol.alone_after` — where only the poller sets the cadence, it sends at most one at a time,
  and none but a new one;
* `Patrol.next_wait` — **how long the poller waits, and when that is what was announced**.
-/

namespace InAppMessaging

open Pipeline

/-- The last of some cadences; without any it is the default. -/
def latestCadence (cadences : List Nat) : Nat := cadences.getLast?.getD defaultPollInterval

theorem latestCadence_append_singleton (cadences : List Nat) (n : Nat) :
    latestCadence (cadences ++ [n]) = n := by
  unfold latestCadence
  rw [List.getLast?_concat]
  rfl

/-- A session that is given a cadence has it as the last one. -/
theorem latestCadence_append_option (cadences : List Nat) (n? : Option Nat) :
    latestCadence (cadences ++ n?.toList) = n?.getD (latestCadence cadences) := by
  cases n? with
  | none => rw [Option.toList_none, List.append_nil]; rfl
  | some n => exact latestCadence_append_singleton cadences n

/-- The cadence that the app sets by a move. -/
def Move.cadence? : Move → Option Nat
  | .dispatch a => a.cadence?
  | _ => none

/-! ## Cadences at a moment -/

namespace Moment

/-- The cadences that were committed, in their order. -/
def committedCadences (m : Moment) : List Nat :=
  m.engine.store.committed.reverse.filterMap Action.cadence?

/-- The cadences on their way: those that the store is about to commit, and those in the
inbox. -/
def pendingCadences (m : Moment) : List Nat :=
  cadencesOf m.agenda ++ m.engine.inbox.filterMap Command.cadence?

/-- The cadences on their way ahead of a command, which is so far back in the inbox; a command
that has been taken has none ahead of it. -/
def cadencesAhead (m : Moment) : Nat → List Nat
  | 0 => []
  | n + 1 => cadencesOf m.agenda ++ (m.engine.inbox.take n).filterMap Command.cadence?

variable {m m' : Moment}

/-- Nothing has happened to the store but that commands came into its inbox, with some
cadences. -/
structure Receives (m m' : Moment) (cadences : List Nat) : Prop where
  stages : m'.engine.stages = m.engine.stages
  running : m'.engine.running = m.engine.running
  session : m'.session = m.session
  committed : m'.committedCadences = m.committedCadences
  agenda : m'.agenda = m.agenda
  inbox : ∃ new, m'.engine.inbox = m.engine.inbox ++ new ∧
    new.filterMap Command.cadence? = cadences

theorem receives_onHost (m : Moment) (change : Host → Host) :
    m.Receives (m.onEngine (·.onHost change)) [] :=
  ⟨rfl, rfl, rfl, rfl, rfl, [], (List.append_nil _).symm, rfl⟩

theorem send_eq (hrunning : m.engine.running = true) (c : Command Observed Host) :
    m.onEngine (·.send c) =
      { m with
        engine := { m.engine with inbox := m.engine.inbox ++ [c] }.onHost (·.wake .store) } :=
  congrArg (fun e => { m with engine := e }) (if_pos hrunning)

/-- A command that is sent comes into the inbox of a store that runs. -/
theorem receives_send (hrunning : m.engine.running = true) (c : Command Observed Host) :
    m.Receives (m.onEngine (·.send c)) c.cadence?.toList := by
  have hcadences : [c].filterMap Command.cadence? = c.cadence?.toList :=
    (filterMap_cons_toList _ c []).trans (List.append_nil _)
  rw [send_eq hrunning]
  exact ⟨rfl, rfl, rfl, rfl, rfl, [c], rfl, hcadences⟩

/-- What is not a move of the store brings commands into the inbox, no more. -/
theorem receives_after (hrunning : m.engine.running = true) {mv : Move} (hmv : mv ≠ .store) :
    m.Receives (m.after mv) mv.cadence?.toList := by
  have hidle : ∀ {e : Engine} {atWork : Option (Work × Session)},
      (∃ change, e = m.engine.onHost change) → m.Receives { m with engine := e, atWork } [] := by
    rintro _ _ ⟨change, rfl⟩
    exact ⟨rfl, rfl, rfl, rfl, rfl, [], (List.append_nil _).symm, rfl⟩
  cases mv with
  | store => exact absurd rfl hmv
  | poster =>
      show m.Receives m.stepPoster []
      unfold stepPoster
      split
      · exact hidle ⟨_, rfl⟩
      · exact hidle ⟨_, rfl⟩
      · exact hidle ⟨id, rfl⟩
  | foreground | background | restart => exact hidle ⟨_, rfl⟩
  | dispatch a => exact receives_send hrunning (.run a)
  | subscribe watch =>
      -- the counter of the subscriptions goes on first, and nothing here depends on it
      have hbegun : (m.onEngine fun e =>
          { e with subscriptions := e.subscriptions + 1 }).engine.running = true := hrunning
      obtain ⟨hstages, hrun, hsession, hcommitted, hagenda, hinbox⟩ := receives_send hbegun
        (.subscribe (m.engine.subscriptions + 1) (watch (m.engine.subscriptions + 1)))
      exact ⟨hstages, hrun, hsession, hcommitted, hagenda, hinbox⟩
  | unsubscribe id => exact receives_send hrunning (.unsubscribe id)
  | barrier reached => exact receives_send hrunning (.barrier reached)
  | elsewhere change => exact hidle ⟨change, rfl⟩

/-- The cadence of the session is the one that was committed last. -/
def IsCurrent (m : Moment) : Prop :=
  m.session.pollInterval = latestCadence m.committedCadences

/-- Of the cadences that the store is about to commit, the first ones are committed. -/
def Commits (m m' : Moment) : Prop :=
  ∃ done, m'.engine.inbox = m.engine.inbox ∧
    m'.committedCadences = m.committedCadences ++ done ∧
    cadencesOf m.agenda = done ++ cadencesOf m'.agenda

/-- The store has nothing left to commit and takes a command. -/
def Takes (m m' : Moment) : Prop :=
  ∃ c, m.engine.inbox = c :: m'.engine.inbox ∧
    m'.committedCadences = m.committedCadences ∧
    cadencesOf m.agenda = [] ∧ cadencesOf m'.agenda = c.cadence?.toList

/-- What a move of the store does about the cadences. -/
structure Goes (m m' : Moment) : Prop where
  stages : m'.engine.stages = m.engine.stages
  running : m'.engine.running = m.engine.running
  current : m.IsCurrent → m'.IsCurrent
  cadences : m.Commits m' ∨ m.Takes m'

theorem commits_nothing (hinbox : m'.engine.inbox = m.engine.inbox)
    (hcommitted : m'.committedCadences = m.committedCadences)
    (hagenda : cadencesOf m.agenda = cadencesOf m'.agenda) : m.Commits m' :=
  ⟨[], hinbox, hcommitted.trans (List.append_nil _).symm, hagenda⟩

theorem committedCadences_commit (m : Moment) (a : Action) (rest : List (Deed Host)) :
    (m.commit a rest).committedCadences = m.committedCadences ++ a.cadence?.toList := by
  show (a :: m.engine.store.committed).reverse.filterMap _ = _
  rw [List.reverse_cons, List.filterMap_append, filterMap_cons_toList, List.filterMap_nil,
    List.append_nil]
  rfl

/-- The session that an action leads to has the cadence of the action. -/
theorem IsCurrent.commit (h : m.IsCurrent) (a : Action) (rest : List (Deed Host)) :
    (m.commit a rest).IsCurrent := by
  show (m.session.reduce a).pollInterval = latestCadence (m.commit a rest).committedCadences
  rw [committedCadences_commit, latestCadence_append_option, Session.pollInterval_reduce]
  exact congrArg a.cadence?.getD h

/-- **The store commits the cadences that were sent, in their order.** -/
theorem goes_stepStore (hstages : m.engine.stages = standard) : m.Goes m.stepStore := by
  obtain ⟨e, agenda, waiting, atWork⟩ := m
  cases waiting with
  | cons u rest => exact ⟨rfl, rfl, id, Or.inl (commits_nothing rfl rfl rfl)⟩
  | nil =>
      cases agenda with
      | cons d rest =>
          cases d with
          | commit a =>
              exact ⟨rfl, rfl, fun h => h.commit a rest, Or.inl ⟨a.cadence?.toList, rfl,
                committedCadences_commit _ a rest, cadencesOf_cons_commit a rest⟩⟩
          | act effect => exact ⟨rfl, rfl, id, Or.inl (commits_nothing rfl rfl rfl)⟩
          | failed => exact ⟨rfl, rfl, id, Or.inl (commits_nothing rfl rfl rfl)⟩
      | nil =>
          obtain ⟨stages, client, store, inbox, running, time, subscriptions⟩ := e
          obtain rfl : stages = standard := hstages
          cases inbox with
          | nil => exact ⟨rfl, rfl, id, Or.inl (commits_nothing rfl rfl rfl)⟩
          | cons c rest =>
              cases c with
              | run a =>
                  have hagenda : cadencesOf (deeds standard maxDispatchDepth a store.session) =
                      a.cadence?.toList :=
                    (congrArg cadencesOf (deeds_standard 59 a _)).trans (cadencesOf_actionDeeds a _)
                  exact ⟨rfl, rfl, id, Or.inr ⟨.run a, rfl, rfl, rfl, hagenda⟩⟩
              | subscribe id watch => exact ⟨rfl, rfl, fun h => h, Or.inr ⟨_, rfl, rfl, rfl, rfl⟩⟩
              | unsubscribe id => exact ⟨rfl, rfl, fun h => h, Or.inr ⟨_, rfl, rfl, rfl, rfl⟩⟩
              | barrier reached => exact ⟨rfl, rfl, id, Or.inr ⟨_, rfl, rfl, rfl, rfl⟩⟩

/-! ### The account -/

/-- An account of the cadences that anyone has sent, of how many had been sent before some
command, and of how far back in the inbox that command is, is right. -/
structure Reckons (m : Moment) (sent : List Nat) (settled ahead : Nat) : Prop where
  stages : m.engine.stages = standard
  running : m.engine.running = true
  current : m.IsCurrent
  sent : sent = m.committedCadences ++ m.pendingCadences
  ahead_le : ahead ≤ m.engine.inbox.length
  settled_le : settled ≤ (m.committedCadences ++ m.cadencesAhead ahead).length

namespace Reckons

variable {sent cadences : List Nat} {settled ahead : Nat}

/-- Commands come into the inbox, behind the one that is counted. -/
theorem receives (h : m.Reckons sent settled ahead) (hreceives : m.Receives m' cadences) :
    m'.Reckons (sent ++ cadences) settled ahead := by
  obtain ⟨new, hinbox, hnew⟩ := hreceives.inbox
  have hcurrent : m'.IsCurrent := by
    unfold IsCurrent
    rw [hreceives.session, hreceives.committed]
    exact h.current
  have hpending : m'.pendingCadences = m.pendingCadences ++ cadences := by
    unfold pendingCadences
    rw [hreceives.agenda, hinbox, List.filterMap_append, hnew, List.append_assoc]
  have hahead : m'.cadencesAhead ahead = m.cadencesAhead ahead := by
    cases ahead with
    | zero => rfl
    | succ n =>
        have htake : m'.engine.inbox.take n = m.engine.inbox.take n := by
          rw [hinbox, List.take_append_of_le_length (Nat.le_of_succ_le h.ahead_le)]
        show cadencesOf m'.agenda ++ _ = cadencesOf m.agenda ++ _
        rw [hreceives.agenda, htake]
  refine
    { stages := hreceives.stages.trans h.stages
      running := hreceives.running.trans h.running
      current := hcurrent
      sent := ?_
      ahead_le := ?_
      settled_le := ?_ }
  · rw [hpending, hreceives.committed, h.sent, List.append_assoc]
  · rw [hinbox, List.length_append]
    exact Nat.le_add_right_of_le h.ahead_le
  · rw [hreceives.committed, hahead]
    exact h.settled_le

/-- Nothing but the host changes. -/
theorem onHost (h : m.Reckons sent settled ahead) (change : Host → Host) :
    (m.onEngine (·.onHost change)).Reckons sent settled ahead := by
  have hreceives := h.receives (m.receives_onHost change)
  rwa [List.append_nil] at hreceives

/-- The store commits. -/
theorem commits (h : m.Reckons sent settled ahead) (hgoes : m.Goes m') (hcommits : m.Commits m') :
    m'.Reckons sent settled ahead := by
  obtain ⟨done, hinbox, hcommitted, hagenda⟩ := hcommits
  refine
    { stages := hgoes.stages.trans h.stages
      running := hgoes.running.trans h.running
      current := hgoes.current h.current
      sent := ?_
      ahead_le := hinbox ▸ h.ahead_le
      settled_le := ?_ }
  · rw [h.sent, hcommitted]
    unfold pendingCadences
    rw [hagenda, hinbox, List.append_assoc, List.append_assoc]
  · have hsettled := h.settled_le
    rw [hcommitted]
    cases ahead with
    | zero =>
        show settled ≤ (m.committedCadences ++ done ++ []).length
        change settled ≤ (m.committedCadences ++ []).length at hsettled
        simp only [List.append_nil, List.length_append] at hsettled ⊢
        exact Nat.le_add_right_of_le hsettled
    | succ n =>
        change settled ≤ (_ ++ (cadencesOf m.agenda ++ _)).length at hsettled
        show settled ≤ (_ ++ (cadencesOf m'.agenda ++ _)).length
        rwa [hagenda, List.append_assoc, ← hinbox, ← List.append_assoc] at hsettled

/-- The store takes a command, perhaps the one that is counted. -/
theorem takes (h : m.Reckons sent settled ahead) (hgoes : m.Goes m') (htakes : m.Takes m') :
    m'.Reckons sent settled (ahead - 1) := by
  obtain ⟨c, hinbox, hcommitted, hbefore, hagenda⟩ := htakes
  have hlength : m.engine.inbox.length = m'.engine.inbox.length + 1 := by
    rw [hinbox, List.length_cons]
  refine
    { stages := hgoes.stages.trans h.stages
      running := hgoes.running.trans h.running
      current := hgoes.current h.current
      sent := ?_
      ahead_le := ?_
      settled_le := ?_ }
  · rw [h.sent, hcommitted]
    unfold pendingCadences
    rw [hbefore, hagenda, hinbox, filterMap_cons_toList, List.nil_append]
  · have hle := h.ahead_le
    omega
  · have hsettled := h.settled_le
    rw [hcommitted]
    match ahead with
    | 0 => exact hsettled
    | 1 =>
        change settled ≤ (_ ++ (cadencesOf m.agenda ++ [])).length at hsettled
        rwa [hbefore, List.append_nil] at hsettled
    | n + 2 =>
        change settled ≤ (_ ++ (cadencesOf m.agenda ++ _)).length at hsettled
        show settled ≤ (_ ++ (cadencesOf m'.agenda ++ _)).length
        rwa [hbefore, List.nil_append, hinbox, List.take_succ_cons, filterMap_cons_toList,
          ← hagenda] at hsettled

/-- **An account stays right**, with what the app sends added to it, and the command that is
counted coming nearer. -/
theorem after (h : m.Reckons sent settled ahead) (mv : Move) :
    (m.after mv).Reckons (sent ++ mv.cadence?.toList) settled
      (ahead - (m.engine.inbox.length - (m.after mv).engine.inbox.length)) := by
  by_cases hmv : mv = .store
  · subst hmv
    have hgoes := goes_stepStore h.stages
    show m.stepStore.Reckons (sent ++ []) _ (ahead - (_ - m.stepStore.engine.inbox.length))
    rw [List.append_nil]
    rcases hgoes.cadences with hcommits | htakes
    · have hinbox : m.stepStore.engine.inbox = m.engine.inbox := hcommits.choose_spec.1
      rw [hinbox, Nat.sub_self]
      exact h.commits hgoes hcommits
    · obtain ⟨c, hinbox, -⟩ := id htakes
      rw [hinbox, List.length_cons, Nat.add_sub_cancel_left]
      exact h.takes hgoes htakes
  · have hreceives := receives_after h.running hmv
    obtain ⟨new, hinbox, -⟩ := hreceives.inbox
    rw [hinbox, List.length_append, Nat.sub_eq_zero_of_le (Nat.le_add_right _ _)]
    exact h.receives hreceives

/-- A barrier that is sent now comes after all that has been sent. -/
theorem barrier (h : m.Reckons sent settled ahead) (reached : Host → Host) :
    (m.onEngine (·.send (.barrier reached))).Reckons sent sent.length
      (m.engine.inbox.length + 1) := by
  have hsame := h.receives (receives_send h.running (.barrier reached))
  have hlength : (m.engine.inbox ++ [Command.barrier reached]).length =
      m.engine.inbox.length + 1 := List.length_append
  rw [send_eq h.running] at hsame ⊢
  refine
    { stages := hsame.stages
      running := hsame.running
      current := hsame.current
      sent := (List.append_nil sent).symm.trans hsame.sent
      ahead_le := Nat.le_of_eq hlength.symm
      settled_le := ?_ }
  show sent.length ≤ (m.committedCadences ++ (cadencesOf m.agenda ++
    ((m.engine.inbox ++ [_]).take m.engine.inbox.length).filterMap _)).length
  rw [List.take_left, h.sent]
  exact Nat.le_refl _

/-- What had been sent before the command that is counted is committed once that is taken. -/
theorem settled_le_length (h : m.Reckons sent settled 0) :
    settled ≤ m.committedCadences.length := by
  have hsettled := h.settled_le
  rwa [show m.cadencesAhead 0 = [] from rfl, List.append_nil] at hsettled

end Reckons

end Moment

/-! ## Patrols -/

/-- What the poller is at: it begins, waits for what was sent so far to be done, waits for an
answer, sends what the answer calls for, or waits for its interval, in milliseconds. -/
inductive PatrolPhase where
  | starting
  | settling
  | fetching
  | sending (due : List Action)
  | waiting (ms : Nat)
deriving DecidableEq

/-- The poller beside its store: how far its barrier is back in the inbox, the cadences that
anyone has sent, how many of them had been sent before the barrier, and the cadence that the
answers announced last. -/
structure Patrol where
  moment : Moment
  phase : PatrolPhase := .starting
  ahead : Nat := 0
  sent : List Nat := []
  settled : Nat := 0
  announced? : Option Nat := none

/-- What may happen next: a move of the engine, the end of the poller's wait, a step of the
poller, or the end of its fetch. -/
inductive PatrolStep where
  | move (mv : Move)
  | wake
  | poller
  | answer (a : Except String CatalogResponse)

/-- The cadence that someone else than the poller sends in a step. -/
def PatrolStep.cadence? : PatrolStep → Option Nat
  | .move mv => mv.cadence?
  | _ => none

namespace Patrol

/-- The poller goes on. -/
def stepPoller (t : Patrol) : Patrol :=
  match t.phase with
  | .starting =>
      { t with
        moment := t.moment.onEngine (·.send (.barrier (·.wake .poller)))
        phase := .settling
        ahead := t.moment.engine.inbox.length + 1
        settled := t.sent.length }
  | .settling =>
      if t.ahead = 0 then
        match t.moment.session.pollRequest? t.moment.engine.client with
        | none => { t with phase := .sending [] }
        | some r =>
            { t with
              moment := t.moment.onEngine (·.onHost (·.record (.fetched r)))
              phase := .fetching }
      else t
  | .sending (a :: rest) =>
      { t with
        moment := t.moment.onEngine (·.dispatch a)
        phase := .sending rest
        sent := t.sent ++ a.cadence?.toList }
  | .sending [] => { t with phase := .waiting t.moment.session.pollInterval }
  | .fetching | .waiting _ => t

/-- The fetch ends: the answer is read against the session as it is now. -/
def receive (t : Patrol) : Except String CatalogResponse → Patrol
  | .ok r =>
      let (actions, host) := applyAnswer t.moment.session r t.moment.engine.host
      { t with
        moment := t.moment.onEngine (·.onHost fun _ => host)
        phase := .sending actions
        announced? := r.announcedInterval?.or t.announced? }
  | .error _ => { t with phase := .sending [] }

/-- The patrol after a step; there is no answer without a fetch, and no waking without a
wait. -/
def after (t : Patrol) : PatrolStep → Patrol
  | .move mv =>
      let moment := t.moment.after mv
      { t with
        moment
        ahead := t.ahead - (t.moment.engine.inbox.length - moment.engine.inbox.length)
        sent := t.sent ++ mv.cadence?.toList }
  | .wake =>
      match t.phase with
      | .waiting _ => { t with phase := .starting }
      | _ => t
  | .poller => t.stepPoller
  | .answer a =>
      match t.phase with
      | .fetching => t.receive a
      | _ => t

/-- The patrol after steps. -/
def run (t : Patrol) (steps : List PatrolStep) : Patrol := steps.foldl after t

/-- The poller of an app at its launch. -/
def launch (c : Configuration) (host : Host) : Patrol where
  moment :=
    { engine :=
        ({ client := c.client, store := { session := {}, host } } : Engine).watchChannel.2 }

/-! ### What is sent is committed -/

/-- The account is right, and nothing is counted down unless the poller settles. -/
structure Sound (t : Patrol) : Prop where
  reckons : t.moment.Reckons t.sent t.settled t.ahead
  settled : t.phase ≠ .settling → t.ahead = 0

variable {t : Patrol}

theorem Sound.stepPoller (h : t.Sound) : t.stepPoller.Sound := by
  unfold Patrol.stepPoller
  split
  · exact ⟨h.reckons.barrier _, fun hphase => absurd rfl hphase⟩
  · split
    · next hahead =>
        split
        · exact ⟨h.reckons, fun _ => hahead⟩
        · exact ⟨h.reckons.onHost _, fun _ => hahead⟩
    · exact h
  · next a rest hphase =>
      have hahead : t.ahead = 0 := h.settled (by rw [hphase]; exact nofun)
      exact ⟨h.reckons.receives (Moment.receives_send h.reckons.running (.run a)), fun _ => hahead⟩
  · next hphase => exact ⟨h.reckons, fun _ => h.settled (by rw [hphase]; exact nofun)⟩
  · exact h
  · exact h

theorem Sound.receive (h : t.Sound) (hahead : t.ahead = 0) (a : Except String CatalogResponse) :
    (t.receive a).Sound := by
  cases a with
  | error text => exact ⟨h.reckons, fun _ => hahead⟩
  | ok r => exact ⟨h.reckons.onHost _, fun _ => hahead⟩

/-- **A step keeps the account right.** -/
theorem Sound.after (h : t.Sound) (step : PatrolStep) : (t.after step).Sound := by
  cases step with
  | move mv =>
      refine ⟨h.reckons.after mv, fun hphase => ?_⟩
      show t.ahead - _ = 0
      rw [h.settled hphase, Nat.zero_sub]
  | wake =>
      unfold Patrol.after
      dsimp only
      split
      · next ms hphase => exact ⟨h.reckons, fun _ => h.settled (by rw [hphase]; exact nofun)⟩
      · exact h
  | poller => exact h.stepPoller
  | answer a =>
      unfold Patrol.after
      dsimp only
      split
      · next hphase => exact h.receive (h.settled (by rw [hphase]; exact nofun)) a
      · exact h

theorem sound_launch (c : Configuration) (host : Host) : (launch c host).Sound where
  reckons :=
    { stages := rfl
      running := rfl
      current := rfl
      sent := rfl
      ahead_le := Nat.zero_le _
      settled_le := Nat.zero_le _ }
  settled := fun _ => rfl

theorem sound_run (h : t.Sound) (steps : List PatrolStep) : (t.run steps).Sound := by
  induction steps generalizing t with
  | nil => exact h
  | cons step steps ih => exact ih (h.after step)

/-! ### What the poller sends -/

/-- The cadences that the poller has yet to send. -/
def dueCadences (t : Patrol) : List Nat :=
  match t.phase with
  | .sending due => due.filterMap Action.cadence?
  | _ => []

/-- Only the poller sets the cadence: what was announced last is sent last, what is sent before
the poller settles stays all that is sent until it has an answer, and then there is at most one
new cadence. -/
structure Alone (t : Patrol) : Prop where
  settled_le : t.settled ≤ t.sent.length
  announced : latestCadence (t.sent ++ t.dueCadences) = t.announced?.getD defaultPollInterval
  asked : t.phase = .settling ∨ t.phase = .fetching → t.settled = t.sent.length
  brief : ∀ due, t.phase = .sending due → ∃ new? : Option Nat,
    t.sent.drop t.settled ++ due.filterMap Action.cadence? = new?.toList ∧
      ∀ n ∈ new?, n ≠ latestCadence (t.sent.take t.settled)

variable {s : Session} {r : CatalogResponse}

/-- The queue that an answer calls for sets no cadence. -/
theorem cadence?_queueAction (s : Session) (r : CatalogResponse) (h : Host) :
    (queueAction s r h).1.cadence? = none := by
  unfold queueAction
  cases r.outcome <;> rfl

/-- **An answer has a cadence sent if it announces one that the session does not have.** -/
theorem cadences_applyAnswer (s : Session) (r : CatalogResponse) (h : Host) :
    (applyAnswer s r h).1.filterMap Action.cadence? =
      (r.announcedInterval?.filter (· ≠ s.pollInterval)).toList := by
  have hrealtime : ∀ enabled? : Option Bool,
      (enabled?.map Action.setRealtime).toList.filterMap Action.cadence? = [] := by
    intro enabled?
    cases enabled? <;> rfl
  have hinterval : ∀ n? : Option Nat,
      (n?.map Action.setPollInterval).toList.filterMap Action.cadence? = n?.toList := by
    intro n?
    cases n? <;> rfl
  show ((queueAction s r h).1 :: cadenceActions s r).filterMap _ = _
  rw [List.filterMap_cons_none (cadence?_queueAction s r h)]
  unfold cadenceActions
  rw [List.filterMap_append, hrealtime, hinterval, List.append_nil]

/-- Once all is sent that an answer calls for, the cadence that it announces is the last one. -/
theorem latestCadence_answered (sent : List Nat) (n? : Option Nat) :
    latestCadence (sent ++ (n?.filter (· ≠ latestCadence sent)).toList) =
      n?.getD (latestCadence sent) := by
  rw [latestCadence_append_option]
  cases n? with
  | none => rfl
  | some n =>
      by_cases hn : n = latestCadence sent
      · rw [Option.filter_some, if_neg (by simpa using hn)]
        exact hn.symm
      · rw [Option.filter_some, if_pos (by simpa using hn)]

/-- While the poller waits for an answer, the session has the cadence that was sent last. -/
theorem Alone.pollInterval_eq (h : t.Alone) (hsound : t.Sound) (hphase : t.phase = .fetching) :
    t.moment.session.pollInterval = latestCadence t.sent := by
  have hahead : t.ahead = 0 := hsound.settled (by rw [hphase]; exact nofun)
  have hle := (hahead ▸ hsound.reckons).settled_le_length
  have hall := h.asked (Or.inr hphase)
  have hsent := hsound.reckons.sent
  have hpending : t.moment.pendingCadences = [] := by
    have hlength := congrArg List.length hsent
    rw [List.length_append] at hlength
    exact List.eq_nil_of_length_eq_zero (by omega)
  rw [hsent, hpending, List.append_nil]
  exact hsound.reckons.current

theorem dueCadences_of_sending {due : List Action} (hphase : t.phase = .sending due) :
    t.dueCadences = due.filterMap Action.cadence? := by
  unfold dueCadences
  rw [hphase]

theorem Alone.stepPoller (h : t.Alone) : t.stepPoller.Alone := by
  have hannounced := h.announced
  unfold Patrol.stepPoller
  split
  · next hphase =>
      -- from here on, all that was sent so far is what had been sent before the barrier
      unfold dueCadences at hannounced
      rw [hphase] at hannounced
      exact ⟨Nat.le_refl _, hannounced, fun _ => rfl, nofun⟩
  · next hphase =>
      have hall := h.asked (Or.inl hphase)
      unfold dueCadences at hannounced
      rw [hphase] at hannounced
      split
      · split
        · refine ⟨h.settled_le, hannounced, nofun, fun due hdue => ⟨none, ?_, nofun⟩⟩
          obtain rfl := PatrolPhase.sending.inj hdue
          show t.sent.drop t.settled ++ [] = []
          rw [hall, List.drop_length]
          rfl
        · exact ⟨h.settled_le, hannounced, fun _ => hall, nofun⟩
      · exact h
  · next a rest hphase =>
      obtain ⟨new?, hnew, hdiffers⟩ := h.brief _ hphase
      rw [dueCadences_of_sending hphase, filterMap_cons_toList, ← List.append_assoc] at hannounced
      rw [filterMap_cons_toList, ← List.append_assoc,
        ← List.drop_append_of_le_length h.settled_le] at hnew
      rw [← List.take_append_of_le_length h.settled_le] at hdiffers
      refine ⟨?_, hannounced, nofun, fun due hdue => ?_⟩
      · show t.settled ≤ (t.sent ++ _).length
        rw [List.length_append]
        exact Nat.le_add_right_of_le h.settled_le
      · obtain rfl := PatrolPhase.sending.inj hdue
        exact ⟨new?, hnew, hdiffers⟩
  · next hphase =>
      rw [dueCadences_of_sending hphase] at hannounced
      exact ⟨h.settled_le, hannounced, nofun, nofun⟩
  · exact h
  · exact h

theorem Alone.receive (h : t.Alone) (hsound : t.Sound) (hphase : t.phase = .fetching)
    (a : Except String CatalogResponse) : (t.receive a).Alone := by
  have hall := h.asked (Or.inr hphase)
  have hannounced := h.announced
  unfold dueCadences at hannounced
  rw [hphase, List.append_nil] at hannounced
  cases a with
  | error text =>
      refine ⟨h.settled_le, ?_, nofun, fun due hdue => ⟨none, ?_, nofun⟩⟩
      · show latestCadence (t.sent ++ []) = _
        rw [List.append_nil]
        exact hannounced
      · obtain rfl := PatrolPhase.sending.inj hdue
        show t.sent.drop t.settled ++ [] = []
        rw [hall, List.drop_length]
        rfl
  | ok r =>
      have hcadences := cadences_applyAnswer t.moment.session r t.moment.engine.host
      rw [h.pollInterval_eq hsound hphase] at hcadences
      refine ⟨h.settled_le, ?_, nofun, fun due hdue =>
        ⟨r.announcedInterval?.filter (· ≠ latestCadence t.sent), ?_, ?_⟩⟩
      · show latestCadence (t.sent ++ (applyAnswer _ r _).1.filterMap _) =
          (r.announcedInterval?.or t.announced?).getD _
        rw [hcadences, latestCadence_answered, hannounced]
        cases r.announcedInterval? <;> rfl
      · obtain rfl := PatrolPhase.sending.inj hdue
        show t.sent.drop t.settled ++ _ = _
        rw [hall, List.drop_length]
        exact hcadences
      · intro n hn
        show n ≠ latestCadence (t.sent.take t.settled)
        rw [hall, List.take_length]
        exact of_decide_eq_true (Option.mem_filter_iff.mp hn).2

/-- **A step of the poller, or one that sets no cadence, leaves it so.** -/
theorem Alone.after (h : t.Alone) (hsound : t.Sound) {step : PatrolStep}
    (hstep : step.cadence? = none) : (t.after step).Alone := by
  cases step with
  | move mv =>
      have hsent : (t.after (.move mv)).sent = t.sent := by
        show t.sent ++ mv.cadence?.toList = t.sent
        rw [show mv.cadence? = none from hstep, Option.toList_none, List.append_nil]
      have hdue : (t.after (.move mv)).dueCadences = t.dueCadences := rfl
      refine ⟨?_, ?_, ?_, ?_⟩
      · rw [hsent]
        exact h.settled_le
      · rw [hsent, hdue]
        exact h.announced
      · rw [hsent]
        exact h.asked
      · rw [hsent]
        exact h.brief
  | wake =>
      unfold Patrol.after
      dsimp only
      split
      · next ms hphase =>
          have hannounced := h.announced
          unfold dueCadences at hannounced
          rw [hphase] at hannounced
          exact ⟨h.settled_le, hannounced, nofun, nofun⟩
      · exact h
  | poller => exact h.stepPoller
  | answer a =>
      unfold Patrol.after
      dsimp only
      split
      · next hphase => exact h.receive hsound hphase a
      · exact h

theorem alone_run (h : t.Alone) (hsound : t.Sound) {steps : List PatrolStep}
    (hsteps : ∀ step ∈ steps, step.cadence? = none) : (t.run steps).Alone := by
  induction steps generalizing t with
  | nil => exact h
  | cons step steps ih =>
      obtain ⟨hstep, hrest⟩ := List.forall_mem_cons.mp hsteps
      exact ih (h.after hsound hstep) (hsound.after step) hrest

theorem alone_launch (c : Configuration) (host : Host) : (launch c host).Alone :=
  ⟨Nat.le_refl _, rfl, fun _ => rfl, nofun⟩

/-! ### The wait -/

theorem Sound.phase_stepPoller (h : t.Sound) (hphase : t.phase = .sending []) :
    t.stepPoller.phase = .waiting (latestCadence t.moment.committedCadences) := by
  unfold Patrol.stepPoller
  rw [hphase]
  exact congrArg PatrolPhase.waiting h.reckons.current

/-- Where only the poller sets the cadence, the one committed last is the one announced last just
if none is on its way. -/
theorem Alone.latestCadence_iff (h : t.Alone) (hsound : t.Sound) (hphase : t.phase = .sending []) :
    latestCadence t.moment.committedCadences = t.announced?.getD defaultPollInterval ↔
      t.moment.pendingCadences = [] := by
  have hannounced := h.announced
  rw [dueCadences_of_sending hphase, List.filterMap_nil, List.append_nil] at hannounced
  have hahead : t.ahead = 0 := hsound.settled (by rw [hphase]; exact nofun)
  have hsettled := (hahead ▸ hsound.reckons).settled_le_length
  obtain ⟨new?, hnew, hdiffers⟩ := h.brief _ hphase
  rw [List.filterMap_nil, List.append_nil, hsound.reckons.sent,
    List.drop_append_of_le_length hsettled] at hnew
  rw [hsound.reckons.sent, List.take_append_of_le_length hsettled] at hdiffers
  rw [← hannounced, hsound.reckons.sent]
  constructor
  · intro hequal
    cases new? with
    | none => exact (List.append_eq_nil_iff.mp hnew).2
    | some n =>
        rcases List.append_eq_singleton_iff.mp hnew with ⟨hdrop, hpending⟩ | ⟨-, hpending⟩
        · -- the new cadence is on its way, and the wait is for another one
          have hlatest : latestCadence t.moment.committedCadences = n := by
            rw [hequal, hpending, latestCadence_append_singleton]
          have htake : t.moment.committedCadences.take t.settled = t.moment.committedCadences :=
            List.take_of_length_le (List.drop_eq_nil_iff.mp hdrop)
          rw [htake, hlatest] at hdiffers
          exact absurd rfl (hdiffers n rfl)
        · exact hpending
  · intro hpending
    rw [hpending, List.append_nil]

/-- **How long the poller waits.**  All cadences are committed in the order in which they were
sent, and those that were sent before the poller settled are committed when it is done with its
fetch.  The wait is the cadence that was committed last, and without any the default of a
session.  Where only the poller sets the cadence, that is what the answers announced last if and
only if no cadence is on its way by then. -/
theorem next_wait (c : Configuration) (host : Host) (steps : List PatrolStep) :
    let t := (launch c host).run steps
    t.sent = t.moment.committedCadences ++ t.moment.pendingCadences ∧
    (t.phase ≠ .settling → t.sent.take t.settled <+: t.moment.committedCadences) ∧
    (t.phase = .sending [] → (t.after .poller).phase =
      .waiting (latestCadence t.moment.committedCadences)) ∧
    ((∀ step ∈ steps, step.cadence? = none) → t.phase = .sending [] →
      ((t.after .poller).phase = .waiting (t.announced?.getD defaultPollInterval) ↔
        t.moment.pendingCadences = [])) := by
  intro t
  have hsound : t.Sound := sound_run (sound_launch c host) steps
  refine ⟨hsound.reckons.sent, fun hphase => ?_, hsound.phase_stepPoller,
    fun hsteps hphase => ?_⟩
  · have hsettled := (hsound.settled hphase ▸ hsound.reckons).settled_le_length
    rw [hsound.reckons.sent, List.take_append_of_le_length hsettled]
    exact List.take_prefix _ _
  · have halone : t.Alone := alone_run (alone_launch c host) (sound_launch c host) hsteps
    show t.stepPoller.phase = _ ↔ _
    rw [hsound.phase_stepPoller hphase, PatrolPhase.waiting.injEq]
    exact halone.latestCadence_iff hsound hphase

/-- An answer without content that announces a cadence of half a minute. -/
def halfMinute : CatalogResponse where
  status := 204
  headers := [⟨Header.pollInterval, "30"⟩]

/-- Ada is named and the poller fetches for the first time; then the store has some more moves
before the poller begins to wait. -/
def firstFetch (moves : Nat) : List PatrolStep :=
  [.move (.dispatch (.setUser "ada")), .poller] ++ List.replicate 9 (.move .store) ++
    [.poller, .answer (.ok halfMinute), .poller, .poller] ++
    List.replicate moves (.move .store)

/-- A store that is quick enough has committed what the answer announced when the wait begins;
otherwise the poller waits ten minutes, though one second is configured. -/
theorem firstFetch_waits :
    let c : Configuration := { polling := { interval := 1000 } }
    let t := (launch c {}).run (firstFetch 0)
    let t' := (launch c {}).run (firstFetch 8)
    (t.phase = .sending [] ∧ t.announced? = some 30000 ∧ t.moment.pendingCadences = [30000] ∧
      t.moment.committedCadences = [] ∧ (t.after .poller).phase = .waiting 600000) ∧
    (t'.phase = .sending [] ∧ t'.announced? = some 30000 ∧ t'.moment.pendingCadences = [] ∧
      (t'.after .poller).phase = .waiting 30000) := by
  intro c t t'
  obtain ⟨-, -, hwait, -⟩ := next_wait c {} (firstFetch 0)
  obtain ⟨-, -, -, hannounced⟩ := next_wait c {} (firstFetch 8)
  have hphase : t.phase = .sending [] := by decide +kernel
  have hphase' : t'.phase = .sending [] := by decide +kernel
  have hcommitted : t.moment.committedCadences = [] := by decide +kernel
  have hpending' : t'.moment.pendingCadences = [] := by decide +kernel
  have hannounced' : t'.announced? = some 30000 := by decide +kernel
  have hsteps : ∀ step ∈ firstFetch 8, step.cadence? = none := by decide +kernel
  refine ⟨⟨hphase, by decide +kernel, by decide +kernel, hcommitted, ?_⟩, hphase', hannounced',
    hpending', ?_⟩
  · rw [hwait hphase, show _ = [] from hcommitted]
    rfl
  · have hthen := (hannounced hsteps hphase').mpr hpending'
    rwa [show _ = some 30000 from hannounced'] at hthen

/-! ### The poller by itself -/

/-- Whatever the poller has to send, it can send, and then it waits. -/
theorem run_sends {due : List Action} (hphase : t.phase = .sending due) :
    (t.run (List.replicate (due.length + 1) .poller)).moment =
        t.moment.onEngine (·.dispatchAll due) ∧
      (t.run (List.replicate (due.length + 1) .poller)).phase =
        .waiting (t.moment.engine.dispatchAll due).session.pollInterval := by
  induction due generalizing t with
  | nil =>
      show t.stepPoller.moment = _ ∧ t.stepPoller.phase = _
      unfold Patrol.stepPoller
      rw [hphase]
      exact ⟨rfl, rfl⟩
  | cons a rest ih =>
      rw [List.length_cons, List.replicate_succ]
      show (t.stepPoller.run _).moment = _ ∧ (t.stepPoller.run _).phase = _
      have hnext : t.stepPoller.phase = .sending rest ∧
          t.stepPoller.moment = t.moment.onEngine (·.dispatch a) := by
        unfold Patrol.stepPoller
        rw [hphase]
        exact ⟨rfl, rfl⟩
      obtain ⟨hmoment, hwait⟩ := ih hnext.1
      rw [hmoment, hwait, hnext.2]
      exact ⟨rfl, rfl⟩

/-- **The steps of a poller that is left alone with its answer make up the step of the
engine**, which begins the same wait. -/
theorem run_answer {e : Engine} {request : CatalogRequest}
    (he : e.host.poller.phase = .fetching request) (hphase : t.phase = .fetching)
    (ht : t.moment.engine = e.onHost fun _ => e.host.nextAnswer.2) :
    ∃ n, let t' := t.run (.answer e.host.nextAnswer.1 :: List.replicate n .poller)
      t'.phase = .waiting t'.moment.session.pollInterval ∧
        t'.moment.engine.restPoller = e.stepPoller := by
  have hstep : e.stepPoller = e.receive.restPoller := by
    unfold Engine.stepPoller
    rw [he]
  have hafter : t.after (.answer e.host.nextAnswer.1) = t.receive e.host.nextAnswer.1 := by
    unfold Patrol.after
    rw [hphase]
  obtain ⟨due, hdue, hreceive⟩ : ∃ due, (t.receive e.host.nextAnswer.1).phase = .sending due ∧
      (t.receive e.host.nextAnswer.1).moment.engine.dispatchAll due = e.receive := by
    unfold Engine.receive
    dsimp only
    rw [← ht]
    cases e.host.nextAnswer.1 with
    | error text => exact ⟨[], rfl, rfl⟩
    | ok r => exact ⟨_, rfl, rfl⟩
  obtain ⟨hmoment, hwait⟩ := run_sends hdue
  refine ⟨due.length + 1, ?_⟩
  show ((t.after _).run _).phase = .waiting ((t.after _).run _).moment.session.pollInterval ∧
    ((t.after _).run _).moment.engine.restPoller = _
  rw [hafter, hmoment, hwait, hstep, ← hreceive]
  exact ⟨rfl, rfl⟩

end Patrol

end InAppMessaging
