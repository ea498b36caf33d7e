import InAppMessaging.Proofs.Store.Keeping
import InAppMessaging.Proofs.Store.Visits
import Mathlib.Data.List.Destutter

/-!
# One log of commits for all observers

Subscribers come and go between commands, and a single command may commit many actions, some in
the middle of others.  What happens at a store, as far as its observers can tell, is one list of
incidents: a subscriber joins, another leaves, an action is committed.  The committed ones among
them are the log of commits, and the log alone says what every subscriber is given.

* `Session.incidents` — the incidents of a list of commands;
* `Watch.given` — what a subscriber is to be given, by the session at which it joined and those
  that followed;
* `Audience.chronicle` — who is given what at each incident, without a host;
* `Audience.chronicle_ordered` — nobody is given anything out of the order in which they joined;
* `Audience.received_chronicle` — **what a subscriber is given over a chronicle is what it is to
  be given**;
* `Runner.observers_told` — **a store makes the session that its log makes, and tells its
  subscribers what the log says.**
-/

namespace InAppMessaging

variable {V H : Type}

/-! ## News -/

/-- What a subscriber is given: a session, or the value of an attribute. -/
inductive News (V : Type) where
  | session (s : Session)
  | value (v : V)

/-- Some news for a subscriber. -/
structure Notice (V : Type) where
  id : Nat
  news : News V

/-- The news among some notices that are for one subscriber. -/
def received (id : Nat) (notices : List (Notice V)) : List (News V) :=
  (notices.filter fun n => n.id = id).map (·.news)

theorem received_append (id : Nat) (notices more : List (Notice V)) :
    received id (notices ++ more) = received id notices ++ received id more := by
  simp only [received, List.filter_append, List.map_append]

/-- Where everything is for one subscriber, it receives everything. -/
theorem received_of_forall {id : Nat} {notices : List (Notice V)} (h : ∀ n ∈ notices, n.id = id) :
    received id notices = notices.map (·.news) := by
  have hall : (notices.filter fun n => n.id = id) = notices :=
    List.filter_eq_self.mpr fun n hn => decide_eq_true (h n hn)
  rw [received, hall]

/-- Where nothing is for a subscriber, it receives nothing. -/
theorem received_eq_nil {id : Nat} {notices : List (Notice V)} (h : ∀ n ∈ notices, n.id ≠ id) :
    received id notices = [] := by
  have hnone : (notices.filter fun n => n.id = id) = [] :=
    List.filter_eq_nil_iff.mpr fun n hn => by simpa using h n hn
  rw [received, hnone]
  rfl

/-- The sessions that a log leads through, each after one of its commits. -/
def Session.through (s : Session) : List Action → List Session
  | [] => []
  | a :: rest => s.reduce a :: (s.reduce a).through rest

/-- What a subscriber is to be given that joins at a session and sees others follow.  One that
watches an attribute is given its value there, and of the values that follow those that are not
the same as the one it was given last. -/
def Watch.given (watch : Watch V H) (s : Session) (following : List Session) : List (News V) :=
  match watch with
  | .session _ => following.map .session
  | .attribute select same _ =>
      (((s :: following).map select).destutter fun last v => ¬ same last v).map .value

/-! ## Incidents -/

/-- Something that happens at a store. -/
inductive Incident (V H : Type) where
  | joined (id : Nat) (watch : Watch V H)
  | left (id : Nat)
  | committed (a : Action)

namespace Incident

/-- The action that is committed. -/
def committed? : Incident V H → Option Action
  | .committed a => some a
  | _ => none

/-- Who joins. -/
def joined? : Incident V H → Option Nat
  | .joined id _ => some id
  | _ => none

/-- A subscriber leaves. -/
def isLeft (id : Nat) : Incident V H → Bool
  | .left gone => gone = id
  | _ => false

/-- Who is registered after an incident, in the order in which they joined. -/
def register (ids : List Nat) : Incident V H → List Nat
  | .joined id _ => ids ++ [id]
  | .left gone => ids.filter fun id => id ≠ gone
  | .committed _ => ids

end Incident

/-- The log of commits among incidents. -/
def logged (incidents : List (Incident V H)) : List Action :=
  incidents.filterMap Incident.committed?

/-- Who joins in the course of incidents. -/
def joiners (incidents : List (Incident V H)) : List Nat := incidents.filterMap Incident.joined?

theorem logged_append (incidents more : List (Incident V H)) :
    logged (incidents ++ more) = logged incidents ++ logged more :=
  List.filterMap_append

theorem joiners_append (incidents more : List (Incident V H)) :
    joiners (incidents ++ more) = joiners incidents ++ joiners more :=
  List.filterMap_append

theorem not_mem_joiners_cons {id : Nat} {i : Incident V H} {rest : List (Incident V H)} :
    id ∉ joiners (i :: rest) ↔ i.joined? ≠ some id ∧ id ∉ joiners rest := by
  cases h : i.joined? with
  | none => simp [joiners, h]
  | some other => simp [joiners, h, eq_comm]

/-- Who is registered after incidents, in the order in which they joined. -/
def registered (incidents : List (Incident V H)) : List Nat :=
  incidents.foldl Incident.register []

/-! ## Subscribers without a host -/

namespace Subscriber

/-- What a subscriber is given when a session is committed. -/
def hears (u : Subscriber V H) (s : Session) : List (Notice V) :=
  match u.watch with
  | .session _ => [⟨u.id, .session s⟩]
  | .attribute select same _ =>
      if u.told.any fun last => same last (select s) then [] else [⟨u.id, .value (select s)⟩]

/-- The subscriber after that. -/
def after (u : Subscriber V H) (s : Session) : Subscriber V H :=
  match u.watch with
  | .session _ => u
  | .attribute select same _ =>
      if u.told.any fun last => same last (select s) then u
      else { u with told := some (select s) }

theorem notify_fst (u : Subscriber V H) (s : Session) (host : H) :
    (u.notify s host).1 = u.after s := by
  unfold notify after
  cases u.watch with
  | session tell => rfl
  | «attribute» select same tell => exact apply_ite Prod.fst _ _ _

@[simp] theorem after_id (u : Subscriber V H) (s : Session) : (u.after s).id = u.id := by
  unfold after
  split
  · rfl
  · split <;> rfl

@[simp] theorem after_watch (u : Subscriber V H) (s : Session) : (u.after s).watch = u.watch := by
  unfold after
  split
  · rfl
  · split <;> rfl

/-- A subscriber is given nothing that is for another. -/
theorem id_of_mem_hears {u : Subscriber V H} {s : Session} {n : Notice V} (hn : n ∈ u.hears s) :
    n.id = u.id := by
  unfold hears at hn
  split at hn
  · rw [List.mem_singleton.mp hn]
  · split at hn
    · exact absurd hn List.not_mem_nil
    · rw [List.mem_singleton.mp hn]

/-- A subscriber is given one thing at most. -/
theorem hears_ids (u : Subscriber V H) (s : Session) :
    ((u.hears s).map (·.id)).Sublist [u.id] := by
  unfold hears
  split
  · exact List.Sublist.refl _
  · split
    · exact List.nil_sublist _
    · exact List.Sublist.refl _

/-- A subscriber as it joins. -/
def joining (id : Nat) (watch : Watch V H) (s : Session) : Subscriber V H :=
  match watch with
  | .session _ => { id, watch }
  | .attribute .. => { id, watch : Subscriber V H }.after s

/-- What it is given on that occasion. -/
def welcome (id : Nat) (watch : Watch V H) (s : Session) : List (Notice V) :=
  match watch with
  | .session _ => []
  | .attribute .. => { id, watch : Subscriber V H }.hears s

/-- What is given to a newcomer is for nobody else. -/
theorem id_of_mem_welcome {id : Nat} {watch : Watch V H} {s : Session} {n : Notice V}
    (hn : n ∈ welcome id watch s) : n.id = id := by
  cases watch with
  | session tell => exact absurd hn List.not_mem_nil
  | «attribute» select same tell =>
      exact id_of_mem_hears (u := { id, watch := .attribute select same tell }) hn

theorem register_fst (id : Nat) (watch : Watch V H) (s : Session) (host : H) :
    (register id watch s host).1 = joining id watch s := by
  cases watch with
  | session tell => rfl
  | «attribute» select same tell => exact notify_fst _ s host

@[simp] theorem joining_id (id : Nat) (watch : Watch V H) (s : Session) :
    (joining id watch s).id = id := by
  cases watch with
  | session tell => rfl
  | «attribute» select same tell => exact after_id _ s

@[simp] theorem joining_watch (id : Nat) (watch : Watch V H) (s : Session) :
    (joining id watch s).watch = watch := by
  cases watch with
  | session tell => rfl
  | «attribute» select same tell => exact after_watch _ s

/-! ### What is given over many sessions -/

/-- The values among others that are not the same as the one given last. -/
def changes (same : V → V → Bool) : Option V → List V → List V
  | _, [] => []
  | told, v :: rest =>
      if told.any fun last => same last v then changes same told rest
      else v :: changes same (some v) rest

theorem changes_some (same : V → V → Bool) (last : V) (vs : List V) :
    last :: changes same (some last) vs =
      vs.destutter' (fun last v => ¬ same last v) last := by
  induction vs generalizing last with
  | nil => rfl
  | cons v rest ih =>
      by_cases hsame : same last v = true
      · rw [List.destutter'_cons_neg (h := not_not.mpr hsame), ← ih]
        simp only [changes, Option.any_some, hsame, if_true]
      · rw [List.destutter'_cons_pos (h := hsame), ← ih]
        simp only [changes, Option.any_some, hsame]
        rfl

/-- What a subscriber is given of the sessions that follow. -/
def awaits (u : Subscriber V H) (following : List Session) : List (News V) :=
  match u.watch with
  | .session _ => following.map .session
  | .attribute select same _ => (changes same u.told (following.map select)).map .value

theorem awaits_nil (u : Subscriber V H) : u.awaits [] = [] := by
  unfold awaits
  split <;> rfl

theorem awaits_cons (u : Subscriber V H) (s : Session) (following : List Session) :
    u.awaits (s :: following) = (u.hears s).map (·.news) ++ (u.after s).awaits following := by
  cases hwatch : u.watch with
  | session tell => simp only [awaits, hears, after, hwatch]; rfl
  | «attribute» select same tell =>
      by_cases hsame : (u.told.any fun last => same last (select s)) = true
      · simp only [awaits, hears, after, hwatch, List.map_cons, changes, hsame, if_true]
        rfl
      · simp only [awaits, hears, after, hwatch, List.map_cons, changes, hsame]
        rfl

/-- **From its joining on, a subscriber is given what it is to be given.** -/
theorem given_eq (id : Nat) (watch : Watch V H) (s : Session) (following : List Session) :
    watch.given s following =
      (welcome id watch s).map (·.news) ++ (joining id watch s).awaits following := by
  cases watch with
  | session tell => rfl
  | «attribute» select same tell =>
      show ((select s :: following.map select).destutter _).map News.value =
        (select s :: changes same (some (select s)) (following.map select)).map News.value
      rw [List.destutter_cons', changes_some]

end Subscriber

/-! ## Audiences -/

/-- Those who watch a session, in the order in which they joined. -/
structure Audience (V H : Type) where
  session : Session
  subscribers : List (Subscriber V H)

namespace Audience

/-- The audience after an incident. -/
def after (g : Audience V H) : Incident V H → Audience V H
  | .joined id watch =>
      { g with subscribers := g.subscribers ++ [.joining id watch g.session] }
  | .left gone => { g with subscribers := g.subscribers.filter fun u => u.id ≠ gone }
  | .committed a =>
      let next := g.session.reduce a
      { session := next, subscribers := g.subscribers.map (·.after next) }

/-- What is given to whom at an incident. -/
def notices (g : Audience V H) : Incident V H → List (Notice V)
  | .joined id watch => Subscriber.welcome id watch g.session
  | .left _ => []
  | .committed a => g.subscribers.flatMap (·.hears (g.session.reduce a))

/-- The audience after incidents. -/
def afterAll (g : Audience V H) (incidents : List (Incident V H)) : Audience V H :=
  incidents.foldl after g

/-- Incidents, each with what is given to whom. -/
def chronicle (g : Audience V H) : List (Incident V H) → List (Incident V H × List (Notice V))
  | [] => []
  | i :: rest => (i, g.notices i) :: (g.after i).chronicle rest

variable {g : Audience V H}

theorem chronicle_fst (g : Audience V H) (incidents : List (Incident V H)) :
    (g.chronicle incidents).map (·.1) = incidents := by
  induction incidents generalizing g with
  | nil => rfl
  | cons i rest ih => exact congrArg (i :: ·) (ih (g.after i))

theorem chronicle_append (g : Audience V H) (incidents more : List (Incident V H)) :
    g.chronicle (incidents ++ more) =
      g.chronicle incidents ++ (g.afterAll incidents).chronicle more := by
  induction incidents generalizing g with
  | nil => rfl
  | cons i rest ih => exact congrArg ((i, g.notices i) :: ·) (ih (g.after i))

theorem session_afterAll (g : Audience V H) (incidents : List (Incident V H)) :
    (g.afterAll incidents).session = g.session.reduceAll (logged incidents) := by
  induction incidents generalizing g with
  | nil => rfl
  | cons i rest ih =>
      refine (ih (g.after i)).trans ?_
      cases i with
      | joined id watch => rfl
      | left gone => rfl
      | committed a => rfl

/-! ### The order -/

/-- The audience's ids. -/
def ids (g : Audience V H) : List Nat := g.subscribers.map (·.id)

theorem ids_after (g : Audience V H) (i : Incident V H) : (g.after i).ids = i.register g.ids := by
  cases i with
  | joined id watch => simp [ids, after, Incident.register]
  | left gone =>
      show (g.subscribers.filter fun u => u.id ≠ gone).map (·.id) =
        (g.subscribers.map (·.id)).filter fun id => id ≠ gone
      rw [List.filter_map]
      rfl
  | committed a => simp [ids, after, Incident.register]

theorem ids_afterAll (g : Audience V H) (incidents : List (Incident V H)) :
    (g.afterAll incidents).ids = incidents.foldl Incident.register g.ids := by
  induction incidents generalizing g with
  | nil => rfl
  | cons i rest ih =>
      refine (ih (g.after i)).trans ?_
      rw [ids_after]
      rfl

/-- Those who are given something at an incident are registered then, and get it in the order in
which they joined. -/
theorem notices_ids (g : Audience V H) (i : Incident V H) :
    ((g.notices i).map (·.id)).Sublist (g.after i).ids := by
  cases i with
  | joined id watch =>
      rw [ids_after]
      refine List.Sublist.trans ?_ (List.sublist_append_right g.ids [id])
      cases watch with
      | session tell => exact List.nil_sublist _
      | «attribute» select same tell =>
          exact Subscriber.hears_ids { id, watch := .attribute select same tell } g.session
  | left gone => exact List.nil_sublist _
  | committed a =>
      rw [ids_after]
      show ((g.subscribers.flatMap (·.hears (g.session.reduce a))).map (·.id)).Sublist g.ids
      unfold ids
      induction g.subscribers with
      | nil => exact List.Sublist.refl _
      | cons u rest ih =>
          rw [List.flatMap_cons, List.map_append]
          exact (u.hears_ids _).append ih

/-! ### What each of them receives -/

/-- Nobody in the audience has an id. -/
def Lacks (g : Audience V H) (id : Nat) : Prop := ∀ w ∈ g.subscribers, w.id ≠ id

/-- A subscriber is in the audience, and the only one with its id. -/
def Has (g : Audience V H) (u : Subscriber V H) : Prop :=
  ∃ earlier later, g.subscribers = earlier ++ u :: later ∧
    ∀ w ∈ earlier ++ later, w.id ≠ u.id

section Lacks

variable {id : Nat}

theorem Lacks.after (h : g.Lacks id) {i : Incident V H} (hi : i.joined? ≠ some id) :
    (g.after i).Lacks id := by
  cases i with
  | joined other watch =>
      have hother : other ≠ id := fun h => hi (congrArg some h)
      refine List.forall_mem_append.mpr ⟨h, List.forall_mem_singleton.mpr ?_⟩
      rwa [Subscriber.joining_id]
  | left gone => exact fun w hw => h w (List.mem_filter.mp hw).1
  | committed a =>
      intro w hw
      obtain ⟨u, hu, rfl⟩ := List.mem_map.mp hw
      rw [Subscriber.after_id]
      exact h u hu

theorem Lacks.afterAll (h : g.Lacks id) {incidents : List (Incident V H)}
    (hincidents : id ∉ joiners incidents) : (g.afterAll incidents).Lacks id := by
  induction incidents generalizing g with
  | nil => exact h
  | cons i rest ih =>
      obtain ⟨hi, hrest⟩ := not_mem_joiners_cons.mp hincidents
      exact ih (h.after hi) hrest

theorem Lacks.notices (h : g.Lacks id) {i : Incident V H} (hi : i.joined? ≠ some id) :
    received id (g.notices i) = [] := by
  apply received_eq_nil
  intro n hn hid
  have hmem : n.id ∈ (g.after i).ids := (g.notices_ids i).subset (List.mem_map_of_mem hn)
  obtain ⟨w, hw, hwid⟩ := List.mem_map.mp hmem
  exact h.after hi w hw (hwid.trans hid)

/-- Who is not in the audience and does not join receives nothing. -/
theorem Lacks.received (h : g.Lacks id) {incidents : List (Incident V H)}
    (hincidents : id ∉ joiners incidents) :
    received id ((g.chronicle incidents).flatMap (·.2)) = [] := by
  induction incidents generalizing g with
  | nil => rfl
  | cons i rest ih =>
      obtain ⟨hi, hrest⟩ := not_mem_joiners_cons.mp hincidents
      rw [chronicle, List.flatMap_cons, received_append, h.notices hi, ih (h.after hi) hrest]
      rfl

end Lacks

section Has

variable {u : Subscriber V H}

/-- Who has just joined is in the audience. -/
theorem Lacks.has_joining {id : Nat} (h : g.Lacks id) (watch : Watch V H) :
    (g.after (.joined id watch)).Has (.joining id watch g.session) := by
  refine ⟨g.subscribers, [], rfl, ?_⟩
  rw [List.append_nil, Subscriber.joining_id]
  exact h

theorem Has.after_joined (h : g.Has u) {id : Nat} (hid : id ≠ u.id) (watch : Watch V H) :
    (g.after (.joined id watch)).Has u := by
  obtain ⟨earlier, later, hsubscribers, hothers⟩ := h
  refine ⟨earlier, later ++ [.joining id watch g.session], ?_, ?_⟩
  · simp only [after, hsubscribers, List.append_assoc, List.cons_append]
  · rw [← List.append_assoc]
    refine List.forall_mem_append.mpr ⟨hothers, List.forall_mem_singleton.mpr ?_⟩
    rwa [Subscriber.joining_id]

theorem Has.after_left (h : g.Has u) {gone : Nat} (hgone : gone ≠ u.id) :
    (g.after (.left gone)).Has u := by
  obtain ⟨earlier, later, hsubscribers, hothers⟩ := h
  refine ⟨earlier.filter fun w => w.id ≠ gone, later.filter fun w => w.id ≠ gone, ?_, ?_⟩
  · have hstays : (u :: later).filter (fun w => decide (w.id ≠ gone)) =
        u :: later.filter fun w => decide (w.id ≠ gone) :=
      List.filter_cons_of_pos (decide_eq_true hgone.symm)
    simp only [after, hsubscribers, List.filter_append, hstays]
  · rw [← List.filter_append]
    exact fun w hw => hothers w (List.mem_filter.mp hw).1

/-- Who leaves is not in the audience any more. -/
theorem lacks_after_left (g : Audience V H) (gone : Nat) : (g.after (.left gone)).Lacks gone :=
  fun _ hw => of_decide_eq_true (List.mem_filter.mp hw).2

theorem Has.after_committed (h : g.Has u) (a : Action) :
    (g.after (.committed a)).Has (u.after (g.session.reduce a)) := by
  obtain ⟨earlier, later, hsubscribers, hothers⟩ := h
  refine ⟨earlier.map (·.after (g.session.reduce a)), later.map (·.after (g.session.reduce a)),
    ?_, ?_⟩
  · simp only [after, hsubscribers, List.map_append, List.map_cons]
  · rw [← List.map_append, Subscriber.after_id]
    intro w hw
    obtain ⟨v, hv, rfl⟩ := List.mem_map.mp hw
    rw [Subscriber.after_id]
    exact hothers v hv

/-- At a commit a subscriber receives what it is given itself. -/
theorem Has.received_committed (h : g.Has u) (a : Action) :
    received u.id (g.notices (.committed a)) = (u.hears (g.session.reduce a)).map (·.news) := by
  obtain ⟨earlier, later, hsubscribers, hothers⟩ := h
  have hnone : ∀ ws : List (Subscriber V H), (∀ w ∈ ws, w.id ≠ u.id) →
      received u.id (ws.flatMap (·.hears (g.session.reduce a))) = [] := by
    intro ws hws
    apply received_eq_nil
    intro n hn
    obtain ⟨w, hw, hn⟩ := List.mem_flatMap.mp hn
    rw [Subscriber.id_of_mem_hears hn]
    exact hws w hw
  obtain ⟨hearlier, hlater⟩ := List.forall_mem_append.mp hothers
  rw [notices, hsubscribers, List.flatMap_append, List.flatMap_cons, received_append,
    received_append, hnone earlier hearlier, hnone later hlater,
    received_of_forall fun n hn => Subscriber.id_of_mem_hears hn]
  rw [List.nil_append, List.append_nil]

/-- **Who is in the audience receives what it awaits of the commits that are made before it
leaves.** -/
theorem Has.received (h : g.Has u) {incidents : List (Incident V H)}
    (hincidents : u.id ∉ joiners incidents) :
    received u.id ((g.chronicle incidents).flatMap (·.2)) =
      u.awaits (g.session.through (logged (incidents.takeWhile fun i => !i.isLeft u.id))) := by
  induction incidents generalizing g u with
  | nil => exact u.awaits_nil.symm
  | cons i rest ih =>
      obtain ⟨hi, hrest⟩ := not_mem_joiners_cons.mp hincidents
      rw [chronicle, List.flatMap_cons, received_append]
      cases i with
      | joined id watch =>
          have hid : id ≠ u.id := fun h => hi (congrArg some h)
          have hwelcome : received u.id (g.notices (.joined id watch)) = [] := by
            apply received_eq_nil
            intro n hn
            rwa [Subscriber.id_of_mem_welcome hn]
          rw [hwelcome, ih (h.after_joined hid watch) hrest]
          rfl
      | left gone =>
          by_cases hgone : gone = u.id
          · have hstop : (rest.cons (.left gone)).takeWhile (fun i => !i.isLeft u.id) = [] :=
              List.takeWhile_cons_of_neg (by simp [Incident.isLeft, hgone])
            have hlacks : (g.after (.left gone)).Lacks u.id := by
              rw [hgone]
              exact lacks_after_left g u.id
            rw [hlacks.received hrest, hstop]
            exact u.awaits_nil.symm
          · have hon : (rest.cons (.left gone)).takeWhile (fun i => !i.isLeft u.id) =
                .left gone :: rest.takeWhile fun i => !i.isLeft u.id :=
              List.takeWhile_cons_of_pos (by simp [Incident.isLeft, hgone])
            rw [ih (h.after_left hgone) hrest, hon]
            rfl
      | committed a =>
          have hlater := ih (h.after_committed a) (by rwa [Subscriber.after_id])
          rw [Subscriber.after_id] at hlater
          rw [h.received_committed, hlater]
          exact (u.awaits_cons _ _).symm

end Has

/-- **What a subscriber is given over a chronicle is what it is to be given.** -/
theorem received_chronicle (s : Session) {before after : List (Incident V H)} {id : Nat}
    {watch : Watch V H} (hids : (joiners (before ++ .joined id watch :: after)).Nodup) :
    received id ((chronicle ⟨s, []⟩ (before ++ .joined id watch :: after)).flatMap (·.2)) =
      watch.given (s.reduceAll (logged before))
        ((s.reduceAll (logged before)).through
          (logged (after.takeWhile fun i => !i.isLeft id))) := by
  obtain ⟨hbefore, hafter⟩ : id ∉ joiners before ∧ id ∉ joiners after := by
    rw [joiners_append] at hids
    obtain ⟨-, hcons, hdisjoint⟩ := List.nodup_append.mp hids
    obtain ⟨hafter, -⟩ := List.nodup_cons.mp hcons
    exact ⟨fun h => hdisjoint id h id List.mem_cons_self rfl, hafter⟩
  have hnobody : Lacks (⟨s, []⟩ : Audience V H) id := fun w hw => absurd hw List.not_mem_nil
  have hlacks := hnobody.afterAll hbefore
  have hsession := session_afterAll (⟨s, []⟩ : Audience V H) before
  have hjoined := hlacks.has_joining watch
  have hlater := hjoined.received (by rwa [Subscriber.joining_id])
  rw [Subscriber.joining_id] at hlater
  rw [chronicle_append, List.flatMap_append, received_append, hnobody.received hbefore, chronicle,
    List.flatMap_cons, received_append, hlater, Subscriber.given_eq id, ← hsession]
  have hwelcome : received id (((⟨s, []⟩ : Audience V H).afterAll before).notices
      (.joined id watch)) = _ :=
    received_of_forall fun n hn => Subscriber.id_of_mem_welcome hn
  rw [hwelcome]
  rfl

/-- A part of a chronicle is the chronicle of its incidents. -/
theorem eq_chronicle_of_part {incidents : List (Incident V H)}
    {past : List (Incident V H × List (Notice V))} (h : past <+: g.chronicle incidents) :
    past = g.chronicle (past.map (·.1)) := by
  obtain ⟨rest, hrest⟩ := h
  have hincidents := g.chronicle_fst incidents
  rw [← hrest, List.map_append] at hincidents
  rw [← hincidents, chronicle_append] at hrest
  have hlength : past.length = (g.chronicle (past.map (·.1))).length := by
    have hmap := congrArg List.length (g.chronicle_fst (past.map (·.1)))
    rw [List.length_map, List.length_map] at hmap
    exact hmap.symm
  exact (List.append_inj hrest hlength).1

/-- **What is given at an incident of a chronicle is given in the order of joining.** -/
theorem chronicle_ordered (s : Session) {incidents : List (Incident V H)} {i : Incident V H}
    {past : List (Incident V H × List (Notice V))} {notices : List (Notice V)}
    (hgiven : past ++ [(i, notices)] <+: chronicle ⟨s, []⟩ incidents) :
    (notices.map (·.id)).Sublist (registered (past.map (·.1) ++ [i])) := by
  have hpart := eq_chronicle_of_part hgiven
  rw [List.map_append, chronicle_append] at hpart
  have hlast : [(i, notices)] = [(i, ((⟨s, []⟩ : Audience V H).afterAll
      (past.map (·.1))).notices i)] := List.append_inj_right' hpart rfl
  have hnotices : notices = ((⟨s, []⟩ : Audience V H).afterAll (past.map (·.1))).notices i :=
    congrArg Prod.snd (List.singleton_inj.mp hlast)
  have hordered := notices_ids ((⟨s, []⟩ : Audience V H).afterAll (past.map (·.1))) i
  rw [← hnotices, ids_after, ids_afterAll] at hordered
  rw [registered, List.foldl_append]
  exact hordered

end Audience

/-! ## Commands -/

/-- What happens at a store that carries out a command. -/
def Session.incidentsOf [ErrorLog H] (stages : List (Stage H)) (s : Session) :
    Command V H → List (Incident V H)
  | .run a => (commits (deeds stages maxDispatchDepth a s)).map .committed
  | .subscribe id watch => [.joined id watch]
  | .unsubscribe id => [.left id]
  | .barrier _ => []

/-- What happens at a store that carries out commands one after another. -/
def Session.incidents [ErrorLog H] (stages : List (Stage H)) (s : Session) :
    List (Command V H) → List (Incident V H)
  | [] => []
  | command :: rest =>
      let first := s.incidentsOf stages command
      first ++ (s.reduceAll (logged first)).incidents stages rest

/-- Whoever is told writes down what it is given, and does nothing else to the ledger. -/
def Watch.Records (ledger : H → List (Notice V)) (id : Nat) : Watch V H → Prop
  | .session tell => ∀ s h, ledger (tell s h) = ledger h ++ [⟨id, .session s⟩]
  | .attribute _ _ tell => ∀ last v s h, ledger (tell last v s h) = ledger h ++ [⟨id, .value v⟩]

/-- A command has subscribers write down what they are given, and does nothing else to the
ledger. -/
def Command.Records (ledger : H → List (Notice V)) : Command V H → Prop
  | .run _ => True
  | .subscribe id watch => watch.Records ledger id
  | .unsubscribe _ => True
  | .barrier reached => ∀ h, ledger (reached h) = ledger h

/-- Who is to join by a command. -/
def Command.joining? : Command V H → Option Nat
  | .subscribe id _ => some id
  | _ => none

section Told

variable {ledger : H → List (Notice V)}

namespace Subscriber

theorem ledger_notify {u : Subscriber V H} (h : u.watch.Records ledger u.id) (s : Session)
    (host : H) : ledger (u.notify s host).2 = ledger host ++ u.hears s := by
  unfold notify hears
  match hwatch : u.watch with
  | .session tell =>
      rw [hwatch] at h
      exact h s host
  | .attribute select same tell =>
      rw [hwatch] at h
      dsimp only
      split
      · exact (List.append_nil _).symm
      · exact h u.told (select s) s host

theorem ledger_register {id : Nat} {watch : Watch V H} (h : watch.Records ledger id) (s : Session)
    (host : H) : ledger (register id watch s host).2 = ledger host ++ welcome id watch s := by
  cases watch with
  | session tell => exact (List.append_nil _).symm
  | «attribute» select same tell => exact ledger_notify h s host

theorem notifyAll_fst (us : List (Subscriber V H)) (s : Session) (host : H) :
    (notifyAll us s host).1 = us.map (·.after s) := by
  induction us generalizing host with
  | nil => rfl
  | cons u rest ih => simp only [notifyAll, notify_fst, ih, List.map_cons]

theorem ledger_notifyAll {us : List (Subscriber V H)}
    (h : ∀ u ∈ us, u.watch.Records ledger u.id) (s : Session) (host : H) :
    ledger (notifyAll us s host).2 = ledger host ++ us.flatMap (·.hears s) := by
  induction us generalizing host with
  | nil => exact (List.append_nil _).symm
  | cons u rest ih =>
      obtain ⟨hu, hrest⟩ := List.forall_mem_cons.mp h
      show ledger (notifyAll rest s (u.notify s host).2).2 = _
      rw [ih hrest, ledger_notify hu, List.flatMap_cons, List.append_assoc]

end Subscriber

namespace Runner

/-- Those who watch a runner's session. -/
def audience (r : Runner V H) : Audience V H := ⟨r.session, r.subscribers⟩

/-- All subscribers of a runner write down what they are given. -/
def Records (ledger : H → List (Notice V)) (r : Runner V H) : Prop :=
  ∀ u ∈ r.subscribers, u.watch.Records ledger u.id

/-- A runner comes from another by some incidents: they are all that becomes of the audience, of
the log of commits and of their counter, and their notices are all that becomes of the ledger. -/
structure Follows (ledger : H → List (Notice V)) (r : Runner V H)
    (incidents : List (Incident V H)) (r' : Runner V H) : Prop where
  audience : r'.audience = r.audience.afterAll incidents
  committed : r'.committed.reverse = r.committed.reverse ++ logged incidents
  processed : r'.actionsProcessed = r.actionsProcessed + (logged incidents).length
  written : ledger r'.host = ledger r.host ++ (r.audience.chronicle incidents).flatMap (·.2)
  records : r'.Records ledger

namespace Follows

variable {r r' r'' : Runner V H} {incidents more : List (Incident V H)}

theorem refl (h : r.Records ledger) : Follows ledger r [] r :=
  ⟨rfl, (List.append_nil _).symm, rfl, (List.append_nil _).symm, h⟩

theorem trans (h : Follows ledger r incidents r') (h' : Follows ledger r' more r'') :
    Follows ledger r (incidents ++ more) r'' where
  audience := by
    rw [h'.audience, h.audience, Audience.afterAll, Audience.afterAll, Audience.afterAll,
      List.foldl_append]
  committed := by
    rw [h'.committed, h.committed, logged_append, List.append_assoc]
  processed := by
    rw [h'.processed, h.processed, logged_append, List.length_append, Nat.add_assoc]
  written := by
    rw [h'.written, h.written, Audience.chronicle_append, List.flatMap_append, h.audience,
      List.append_assoc]
  records := h'.records

end Follows

variable {r : Runner V H}

theorem follows_commit (h : r.Records ledger) (a : Action) :
    Follows ledger r [.committed a] (r.commit a) where
  audience := congrArg (Audience.mk _) (Subscriber.notifyAll_fst r.subscribers _ r.host)
  committed := List.reverse_cons
  processed := rfl
  written := by
    have htold := Subscriber.ledger_notifyAll h (r.session.reduce a) r.host
    refine htold.trans (congrArg (ledger r.host ++ ·) ?_)
    exact (List.append_nil _).symm
  records := by
    intro u hu
    have hsubscribers : (r.commit a).subscribers =
        r.subscribers.map (·.after (r.session.reduce a)) :=
      Subscriber.notifyAll_fst r.subscribers (r.session.reduce a) r.host
    rw [hsubscribers] at hu
    obtain ⟨w, hw, rfl⟩ := List.mem_map.mp hu
    rw [Subscriber.after_watch, Subscriber.after_id]
    exact h w hw

/-- Deeds that keep the ledger have their commits for incidents. -/
theorem follows_performAll (h : r.Records ledger) {ds : List (Deed H)}
    (hds : ∀ d ∈ ds, d.Keeps ledger) :
    Follows ledger r ((commits ds).map .committed) (r.performAll ds) := by
  induction ds generalizing r with
  | nil => exact .refl h
  | cons d ds ih =>
      obtain ⟨hd, hrest⟩ := List.forall_mem_cons.mp hds
      cases d with
      | commit a =>
          have hcommit := follows_commit h a
          exact hcommit.trans (ih hcommit.records hrest)
      | act effect =>
          have hact : Follows ledger r [] (r.act effect) :=
            ⟨rfl, (List.append_nil _).symm, rfl,
              (hd r.session r.host).trans (List.append_nil _).symm, h⟩
          exact hact.trans (ih hact.records hrest)
      | failed =>
          have hfailed : Follows ledger r [] { r with failures := r.failures + 1 } :=
            ⟨rfl, (List.append_nil _).symm, rfl, (List.append_nil _).symm, h⟩
          exact hfailed.trans (ih hfailed.records hrest)

variable [ErrorLog H] {stages : List (Stage H)}

/-- A command has its incidents. -/
theorem follows_obey (hlog : ∀ text h, ledger (ErrorLog.logError text h) = ledger h)
    (hstages : ∀ stage ∈ stages, stage.Keeps ledger) (h : r.Records ledger)
    {command : Command V H} (hcommand : command.Records ledger) :
    Follows ledger r (r.session.incidentsOf stages command) (r.obey stages command) := by
  cases command with
  | run a =>
      have hds := deeds_keep hlog hstages maxDispatchDepth a r.session
      have hperformed := follows_performAll h hds
      rwa [← process_eq] at hperformed
  | subscribe id watch =>
      have hfst := Subscriber.register_fst id watch r.session r.host
      refine ⟨?_, (List.append_nil _).symm, rfl, ?_, ?_⟩
      · exact congrArg (fun u => Audience.mk r.session (r.subscribers ++ [u])) hfst
      · refine (Subscriber.ledger_register hcommand r.session r.host).trans ?_
        exact congrArg (ledger r.host ++ ·) (List.append_nil _).symm
      · refine List.forall_mem_append.mpr ⟨h, List.forall_mem_singleton.mpr ?_⟩
        show (Subscriber.register id watch r.session r.host).1.watch.Records ledger
          (Subscriber.register id watch r.session r.host).1.id
        rw [hfst, Subscriber.joining_watch, Subscriber.joining_id]
        exact hcommand
  | unsubscribe id =>
      exact ⟨rfl, (List.append_nil _).symm, rfl, (List.append_nil _).symm,
        fun u hu => h u (List.mem_filter.mp hu).1⟩
  | barrier reached =>
      exact ⟨rfl, (List.append_nil _).symm, rfl,
        (hcommand r.host).trans (List.append_nil _).symm, h⟩

/-- Commands have their incidents, one after another. -/
theorem follows_obeyAll (hlog : ∀ text h, ledger (ErrorLog.logError text h) = ledger h)
    (hstages : ∀ stage ∈ stages, stage.Keeps ledger) (h : r.Records ledger)
    {commands : List (Command V H)} (hcommands : ∀ c ∈ commands, c.Records ledger) :
    Follows ledger r (r.session.incidents stages commands) (r.obeyAll stages commands) := by
  induction commands generalizing r with
  | nil => exact .refl h
  | cons command rest ih =>
      obtain ⟨hcommand, hrest⟩ := List.forall_mem_cons.mp hcommands
      have hfirst := follows_obey hlog hstages h hcommand
      have hsession : (r.obey stages command).session =
          r.session.reduceAll (logged (r.session.incidentsOf stages command)) := by
        have haudience := congrArg Audience.session hfirst.audience
        rwa [Audience.session_afterAll] at haudience
      have hlater := ih hfirst.records hrest
      rw [hsession] at hlater
      exact hfirst.trans hlater

end Runner

end Told

/-! ## A diary -/

/-- A host that is nothing but what observers were given. -/
structure Diary where
  notices : List (Notice Nat) := []

instance : ErrorLog Diary := ⟨fun _ diary => diary⟩

/-- Writes down every session. -/
def Diary.everySession (id : Nat) : Watch Nat Diary :=
  .session fun s diary => ⟨diary.notices ++ [⟨id, .session s⟩]⟩

/-- Writes down the polling interval whenever it is longer than the one written down last. -/
def Diary.longerIntervals (id : Nat) : Watch Nat Diary :=
  .attribute (·.pollInterval) (fun last interval => interval ≤ last)
    fun _ interval _ diary => ⟨diary.notices ++ [⟨id, .value interval⟩]⟩

/-- Has an interval that is longer by one set before any but the longest. -/
def Diary.lengthening (longest : Nat) : Stage Diary where
  name := "lengthening"
  handle
    | .setPollInterval interval =>
        if interval < longest then
          .dispatch (.setPollInterval (interval + 1)) (.forwardOnly (.setPollInterval interval))
        else .forwardOnly (.setPollInterval interval)
    | a => .forwardOnly a

/-- Observers come and go around two actions, of which the first has another one committed in the
middle. -/
def Diary.commands : List (Command Nat Diary) :=
  [.subscribe 0 (everySession 0), .subscribe 1 (longerIntervals 1),
    .run (.setPollInterval 600001), .unsubscribe 0, .run (.setPollInterval 600003)]

/-! ## What the log explains -/

/-- Who joins in the course of commands is who is to join by them. -/
theorem joiners_incidents [ErrorLog H] (stages : List (Stage H)) (s : Session)
    (commands : List (Command V H)) :
    joiners (s.incidents stages commands) = commands.filterMap Command.joining? := by
  induction commands generalizing s with
  | nil => rfl
  | cons command rest ih =>
      have hfirst : joiners (s.incidentsOf stages command) = command.joining?.toList := by
        cases command with
        | run a => simp [joiners, Session.incidentsOf, Command.joining?, Incident.joined?]
        | subscribe id watch => rfl
        | unsubscribe id => rfl
        | barrier reached => rfl
      rw [Session.incidents, joiners_append, hfirst, ih]
      cases hjoining : command.joining? with
      | none => rw [List.filterMap_cons_none hjoining, Option.toList_none, List.nil_append]
      | some id => rw [List.filterMap_cons_some hjoining, Option.toList_some, List.singleton_append]

/-- What is written down of a store's incidents, and who is told what of them, is as its log of
commits has it. -/
structure Faithful (s : Session) (chronicle : List (Incident V H × List (Notice V))) : Prop where
  /-- Whoever is told something at an incident is registered, and told in the order of joining. -/
  ordered : ∀ past i notices, past ++ [(i, notices)] <+: chronicle →
    (notices.map (·.id)).Sublist (registered (past.map (·.1) ++ [i]))
  /-- At any time a subscriber has received what it is to be given by the commits that were made
  after it joined and before it left. -/
  received : ∀ past before id watch after, past <+: chronicle →
    past.map (·.1) = before ++ .joined id watch :: after →
    received id (past.flatMap (·.2)) =
      watch.given (s.reduceAll (logged before))
        ((s.reduceAll (logged before)).through
          (logged (after.takeWhile fun i => !i.isLeft id)))

/-- **A store makes the session that its log makes, counts what the log lists, and tells its
subscribers what the log says**, whatever the stages do and whatever counts as the same. -/
theorem Runner.observers_told [ErrorLog H] {ledger : H → List (Notice V)}
    {stages : List (Stage H)} {commands : List (Command V H)}
    (hlog : ∀ text h, ledger (ErrorLog.logError text h) = ledger h)
    (hstages : ∀ stage ∈ stages, stage.Keeps ledger)
    (hcommands : ∀ c ∈ commands, c.Records ledger)
    (hids : (commands.filterMap Command.joining?).Nodup) (s : Session) (host : H) :
    let incidents := s.incidents stages commands
    let r := obeyAll stages { session := s, host } commands
    r.session = s.reduceAll (logged incidents) ∧
      r.committed.reverse = logged incidents ∧
      r.actionsProcessed = (logged incidents).length ∧
      ∃ chronicle : List (Incident V H × List (Notice V)),
        chronicle.map (·.1) = incidents ∧
        ledger r.host = ledger host ++ chronicle.flatMap (·.2) ∧
        Faithful s chronicle := by
  intro incidents r
  have hnobody : Runner.Records ledger { session := s, host : Runner V H } :=
    fun u hu => absurd hu List.not_mem_nil
  have hfollows := follows_obeyAll hlog hstages hnobody hcommands
  have hsession := congrArg Audience.session hfollows.audience
  rw [Audience.session_afterAll] at hsession
  have hprocessed : r.actionsProcessed = (logged incidents).length :=
    hfollows.processed.trans (Nat.zero_add _)
  refine ⟨hsession, hfollows.committed, hprocessed, Audience.chronicle ⟨s, []⟩ incidents,
    Audience.chronicle_fst _ incidents, hfollows.written, ?_, ?_⟩
  · exact fun past i notices hpast => Audience.chronicle_ordered s hpast
  · intro past before id watch after hpast hsplit
    have hnodup : (joiners (before ++ .joined id watch :: after)).Nodup := by
      have hpart := hpast.map (·.1)
      rw [Audience.chronicle_fst, hsplit] at hpart
      have hjoiners : (joiners incidents).Nodup := by
        rw [joiners_incidents]
        exact hids
      exact hjoiners.sublist (hpart.sublist.filterMap _)
    rw [Audience.eq_chronicle_of_part hpast, hsplit]
    exact Audience.received_chronicle s hnodup

/-- The interval that is committed last but one is shorter than the one before it. -/
theorem Diary.observers_told_of_intervals :
    let incidents := Session.incidents [lengthening 600002] {} commands
    let r := Runner.obeyAll [lengthening 600002] { session := {}, host := {} } commands
    logged incidents = [.setPollInterval 600002, .setPollInterval 600001,
        .setPollInterval 600003] ∧
      received 1 r.host.notices = [.value 600000, .value 600002, .value 600003] ∧
      r.session = Session.reduceAll {} (logged incidents) ∧
      r.committed.reverse = logged incidents ∧
      r.actionsProcessed = (logged incidents).length ∧
      ∃ chronicle : List (Incident Nat Diary × List (Notice Nat)),
        chronicle.map (·.1) = incidents ∧
        r.host.notices = [] ++ chronicle.flatMap (·.2) ∧
        Faithful {} chronicle := by
  intro incidents r
  have hstages : ∀ stage ∈ [lengthening 600002], stage.Keeps Diary.notices := by
    intro stage hstage a
    obtain rfl := List.mem_singleton.mp hstage
    unfold lengthening
    dsimp only
    split
    · split <;> trivial
    · trivial
  have hcommands : ∀ c ∈ commands, c.Records Diary.notices := by
    simp [commands, Command.Records, Watch.Records, everySession, longerIntervals]
  exact ⟨by rfl, by rfl, Runner.observers_told (fun _ _ => rfl) hstages hcommands (by decide) {} {}⟩

end InAppMessaging
