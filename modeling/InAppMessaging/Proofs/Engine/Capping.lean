import InAppMessaging.Proofs.Engine.Lives
import InAppMessaging.Proofs.Engine.Provenance
import Mathlib.Data.List.Infix

/-!
# Frequency caps over the lives of an app

A message is offered by every catalog, under rules that allow so many views.  Once as many
displays of it were counted its queue id is spent: no answer brings it into a list again, whatever
happens then: users come and go, the app is reset and launched again, snapshots expire and are
refreshed, connections bring what they bring, and the clock shows what it likes.

Only answers are held against the counts, when they are applied, so three things are left open.  A
display while no snapshot with the rule is stored is not counted.  A list that was waiting already
when the last view was counted is taken as it is.  And so is what a connection or the app sends:
it comes up unless the queue id counts as shown, which a reset and a new launch make forget.
That a cap does not hold without these exceptions is `Engine.offer_comes_back`.

* `Engine.selectionNext_spare`, `Engine.holds_after` — **only a list with the queue id brings it
  up**, and only where somebody is known and it does not count as shown;
* `Engine.Awaits.after`, `Engine.applyAnswer_spares` — where a waiting list comes from, and that no
  answer makes one with the queue id;
* `Engine.spent_after_last_view` — **a cap holds over all lives of an app.**
-/

namespace InAppMessaging

open Pipeline

variable {k : StickyClass} {q : String} {count : Nat}

/-- Sticky messages are counted under their queue id. -/
theorem Pipeline.queueId_of_account {m : Message} (h : account? m = some (k, q)) :
    m.queueId = some q := by
  obtain ⟨l, -, hq⟩ := Option.bind_eq_some_iff.mp h
  obtain ⟨r, hr, hpair⟩ := Option.bind_eq_some_iff.mp hq
  obtain rfl := congrArg Prod.snd (Option.some.inj hpair)
  exact hr

/-! ## Selections -/

/-- An action puts no message on a surface itself: whatever comes up with it was selected. -/
def Action.selects : Action → Bool
  | .load _ _ | .embed _ => false
  | _ => true

/-- The messages that a step sends to be queued, apart from what the poller makes of an answer. -/
def LifeStep.sent : LifeStep → List Message
  | .call a => a.queued
  | .arrive _ _ _ arrival => messagesOfArrival arrival
  | _ => []

/-- An action brings no message with a queue id, if it has messages selected and has no list of
its own. -/
theorem Action.spares_of_selects {a : Action} (hselects : a.selects = true)
    (hqueue : a.isQueue = false) : a.Spares q := by
  cases a with
  | processQueue ms => exact absurd hqueue.symm Bool.false_ne_true
  | load m position => exact absurd hselects Bool.false_ne_true
  | embed ms => exact absurd hselects Bool.false_ne_true
  | _ => trivial

namespace Engine

/-- The store is about to take a list that brings a queue id. -/
def admitsNext (q : String) (e : Engine) : Bool :=
  match e.inbox with
  | .run (.processQueue ms) :: _ => e.session.admits q ms
  | _ => false

/-- The deeds of the selections that the store is about to make. -/
def selectionNext (e : Engine) : List (Deed Host) :=
  match e.inbox with
  | .run a :: _ => if a.selects then deeds e.stages maxDispatchDepth a e.session else []
  | _ => []

variable {e : Engine}

/-- The deeds of the action that the store is about to take bring no message with a queue id into
a queue that has none, unless it is a list that does; whether they put one on a surface depends on
the action. -/
theorem deeds_spare {up : Message → Bool} (hmay : ∀ m, m.lacks q = true → up m = true)
    {s : Session} (h : s.Holds (Message.lacks q)) {a : Action}
    (hown : a.isQueue = false → a.Brings up (Message.lacks q))
    (hlist : ∀ ms, a = .processQueue ms → s.admits q ms = false) :
    AllBring up (Message.lacks q) (deeds standard maxDispatchDepth a s) := by
  show AllBring up (Message.lacks q) (deeds standard (59 + 5) a s)
  rw [deeds_standard]
  cases hqueue : a.isQueue with
  | true =>
      obtain ⟨ms, rfl⟩ := Action.isQueue_iff.mp hqueue
      exact queueDeeds_spare hmay (hlist ms rfl)
  | false => exact actionDeeds_bring hmay h (hown hqueue)

/-- **Without such a list no selection brings the queue id up.** -/
theorem selectionNext_spare (h : e.session.Holds (Message.lacks q)) (hstages : e.stages = standard)
    (hadmits : e.admitsNext q = false) : AllSpare q e.selectionNext := by
  unfold selectionNext
  split
  · next a rest hinbox =>
      split
      · next hselects =>
          rw [hstages]
          refine deeds_spare (fun _ hm => hm) h (Action.spares_of_selects hselects) ?_
          rintro ms rfl
          unfold admitsNext at hadmits
          rwa [hinbox] at hadmits
      · exact allBring_nil _ _
  · exact allBring_nil _ _

/-- With such a list one does. -/
theorem admitsNext_of_spare (hstages : e.stages = standard) (h : AllSpare q e.selectionNext) :
    e.admitsNext q = false := by
  unfold admitsNext
  split
  · next ms rest hinbox =>
      have hdeeds : e.selectionNext = queueDeeds ms e.session := by
        unfold selectionNext
        rw [hinbox, hstages]
        exact deeds_standard 59 (.processQueue ms) e.session
      rw [hdeeds] at h
      exact allSpare_queueDeeds_iff.mp h
  · rfl

/-- **A queue without the queue id stays without it**, as long as the store takes no such list. -/
theorem holds_after (h : e.session.Holds (Message.lacks q)) (hstages : e.stages = standard)
    (hadmits : e.admitsNext q = false) (step : LifeStep) :
    (e.after step).session.Holds (Message.lacks q) := by
  have hbeside {e' : Engine} (hgrows : Grows (fun _ => True) e e') :
      e'.session.Holds (Message.lacks q) := by
    rw [hgrows.session]
    exact h
  cases step with
  | store =>
      obtain ⟨stages, client, store, inbox, running, time, subscriptions⟩ := e
      cases inbox with
      | nil => exact h
      | cons c rest =>
          show (store.obey stages c).session.Holds (Message.lacks q)
          cases c with
          | run a =>
              have hobey : store.obey stages (.run a) =
                  store.performAll (deeds stages maxDispatchDepth a store.session) :=
                store.process_eq stages maxDispatchDepth a
              rw [hobey, Runner.performAll_session, show stages = standard from hstages]
              refine h.afterDeeds (deeds_spare (fun _ _ => rfl) h Action.brings_of_isQueue ?_)
              rintro ms rfl
              exact hadmits
          | subscribe id watch => exact h
          | unsubscribe id => exact h
          | barrier reached => exact h
  | stop =>
      obtain ⟨-, hsession, -⟩ := e.store_stopStore
      exact fun m hm => h m (hsession ▸ hm)
  | relaunch client host => exact fun _ hm => absurd hm List.not_mem_nil
  | answer | arrive => exact hbeside (grows_after fun _ _ => trivial)
  | subscribe => exact hbeside (grows_after fun _ => trivial)
  | _ => exact hbeside (grows_after trivial)

/-- It stays so over many steps. -/
theorem holds_live (h : e.session.Holds (Message.lacks q)) (he : e.Settled) {steps : List LifeStep}
    (hkeeps : ∀ step ∈ steps, step.KeepsValues)
    (hadmits : ∀ before, before <+: steps → (e.live before).admitsNext q = false) :
    (e.live steps).session.Holds (Message.lacks q) := by
  induction steps generalizing e with
  | nil => exact h
  | cons step rest ih =>
      obtain ⟨hstep, hrest⟩ := List.forall_mem_cons.mp hkeeps
      have hnext := holds_after h he.stages (hadmits [] List.nil_prefix) step
      exact ih hnext (he.after hstep) hrest fun before hbefore =>
        hadmits (step :: before) ((List.prefix_cons_inj step).mpr hbefore)

/-! ## What waits to be queued -/

/-- Of all messages that wait to be queued something is known. -/
def Awaits (P : Message → Prop) (e : Engine) : Prop := ∀ c ∈ e.inbox, ∀ m ∈ c.queued, P m

/-- Where nothing waits with a queue id the store is about to take no list with it. -/
theorem admitsNext_of_awaits (h : e.Awaits fun m => m.queueId ≠ some q) :
    e.admitsNext q = false := by
  unfold admitsNext
  split
  · next ms rest hinbox =>
      have hlacks : ∀ m ∈ ms, m.lacks q = true := fun m hm =>
        Message.lacks_iff.mpr (h (.run (.processQueue ms)) (hinbox ▸ List.mem_cons_self) m hm)
      have hnone : (ms.any fun m => !m.lacks q) = false :=
        List.any_eq_false.mpr fun m hm => by simp [hlacks m hm]
      show (e.session.hasIdentity && !e.session.shown.contains q && _) = false
      rw [hnone, Bool.and_false]
  · rfl

/-- **What waits was waiting before, is sent by the step, or is what the poller makes of an
answer.** -/
theorem Awaits.after {P : Message → Prop} (h : e.Awaits P) {step : LifeStep}
    (hsent : ∀ m ∈ step.sent, P m)
    (hanswer : ∀ r, step = .answer r →
      ∀ a ∈ (applyAnswer e.session r e.host).1, ∀ m ∈ a.queued, P m) :
    (e.after step).Awaits P := by
  have hbeside {e' : Engine} (hgrows : Grows (fun c => ∀ m ∈ c.queued, P m) e e') :
      e'.Awaits P := by
    obtain ⟨new, hinbox, hnew⟩ := hgrows.inbox
    unfold Awaits
    rw [hinbox]
    exact List.forall_mem_append.mpr ⟨h, hnew⟩
  have hnone : ∀ m ∈ ([] : List Message), P m := fun _ hm => absurd hm List.not_mem_nil
  cases step with
  | store =>
      intro c hc
      refine h c ?_
      change c ∈ e.stepStore.inbox at hc
      unfold stepStore at hc
      split at hc
      · exact hc
      · next first rest hinbox =>
          rw [hinbox]
          exact List.mem_cons_of_mem first hc
  | stop =>
      show ∀ c ∈ e.stopStore.inbox, _
      rw [inbox_stopStore]
      exact fun _ hc => absurd hc List.not_mem_nil
  | relaunch client host => exact fun _ hc => absurd hc List.not_mem_nil
  | call a => exact hbeside (grows_after hsent)
  | answer r => exact hbeside (grows_after (hanswer r rfl))
  | arrive who c time arrival =>
      exact hbeside (grows_after fun a ha m hm => hsent m (c.queued_onArrival time arrival a ha hm))
  | subscribe watch => exact hbeside (grows_after fun _ => hnone)
  | unsubscribe id => exact hbeside (grows_after hnone)
  | barrier reached => exact hbeside (grows_after hnone)
  | _ => exact hbeside (grows_after trivial)

/-! ## Often enough -/

section OftenEnough

variable (hcount : 1 ≤ count) (hmax : count ≤ Text.maxWord32)

/-- A queue id that was shown often enough stays so. -/
theorem shown_live (he : e.Settled) (hmax : count ≤ Text.maxWord32)
    (hshown : count ≤ e.host.timesShown k q) {steps : List LifeStep}
    (hkeeps : ∀ step ∈ steps, step.KeepsValues)
    (hoffers : ∀ step ∈ steps, step.Offers k q count) :
    count ≤ (e.live steps).host.timesShown k q := by
  have hcounted := counted_live he hkeeps hoffers
  omega

include hcount in
/-- **The poller makes no list with it of an answer.** -/
theorem applyAnswer_spares (hshown : count ≤ e.host.timesShown k q) {r : CatalogResponse}
    (hoffers : (LifeStep.answer r).Offers k q count) :
    ∀ a ∈ (applyAnswer e.session r e.host).1, ∀ m ∈ a.queued, m.queueId ≠ some q := by
  intro a ha
  rcases mem_applyAnswer ha with ⟨ms, houtcome, rfl⟩ | rfl | ⟨interval, rfl⟩ | ⟨enabled, rfl⟩
  · exact (hoffers ms houtcome).not_mem_gatherQueue hcount hshown _
  all_goals exact fun _ hm => absurd hm List.not_mem_nil

include hcount hmax in
/-- **What waits with it from then on was waiting before or was sent by a step.** -/
theorem awaits_live {P : Message → Prop} (hothers : ∀ m, m.queueId ≠ some q → P m)
    (h : e.Awaits P) (he : e.Settled) (hshown : count ≤ e.host.timesShown k q)
    {steps : List LifeStep} (hkeeps : ∀ step ∈ steps, step.KeepsValues)
    (hoffers : ∀ step ∈ steps, step.Offers k q count)
    (hsent : ∀ step ∈ steps, ∀ m ∈ step.sent, P m) : (e.live steps).Awaits P := by
  induction steps generalizing e with
  | nil => exact h
  | cons step rest ih =>
      obtain ⟨hstep, hrest⟩ := List.forall_mem_cons.mp hkeeps
      obtain ⟨hoffer, hofferRest⟩ := List.forall_mem_cons.mp hoffers
      obtain ⟨hsend, hsendRest⟩ := List.forall_mem_cons.mp hsent
      have hanswer : ∀ r, step = .answer r →
          ∀ a ∈ (applyAnswer e.session r e.host).1, ∀ m ∈ a.queued, P m := by
        rintro r rfl a ha m hm
        exact hothers m (applyAnswer_spares hcount hshown hoffer a ha m hm)
      have hshownNext : count ≤ (e.live [step]).host.timesShown k q :=
        shown_live he hmax hshown (List.forall_mem_singleton.mpr hstep)
          (List.forall_mem_singleton.mpr hoffer)
      exact ih (h.after hsend hanswer) (he.after hstep) hshownNext hrest hofferRest hsendRest

end OftenEnough

/-! ## The last view -/

/-- A display takes its message out of the queue. -/
theorem holds_stepStore_of_displaysNext (hstages : e.stages = standard)
    (hdisplay : e.displaysNext k q = true) : e.stepStore.session.Holds (Message.lacks q) := by
  obtain ⟨stages, client, store, inbox, running, time, subscriptions⟩ := e
  unfold displaysNext at hdisplay
  split at hdisplay
  · next m rest heq =>
      change inbox = _ at heq
      subst heq
      obtain ⟨hm, htoken⟩ := Bool.and_eq_true_iff.mp hdisplay
      have hq : m.queueId = some q := queueId_of_account (of_decide_eq_true hm)
      have hidentity : store.session.hasIdentity = true := by
        rw [← Session.userToken?_isSome]
        exact htoken
      have hsession : (store.obey stages (.run (.display m))).session =
          store.session.reduce (.display m) := by
        have hfollowed := Session.handled_of_identity (a := .display m) hidentity
        rw [show stages = standard from hstages]
        exact (Runner.handle_session store (.display m)).trans hfollowed
      show (store.obey stages (.run (.display m))).session.Holds (Message.lacks q)
      rw [hsession]
      intro other hother
      rw [Session.reduce_queue_of_display store.session hq] at hother
      exact Message.lacks_iff.mpr (of_decide_eq_true (List.mem_filter.mp hother).2)
  · exact absurd hdisplay Bool.false_ne_true

/-- What is to be expected of an engine in which a queue id was shown often enough. -/
structure Spent (k : StickyClass) (q : String) (count : Nat) (e : Engine)
    (later : List LifeStep) : Prop where
  /-- The poller makes no list with the queue id of an answer. -/
  answers : ∀ meanwhile, meanwhile <+: later → ∀ r, (LifeStep.answer r).Offers k q count →
    ∀ a ∈ (applyAnswer (e.live meanwhile).session r (e.live meanwhile).host).1,
      ∀ m ∈ a.queued, m.queueId ≠ some q
  /-- Whatever waits to be queued with it was waiting at first, or was sent by a connection or the
  app since. -/
  waiting : ∀ meanwhile, meanwhile <+: later →
    ∀ c ∈ (e.live meanwhile).inbox, ∀ m ∈ c.queued, m.queueId = some q →
      (∃ c ∈ e.inbox, m ∈ c.queued) ∨ ∃ step ∈ meanwhile, m ∈ step.sent
  /-- No selection queues, embeds, loads or presents a message with it, exactly as long as the
  store takes no list with it while somebody is known and the queue id does not count as shown. -/
  selections : ∀ meanwhile, meanwhile <+: later →
    ((∀ before, before <+: meanwhile → AllSpare q (e.live before).selectionNext) ↔
      ∀ before, before <+: meanwhile → (e.live before).admitsNext q = false)
  /-- So no selection does, unless it was waiting at first or is sent. -/
  unsent : (∀ c ∈ e.inbox, ∀ m ∈ c.queued, m.queueId ≠ some q) →
    (∀ step ∈ later, ∀ m ∈ step.sent, m.queueId ≠ some q) →
      ∀ meanwhile, meanwhile <+: later → AllSpare q (e.live meanwhile).selectionNext

/-- **A queue id that was shown often enough is spent**, if it is not in the queue. -/
theorem spent_of_shown (hcount : 1 ≤ count) (hmax : count ≤ Text.maxWord32) (he : e.Settled)
    (hshown : count ≤ e.host.timesShown k q) (hholds : e.session.Holds (Message.lacks q))
    {later : List LifeStep} (hkeeps : ∀ step ∈ later, step.KeepsValues)
    (hoffers : ∀ step ∈ later, step.Offers k q count) : e.Spent k q count later := by
  have hkeepsPart {part : List LifeStep} (hpart : part <+: later) :
      ∀ step ∈ part, step.KeepsValues := fun step h => hkeeps step (hpart.subset h)
  have hoffersPart {part : List LifeStep} (hpart : part <+: later) :
      ∀ step ∈ part, step.Offers k q count := fun step h => hoffers step (hpart.subset h)
  have hspare {part : List LifeStep} (hpart : part <+: later)
      (hadmits : ∀ before, before <+: part → (e.live before).admitsNext q = false) :
      AllSpare q (e.live part).selectionNext := by
    have hlacks : (e.live part).session.Holds (Message.lacks q) :=
      holds_live hholds he (hkeepsPart hpart) hadmits
    exact selectionNext_spare hlacks (he.live (hkeepsPart hpart)).stages
      (hadmits part (List.prefix_refl part))
  constructor
  case answers =>
    intro meanwhile hpart r hr
    exact applyAnswer_spares hcount
      (shown_live he hmax hshown (hkeepsPart hpart) (hoffersPart hpart)) hr
  case waiting =>
    intro meanwhile hpart
    have hfirst : e.Awaits fun m => m.queueId = some q →
        (∃ c ∈ e.inbox, m ∈ c.queued) ∨ ∃ step ∈ meanwhile, m ∈ step.sent :=
      fun c hc m hm _ => .inl ⟨c, hc, hm⟩
    exact awaits_live hcount hmax (fun m hne hq => absurd hq hne) hfirst he hshown
      (hkeepsPart hpart) (hoffersPart hpart) fun step hstep m hm _ => .inr ⟨step, hstep, hm⟩
  case selections =>
    intro meanwhile hpart
    refine ⟨fun h before hbefore => ?_, fun h before hbefore => ?_⟩
    · exact admitsNext_of_spare (he.live (hkeepsPart (hbefore.trans hpart))).stages
        (h before hbefore)
    · exact hspare (hbefore.trans hpart) fun first hfirst => h first (hfirst.trans hbefore)
  case unsent =>
    intro hwaiting hsent meanwhile hpart
    refine hspare hpart fun before hbefore => admitsNext_of_awaits ?_
    have hbegins := hbefore.trans hpart
    exact awaits_live hcount hmax (fun _ hne => hne) hwaiting he hshown (hkeepsPart hbegins)
      (hoffersPart hbegins) fun step hstep => hsent step (hbegins.subset hstep)

/-- **A cap holds over all lives of an app.**  A message with a queue id is offered by every
catalog, under rules that allow so many views.  Once the last of these was counted, the queue id
is spent (`Engine.Spent`), whatever answers, connections and the app bring then. -/
theorem spent_after_last_view (hcount : 1 ≤ count) (hmax : count ≤ Text.maxWord32) {e : Engine}
    (he : e.Settled) {earlier later : List LifeStep}
    (hkeeps : ∀ step ∈ earlier ++ .store :: later, step.KeepsValues)
    (hoffers : ∀ step ∈ earlier ++ .store :: later, step.Offers k q count)
    (hview : (e.live earlier).viewsNext k q = true)
    (hviews : count ≤ e.tally (viewsNext k q) earlier + 1) :
    (e.live (earlier ++ [.store])).Spent k q count later := by
  obtain ⟨hkeepsEarlier, hkeepsLater⟩ := List.forall_mem_append.mp hkeeps
  obtain ⟨hoffersEarlier, hoffersLater⟩ := List.forall_mem_append.mp hoffers
  have hsettled : (e.live earlier).Settled := he.live hkeepsEarlier
  -- the stored count has come to what the rules allow
  have hbefore := counted_live he hkeepsEarlier hoffersEarlier
  have hlast := counted_stepStore hsettled hview
  have hshown : count ≤ (e.live earlier).stepStore.host.timesShown k q := by omega
  -- and the display has taken the message out of the queue
  have hholds := holds_stepStore_of_displaysNext hsettled.stages (Bool.and_eq_true_iff.mp hview).1
  rw [show e.live (earlier ++ [.store]) = (e.live earlier).stepStore from live_append e earlier _]
  exact spent_of_shown hcount hmax hsettled.stepStore hshown hholds
    (List.forall_mem_cons.mp hkeepsLater).2 (List.forall_mem_cons.mp hoffersLater).2

/-! ## Two lives -/

/-- A broadcast that may be shown so many times. -/
def offer (views : Int64) : Message :=
  { id := "offer", queueId := some "o",
    delivery :=
      { broadcast := some { frequency := some { count := some views, delay := some 0 } } } }

/-- The catalog lists one message. -/
def catalogOf (m : Message) : LifeStep := .answer { status := 200, messages := [m] }

/-- A user is named, and the catalog lists one message. -/
def greeted (user : String) (m : Message) : List LifeStep :=
  [.call (.setUser user), .store, catalogOf m]

/-- A watched engine with a pipeline, in which a snapshot lasts for a minute. -/
def minuteEngine : Engine :=
  ({ store := { session := {}, host := { broadcastLifetime := 60000, clock := 1000 } } } :
    Engine).watchChannel.2

theorem minuteEngine_settled : minuteEngine.Settled := (Settled.bare {} _).watchChannel

/-- A step is fair to the offer: it leaves the stored values alone, and answers list the offer. -/
def IsFair (count : Nat) (step : LifeStep) : Prop :=
  step.KeepsValues ∧ step.Offers .broadcast "o" count

@[simp] theorem fair_store : IsFair count .store := ⟨trivial, trivial⟩

@[simp] theorem fair_call (a : Action) : IsFair count (.call a) := ⟨trivial, trivial⟩

@[simp] theorem fair_post (work : Work) : IsFair count (.post work) := ⟨trivial, trivial⟩

@[simp] theorem fair_arrive (who : Reconnector) (c : Connection) (time : Nat) (arrival : Arrival) :
    IsFair count (.arrive who c time arrival) := ⟨trivial, trivial⟩

@[simp] theorem fair_relaunch (client : ClientSettings) (host : Host) :
    IsFair count (.relaunch client host) := ⟨trivial, trivial⟩

/-- A catalog that lists the offer with the rule is fair. -/
theorem fair_catalogOf {views : Int64} (hviews : views.toInt = (count : Int)) :
    IsFair count (catalogOf (offer views)) := by
  refine ⟨trivial, fun ms hms => ?_⟩
  obtain rfl : [offer views] = ms := CatalogOutcome.messages.inj hms
  exact
    { listed := ⟨offer views, List.mem_singleton_self _, rfl⟩
      sticky := List.forall_mem_singleton.mpr fun _ => rfl
      rules := List.forall_mem_singleton.mpr fun _ => ⟨⟨views.toInt, 0, false⟩, rfl, hviews⟩ }

/-- An offer for two views is displayed twice, before and after a reset. -/
def shownTwice : List LifeStep :=
  [.store, .store] ++ greeted "ada" (offer 2) ++ [.store, .call (.display (offer 2)), .store] ++
    [.call (.reset "session"), .store] ++ greeted "bob" (offer 2) ++
    [.store, .call (.display (offer 2))]

/-- A connection brings the offer while it counts as shown.  Then the app is launched again, and
the catalog lists the offer once more. -/
def afterwards : List LifeStep :=
  [.call (.setRealtime true), .store, .post .foreground,
    .arrive .mainThread (.ofSettings {}) 0 (.ok (.messages [offer 2])), .store,
    .relaunch {} { clock := 5000 }] ++ greeted "bob" (offer 2)

/-- The offer is spent, and no selection brings it back. -/
theorem shownTwice_spent :
    let spent := minuteEngine.live (shownTwice ++ [.store])
    (minuteEngine.live shownTwice).viewsNext .broadcast "o" = true ∧
      spent.Spent .broadcast "o" 2 afterwards ∧
      (∀ meanwhile, meanwhile <+: afterwards → AllSpare "o" (spent.live meanwhile).selectionNext) ∧
      commits (spent.live afterwards).selectionNext = [.processQueue []] := by
  have hcatalog : IsFair 2 (catalogOf (offer 2)) := fair_catalogOf rfl
  have hfair : ∀ step ∈ shownTwice ++ .store :: afterwards, IsFair 2 step := by
    simp [shownTwice, afterwards, greeted, hcatalog]
  have hone : 1 ≤ 2 := by decide
  have hmax : 2 ≤ Text.maxWord32 := by decide
  intro spent
  -- one evaluation, so that the steps all parts share are run once
  obtain ⟨hview, hviews, hadmits, hcommits⟩ :
      (minuteEngine.live shownTwice).viewsNext .broadcast "o" = true ∧
        2 ≤ minuteEngine.tally (viewsNext .broadcast "o") shownTwice + 1 ∧
        (∀ meanwhile ∈ afterwards.inits, (spent.live meanwhile).admitsNext "o" = false) ∧
        commits (spent.live afterwards).selectionNext = [.processQueue []] := by
    decide +kernel
  have hspent : spent.Spent .broadcast "o" 2 afterwards :=
    spent_after_last_view hone hmax minuteEngine_settled (fun step h => (hfair step h).1)
      (fun step h => (hfair step h).2) hview hviews
  refine ⟨hview, hspent, ?_, hcommits⟩
  refine (hspent.selections afterwards (List.prefix_refl _)).mpr fun meanwhile hpart => ?_
  exact hadmits meanwhile ((List.mem_inits _ _).mpr hpart)

/-! ## The exceptions are needed -/

/-- An offer for one view is displayed after some steps, and after some more it is presented
again, although every answer lists it and nobody else touches the stored values. -/
structure ComesBack (steps afterwards : List LifeStep) : Prop where
  fair : ∀ step ∈ steps ++ .store :: afterwards, IsFair 1 step
  displays : (minuteEngine.live steps).displaysNext .broadcast "o" = true
  presents : .present (offer 1) ∈
    commits (minuteEngine.live (steps ++ .store :: afterwards)).selectionNext

/-- The app is reset, and a user is named again. -/
def returned (user : String) : List LifeStep :=
  [.call (.reset "session"), .store, .call (.setUser user), .store]

/-- The offer is picked, but displayed only when the snapshot has expired. -/
def lapsedDisplay : List LifeStep :=
  [.store, .store] ++ greeted "ada" (offer 1) ++
    [.store, .elsewhere fun h => { h with clock := 61001 }, .call (.display (offer 1))]

/-- A view that is displayed with no snapshot stored is not counted, and the next answer brings
the offer again. -/
theorem lapsedOffer_comes_back :
    ComesBack lapsedDisplay (returned "ada" ++ [catalogOf (offer 1)]) ∧
      (minuteEngine.live lapsedDisplay).viewsNext .broadcast "o" = false ∧
      (minuteEngine.live lapsedDisplay).inbox.tail.isEmpty = true := by
  have hcatalog : IsFair 1 (catalogOf (offer 1)) := fair_catalogOf rfl
  have hlater : IsFair 1 (.elsewhere fun h => { h with clock := 61001 }) := ⟨fun _ => rfl, trivial⟩
  have hfair : ∀ step ∈ lapsedDisplay ++ .store :: (returned "ada" ++ [catalogOf (offer 1)]),
      IsFair 1 step := by
    simp [lapsedDisplay, greeted, returned, hcatalog, hlater]
  obtain ⟨hdisplays, hpresents, hrest⟩ :
      (minuteEngine.live lapsedDisplay).displaysNext .broadcast "o" = true ∧
        .present (offer 1) ∈ commits (minuteEngine.live
          (lapsedDisplay ++ .store :: (returned "ada" ++ [catalogOf (offer 1)]))).selectionNext ∧
        (minuteEngine.live lapsedDisplay).viewsNext .broadcast "o" = false ∧
        (minuteEngine.live lapsedDisplay).inbox.tail.isEmpty = true := by
    decide +kernel
  exact ⟨⟨hfair, hdisplays, hpresents⟩, hrest⟩

/-- The catalog lists the offer once more before its one display is counted. -/
def waitingOffer : List LifeStep :=
  [.store, .store] ++ greeted "ada" (offer 1) ++
    [.store, .call (.display (offer 1)), .call (.reset "session"), .call (.setUser "ada"),
      catalogOf (offer 1)]

/-- A list that waits while the view is counted brings the offer again. -/
theorem waitingOffer_comes_back :
    ComesBack waitingOffer [.store, .store] ∧
      (minuteEngine.live waitingOffer).viewsNext .broadcast "o" = true := by
  have hcatalog : IsFair 1 (catalogOf (offer 1)) := fair_catalogOf rfl
  have hfair : ∀ step ∈ waitingOffer ++ .store :: [.store, .store], IsFair 1 step := by
    simp [waitingOffer, greeted, hcatalog]
  obtain ⟨hdisplays, hpresents, hviews⟩ :
      (minuteEngine.live waitingOffer).displaysNext .broadcast "o" = true ∧
        .present (offer 1) ∈
          commits (minuteEngine.live (waitingOffer ++ .store :: [.store, .store])).selectionNext ∧
        (minuteEngine.live waitingOffer).viewsNext .broadcast "o" = true := by
    decide +kernel
  exact ⟨⟨hfair, hdisplays, hpresents⟩, hviews⟩

/-- The offer is displayed while its snapshot is stored, with an open realtime channel. -/
def countedDisplay : List LifeStep :=
  [.store, .store] ++ greeted "ada" (offer 1) ++
    [.store, .call (.setRealtime true), .store, .post .foreground, .call (.display (offer 1))]

/-- A connection brings the offer, or the app does itself. -/
def senders : List LifeStep :=
  [.arrive .mainThread (.ofSettings {}) 0 (.ok (.messages [offer 1])),
    .call (.processQueue [offer 1])]

/-- When the view was counted and nothing was waiting, what a connection or the app sends after a
reset brings the offer again. -/
theorem sentOffer_comes_back :
    (∀ sender ∈ senders, ComesBack countedDisplay (returned "ada" ++ [sender])) ∧
      (minuteEngine.live countedDisplay).viewsNext .broadcast "o" = true ∧
      (minuteEngine.live countedDisplay).inbox.tail.isEmpty = true ∧
      (minuteEngine.live (countedDisplay ++ .store :: returned "ada")).host.channel.isOpen
        = true := by
  have hcatalog : IsFair 1 (catalogOf (offer 1)) := fair_catalogOf rfl
  have hfair : ∀ sender ∈ senders,
      ∀ step ∈ countedDisplay ++ .store :: (returned "ada" ++ [sender]), IsFair 1 step := by
    simp [senders, countedDisplay, greeted, returned, hcatalog]
  obtain ⟨hdisplays, hpresents, hrest⟩ :
      (minuteEngine.live countedDisplay).displaysNext .broadcast "o" = true ∧
        (∀ sender ∈ senders, .present (offer 1) ∈ commits (minuteEngine.live
          (countedDisplay ++ .store :: (returned "ada" ++ [sender]))).selectionNext) ∧
        (minuteEngine.live countedDisplay).viewsNext .broadcast "o" = true ∧
        (minuteEngine.live countedDisplay).inbox.tail.isEmpty = true ∧
        (minuteEngine.live (countedDisplay ++ .store :: returned "ada")).host.channel.isOpen
          = true := by
    decide +kernel
  exact ⟨fun sender h => ⟨hfair sender h, hdisplays, hpresents sender h⟩, hrest⟩

/-- **A cap does not hold without exceptions.**  The one view of the offer is displayed while
somebody is known, and still it comes back: when no snapshot is stored that says how often it may
be shown; when an answer was applied before the view was counted, and its list still waits; and
when a connection or the app itself sends it. -/
theorem offer_comes_back :
    (ComesBack lapsedDisplay (returned "ada" ++ [catalogOf (offer 1)]) ∧
      (minuteEngine.live lapsedDisplay).viewsNext .broadcast "o" = false ∧
      (minuteEngine.live lapsedDisplay).inbox.tail.isEmpty = true) ∧
    (ComesBack waitingOffer [.store, .store] ∧
      (minuteEngine.live waitingOffer).viewsNext .broadcast "o" = true) ∧
    (∀ sender ∈ senders, ComesBack countedDisplay (returned "ada" ++ [sender])) ∧
      (minuteEngine.live countedDisplay).viewsNext .broadcast "o" = true ∧
      (minuteEngine.live countedDisplay).inbox.tail.isEmpty = true ∧
      (minuteEngine.live (countedDisplay ++ .store :: returned "ada")).host.channel.isOpen
        = true :=
  ⟨lapsedOffer_comes_back, waitingOffer_comes_back, sentOffer_comes_back⟩

end Engine

end InAppMessaging
