import InAppMessaging.Proofs.Engine.Provenance
import InAppMessaging.Proofs.Pipeline.Modal
import Mathlib.Data.List.Forall2

/-!
# Whom a list of messages reaches

The store keeps no account of whom a list was obtained for, so a list may become the queue of
somebody else.  What holds is this: every queue that is committed comes from one list, sent by
the app, answered to a fetch or told over a connection, with no message of any other list; and
somebody else gets it only if a user was named or forgotten since it was asked for.

* `Asking.Stands.commit` — an asking stands through a commit;
* `Books.Fits.advance`, `Trail.fits_after` — a step of the engine and of what is beside it keeps
  the books right;
* `Trail.committed_from_origin` — **whom a queue that is committed was obtained for.**
-/

namespace InAppMessaging

open Pipeline

/-! ## Naming users -/

/-- An action names or forgets a user. -/
def Action.identifies : Action → Bool
  | .setUser _ | .setAnonymous _ | .reset _ => true
  | _ => false

/-- The token of a session changes only if a user is named or forgotten. -/
theorem Session.userToken?_reduce (s : Session) {a : Action} (h : a.identifies = false) :
    (s.reduce a).userToken? = s.userToken? := by
  have hsame : ∀ {s' : Session}, SameIdentity s s' → s'.userToken? = s.userToken? := by
    intro s' hs'
    unfold userToken?
    rw [hs'.1, hs'.2]
  cases a with
  | setUser | setAnonymous | reset => exact absurd h.symm Bool.false_ne_true
  | display m => exact hsame (s.identity_displayed _ m)
  | dismiss m log viaClose => exact hsame (s.identity_dismissed _ m)
  | loadingFailed m => exact hsame (s.identity_dismissed _ m)
  | _ => rfl

/-! ## Lists that are sent -/

/-- A command queues no messages but those. -/
def Command.Within (ms : List Message) (c : Command Observed Host) : Prop := c.queued ⊆ ms

/-- What the poller has queued about an answer are its messages. -/
theorem queued_applyAnswer (s : Session) (r : CatalogResponse) (h : Host) :
    ∀ a ∈ (applyAnswer s r h).1, a.queued ⊆ r.messages := by
  intro a ha
  rcases mem_applyAnswer ha with ⟨ms, houtcome, rfl⟩ | rfl | ⟨interval, rfl⟩ | ⟨enabled, rfl⟩
  · have hms : ms = r.messages := by
      unfold CatalogResponse.outcome at houtcome
      split at houtcome
      · exact nomatch houtcome
      · split at houtcome
        · exact (CatalogOutcome.messages.inj houtcome).symm
        · exact nomatch houtcome
    intro m hm
    rw [← hms]
    exact (mem_gatherQueue hm).1
  · exact List.nil_subset _
  · exact List.nil_subset _
  · exact List.nil_subset _

/-! ## Askings -/

/-- What was asked for the owner of a token still belongs to the session, unless a user was
named or forgotten since. -/
structure Asking.Stands (a : Asking) (m : Moment) : Prop where
  since_le : a.since ≤ m.log.length
  token_eq : (∀ b ∈ m.since a, b.identifies = false) → m.session.userToken? = a.token

namespace Asking

variable {a : Asking} {m m' : Moment}

/-- What is asked now stands. -/
theorem stands_asking (m : Moment) : m.asking.Stands m := ⟨Nat.le_refl _, fun _ => rfl⟩

/-- A fetch is for the owner of the session's token. -/
theorem stands_fetchNext (h : m.fetchNext? = some a) : a.Stands m := by
  obtain ⟨r, hr, rfl⟩ := Option.map_eq_some_iff.mp h
  refine ⟨Nat.le_refl _, fun _ => ?_⟩
  unfold Session.pollRequest? at hr
  split at hr
  · exact nomatch hr
  · unfold Session.catalogRequest? at hr
    obtain ⟨token, htoken, hrequest⟩ := Option.map_eq_some_iff.mp hr
    rw [← hrequest]
    exact htoken

theorem Stands.of_eq (h : a.Stands m) (hsession : m'.session = m.session)
    (hlog : m'.log = m.log) : a.Stands m' := by
  refine ⟨hlog ▸ h.since_le, fun hnobody => ?_⟩
  rw [hsession]
  refine h.token_eq fun b hb => hnobody b ?_
  unfold Moment.since at hb ⊢
  rwa [hlog]

/-- **An asking stands through a commit.** -/
theorem Stands.commit (h : a.Stands m) (b : Action) (rest : List (Deed Host)) :
    a.Stands (m.commit b rest) := by
  have hlog : (m.commit b rest).log = b :: m.log := rfl
  have hsince : (m.commit b rest).since a = b :: m.since a := by
    have hlength : (b :: m.log).length - a.since = (m.log.length - a.since) + 1 := by
      have hle := h.since_le
      rw [List.length_cons]
      omega
    unfold Moment.since
    rw [hlog, hlength, List.take_succ_cons]
  refine ⟨Nat.le_succ_of_le h.since_le, fun hnobody => ?_⟩
  rw [hsince] at hnobody
  obtain ⟨hb, hrest⟩ := List.forall_mem_cons.mp hnobody
  show (m.session.reduce b).userToken? = a.token
  rw [Session.userToken?_reduce _ hb]
  exact h.token_eq hrest

end Asking

/-! ## Books that are right -/

/-- What is known about an origin: what was asked for it stands, and if nothing was, the app
sent its messages. -/
structure Origin.Known (own : List Message) (m : Moment) (o : Origin) : Prop where
  asked : ∀ a, o.asking? = some a → a.Stands m
  own : o.asking? = none → o.messages ⊆ own

/-- A message is in the list. -/
def Origin.lists (o : Origin) (m : Message) : Bool := decide (m ∈ o.messages)

namespace Books

/-- All that was asked. -/
def askings (b : Books) : List Asking := b.fetches ++ b.connections

/-- All origins. -/
def origins (b : Books) : List Origin :=
  b.current :: b.kept :: (b.sending.map (·.2) ++ b.marks)

/-- All that was asked stands, and all origins are known. -/
structure Known (b : Books) (m : Moment) : Prop where
  askings : ∀ a ∈ b.askings, a.Stands m
  origins : ∀ o ∈ b.origins, o.Known b.own m

/-- Whatever is queued on behalf of a list is in it. -/
structure Fits (b : Books) (m : Moment) : Prop where
  stages : m.engine.stages = standard
  known : b.Known m
  sending : ∀ x ∈ b.sending, x.1.queued ⊆ x.2.messages
  inbox : List.Forall₂ (fun c o => c.queued ⊆ o.messages) m.engine.inbox b.marks
  agenda : AllBring (fun _ => true) b.current.lists m.agenda
  queue : m.session.Holds b.kept.lists

variable {b b' : Books} {m m' : Moment}

/-- Books with nothing new but what is known are known. -/
theorem Known.of (h : b.Known m) (hstands : ∀ a : Asking, a.Stands m → a.Stands m')
    (hown : b.own ⊆ b'.own) (haskings : ∀ a ∈ b'.askings, a ∈ b.askings ∨ a.Stands m')
    (horigins : ∀ o ∈ b'.origins, o ∈ b.origins ∨ o.Known b'.own m') : b'.Known m' where
  askings := fun a ha => (haskings a ha).elim (fun hold => hstands a (h.askings a hold)) id
  origins := by
    intro o ho
    rcases horigins o ho with hold | hnew
    · have hknown := h.origins o hold
      exact ⟨fun a ha => hstands a (hknown.asked a ha), fun hnone _ hm =>
        hown (hknown.own hnone hm)⟩
    · exact hnew

theorem mem_origins {o : Origin} :
    o ∈ b.origins ↔ o = b.current ∨ o = b.kept ∨ (∃ x ∈ b.sending, x.2 = o) ∨ o ∈ b.marks := by
  unfold origins
  rw [List.mem_cons, List.mem_cons, List.mem_append, List.mem_map]

theorem mem_askings {a : Asking} : a ∈ b.askings ↔ a ∈ b.fetches ∨ a ∈ b.connections :=
  List.mem_append

namespace Fits

/-- Connections are opened for the session as it is. -/
theorem opened (h : b.Fits m) (n : Nat) : (b.opened n m.asking).Fits m := by
  refine { h with known := h.known.of (fun _ ha => ha) (fun _ hx => hx) ?_ fun o ho => Or.inl ho }
  intro a ha
  rcases mem_askings.mp ha with hfetch | hconnection
  · exact Or.inl (mem_askings.mpr (Or.inl hfetch))
  · rcases List.mem_append.mp hconnection with hold | hnew
    · exact Or.inl (mem_askings.mpr (Or.inr hold))
    · rw [List.eq_of_mem_replicate hnew]
      exact Or.inr (Asking.stands_asking m)

/-- **Commands come into the inbox**, all of one origin. -/
theorem received (h : b.Fits m) {o : Origin} (ho : o.Known b.own m)
    (hgrows : Engine.Grows (Command.Within o.messages) m.engine m'.engine)
    (hagenda : m'.agenda = m.agenda) :
    (b.received (m'.engine.inbox.length - m.engine.inbox.length) o).Fits m' := by
  obtain ⟨new, hinbox, hqueued⟩ := hgrows.inbox
  have hcount : m'.engine.inbox.length - m.engine.inbox.length = new.length := by
    rw [hinbox, List.length_append]
    omega
  have hstands : ∀ a : Asking, a.Stands m → a.Stands m' :=
    fun a ha => ha.of_eq hgrows.session hgrows.log
  have hmarks : List.replicate new.length o = new.map fun _ => o := List.map_const'.symm
  unfold Books.received
  rw [hcount, hmarks]
  refine
    { stages := hgrows.stages.trans h.stages
      known := h.known.of hstands (fun _ hx => hx) (fun _ ha => Or.inl ha) ?_
      sending := h.sending
      inbox := ?_
      agenda := hagenda ▸ h.agenda
      queue := ?_ }
  · intro x hx
    rcases mem_origins.mp hx with hold | hold | hold | hmark
    · exact Or.inl (mem_origins.mpr (Or.inl hold))
    · exact Or.inl (mem_origins.mpr (Or.inr (Or.inl hold)))
    · exact Or.inl (mem_origins.mpr (Or.inr (Or.inr (Or.inl hold))))
    · rcases List.mem_append.mp hmark with hold | hnew
      · exact Or.inl (mem_origins.mpr (Or.inr (Or.inr (Or.inr hold))))
      · obtain ⟨-, -, rfl⟩ := List.mem_map.mp hnew
        exact Or.inr ⟨fun a ha => hstands a (ho.asked a ha), ho.own⟩
  · rw [hinbox]
    refine List.rel_append h.inbox ?_
    exact List.forall₂_map_right_iff.mpr (List.forall₂_same.mpr hqueued)
  · rw [show m'.session = m.session from hgrows.session]
    exact h.queue

/-- **The store takes a command** and is about to do what comes of it. -/
theorem take (h : b.Fits m) {c : Command Observed Host} {rest : List (Command Observed Host)}
    (hinbox : m.engine.inbox = c :: rest) {current : Origin} (hcurrent : current ∈ b.origins)
    (hstages : m'.engine.stages = m.engine.stages) (hrest : m'.engine.inbox = rest)
    (hsession : m'.session = m.session) (hlog : m'.log = m.log)
    (hagenda : AllBring (fun _ => true) current.lists m'.agenda) :
    Fits { b with current, marks := b.marks.tail } m' where
  stages := hstages.trans h.stages
  known := by
    refine h.known.of (fun a ha => ha.of_eq hsession hlog) (fun _ hx => hx)
      (fun _ ha => Or.inl ha) fun o ho => Or.inl ?_
    rcases mem_origins.mp ho with rfl | hold | hold | hmark
    · exact hcurrent
    · exact mem_origins.mpr (Or.inr (Or.inl hold))
    · exact mem_origins.mpr (Or.inr (Or.inr (Or.inl hold)))
    · exact mem_origins.mpr (Or.inr (Or.inr (Or.inr (List.mem_of_mem_tail hmark))))
  sending := h.sending
  inbox := by
    have hold := h.inbox
    rw [hinbox] at hold
    obtain ⟨o, marks, -, hmarks, heq⟩ := List.forall₂_cons_left_iff.mp hold
    rw [hrest, heq]
    exact hmarks
  agenda := hagenda
  queue := hsession ▸ h.queue

/-- The store takes an action. -/
theorem takeUp (h : b.Fits m) {a : Action} {rest : List (Command Observed Host)}
    (hinbox : m.engine.inbox = .run a :: rest) :
    (b.takeUp a).Fits
      { m with
        engine.inbox := rest
        agenda := deeds m.engine.stages maxDispatchDepth a m.session } := by
  have hdeeds : deeds m.engine.stages maxDispatchDepth a m.session = actionDeeds a m.session := by
    rw [h.stages]
    exact deeds_standard 59 a m.session
  unfold Books.takeUp
  cases hqueue : a.isQueue with
  | true =>
      obtain ⟨ms, rfl⟩ := Action.isQueue_iff.mp hqueue
      have hold := h.inbox
      rw [hinbox] at hold
      obtain ⟨o, marks, hlisted, -, heq⟩ := List.forall₂_cons_left_iff.mp hold
      have hcurrent : b.marks.headD {} = o := by rw [heq, List.headD_cons]
      have hmember : o ∈ b.origins :=
        mem_origins.mpr (Or.inr (Or.inr (Or.inr (heq ▸ List.mem_cons_self))))
      rw [if_pos rfl, hcurrent]
      refine h.take hinbox hmember rfl rfl rfl rfl ?_
      show AllBring _ _ (deeds m.engine.stages maxDispatchDepth _ m.session)
      rw [hdeeds]
      exact queueDeeds_bring (fun _ _ => rfl) fun x hx =>
        decide_eq_true (hlisted (mem_candidates hx))
  | false =>
      have hmember : b.kept ∈ b.origins := mem_origins.mpr (Or.inr (Or.inl rfl))
      refine h.take hinbox hmember rfl rfl rfl rfl ?_
      show AllBring _ _ (deeds m.engine.stages maxDispatchDepth _ m.session)
      rw [hdeeds]
      exact actionDeeds_bring (fun _ _ => rfl) h.queue (Action.brings_of_isQueue hqueue)

/-- **The store commits an action.** -/
theorem commit (h : b.Fits m) {a : Action} {rest : List (Deed Host)}
    (hagenda : m.agenda = .commit a :: rest) : (b.commit a).Fits (m.commit a rest) := by
  have hbring := h.agenda
  rw [hagenda] at hbring
  obtain ⟨ha, hrest⟩ := List.forall_mem_cons.mp hbring
  refine
    { stages := h.stages
      known := h.known.of (fun x hx => hx.commit a rest) (fun _ hx => hx)
        (fun x hx => Or.inl hx) fun o ho => Or.inl ?_
      sending := h.sending
      inbox := h.inbox
      agenda := hrest
      queue := ?_ }
  · rcases mem_origins.mp ho with hold | hkept | hold
    · exact mem_origins.mpr (Or.inl hold)
    · change o = if a.isQueue then b.current else b.kept at hkept
      cases hqueue : a.isQueue with
      | true => exact mem_origins.mpr (Or.inl (by rw [hkept, hqueue, if_pos rfl]))
      | false => exact mem_origins.mpr (Or.inr (Or.inl (by rw [hkept, hqueue]; rfl)))
    · exact mem_origins.mpr (Or.inr (Or.inr hold))
  · show (m.session.reduce a).Holds (if a.isQueue then b.current else b.kept).lists
    cases hqueue : a.isQueue with
    | true =>
        obtain ⟨ms, rfl⟩ := Action.isQueue_iff.mp hqueue
        exact fun x hx => ha x (MessageQueue.mem_ofList.mp hx)
    | false => exact h.queue.reduce (Action.brings_of_isQueue hqueue)

/-- Nothing is taken, committed or sent. -/
theorem still (h : b.Fits m) (hstages : m'.engine.stages = m.engine.stages)
    (hinbox : m'.engine.inbox = m.engine.inbox) (hsession : m'.session = m.session)
    (hlog : m'.log = m.log) (hagenda : ∀ d ∈ m'.agenda, d ∈ m.agenda) : b.Fits m' where
  stages := hstages.trans h.stages
  known := h.known.of (fun _ ha => ha.of_eq hsession hlog) (fun _ hx => hx)
    (fun _ ha => Or.inl ha) fun _ ho => Or.inl ho
  sending := h.sending
  inbox := hinbox ▸ h.inbox
  agenda := fun d hd => h.agenda d (hagenda d hd)
  queue := hsession ▸ h.queue

/-- **The books are right after each move of the store.** -/
theorem advance (h : b.Fits m) : (b.advance m).Fits m.stepStore := by
  obtain ⟨e, agenda, waiting, atWork⟩ := m
  cases waiting with
  | cons u rest => exact h.still rfl rfl rfl rfl fun d hd => hd
  | nil =>
      cases agenda with
      | cons d rest =>
          cases d with
          | commit a => exact h.commit rfl
          | act effect => exact h.still rfl rfl rfl rfl fun d hd => List.mem_cons_of_mem _ hd
          | failed => exact h.still rfl rfl rfl rfl fun d hd => List.mem_cons_of_mem _ hd
      | nil =>
          obtain ⟨stages, client, store, inbox, running, time, subscriptions⟩ := e
          have hcurrent : b.current ∈ b.origins := mem_origins.mpr (Or.inl rfl)
          cases inbox with
          | nil => exact h
          | cons c rest =>
              cases c with
              | run a => exact h.takeUp rfl
              | subscribe id watch => exact h.take rfl hcurrent rfl rfl rfl rfl h.agenda
              | unsubscribe id => exact h.take rfl hcurrent rfl rfl rfl rfl h.agenda
              | barrier reached => exact h.take rfl hcurrent rfl rfl rfl rfl h.agenda

end Fits

end Books

/-! ## Trails -/

namespace Moment

/-- The store takes commands from the inbox and brings none. -/
theorem inbox_stepStore_le (m : Moment) :
    m.stepStore.engine.inbox.length ≤ m.engine.inbox.length := by
  obtain ⟨e, agenda, waiting, atWork⟩ := m
  cases waiting with
  | cons u rest => exact Nat.le_refl _
  | nil =>
      cases agenda with
      | cons d rest => cases d <;> exact Nat.le_refl _
      | nil =>
          obtain ⟨stages, client, store, inbox, running, time, subscriptions⟩ := e
          cases inbox with
          | nil => exact Nat.le_refl _
          | cons c rest => cases c <;> exact Nat.le_succ _

/-- A queue that is committed next is the first deed. -/
theorem agenda_of_queueNext {m : Moment} {ms : List Message} (h : m.queueNext? = some ms) :
    ∃ rest, m.agenda = .commit (.processQueue ms) :: rest := by
  unfold queueNext? at h
  split at h
  · next rest hwaiting hagenda =>
      obtain rfl := Option.some.inj h
      exact ⟨rest, hagenda⟩
  · exact nomatch h

end Moment

namespace Trail

variable {t : Trail}

/-- Books that follow commands into the inbox. -/
theorem fits_follow {b : Books} (h : b.Fits t.moment) {o : Origin}
    (ho : o.Known b.own t.moment) {m : Moment}
    (hgrows : Engine.Grows (Command.Within o.messages) t.moment.engine m.engine)
    (hagenda : m.agenda = t.moment.agenda) : (t.follow b m o).books.Fits m :=
  (h.received ho hgrows hagenda).opened _

/-- An empty list has no messages but the app's. -/
theorem known_empty (own : List Message) (m : Moment) : ({} : Origin).Known own m where
  asked := fun _ ha => nomatch ha
  own := fun _ => List.nil_subset _

/-- What was obtained for somebody is known if it was asked for. -/
theorem known_obtained {asking : Asking} (h : asking.Stands t.moment) (own : List Message)
    (ms : List Message) : Origin.Known own t.moment ⟨some asking, ms⟩ where
  asked := fun _ hb => Option.some.inj hb ▸ h
  own := fun hnone => absurd hnone (Option.some_ne_none _)

/-- **The books are right after a move**, whoever makes it. -/
theorem fits_move (h : t.books.Fits t.moment) (mv : Move) :
    (t.after (.move mv)).books.Fits (t.after (.move mv)).moment := by
  have hempty := known_empty t.books.own t.moment
  cases mv with
  | store =>
      have hcount : t.moment.stepStore.engine.inbox.length - t.moment.engine.inbox.length = 0 :=
        Nat.sub_eq_zero_of_le t.moment.inbox_stepStore_le
      have hfits : ((t.books.advance t.moment).received 0 {}).Fits t.moment.stepStore := by
        unfold Books.received
        rw [List.replicate_zero, List.append_nil]
        exact h.advance
      rw [← hcount] at hfits
      exact hfits.opened _
  | poster =>
      have hposter : Engine.Grows (Command.Within []) t.moment.engine t.moment.stepPoster.engine ∧
          t.moment.stepPoster.agenda = t.moment.agenda := by
        unfold Moment.stepPoster
        split
        · exact ⟨.idle rfl rfl rfl rfl rfl, rfl⟩
        · exact ⟨.idle rfl rfl rfl rfl rfl, rfl⟩
        · exact ⟨.refl _ _, rfl⟩
      exact fits_follow h hempty hposter.1 hposter.2
  | foreground => exact fits_follow h hempty (.idle rfl rfl rfl rfl rfl) rfl
  | background => exact fits_follow h hempty (.idle rfl rfl rfl rfl rfl) rfl
  | restart => exact fits_follow h hempty (.idle rfl rfl rfl rfl rfl) rfl
  | dispatch a =>
      have hown : t.books.own ⊆ t.books.own ++ a.queued := List.subset_append_left _ _
      have hfits : Books.Fits { t.books with own := t.books.own ++ a.queued } t.moment := by
        refine ⟨h.stages, ?_, h.sending, h.inbox, h.agenda, h.queue⟩
        exact h.known.of (fun _ ha => ha) hown (fun _ ha => Or.inl ha) fun _ ho => Or.inl ho
      have hsent : Origin.Known (t.books.own ++ a.queued) t.moment ⟨none, a.queued⟩ :=
        ⟨fun _ ha => (nomatch ha), fun _ => List.subset_append_right _ _⟩
      have hcommand : (Command.run a : Command Observed Host).queued ⊆ a.queued := fun _ hx => hx
      exact fits_follow hfits hsent (.send hcommand _) rfl
  | subscribe watch => exact fits_follow h hempty (.subscribe (fun _ => List.nil_subset _) _) rfl
  | unsubscribe id => exact fits_follow h hempty (.send (List.nil_subset _) _) rfl
  | barrier reached => exact fits_follow h hempty (.send (List.nil_subset _) _) rfl
  | elsewhere change => exact fits_follow h hempty (.idle rfl rfl rfl rfl rfl) rfl

/-- A fetch is asked for the session as it is. -/
theorem fits_fetch (h : t.books.Fits t.moment) :
    (t.after .fetch).books.Fits (t.after .fetch).moment := by
  have hfits : Books.Fits
      { t.books with fetches := t.books.fetches ++ t.moment.fetchNext?.toList } t.moment := by
    refine ⟨h.stages, ?_, h.sending, h.inbox, h.agenda, h.queue⟩
    refine h.known.of (fun _ ha => ha) (fun _ hx => hx) (fun a ha => ?_) fun _ ho => Or.inl ho
    rcases Books.mem_askings.mp ha with hfetch | hconnection
    · rcases List.mem_append.mp hfetch with hold | hnew
      · exact Or.inl (Books.mem_askings.mpr (Or.inl hold))
      · exact Or.inr (Asking.stands_fetchNext (Option.mem_toList.mp hnew))
    · exact Or.inl (Books.mem_askings.mpr (Or.inr hconnection))
  exact fits_follow hfits (known_empty _ _) (.fetch _ _) rfl

/-- Other actions are due to be sent; all of their origins are known. -/
theorem fits_sending (h : t.books.Fits t.moment) (due : List (Action × Origin))
    (hdue : ∀ x ∈ due, x ∈ t.books.sending ∨
      (x.2.Known t.books.own t.moment ∧ x.1.queued ⊆ x.2.messages)) :
    Books.Fits { t.books with sending := due } t.moment := by
  refine ⟨h.stages, ?_, fun x hx => ?_, h.inbox, h.agenda, h.queue⟩
  · refine h.known.of (fun _ ha => ha) (fun _ hx => hx) (fun _ ha => Or.inl ha) fun o ho => ?_
    rcases Books.mem_origins.mp ho with hold | hold | ⟨x, hx, rfl⟩ | hold
    · exact Or.inl (Books.mem_origins.mpr (Or.inl hold))
    · exact Or.inl (Books.mem_origins.mpr (Or.inr (Or.inl hold)))
    · rcases hdue x hx with hold | hnew
      · exact Or.inl (Books.mem_origins.mpr (Or.inr (Or.inr (Or.inl ⟨x, hold, rfl⟩))))
      · exact Or.inr hnew.1
    · exact Or.inl (Books.mem_origins.mpr (Or.inr (Or.inr (Or.inr hold))))
  · exact (hdue x hx).elim (h.sending x) And.right

/-- What an answer calls for belongs to its fetch. -/
theorem fits_answer (h : t.books.Fits t.moment) (i : Nat) (r : CatalogResponse) :
    (t.after (.answer i r)).books.Fits (t.after (.answer i r)).moment := by
  cases hfetch : t.books.fetches[i]? with
  | none =>
      simp only [after, hfetch]
      exact h
  | some asking =>
      simp only [after, hfetch]
      have hasking : asking.Stands t.moment :=
        h.known.askings asking (Books.mem_askings.mpr (Or.inl (List.mem_of_getElem? hfetch)))
      have hknown := known_obtained hasking t.books.own r.messages
      have hfits := fits_sending h (t.books.sending ++
        (applyAnswer t.moment.session r t.moment.engine.host).1.map
          fun a => (a, (⟨some asking, r.messages⟩ : Origin)))
      refine fits_follow (hfits fun x hx => ?_) (known_empty _ _) (.idle rfl rfl rfl rfl rfl) rfl
      rcases List.mem_append.mp hx with hold | hnew
      · exact Or.inl hold
      · obtain ⟨a, ha, rfl⟩ := List.mem_map.mp hnew
        exact Or.inr ⟨hknown, queued_applyAnswer _ r _ a ha⟩

/-- What is sent keeps its origin. -/
theorem fits_send (h : t.books.Fits t.moment) (i : Nat) :
    (t.after (.send i)).books.Fits (t.after (.send i)).moment := by
  cases hsending : t.books.sending[i]? with
  | none =>
      simp only [after, hsending]
      exact h
  | some x =>
      obtain ⟨a, origin⟩ := x
      simp only [after, hsending]
      have hmember := List.mem_of_getElem? hsending
      have hknown : origin.Known t.books.own t.moment := h.known.origins origin
        (Books.mem_origins.mpr (Or.inr (Or.inr (Or.inl ⟨_, hmember, rfl⟩))))
      have hcommand : (Command.run a : Command Observed Host).queued ⊆ origin.messages :=
        h.sending _ hmember
      have hfits := fits_sending h (t.books.sending.eraseIdx i)
        fun _ hx => Or.inl (List.mem_of_mem_eraseIdx hx)
      exact fits_follow hfits hknown (.send hcommand _) rfl

/-- What arrives belongs to its connection. -/
theorem fits_arrive (h : t.books.Fits t.moment) (i : Nat) (who : Reconnector) (c : Connection)
    (time : Nat) (arrival : Arrival) :
    (t.after (.arrive i who c time arrival)).books.Fits
      (t.after (.arrive i who c time arrival)).moment := by
  cases hconnection : t.books.connections[i]? with
  | none =>
      simp only [after, hconnection]
      exact h
  | some asking =>
      simp only [after, hconnection]
      have hasking : asking.Stands t.moment := h.known.askings asking
        (Books.mem_askings.mpr (Or.inr (List.mem_of_getElem? hconnection)))
      have hknown := known_obtained hasking t.books.own (messagesOfArrival arrival)
      refine fits_follow h hknown ?_ rfl
      exact .obeyAnswer (c.queued_onArrival time arrival) who _

/-- **The books are right after every step.** -/
theorem fits_after (h : t.books.Fits t.moment) (step : TrailStep) :
    (t.after step).books.Fits (t.after step).moment := by
  cases step with
  | move mv => exact fits_move h mv
  | fetch => exact fits_fetch h
  | answer i r => exact fits_answer h i r
  | send i => exact fits_send h i
  | arrive i who c time arrival => exact fits_arrive h i who c time arrival

/-- The books are right after every run. -/
theorem fits_run (h : t.books.Fits t.moment) (steps : List TrailStep) :
    (t.run steps).books.Fits (t.run steps).moment := by
  induction steps generalizing t with
  | nil => exact h
  | cons step rest ih => exact ih (fits_after h step)

/-- The books are right at the start. -/
theorem fits_start {e : Engine} (hstages : e.stages = standard) :
    (start e).books.Fits (start e).moment := by
  have hown : ∀ ms : List Message, ms ⊆ (start e).books.own →
      Origin.Known (start e).books.own (start e).moment ⟨none, ms⟩ :=
    fun ms hms => ⟨fun _ ha => (nomatch ha), fun _ => hms⟩
  refine
    { stages := hstages
      known := ⟨fun _ ha => absurd ha List.not_mem_nil, fun o ho => ?_⟩
      sending := fun _ hx => absurd hx List.not_mem_nil
      inbox := ?_
      agenda := allBring_nil _ _
      queue := fun m hm => decide_eq_true hm }
  · rcases Books.mem_origins.mp ho with rfl | rfl | ⟨x, hx, -⟩ | hmark
    · exact known_empty _ _
    · exact hown _ (List.subset_append_left _ _)
    · exact absurd hx List.not_mem_nil
    · obtain ⟨c, hc, rfl⟩ := List.mem_map.mp hmark
      refine hown _ fun m hm => List.mem_append_right _ ?_
      exact List.mem_flatMap.mpr ⟨c, hc, hm⟩
  · exact List.forall₂_map_right_iff.mpr (List.forall₂_same.mpr fun c _ m hm => hm)

/-! ## The main result -/

/-- **Whom a queue was obtained for.**  Every queue that is committed comes from one list: one
the app sent, one that answered a fetch, or one that arrived over a connection.  If it was
obtained for the owner of a token, and the session has another token by now, then a user was
named or forgotten since it was asked for. -/
theorem committed_from_origin {e : Engine} (hstages : e.stages = standard)
    (steps : List TrailStep) {ms : List Message} :
    let t := (start e).run steps
    let origin := t.books.current
    t.moment.queueNext? = some ms →
      ms ⊆ origin.messages ∧ (origin.asking? = none → ms ⊆ t.books.own) ∧
        ∀ asking, origin.asking? = some asking → t.moment.session.userToken? ≠ asking.token →
          ∃ a ∈ t.moment.since asking, a.identifies = true := by
  intro t origin hnext
  have hfits : t.books.Fits t.moment := fits_run (fits_start hstages) steps
  have hknown : origin.Known t.books.own t.moment :=
    hfits.known.origins _ (Books.mem_origins.mpr (Or.inl rfl))
  have hlisted : ms ⊆ origin.messages := by
    obtain ⟨rest, hagenda⟩ := Moment.agenda_of_queueNext hnext
    have hbring := hfits.agenda
    rw [hagenda] at hbring
    exact fun m hm => of_decide_eq_true ((List.forall_mem_cons.mp hbring).1 m hm)
  refine ⟨hlisted, fun hnone _ hm => hknown.own hnone (hlisted hm),
    fun asking hasking hother => ?_⟩
  have hstands := hknown.asked asking hasking
  by_contra hnobody
  refine hother (hstands.token_eq fun a ha => ?_)
  exact Bool.eq_false_iff.mpr fun hidentifies => hnobody ⟨a, ha, hidentifies⟩

/-- Ada's connection is open when bob is named, and then tells of a coupon. -/
def couponForAda : List TrailStep :=
  let store (n : Nat) : List TrailStep := List.replicate n (.move .store)
  store 2 ++ [.move (.dispatch (.setUser "ada"))] ++ store 8 ++
    [.move (.dispatch (.setRealtime true))] ++ store 8 ++
    [.move .foreground, .move (.dispatch (.setUser "bob"))] ++ store 8 ++
    [.arrive 0 .recorder (.ofSettings {}) 0 (.ok (.messages [Runner.coupon])), .move .store]

/-- The coupon is bob's queue. -/
theorem couponForAda_reaches_bob :
    let t := (start ({ store := { session := {}, host := {} } } : Engine).watchChannel.2).run
      couponForAda
    t.moment.queueNext? = some [Runner.coupon] ∧ t.books.current.asking? = some ⟨some "ada", 2⟩ ∧
      t.moment.session.userToken? = some "bob" ∧
      ∃ a ∈ t.moment.since ⟨some "ada", 2⟩, a.identifies = true := by
  intro t
  have hnext : t.moment.queueNext? = some [Runner.coupon] := by decide +kernel
  have hasking : t.books.current.asking? = some ⟨some "ada", 2⟩ := by decide +kernel
  have hbob : t.moment.session.userToken? = some "bob" := by decide +kernel
  obtain ⟨-, -, horigin⟩ := committed_from_origin rfl couponForAda hnext
  refine ⟨hnext, hasking, hbob, horigin _ hasking ?_⟩
  rw [hbob]
  decide

end Trail

end InAppMessaging
