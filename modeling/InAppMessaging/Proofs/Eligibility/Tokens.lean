import InAppMessaging.Proofs.Eligibility.Refinement

/-!
# Whose data a tracker keeps

The keys of a class name no user.  A tracker looks at the token of a call only to see whether
there is one, so all users of a store share what it keeps: a catalog that one of them brought is
offered to the other, and a view or a dismissal counts against both.

What the calls of a class were answered is written down beside them (`Tracker.journal`).

* `Tracker.serveAll_renamed` — whose calls they are makes no difference, to the answers or to the
  store;
* `Tracker.journal_busy` — calls on behalf of nobody make no difference to the others;
* `Tracker.journal_ofKind` — nor do the calls on the other class;
* `Tracker.journal_shared` — **only clearing the class ends what its users share**.
-/

namespace InAppMessaging

open Preferences

namespace CapCall

/-- A call with the token changed, if it has one. -/
def renamed (f : String → String) : CapCall → CapCall
  | .update token catalog => .update (token.map f) catalog
  | .eligible token => .eligible (token.map f)
  | .markSeen token q => .markSeen (token.map f) q
  | .markDismissed token q => .markDismissed (token.map f) q
  | .record q => .record q
  | .clear => .clear

/-- A call that asks for a token and is made without. -/
def isIdle : CapCall → Bool
  | .update token _ => token.isNone
  | .eligible token => token.isNone
  | .markSeen token _ => token.isNone
  | .markDismissed token _ => token.isNone
  | .record _ => false
  | .clear => false

end CapCall

/-- A request with the token changed. -/
def CapRequest.renamed (f : String → String) (r : CapRequest) : CapRequest :=
  { r with call := r.call.renamed f }

namespace Tracker

variable {lifetime : StickyClass → Nat} {t : Tracker} {p p' : Preferences} {now : Int}
  {call : CapCall}

/-- The requests with their answers. -/
def journal (lifetime : StickyClass → Nat) (p : Preferences) (rs : List CapRequest) :
    List (CapRequest × CapAnswer) :=
  rs.zip (serveAll lifetime p rs).1

theorem journal_cons (lifetime : StickyClass → Nat) (p : Preferences) (r : CapRequest)
    (rest : List CapRequest) :
    journal lifetime p (r :: rest) =
      (r, ((r.kind.tracker lifetime).serve r.time p r.call).1) ::
        journal lifetime ((r.kind.tracker lifetime).serve r.time p r.call).2 rest := rfl

/-! ## Tokens -/

/-- A call is served the same whose it is. -/
theorem serve_renamed (t : Tracker) (now : Int) (p : Preferences) (f : String → String)
    (call : CapCall) : t.serve now p (call.renamed f) = t.serve now p call := by
  cases call with
  | update token catalog =>
      cases token with
      | none => rfl
      | some token =>
          -- whether the class is cleared is asked of the catalog, not of the token
          have hupdate : t.update (some (f token)) catalog now p =
              t.update (some token) catalog now p := by
            unfold update
            cases t.members catalog <;> rfl
          exact congrArg (Prod.mk CapAnswer.done) hupdate
  | eligible token => cases token <;> rfl
  | markSeen token q => cases token <;> rfl
  | markDismissed token q => cases token <;> rfl
  | record q => rfl
  | clear => rfl

/-- **Whose calls they are makes no difference**, to the answers or to the store. -/
theorem serveAll_renamed (lifetime : StickyClass → Nat) (f : String → String) (p : Preferences)
    (rs : List CapRequest) :
    serveAll lifetime p (rs.map (·.renamed f)) = serveAll lifetime p rs := by
  induction rs generalizing p with
  | nil => rfl
  | cons r rest ih =>
      have hserved : ((r.renamed f).kind.tracker lifetime).serve (r.renamed f).time p
          (r.renamed f).call = (r.kind.tracker lifetime).serve r.time p r.call :=
        serve_renamed _ _ _ f r.call
      rw [List.map_cons, serveAll, serveAll, hserved, ih]

/-- A call on behalf of nobody changes nothing. -/
theorem serve_idle (h : call.isIdle = true) : (t.serve now p call).2 = p := by
  cases call with
  | update token catalog => cases token with
    | none => rfl
    | some token => exact nomatch h
  | eligible token => cases token with
    | none => rfl
    | some token => exact nomatch h
  | markSeen token q => cases token with
    | none => rfl
    | some token => exact nomatch h
  | markDismissed token q => cases token with
    | none => rfl
    | some token => exact nomatch h
  | record q => exact nomatch h
  | clear => exact nomatch h

/-- **Calls on behalf of nobody make no difference to the others.** -/
theorem journal_busy (lifetime : StickyClass → Nat) (p : Preferences) (rs : List CapRequest) :
    journal lifetime p (rs.filter (!·.call.isIdle)) =
      (journal lifetime p rs).filter (!·.1.call.isIdle) := by
  induction rs generalizing p with
  | nil => rfl
  | cons r rest ih =>
      cases hidle : r.call.isIdle with
      | true =>
          rw [List.filter_cons_of_neg (by simp [hidle]), ih, journal_cons,
            List.filter_cons_of_neg (by simp [hidle]), serve_idle hidle]
      | false =>
          rw [List.filter_cons_of_pos (by simp [hidle]), journal_cons, journal_cons, ih,
            List.filter_cons_of_pos (by simp [hidle])]

/-! ## Classes -/

/-- **Calls on one class are answered without those on the other**, and from any other store that
holds the same for the class. -/
theorem journal_ofKind {k : StickyClass} (rs : List CapRequest) :
    ∀ {l : Ledger} {p p' : Preferences}, l.Describes (k.tracker lifetime) p →
      l.Describes (k.tracker lifetime) p' →
      (journal lifetime p rs).filter (·.1.kind = k) =
        journal lifetime p' (rs.filter (·.kind = k)) := by
  induction rs with
  | nil => exact fun _ _ => rfl
  | cons r rest ih =>
      intro l p p' h h'
      by_cases hkind : r.kind = k
      · subst hkind
        obtain ⟨hanswer, hafter⟩ := h.serve r.time r.call
        obtain ⟨hanswer', hafter'⟩ := h'.serve r.time r.call
        rw [List.filter_cons_of_pos (by simp), journal_cons, journal_cons,
          List.filter_cons_of_pos (by simp), hanswer.trans hanswer'.symm, ih hafter hafter']
      · have hagree := (r.kind.tracker lifetime).agreeOutside_serve r.time p r.call
        rw [List.filter_cons_of_neg (by simpa using hkind), journal_cons,
          List.filter_cons_of_neg (by simpa using hkind)]
        exact ih (h.of_agreeOutside hkind hagree) h'

/-- After a call that forgets, a class is described by the ledger that says nothing. -/
theorem describes_serve_of_clears (h : call.clears t = true) (now : Int) (p : Preferences) :
    ({} : Ledger).Describes t (t.serve now p call).2 :=
  Ledger.Describes.of_absent fun _ hkey => text?_serve_of_clears h now p hkey

/-- **The users of a store share all it keeps.**  The same calls made by other users, or all by
one, are given the same answers; what is left out without a change are the calls on behalf of
nobody, and the calls that came before the class was cleared, whoever made them. -/
theorem journal_shared (lifetime : StickyClass → Nat) (p : Preferences) (rs : List CapRequest) :
    (∀ f, serveAll lifetime p (rs.map (·.renamed f)) = serveAll lifetime p rs) ∧
    (journal lifetime p (rs.filter (!·.call.isIdle)) =
      (journal lifetime p rs).filter (!·.1.call.isIdle)) ∧
    (∀ k now call, call.clears (k.tracker lifetime) = true →
      (journal lifetime ((k.tracker lifetime).serve now p call).2 rs).filter (·.1.kind = k) =
        journal lifetime .empty (rs.filter (·.kind = k))) := by
  refine ⟨fun f => serveAll_renamed lifetime f p rs, journal_busy lifetime p rs, ?_⟩
  intro k now call hclears
  exact journal_ofKind rs (describes_serve_of_clears hclears now p)
    (Ledger.Describes.of_absent fun _ _ => rfl)

/-- A broadcast that may be shown once. -/
def sharedOffer : Message :=
  { id := "offer", queueId := some "o",
    delivery := { broadcast := some { frequency := some { count := some 1, delay := some 0 } } } }

/-- Ada is offered a message and sees it; Bob asks what he may be shown, before and after. -/
def adaAndBob : List CapRequest :=
  [⟨.broadcast, 1000, .update (some "ada") [sharedOffer]⟩,
   ⟨.broadcast, 1000, .eligible (some "bob")⟩,
   ⟨.broadcast, 2000, .markSeen (some "ada") "o"⟩,
   ⟨.broadcast, 2000, .eligible (some "bob")⟩]

/-- Bob is offered what Ada's catalog brought, and no longer once she saw it, as if both were
one; after the class is cleared he is offered nothing. -/
theorem adaAndBob_share :
    (serveAll (fun _ => 60000) .empty adaAndBob).1 =
      [.done, .messages [sharedOffer], .done, .messages []] ∧
    (serveAll (fun _ => 60000) .empty (adaAndBob.map (·.renamed fun _ => "ada"))).1 =
      [.done, .messages [sharedOffer], .done, .messages []] ∧
    (journal (fun _ => 60000) (StickyClass.clear .broadcast
        (serveAll (fun _ => 60000) .empty adaAndBob).2)
      [⟨.broadcast, 3000, .eligible (some "bob")⟩]).filter (·.1.kind = .broadcast) =
        [(⟨.broadcast, 3000, .eligible (some "bob")⟩, .messages [])] := by
  obtain ⟨hrenamed, -, -⟩ := journal_shared (fun _ => 60000) .empty adaAndBob
  have hanswers : (serveAll (fun _ => 60000) .empty adaAndBob).1 =
      [.done, .messages [sharedOffer], .done, .messages []] := by
    rw [serveAll_of_describes (fun k => Ledger.Describes.of_absent fun _ _ => rfl)]
    decide
  have hcleared : ∀ p, (journal (fun _ => 60000) (StickyClass.clear .broadcast p)
      [⟨.broadcast, 3000, .eligible (some "bob")⟩]).filter (·.1.kind = .broadcast) =
        [(⟨.broadcast, 3000, .eligible (some "bob")⟩, .messages [])] := by
    intro p
    obtain ⟨-, -, hclass⟩ := journal_shared (fun _ => 60000) p
      [⟨.broadcast, 3000, .eligible (some "bob")⟩]
    refine (hclass .broadcast 2500 .clear rfl).trans ?_
    rw [journal, serveAll_of_describes (fun k => Ledger.Describes.of_absent fun _ _ => rfl)]
    decide
  refine ⟨hanswers, ?_, hcleared _⟩
  rw [hrenamed]
  exact hanswers

end Tracker

end InAppMessaging
