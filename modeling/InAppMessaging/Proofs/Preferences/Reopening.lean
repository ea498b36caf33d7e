import InAppMessaging.Preferences.File
import InAppMessaging.Proofs.Json.Page
import InAppMessaging.Proofs.Keyed

/-!
# Preferences that outlive the process

The preferences kept in a document beside preferences that are only kept in memory.  Both are
given the same calls; the former may be opened again in between, which forgets everything but
the document, and the disk may refuse to be written.

A store is `Saved` if opening its document again gives the texts it holds.  A document that is
no object of texts is saved too: it counts as empty both times, until the first write replaces
it.  Every call keeps a store saved while the disk can be written, also the one that finds
nothing to delete and leaves the document alone; and what a call does to the texts never depends
on the disk.

* `texts_ofPage` — the page of a store holds its texts, whatever they are;
* `texts_take`, `Saved.take` — one call;
* `answers_of_saved`, `answers_of_open` — a run with a disk that can be written, and one in which
  the store stays open;
* `PreferenceFile.reopening_unseen` — **opening a store again is never seen**, nor is a failing
  disk until then.
-/

namespace InAppMessaging

open Json

/-! ## The page of a store -/

/-- Members of texts are written into a store one after the other. -/
theorem readTexts_textMembers (entries : List (String × String)) (p : Preferences) :
    readTexts (membersTree (textMembers entries)) p =
      .ok (entries.foldl (fun q entry => q.setText entry.1 entry.2) p) := by
  induction entries generalizing p with
  | nil => rfl
  | cons entry rest ih =>
      show readTexts (.cons (.printed entry.1) (Value.text entry.2).tree _) p = _
      rw [readTexts, text_printed, asText_tree]
      exact ih (p.setText entry.1 entry.2)

namespace Preferences

theorem texts_foldl_setText (entries : List (String × String)) (p : Preferences) :
    (entries.foldl (fun q entry => q.setText entry.1 entry.2) p).texts =
      entries.foldl (fun m entry => m.insert entry.1 entry.2) p.texts := by
  induction entries generalizing p with
  | nil => rfl
  | cons entry rest ih => exact ih (p.setText entry.1 entry.2)

/-- **The page of a store holds its texts.** -/
theorem texts_ofPage (p : Preferences) : (ofPage p.toPage).texts = p.texts := by
  have hdecoded : decodeText textsOfTree p.toPage =
      .ok (p.texts.entries.foldl (fun q entry => q.setText entry.1 entry.2) .empty) :=
    decodeText_of_read (read_page p.texts.entries) (readTexts_textMembers p.texts.entries .empty)
  rw [ofPage, hdecoded]
  exact (texts_foldl_setText p.texts.entries .empty).trans (Keyed.ofList_entries p.texts)

end Preferences

/-! ## Calls and their answers -/

/-- A call on a store: it writes or deletes, or it reads a text, a number, a truth value or the
keys. -/
inductive PreferenceCall where
  | set (key value : String)
  | remove (key : String)
  | removeRooted (root : String)
  | text (key : String)
  | natural (key : String)
  | integer (key : String)
  | bool (key : String)
  | keys
deriving DecidableEq, Repr

/-- What a call gives back; one that only writes or deletes gives nothing.  A store may list its
keys in any order, and two listings count as the same if they list the same keys: the one given
back is in ascending order (`Preferences.answer_keys_iff`). -/
inductive PreferenceAnswer where
  | done
  | text (found : Option String)
  | natural (found : Option Nat)
  | integer (found : Option Int)
  | bool (found : Option Bool)
  | keys (found : List String)
deriving DecidableEq, Repr

namespace Preferences

/-- What a call gives back. -/
def answer (p : Preferences) : PreferenceCall → PreferenceAnswer
  | .set _ _ => .done
  | .remove _ => .done
  | .removeRooted _ => .done
  | .text key => .text (p.text? key)
  | .natural key => .natural (p.natural? key)
  | .integer key => .integer (p.integer? key)
  | .bool key => .bool (p.bool? key)
  | .keys => .keys p.texts.keys

/-- The store after a call, if it is only kept in memory. -/
def take (p : Preferences) : PreferenceCall → Preferences
  | .set key value => p.setText key value
  | .remove key => p.remove key
  | .removeRooted root => p.removeRooted root
  | .text _ => p
  | .natural _ => p
  | .integer _ => p
  | .bool _ => p
  | .keys => p

/-- The answers to calls, one after the other. -/
def answers (p : Preferences) : List PreferenceCall → List PreferenceAnswer
  | [] => []
  | call :: rest => p.answer call :: (p.take call).answers rest

variable {p q : Preferences}

theorem texts_remove (p : Preferences) (key : String) :
    (p.remove key).texts = p.texts.erase key := by
  unfold remove
  split
  · rfl
  · next h =>
      have hnone : p.texts.find? key = none := by simpa [contains, Keyed.contains] using h
      exact (Keyed.erase_of_absent hnone).symm

/-- Listings are the same exactly if they list the same keys. -/
theorem answer_keys_iff :
    p.answer .keys = q.answer .keys ↔ ∀ key, p.contains key = q.contains key := by
  show PreferenceAnswer.keys _ = .keys _ ↔ _
  rw [PreferenceAnswer.keys.injEq]
  exact Keyed.keys_eq_iff

/-- What a call gives back depends on the texts only. -/
theorem answer_congr (h : p.texts = q.texts) (call : PreferenceCall) :
    p.answer call = q.answer call := by
  cases call <;> simp only [answer, natural?, integer?, bool?, text?, h]

/-- What a call makes of the texts depends on the texts only. -/
theorem texts_take_congr (h : p.texts = q.texts) (call : PreferenceCall) :
    (p.take call).texts = (q.take call).texts := by
  cases call with
  | set key value => exact congrArg (·.insert key value) h
  | remove key =>
      show (p.remove key).texts = (q.remove key).texts
      rw [texts_remove, texts_remove, h]
  | removeRooted root => exact congrArg (·.filterKeys fun key => !beginsWith root key) h
  | text key => exact h
  | natural key => exact h
  | integer key => exact h
  | bool key => exact h
  | keys => exact h

end Preferences

/-! ## A store with its document -/

/-- The values a document holds; one that cannot be read holds none. -/
def Document.values : Document → Preferences
  | .absent => .empty
  | .page text => .ofPage text
  | .unreadable => .empty

/-- What can happen to a store with a document: a call, its process ending and the document
being opened again, and the disk becoming writable or not. -/
inductive FileMove where
  | call (call : PreferenceCall)
  | reopen
  | disk (writable : Bool)
deriving DecidableEq, Repr

/-- The calls among what happens. -/
def callsOf : List FileMove → List PreferenceCall
  | [] => []
  | .call call :: rest => call :: callsOf rest
  | .reopen :: rest => callsOf rest
  | .disk _ :: rest => callsOf rest

namespace PreferenceFile

/-- The store after a call. -/
def take (f : PreferenceFile) : PreferenceCall → PreferenceFile
  | .set key value => f.set key value
  | .remove key => f.remove key
  | .removeRooted root => f.removeRooted root
  | .text _ => f
  | .natural _ => f
  | .integer _ => f
  | .bool _ => f
  | .keys => f

/-- The answers to the calls among what happens; none, if the document cannot be opened when it
has to be. -/
def answers? (f : PreferenceFile) : List FileMove → Option (List PreferenceAnswer)
  | [] => some []
  | .call call :: rest => ((f.take call).answers? rest).map (f.values.answer call :: ·)
  | .reopen :: rest => f.reopen?.bind fun g => g.answers? rest
  | .disk writable :: rest => { f with writable }.answers? rest

variable {f : PreferenceFile} {p : Preferences}

/-- Opening the document again gives the texts the store holds. -/
def Saved (f : PreferenceFile) : Prop :=
  f.document ≠ .unreadable ∧ f.document.values.texts = f.values.texts

/-- A readable document is opened with the values it holds. -/
theorem open?_eq {document : Document} (h : document ≠ .unreadable) (writable : Bool) :
    open? document writable = some ⟨document.values, document, writable⟩ := by
  cases document with
  | absent => rfl
  | page text => rfl
  | unreadable => exact absurd rfl h

theorem saved_opened {document : Document} (h : document ≠ .unreadable) (writable : Bool) :
    Saved ⟨document.values, document, writable⟩ := ⟨h, rfl⟩

/-! ### One call -/

theorem writable_flush (f : PreferenceFile) : f.flush.writable = f.writable := by
  unfold flush
  split <;> rfl

theorem writable_remove (f : PreferenceFile) (key : String) :
    (f.remove key).writable = f.writable := by
  unfold remove
  split
  · exact writable_flush _
  · rfl

theorem texts_remove (f : PreferenceFile) (key : String) :
    (f.remove key).values.texts = f.values.texts.erase key := by
  rw [← Preferences.texts_remove]
  unfold remove
  split
  · rw [values_flush]
  · next h => rw [Preferences.remove, if_neg h]

theorem texts_foldl_remove (keys : List String) (f : PreferenceFile) :
    (keys.foldl remove f).values.texts = keys.foldl Keyed.erase f.values.texts := by
  induction keys generalizing f with
  | nil => rfl
  | cons key rest ih =>
      rw [List.foldl_cons, List.foldl_cons, ih, texts_remove]

/-- Deleting the rooted keys one by one deletes just these. -/
theorem texts_removeRooted (f : PreferenceFile) (root : String) :
    (f.removeRooted root).values.texts = (f.values.removeRooted root).texts := by
  rw [removeRooted, texts_foldl_remove, Keyed.foldl_erase]
  apply Keyed.ext_entries
  refine List.filter_congr fun entry hentry => ?_
  have hkey : entry.1 ∈ f.values.texts.keys := List.mem_map_of_mem hentry
  cases hroot : Preferences.beginsWith root entry.1 <;> simp [hkey, hroot]

/-- What a call makes of the texts does not depend on the document. -/
theorem texts_take (f : PreferenceFile) (call : PreferenceCall) :
    (f.take call).values.texts = (f.values.take call).texts := by
  cases call with
  | set key value => exact congrArg Preferences.texts (values_set f key value)
  | remove key =>
      exact (texts_remove f key).trans (Preferences.texts_remove f.values key).symm
  | removeRooted root => exact texts_removeRooted f root
  | text key => rfl
  | natural key => rfl
  | integer key => rfl
  | bool key => rfl
  | keys => rfl

/-- A document that was just written holds what was written. -/
theorem saved_flush (hwritable : f.writable = true) : Saved f.flush := by
  rw [flush, if_pos hwritable]
  exact ⟨Document.noConfusion, f.values.texts_ofPage⟩

/-- Deleting keeps a store saved: either the document is written, or nothing changes. -/
theorem Saved.remove (h : Saved f) (hwritable : f.writable = true) (key : String) :
    Saved (f.remove key) := by
  unfold PreferenceFile.remove
  split
  · exact saved_flush hwritable
  · exact h

theorem Saved.foldl_remove (keys : List String) :
    ∀ {f : PreferenceFile}, Saved f → f.writable = true →
      Saved (keys.foldl PreferenceFile.remove f) ∧
        (keys.foldl PreferenceFile.remove f).writable = true := by
  induction keys with
  | nil => exact fun h hwritable => ⟨h, hwritable⟩
  | cons key rest ih =>
      intro f h hwritable
      exact ih (h.remove hwritable key) ((writable_remove f key).trans hwritable)

/-- While the disk can be written a call keeps a store saved, and the disk as it is. -/
theorem Saved.take (h : Saved f) (hwritable : f.writable = true) (call : PreferenceCall) :
    Saved (f.take call) ∧ (f.take call).writable = true := by
  cases call with
  | set key value => exact ⟨saved_flush hwritable, (writable_flush _).trans hwritable⟩
  | remove key => exact ⟨h.remove hwritable key, (writable_remove f key).trans hwritable⟩
  | removeRooted root => exact h.foldl_remove _ hwritable
  | text key => exact ⟨h, hwritable⟩
  | natural key => exact ⟨h, hwritable⟩
  | integer key => exact ⟨h, hwritable⟩
  | bool key => exact ⟨h, hwritable⟩
  | keys => exact ⟨h, hwritable⟩

/-! ### Runs -/

/-- While the store is open its answers are those of the texts in memory, whatever becomes of
the disk. -/
theorem answers_of_open :
    ∀ {moves : List FileMove} {f : PreferenceFile} {p : Preferences}, .reopen ∉ moves →
      f.values.texts = p.texts → f.answers? moves = some (p.answers (callsOf moves))
  | [], _, _, _, _ => rfl
  | .call call :: rest, f, p, hopen, htexts => by
      have hnext := (texts_take f call).trans (Preferences.texts_take_congr htexts call)
      have hrest := answers_of_open (fun h => hopen (List.mem_cons_of_mem _ h)) hnext
      rw [answers?, hrest, Preferences.answer_congr htexts]
      rfl
  | .reopen :: rest, _, _, hopen, _ => absurd List.mem_cons_self hopen
  | .disk writable :: rest, f, _, hopen, htexts =>
      answers_of_open (f := { f with writable }) (fun h => hopen (List.mem_cons_of_mem _ h)) htexts

/-- A saved store with a disk that can be written may be opened again any number of times; in
what happens afterwards it is still open. -/
theorem answers_of_saved {after : List FileMove} (hopen : .reopen ∉ after) :
    ∀ {moves : List FileMove} {f : PreferenceFile} {p : Preferences}, .disk false ∉ moves →
      Saved f → f.writable = true → f.values.texts = p.texts →
      f.answers? (moves ++ after) = some (p.answers (callsOf (moves ++ after)))
  | [], _, _, _, _, _, htexts => answers_of_open hopen htexts
  | .call call :: rest, f, p, hsound, hsaved, hwritable, htexts => by
      have hnext := (texts_take f call).trans (Preferences.texts_take_congr htexts call)
      have hkept := hsaved.take hwritable call
      have hrest := answers_of_saved hopen (fun h => hsound (List.mem_cons_of_mem _ h)) hkept.1
        hkept.2 hnext
      rw [List.cons_append, answers?, hrest, Preferences.answer_congr htexts]
      rfl
  | .reopen :: rest, f, p, hsound, hsaved, hwritable, htexts => by
      have hreopened : f.reopen? = some ⟨f.document.values, f.document, f.writable⟩ :=
        open?_eq hsaved.1 f.writable
      have hrest := answers_of_saved hopen (fun h => hsound (List.mem_cons_of_mem _ h))
        (saved_opened hsaved.1 f.writable) hwritable (hsaved.2.trans htexts)
      rw [List.cons_append, answers?, hreopened]
      exact hrest
  | .disk false :: rest, _, _, hsound, _, _, _ => absurd List.mem_cons_self hsound
  | .disk true :: rest, f, _, hsound, hsaved, _, htexts =>
      answers_of_saved (f := { f with writable := true }) hopen
        (fun h => hsound (List.mem_cons_of_mem _ h)) hsaved rfl htexts

/-- **Opening a store again is never seen.**  Any readable document can be opened.  The store is
given calls, is opened again at any points and its disk can be written; then the disk may fail
and recover, while the store stays open.  Every answer is that of a store in memory that began
with the texts of the document. -/
theorem reopening_unseen {document : Document} (hreadable : document ≠ .unreadable)
    {before after : List FileMove} (hsound : .disk false ∉ before) (hopen : .reopen ∉ after)
    {p : Preferences} (hbegin : p.texts = document.values.texts) :
    ∃ f, open? document true = some f ∧
      f.answers? (before ++ after) = some (p.answers (callsOf (before ++ after))) := by
  refine ⟨⟨document.values, document, true⟩, open?_eq hreadable true, ?_⟩
  exact answers_of_saved hopen hsound (saved_opened hreadable true) rfl hbegin.symm

/-- Keys and values with quotes, line breaks and characters beyond the first plane, deletions of
what is not there, and the document opened again after almost every change. -/
def awkwardMoves : List FileMove :=
  [.call (.removeRooted "queue."), .reopen, .call (.set "queue.\"ü\n" "7 "), .reopen,
    .call (.set "queue.𝄞" " -1"), .call (.set "\t" "\\u0041"), .call (.remove "absent"), .reopen,
    .call (.natural "queue.\"ü\n"), .call .keys, .call (.removeRooted "queue.\""), .reopen,
    .call .keys]

/-- The disk fails, and the store is still called. -/
def movesOnFailedDisk : List FileMove :=
  [.disk false, .call (.set "queue.𝄞" "true"), .call (.remove "\t"), .call (.bool "queue.𝄞"),
    .call .keys]

theorem awkwardMoves_answered :
    ∃ f, open? (.page "\x7bnot json") true = some f ∧
      f.answers? (awkwardMoves ++ movesOnFailedDisk) =
        some [.done, .done, .done, .done, .done, .natural (some 7),
          .keys ["\t", "queue.\"ü\n", "queue.𝄞"], .done, .keys ["\t", "queue.𝄞"], .done, .done,
          .bool (some true), .keys ["queue.𝄞"]] :=
  reopening_unseen (p := .empty) (by decide) (by decide) (by decide) (by decide +kernel)

end PreferenceFile

end InAppMessaging
