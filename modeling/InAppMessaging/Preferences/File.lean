import InAppMessaging.Json.Decode
import InAppMessaging.Json.Value
import InAppMessaging.Preferences

/-!
# Preferences kept in a document

Preferences that are read from a JSON document when they are opened and written back after
every change.  A document that is not an object of texts counts as empty and is replaced by
the next write; one that cannot be read as text at all is not opened.  Where writing fails the
values are kept in memory.

* `values_set` — what is read never depends on whether writing succeeds.
-/

namespace InAppMessaging

open Json

/-- What stands where the document is kept: nothing, a text, or something that cannot be read
as one. -/
inductive Document where
  | absent
  | page (text : String)
  | unreadable
deriving DecidableEq, Repr, Inhabited

/-- The text of a document. -/
def Document.text? : Document → Option String
  | page text => some text
  | _ => none

/-- Reads the members of an object of texts, a later member replacing an earlier one of the
same key. -/
def readTexts : Members → Preferences → Decoded Preferences
  | .done, p => .ok p
  | .cut fault, _ => .error fault
  | .keyless fault _, _ => .error fault
  | .cons key value tail, p => do
      let name ← key.text
      let text ← value.asText
      readTexts tail (p.setText name text)

/-- Reads an object of texts. -/
def textsOfTree : Tree → Decoded Preferences
  | .object members => readTexts members .empty
  | other => other.refuse

/-- The values in a text; none, if it is not an object of texts. -/
def Preferences.ofPage (text : String) : Preferences :=
  match decodeText textsOfTree text with
  | .ok p => p
  | .error _ => .empty

/-- The document for values: an object with its keys in ascending order. -/
def Preferences.toPage (p : Preferences) : String :=
  (Value.object (p.texts.entries.map fun e => (e.1, .text e.2))).toPage

/-- Preferences in use, with the document they are written to. -/
structure PreferenceFile where
  values : Preferences
  document : Document
  writable : Bool

namespace PreferenceFile

/-- Opens the preferences of a document. -/
def open? (document : Document) (writable : Bool) : Option PreferenceFile :=
  match document with
  | .absent => some ⟨.empty, document, writable⟩
  | .page text => some ⟨.ofPage text, document, writable⟩
  | .unreadable => none

/-- Writes the document anew, if it can be written. -/
def flush (f : PreferenceFile) : PreferenceFile :=
  if f.writable then { f with document := .page f.values.toPage } else f

/-- Writes a text. -/
def set (f : PreferenceFile) (key value : String) : PreferenceFile :=
  { f with values := f.values.setText key value }.flush

/-- Deletes a key; the document is written only if it was there. -/
def remove (f : PreferenceFile) (key : String) : PreferenceFile :=
  if f.values.contains key then { f with values := f.values.remove key }.flush else f

/-- Deletes every key that begins with a text. -/
def removeRooted (f : PreferenceFile) (root : String) : PreferenceFile :=
  (f.values.texts.keys.filter (Preferences.beginsWith root)).foldl remove f

/-- Takes over what the values have become, and writes the document if anything was written
to them. -/
def put (f : PreferenceFile) (values : Preferences) : PreferenceFile :=
  if values.writes = f.values.writes then { f with values } else { f with values }.flush

/-- Opens the document again. -/
def reopen? (f : PreferenceFile) : Option PreferenceFile := open? f.document f.writable

theorem values_flush (f : PreferenceFile) : f.flush.values = f.values := by
  unfold flush
  split <;> rfl

theorem values_set (f : PreferenceFile) (key value : String) :
    (f.set key value).values = f.values.setText key value :=
  values_flush _

end PreferenceFile

end InAppMessaging
