import InAppMessaging.Keyed
import InAppMessaging.Text.Blank
import InAppMessaging.Text.Decimal

/-!
# Preferences

A store of texts by key that outlives the engine.  Numbers and truth values are kept as text
and read back after trimming; what cannot be read counts as absent.  The store counts what is
written, so that whoever keeps a copy of it knows when to make a new one: writing the value
that is there counts, deleting a key that is not there does not.

* `text?_setText_self`, `text?_setText_ne` — writing a key changes that key only;
* `text?_removeRooted` — removing by what keys begin with leaves the other keys alone.
-/

namespace InAppMessaging

open Text

/-- The stored texts by their keys, and how often something was written or deleted. -/
structure Preferences where
  texts : Keyed String := .empty
  writes : Nat := 0
deriving DecidableEq, Inhabited

namespace Preferences

/-- A store that holds nothing. -/
def empty : Preferences := {}

/-- The store that holds given texts, of two with one key the later one. -/
def ofList (entries : List (String × String)) : Preferences := { texts := .ofList entries }

/-- A key has a text. -/
def contains (p : Preferences) (key : String) : Bool := p.texts.contains key

/-- Writes a text. -/
def setText (p : Preferences) (key value : String) : Preferences :=
  ⟨p.texts.insert key value, p.writes + 1⟩

/-- Writes a whole number. -/
def setInteger (p : Preferences) (key : String) (value : Int) : Preferences :=
  p.setText key (toString value)

/-- Writes a truth value. -/
def setBool (p : Preferences) (key : String) (value : Bool) : Preferences :=
  p.setText key (if value then "true" else "false")

/-- Deletes a key. -/
def remove (p : Preferences) (key : String) : Preferences :=
  if p.contains key then ⟨p.texts.erase key, p.writes + 1⟩ else p

/-- A text begins with another. -/
def beginsWith (root key : String) : Bool := root.toList.isPrefixOf key.toList

/-- Deletes every key that begins with a text. -/
def removeRooted (p : Preferences) (root : String) : Preferences :=
  ⟨p.texts.filterKeys fun key => !beginsWith root key,
    p.writes + (p.texts.keys.filter (beginsWith root)).length⟩

/-- Reads a text. -/
def text? (p : Preferences) (key : String) : Option String := p.texts.find? key

/-- Reads a count that fits a 32-bit word. -/
def natural? (p : Preferences) (key : String) : Option Nat :=
  (p.text? key).bind fun raw => Text.natural? maxWord32 (trim raw).toList

/-- Reads a signed 64-bit number. -/
def integer? (p : Preferences) (key : String) : Option Int :=
  (p.text? key).bind fun raw => signed64? (trim raw).toList

/-- The truth value a text spells. -/
def boolOf? (s : String) : Option Bool :=
  if s = "true" then some true else if s = "false" then some false else none

/-- Reads a truth value. -/
def bool? (p : Preferences) (key : String) : Option Bool :=
  (p.text? key).bind fun raw => boolOf? (trim raw)

theorem text?_setText_self (p : Preferences) (key value : String) :
    (p.setText key value).text? key = some value :=
  p.texts.find?_insert_self key value

theorem text?_setText_ne (p : Preferences) {key other : String} (value : String)
    (h : other ≠ key) : (p.setText key value).text? other = p.text? other :=
  p.texts.find?_insert_ne value h

/-- A deleted key is absent. -/
theorem text?_remove_self (p : Preferences) (key : String) :
    (p.remove key).text? key = none := by
  unfold remove
  split
  · exact p.texts.find?_erase_self key
  · next h => simpa [contains, Keyed.contains, text?] using h

/-- Deleting a key leaves the others alone. -/
theorem text?_remove_ne (p : Preferences) {key other : String} (h : other ≠ key) :
    (p.remove key).text? other = p.text? other := by
  unfold remove
  split
  · exact p.texts.find?_erase_ne h
  · rfl

/-- Deleting by what keys begin with leaves no such key and every other one. -/
theorem text?_removeRooted (p : Preferences) (root key : String) :
    (p.removeRooted root).text? key = if beginsWith root key then none else p.text? key := by
  unfold removeRooted text?
  rw [Keyed.find?_filterKeys]
  cases beginsWith root key <;> rfl

end Preferences

end InAppMessaging
