import InAppMessaging.Json.Number

/-!
# Reading values out of a tree

A decoder takes a tree and returns a value or the first fault in reading order.  A value of
the wrong kind is a `mismatch`, but only after its own text is sound up to the place where
the kind is settled: a bracket settles it at once, a string or a number only when it has been
read.

Records are described by their fields (`RecordField`): the names a field goes by and how its
value goes into the record under construction.  A record may be spelled as an object, whose
unknown members are skipped and whose known ones may come once each, or as the array of its
fields in order, where trailing ones may be missing and none may be left over.
-/

namespace InAppMessaging.Json

/-- A result of a decoder. -/
abbrev Decoded := Except Fault

/-- The refusal of a value whose kind is not wanted. -/
def Tree.refuse {α : Type} : Tree → Decoded α
  | .null | .bool _ | .array _ | .object _ => .error .mismatch
  | .number n => do
      discard n.read
      .error .mismatch
  | .partialNumber atEnd => .error (if atEnd then .cutShort else .malformed)
  | .text s => do
      discard s.text
      .error .mismatch
  | .brokenWord _ fault => .error fault
  | .broken fault => .error fault

/-- Reads a string. -/
def Tree.asText : Tree → Decoded String
  | .text s => s.text
  | other => other.refuse

/-- Reads a truth value. -/
def Tree.asBool : Tree → Decoded Bool
  | .bool b => .ok b
  | other => other.refuse

/-- Reads a whole number within bounds. -/
def Tree.asInteger (low high : Int) : Tree → Decoded Int
  | .number n => do
      match ← n.read with
      | .natural k => if low ≤ (k : Int) ∧ (k : Int) ≤ high then .ok k else .error .mismatch
      | .negative k => if low ≤ k ∧ k ≤ high then .ok k else .error .mismatch
      | .fractional => .error .mismatch
  | other => other.refuse

/-- Reads a value that may be null; what begins like null has to be null. -/
def Tree.asOption {α : Type} (decode : Tree → Decoded α) : Tree → Decoded (Option α)
  | .null => .ok none
  | .brokenWord true fault => .error fault
  | other => some <$> decode other

/-- Reads null. -/
def Tree.asNull : Tree → Decoded Unit
  | .null => .ok ()
  | other => other.refuse

/-- Reads the items of an array. -/
def Items.asList {α : Type} (decode : Tree → Decoded α) : Items → Decoded (List α)
  | .done => .ok []
  | .cut fault => .error fault
  | .cons head tail => do
      let a ← decode head
      return a :: (← tail.asList decode)

/-- Reads an array. -/
def Tree.asList {α : Type} (decode : Tree → Decoded α) : Tree → Decoded (List α)
  | .array items => items.asList decode
  | other => other.refuse

/-- Reads one of several words, spelled as a string or as an object with that one key and the
value null.  Anything that is neither is refused by its first character. -/
def Tree.asWord {α : Type} (meaning : String → Option α) : Tree → Decoded α
  | .text s => do
      match meaning (← s.text) with
      | some a => .ok a
      | none => .error .mismatch
  | .object (.cons key value tail) => do
      match meaning (← key.text) with
      | some a =>
          value.asNull
          match tail with
          | .done => .ok a
          | .cut .cutShort => .error .cutShort
          | _ => .error .malformed
      | none => .error .mismatch
  | .object .done => .error .malformed
  | .object (.cut fault) => .error fault
  | .object (.keyless _ found) => found.refuse
  | .broken fault => .error fault
  | _ => .error .malformed

/-! ## Records -/

/-- A field of a record: the names it goes by, and how its value is put into the record. -/
structure RecordField (σ : Type) where
  names : List String
  put : Tree → σ → Decoded σ

/-- The place of the field that goes by a name. -/
def placeOf? {σ : Type} (fields : List (RecordField σ)) (name : String) : Option Nat :=
  fields.findIdx? fun field => field.names.contains name

/-- Reads the members of an object into a record; `seen` are the places of the fields that
have been read. -/
def Members.asRecord {σ : Type} (fields : List (RecordField σ)) (seen : List Nat) :
    Members → σ → Decoded σ
  | .done, record => .ok record
  | .cut fault, _ => .error fault
  | .keyless fault _, _ => .error fault
  | .cons key value tail, record => do
      let name ← key.text
      match placeOf? fields name with
      | none =>
          value.skip
          tail.asRecord fields seen record
      | some place =>
          if seen.contains place then .error .mismatch
          else
            match fields[place]? with
            | none => .error .mismatch
            | some field =>
                let record ← field.put value record
                tail.asRecord fields (place :: seen) record

/-- Reads the items of an array into a record, one field after the other. -/
def Items.asRecord {σ : Type} : List (RecordField σ) → Items → σ → Decoded σ
  | _, .done, record => .ok record
  | _, .cut fault, _ => .error fault
  | [], .cons _ _, _ => .error .malformed
  | field :: fields, .cons head tail, record => do
      let record ← field.put head record
      tail.asRecord fields record

/-- Reads a record, spelled as an object or as the array of its fields. -/
def Tree.asRecord {σ : Type} (fields : List (RecordField σ)) (empty : σ) : Tree → Decoded σ
  | .object members => members.asRecord fields [] empty
  | .array items => items.asRecord fields empty
  | other => other.refuse

/-- Decodes a whole text: one value with nothing but spaces around it. -/
def decodeText {α : Type} (decode : Tree → Decoded α) (text : String) : Decoded α := do
  let (tree, rest) := Tree.read text.toList
  let value ← decode tree
  if (skipSpaces rest).isEmpty then .ok value else .error .malformed

end InAppMessaging.Json
