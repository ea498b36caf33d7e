import InAppMessaging.Json.Number
import InAppMessaging.Message.Json

/-!
# Stored snapshots of a catalog

The members of a sticky class are kept as one JSON document with a version.  An older layout,
the bare array of messages, is still read.  The text as a whole has to be JSON before its
shape is looked at, so a document of the wrong shape is told from a text that is none.
-/

namespace InAppMessaging

open Json

/-- The version of the documents this library writes. -/
def snapshotVersion : Nat := 1

/-- How deep a stored document may be nested. -/
def snapshotDepth : Nat := 127

/-- Why a stored document gives no messages. -/
inductive SnapshotFault where
  | malformed (fault : Fault)
  | unsupported (version : Nat)
deriving DecidableEq, Repr

/-- A fault as text, where the text is ours. -/
def SnapshotFault.message? : SnapshotFault → Option String
  | malformed _ => none
  | unsupported version =>
      some ("unsupported eligibility snapshot version " ++ toString version)

/-- A document with a version, as far as its members are read. -/
structure SnapshotParts where
  version : Option Nat := none
  messages : Option (List Message) := none

/-- The members of a document with a version. -/
def SnapshotParts.fields : List (RecordField SnapshotParts) :=
  [plainField ["version"] (fun tree => tree.asInteger 0 Text.maxWord32)
      fun r v => { r with version := some v.toNat },
   plainField ["messages"] (fun tree => tree.asList Message.ofTree)
      fun r v => { r with messages := some v }]

/-- Reads a document with a version: both members have to be there. -/
def readVersioned? : Tree → Option (Nat × List Message)
  | .object members =>
      match members.asRecord SnapshotParts.fields [] {} with
      | .ok ⟨some version, some messages⟩ => some (version, messages)
      | _ => none
  | _ => none

/-- Reads a document in either layout; the older one counts as the first version. -/
def readSnapshot (tree : Tree) : Decoded (Nat × List Message) := do
  tree.buffer snapshotDepth
  match readVersioned? tree with
  | some r => .ok r
  | none =>
      match tree.asList Message.ofTree with
      | .ok messages => .ok (snapshotVersion, messages)
      | .error _ => .error .mismatch

/-- The messages of a stored document. -/
def decodeSnapshot (text : String) : Except SnapshotFault (List Message) :=
  match decodeText readSnapshot text with
  | .error fault => .error (.malformed fault)
  | .ok (version, messages) =>
      if version ≤ snapshotVersion then .ok messages else .error (.unsupported version)

/-- The stored document for messages. -/
def encodeSnapshot (messages : List Message) : String :=
  (Value.object [("version", .integer snapshotVersion),
    ("messages", .array (messages.map Message.toValue))]).toText

end InAppMessaging
