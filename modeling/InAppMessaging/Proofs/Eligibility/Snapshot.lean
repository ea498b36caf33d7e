import InAppMessaging.Eligibility.Snapshot
import InAppMessaging.Proofs.Message.RoundTrip

/-!
# A stored snapshot is read back

Reading first buffers the whole document, which limits how deep it may be nested and how large
its numbers may be; a snapshot stays far below both limits.

* `decodeSnapshot_encodeSnapshot` — the messages that were stored come back, in their order;
* `readSnapshot_list` — so do those that were stored in the older layout.
-/

namespace InAppMessaging

open Json

/-- The value a snapshot is written from. -/
def snapshotValue (messages : List Message) : Value :=
  .object [("version", .integer snapshotVersion),
    ("messages", .array (messages.map Message.toValue))]

theorem wordSized_snapshotVersion : WordSized snapshotVersion := by
  unfold WordSized Text.maxWord64 snapshotVersion
  omega

/-- A snapshot opens seven brackets at most. -/
theorem snapshotValue_fits (messages : List Message) :
    (snapshotValue messages).Fits snapshotDepth := by
  have hitems : ∀ v ∈ messages.map Message.toValue, v.Fits 125 := by
    intro v hv
    obtain ⟨m, -, rfl⟩ := List.mem_map.mp hv
    exact m.fits 120
  have harray : (Value.array (messages.map Message.toValue)).Fits 126 := by
    unfold Value.Fits
    exact ⟨by decide, itemsFit_of_forall hitems⟩
  exact Value.fits_object ⟨Value.fits_integer wordSized_snapshotVersion, harray, trivial⟩

/-- The document has both of its members. -/
theorem readVersioned?_snapshotValue (messages : List Message) :
    readVersioned? (snapshotValue messages).tree = some (snapshotVersion, messages) := by
  have hversion : (plainField ["version"] (fun tree => tree.asInteger 0 Text.maxWord32)
      fun r v => { r with version := some v.toNat }).put
        (Value.integer snapshotVersion).tree ({} : SnapshotParts) =
      .ok { version := some snapshotVersion } := by
    show _ <$> (Value.integer snapshotVersion).tree.asInteger 0 Text.maxWord32 = _
    rw [asInteger_tree wordSized_snapshotVersion (by decide) (by decide)]
    rfl
  have hmessages : (plainField ["messages"] (fun tree => tree.asList Message.ofTree)
      fun r v => { r with messages := some v }).put
        (Value.array (messages.map Message.toValue)).tree
        ({ version := some snapshotVersion } : SnapshotParts) =
      .ok ⟨some snapshotVersion, some messages⟩ := by
    show _ <$> (itemsTree (messages.map Message.toValue)).asList Message.ofTree = _
    rw [asList_itemsTree Message.ofTree_tree]
    rfl
  have hparts : (membersTree [("version", .integer snapshotVersion),
      ("messages", .array (messages.map Message.toValue))]).asRecord SnapshotParts.fields [] {} =
        .ok ⟨some snapshotVersion, some messages⟩ := by
    rw [asRecord_member SnapshotParts.fields 0 (by decide) rfl List.not_mem_nil hversion,
      asRecord_member SnapshotParts.fields 1 (by decide) rfl (by decide) hmessages]
    rfl
  have htree : (snapshotValue messages).tree = .object (membersTree
      [("version", .integer snapshotVersion),
        ("messages", .array (messages.map Message.toValue))]) := rfl
  unfold readVersioned?
  rw [htree]
  dsimp only
  rw [hparts]

/-- A snapshot is read from its tree. -/
theorem readSnapshot_snapshotValue (messages : List Message) :
    readSnapshot (snapshotValue messages).tree = .ok (snapshotVersion, messages) := by
  unfold readSnapshot
  rw [buffer_tree _ _ (snapshotValue_fits messages), readVersioned?_snapshotValue]
  rfl

/-- **The stored messages are read back.** -/
theorem decodeSnapshot_encodeSnapshot (messages : List Message) :
    decodeSnapshot (encodeSnapshot messages) = .ok messages := by
  have htext : decodeText readSnapshot (encodeSnapshot messages) =
      .ok (snapshotVersion, messages) := decodeText_toText (readSnapshot_snapshotValue messages)
  unfold decodeSnapshot
  rw [htext]
  rfl

/-! ## The older layout -/

/-- The older layout is a list, which is not taken for a document with a version. -/
theorem readSnapshot_list (messages : List Message) :
    readSnapshot (Value.array (messages.map Message.toValue)).tree =
      .ok (snapshotVersion, messages) := by
  have hfits : (Value.array (messages.map Message.toValue)).Fits snapshotDepth := by
    refine ⟨by decide, itemsFit_of_forall fun v hv => ?_⟩
    obtain ⟨m, -, rfl⟩ := List.mem_map.mp hv
    exact m.fits 121
  have hitems : (Value.array (messages.map Message.toValue)).tree.asList Message.ofTree =
      .ok messages := asList_itemsTree Message.ofTree_tree messages
  unfold readSnapshot
  rw [buffer_tree _ _ hfits, hitems]
  rfl

/-- **What is written is read back**: a message, stored messages with their version, and a bare list
of messages as it was stored before. -/
theorem messages_read_back (m : Message) (messages : List Message) :
    Message.decode m.encode = .ok m ∧
      decodeSnapshot (encodeSnapshot messages) = .ok messages ∧
      decodeSnapshot (Value.array (messages.map Message.toValue)).toText = .ok messages := by
  refine ⟨decodeText_toText m.ofTree_tree, decodeSnapshot_encodeSnapshot messages, ?_⟩
  unfold decodeSnapshot
  rw [decodeText_toText (readSnapshot_list messages)]
  rfl

end InAppMessaging
