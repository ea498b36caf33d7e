import InAppMessaging.Message.Json
import InAppMessaging.Proofs.Json.Decoding

/-!
# Messages are read back as they were written

A written block leaves out the members of absent fields, so a reader meets only some of its
fields, in their order.  One lemma (`asRecord_optional`) takes the reader past one field that
may have been left out; reading a block back is a chain of it, from the innermost block, the
frequency rule, to the message.

* `FrequencySettings.ofTree_tree`, `BroadcastSettings.ofTree_tree`, `Delivery.ofTree_tree`,
  `Message.ofTree_tree` — each block is read back from its tree;
* `Message.fits` — a written message is nested five brackets deep at most.
-/

namespace InAppMessaging

open Json

/-! ## Fields that may be absent -/

/-- The tree of a value other than null is read as something that is there. -/
theorem asOption_tree {α : Type} {decode : Tree → Decoded α} {v : Value} {a : α}
    (hnull : v ≠ .null) (h : decode v.tree = .ok a) :
    v.tree.asOption decode = .ok (some a) := by
  have hsome : v.tree.asOption decode = some <$> decode v.tree := by
    cases v with
    | null => exact absurd rfl hnull
    | _ => rfl
  rw [hsome, h]
  rfl

/-- **One field that may have been left out.**  The reader goes on behind its member with the
field set to what was written; places that were read before all lie in front of it. -/
theorem asRecord_optional {σ α : Type} (fields : List (RecordField σ)) (seen : List Nat)
    (record : σ) (place : Nat) (name : String) (o : Option α) {names : List String}
    {decode : Tree → Decoded α} {set : σ → Option α → σ} {encode : α → Value}
    {rest : List (String × Value)} (hplace : placeOf? fields name = some place)
    (hfield : fields[place]? = some (optionalField names decode set))
    (hseen : ∀ p ∈ seen, p < place)
    (hread : ∀ a, encode a ≠ .null ∧ decode (encode a).tree = .ok a)
    (hnone : set record none = record) :
    ∃ seen', (∀ p ∈ seen', p < place + 1) ∧
      (membersTree (optionalMember name encode o ++ rest)).asRecord fields seen record =
        (membersTree rest).asRecord fields seen' (set record o) := by
  cases o with
  | none =>
      refine ⟨seen, fun p hp => Nat.lt_succ_of_lt (hseen p hp), ?_⟩
      rw [hnone]
      rfl
  | some a =>
      obtain ⟨hnull, hdecode⟩ := hread a
      have hnew : place ∉ seen := fun h => Nat.lt_irrefl place (hseen place h)
      have hput : (optionalField names decode set).put (encode a).tree record =
          .ok (set record (some a)) := by
        show set record <$> (encode a).tree.asOption decode = _
        rw [asOption_tree hnull hdecode]
        rfl
      refine ⟨place :: seen, ?_, asRecord_member fields place hplace hfield hnew hput⟩
      intro p hp
      rcases List.mem_cons.mp hp with rfl | hp
      · exact Nat.lt_succ_self p
      · exact Nat.lt_succ_of_lt (hseen p hp)

/-- A left-out member fits, and so does a written one whose value fits. -/
theorem membersFit_optional {α : Type} {depth : Nat} {name : String} {encode : α → Value}
    (o : Option α) (h : ∀ a, (encode a).Fits depth) :
    MembersFit depth (optionalMember name encode o) := by
  cases o with
  | none => trivial
  | some a => exact ⟨h a, trivial⟩

/-! ## Numbers -/

/-- A signed 64-bit number is of word size. -/
theorem wordSized_int64 (n : Int64) : WordSized n.toInt := by
  have hlow := n.le_toInt
  have hhigh := n.toInt_lt
  unfold WordSized Text.maxWord64
  omega

/-- A signed 32-bit number is of word size. -/
theorem wordSized_int32 (n : Int32) : WordSized n.toInt := by
  have hlow := n.le_toInt
  have hhigh := n.toInt_lt
  unfold WordSized Text.maxWord64
  omega

/-- A signed 64-bit number is read back. -/
theorem readInt64_tree (n : Int64) : readInt64 (Value.integer n.toInt).tree = .ok n := by
  have hlow := n.le_toInt
  have hhigh := n.toInt_lt
  unfold readInt64
  rw [asInteger_tree (wordSized_int64 n)
    (by unfold Text.minSigned64; omega) (by unfold Text.maxSigned64; omega)]
  exact congrArg Except.ok n.ofInt_toInt

/-- A signed 32-bit number is read back. -/
theorem readInt32_tree (n : Int32) : readInt32 (Value.integer n.toInt).tree = .ok n := by
  have hlow := n.le_toInt
  have hhigh := n.toInt_lt
  unfold readInt32
  rw [asInteger_tree (wordSized_int32 n) (by omega) (by omega)]
  exact congrArg Except.ok n.ofInt_toInt

/-! ## The frequency rule and the sticky block -/

/-- A frequency rule is read back from its tree. -/
theorem FrequencySettings.ofTree_tree (r : FrequencySettings) :
    FrequencySettings.ofTree r.toValue.tree = .ok r := by
  have hint : ∀ n : Int64, Value.integer n.toInt ≠ .null ∧
      readInt64 (Value.integer n.toInt).tree = .ok n :=
    fun n => ⟨Value.noConfusion, readInt64_tree n⟩
  have hbool : ∀ b : Bool, Value.bool b ≠ .null ∧ (Value.bool b).tree.asBool = .ok b :=
    fun b => ⟨Value.noConfusion, asBool_tree b⟩
  have hnew : ∀ p ∈ ([] : List Nat), p < 0 := fun p hp => absurd hp List.not_mem_nil
  show (membersTree _).asRecord fields [] {} = .ok r
  rw [← List.append_nil (_ ++ _), List.append_assoc, List.append_assoc]
  obtain ⟨seen₁, h₁, hcount⟩ := asRecord_optional fields [] {} 0 "count" r.count
    (by decide) rfl hnew hint rfl
  rw [hcount]
  obtain ⟨seen₂, h₂, hdelay⟩ := asRecord_optional fields seen₁ { count := r.count } 1 "delay"
    r.delay (by decide) rfl h₁ hint rfl
  rw [hdelay]
  obtain ⟨seen₃, -, hignore⟩ := asRecord_optional fields seen₂
    { count := r.count, delay := r.delay } 2 "ignoreDismiss" r.ignoreDismiss (by decide) rfl h₂
    hbool rfl
  rw [hignore]
  rfl

/-- A sticky block is read back from its tree. -/
theorem BroadcastSettings.ofTree_tree (r : BroadcastSettings) :
    BroadcastSettings.ofTree r.toValue.tree = .ok r := by
  have hnew : ∀ p ∈ ([] : List Nat), p < 0 := fun p hp => absurd hp List.not_mem_nil
  have hrule : ∀ rule : FrequencySettings, rule.toValue ≠ .null ∧
      FrequencySettings.ofTree rule.toValue.tree = .ok rule :=
    fun rule => ⟨Value.noConfusion, rule.ofTree_tree⟩
  show (membersTree _).asRecord fields [] {} = .ok r
  rw [← List.append_nil (optionalMember _ _ _)]
  obtain ⟨seen₁, -, hfrequency⟩ := asRecord_optional fields [] {} 0 "frequency" r.frequency
    (by decide) rfl hnew hrule rfl
  rw [hfrequency]
  rfl

/-! ## The delivery block -/

/-- A delivery block is read back from its tree. -/
theorem Delivery.ofTree_tree (r : Delivery) : Delivery.ofTree r.toValue.tree = .ok r := by
  have hnew : ∀ p ∈ ([] : List Nat), p < 0 := fun p hp => absurd hp List.not_mem_nil
  have htext : ∀ s : String, Value.text s ≠ .null ∧ (Value.text s).tree.asText = .ok s :=
    fun s => ⟨Value.noConfusion, asText_tree s⟩
  have hbool : ∀ b : Bool, Value.bool b ≠ .null ∧ (Value.bool b).tree.asBool = .ok b :=
    fun b => ⟨Value.noConfusion, asBool_tree b⟩
  have hanchor : ∀ p : Position, Value.text p.name ≠ .null ∧
      (Value.text p.name).tree.asWord Position.ofName? = .ok p := by
    intro p
    refine ⟨Value.noConfusion, ?_⟩
    rw [Value.tree, Tree.asWord, text_printed]
    simp only [Position.ofName?_name, bind, Except.bind]
  have hsticky : ∀ b : BroadcastSettings, b.toValue ≠ .null ∧
      BroadcastSettings.ofTree b.toValue.tree = .ok b :=
    fun b => ⟨Value.noConfusion, b.ofTree_tree⟩
  show (membersTree _).asRecord fields [] {} = .ok r
  rw [← List.append_nil (_ ++ _)]
  simp only [List.append_assoc]
  obtain ⟨seen₁, h₁, hroute⟩ := asRecord_optional fields [] {} 0 "routeRuleAndroid"
    r.routeRule (by decide) rfl hnew htext rfl
  rw [hroute]
  obtain ⟨seen₂, h₂, helement⟩ := asRecord_optional fields seen₁
    { routeRule := r.routeRule } 1 "elementId" r.elementId (by decide) rfl h₁ htext rfl
  rw [helement]
  obtain ⟨seen₃, h₃, hcampaign⟩ := asRecord_optional fields seen₂
    { routeRule := r.routeRule, elementId := r.elementId } 2 "campaignId" r.campaignId
    (by decide) rfl h₂ htext rfl
  rw [hcampaign]
  obtain ⟨seen₄, h₄, hposition⟩ := asRecord_optional fields seen₃
    { r with position := none, persistent := none, overlayColor := none, anonymous := none,
             broadcast := none } 3 "position" r.position (by decide) rfl h₃ hanchor rfl
  rw [hposition]
  obtain ⟨seen₅, h₅, hpersistent⟩ := asRecord_optional fields seen₄
    { r with persistent := none, overlayColor := none, anonymous := none, broadcast := none }
    4 "persistent" r.persistent (by decide) rfl h₄ hbool rfl
  rw [hpersistent]
  obtain ⟨seen₆, h₆, hcolor⟩ := asRecord_optional fields seen₅
    { r with overlayColor := none, anonymous := none, broadcast := none } 5 "overlayColor"
    r.overlayColor (by decide) rfl h₅ htext rfl
  rw [hcolor]
  obtain ⟨seen₇, h₇, hanonymous⟩ := asRecord_optional fields seen₆
    { r with anonymous := none, broadcast := none } 6 "anonymous" r.anonymous
    (by decide) rfl h₆ hbool rfl
  rw [hanonymous]
  obtain ⟨seen₈, -, hbroadcast⟩ := asRecord_optional fields seen₇
    { r with broadcast := none } 7 "broadcast" r.broadcast (by decide) rfl h₇ hsticky rfl
  rw [hbroadcast]
  rfl

/-! ## Messages -/

/-- **A message is read back from its tree.** -/
theorem Message.ofTree_tree (m : Message) : Message.ofTree m.toValue.tree = .ok m := by
  have hpriority : ∀ n : Int32, Value.integer n.toInt ≠ .null ∧
      readInt32 (Value.integer n.toInt).tree = .ok n :=
    fun n => ⟨Value.noConfusion, readInt32_tree n⟩
  have htext : ∀ s : String, Value.text s ≠ .null ∧ (Value.text s).tree.asText = .ok s :=
    fun s => ⟨Value.noConfusion, asText_tree s⟩
  have hproperties : (Value.object [("gist", m.delivery.toValue)]).tree.asRecord
      propertyFields {} = .ok m.delivery := by
    show (membersTree [("gist", m.delivery.toValue)]).asRecord propertyFields [] {} = _
    have hput : (plainField ["gist"] Delivery.ofTree fun _ v => v).put
        m.delivery.toValue.tree ({} : Delivery) = .ok m.delivery := by
      show _ <$> Delivery.ofTree _ = _
      rw [m.delivery.ofTree_tree]
      rfl
    rw [asRecord_member propertyFields 0 (by decide) rfl List.not_mem_nil hput]
    rfl
  show (membersTree _).asRecord fields [] {} = .ok m
  have hid : (plainField ["messageId"] Tree.asText fun r v => { r with id := v }).put
      (Value.text m.id).tree ({} : Message) = .ok { id := m.id } := by
    show _ <$> (Value.text m.id).tree.asText = _
    rw [asText_tree]
    rfl
  rw [asRecord_member fields 0 (by decide) rfl List.not_mem_nil hid, List.append_assoc]
  have hfirst : ∀ p ∈ [0], p < 1 := by simp
  obtain ⟨seen₁, h₁, hpriorityRead⟩ := asRecord_optional fields [0] { id := m.id } 1
    "priority" m.priority (by decide) rfl hfirst hpriority rfl
  rw [hpriorityRead]
  obtain ⟨seen₂, h₂, hqueue⟩ := asRecord_optional fields seen₁
    { id := m.id, priority := m.priority } 2 "queueId" m.queueId (by decide) rfl h₁ htext rfl
  rw [hqueue]
  have hnew : 3 ∉ seen₂ := fun h => Nat.lt_irrefl 3 (h₂ 3 h)
  have hdelivery : (plainField ["properties"] (fun tree => tree.asRecord propertyFields {})
      fun r v => { r with delivery := v }).put
        (Value.object [("gist", m.delivery.toValue)]).tree { m with delivery := {} } = .ok m := by
    show _ <$> (Value.object [("gist", m.delivery.toValue)]).tree.asRecord propertyFields {} = _
    rw [hproperties]
    rfl
  rw [asRecord_member fields 3 (by decide) rfl hnew hdelivery]
  rfl

/-! ## How deep a message is nested -/

/-- A frequency rule opens one bracket. -/
theorem FrequencySettings.fits (depth : Nat) (r : FrequencySettings) :
    r.toValue.Fits (depth + 1) := by
  have hint : ∀ n : Int64, (Value.integer n.toInt).Fits depth :=
    fun n => Value.fits_integer (wordSized_int64 n)
  refine Value.fits_object (membersFit_append (membersFit_append ?_ ?_) ?_)
  · exact membersFit_optional r.count hint
  · exact membersFit_optional r.delay hint
  · exact membersFit_optional r.ignoreDismiss Value.fits_bool

theorem BroadcastSettings.fits (depth : Nat) (r : BroadcastSettings) :
    r.toValue.Fits (depth + 2) :=
  Value.fits_object (membersFit_optional r.frequency (FrequencySettings.fits depth))

/-- A delivery block opens three brackets. -/
theorem Delivery.fits (depth : Nat) (r : Delivery) : r.toValue.Fits (depth + 3) := by
  refine Value.fits_object (membersFit_append (membersFit_append (membersFit_append
    (membersFit_append (membersFit_append (membersFit_append (membersFit_append
      ?_ ?_) ?_) ?_) ?_) ?_) ?_) ?_)
  · exact membersFit_optional r.routeRule Value.fits_text
  · exact membersFit_optional r.elementId Value.fits_text
  · exact membersFit_optional r.campaignId Value.fits_text
  · exact membersFit_optional r.position fun p => Value.fits_text p.name
  · exact membersFit_optional r.persistent Value.fits_bool
  · exact membersFit_optional r.overlayColor Value.fits_text
  · exact membersFit_optional r.anonymous Value.fits_bool
  · exact membersFit_optional r.broadcast (BroadcastSettings.fits depth)

/-- **A message opens five brackets at most.** -/
theorem Message.fits (depth : Nat) (m : Message) : m.toValue.Fits (depth + 5) := by
  have hproperties : (Value.object [("gist", m.delivery.toValue)]).Fits (depth + 4) :=
    Value.fits_object ⟨m.delivery.fits depth, trivial⟩
  refine Value.fits_object ⟨Value.fits_text m.id,
    membersFit_append (membersFit_append ?_ ?_) ⟨hproperties, trivial⟩⟩
  · exact membersFit_optional m.priority fun n => Value.fits_integer (wordSized_int32 n)
  · exact membersFit_optional m.queueId Value.fits_text

end InAppMessaging
