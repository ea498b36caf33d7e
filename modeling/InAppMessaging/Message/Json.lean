import InAppMessaging.Message
import InAppMessaging.Json.Decode
import InAppMessaging.Json.Value

/-!
# Messages as JSON

A message is an object whose delivery block stands under `properties.gist`.  Writing leaves
absent fields out and keeps the order of declaration; the delivery block is always written.
Reading takes the members in any order, skips unknown ones, takes null for an absent field
and defaults for what is missing.  The route rule goes by two names.
-/

namespace InAppMessaging

open Json

/-- The member for a field that may be absent. -/
def optionalMember {α : Type} (name : String) (encode : α → Value) :
    Option α → List (String × Value)
  | none => []
  | some a => [(name, encode a)]

namespace Position

/-- The name of an anchor. -/
def name : Position → String
  | top => "top"
  | center => "center"
  | bottom => "bottom"

/-- An anchor by one of its spellings. -/
def ofName? (word : String) : Option Position :=
  if word ∈ ["top", "TOP", "Top"] then some top
  else if word ∈ ["center", "CENTER", "Center"] then some center
  else if word ∈ ["bottom", "BOTTOM", "Bottom"] then some bottom
  else none

theorem ofName?_name (p : Position) : ofName? p.name = some p := by
  cases p <;> decide

end Position

/-- A signed 64-bit number. -/
def readInt64 (tree : Tree) : Decoded Int64 :=
  Int64.ofInt <$> tree.asInteger Text.minSigned64 Text.maxSigned64

/-- A signed 32-bit number. -/
def readInt32 (tree : Tree) : Decoded Int32 :=
  Int32.ofInt <$> tree.asInteger (-0x80000000) 0x7FFFFFFF

/-- A field that may be absent or null, read by `decode` and put into place by `set`. -/
def optionalField {σ α : Type} (names : List String) (decode : Tree → Decoded α)
    (set : σ → Option α → σ) : RecordField σ :=
  ⟨names, fun tree record => set record <$> tree.asOption decode⟩

/-- A field that may be missing but not null. -/
def plainField {σ α : Type} (names : List String) (decode : Tree → Decoded α)
    (set : σ → α → σ) : RecordField σ :=
  ⟨names, fun tree record => set record <$> decode tree⟩

namespace FrequencySettings

/-- The fields of a frequency rule in order. -/
def fields : List (RecordField FrequencySettings) :=
  [optionalField ["count"] readInt64 fun r v => { r with count := v },
   optionalField ["delay"] readInt64 fun r v => { r with delay := v },
   optionalField ["ignoreDismiss"] Tree.asBool fun r v => { r with ignoreDismiss := v }]

/-- Reads a frequency rule. -/
def ofTree (tree : Tree) : Decoded FrequencySettings := tree.asRecord fields {}

/-- Writes a frequency rule. -/
def toValue (r : FrequencySettings) : Value :=
  .object (optionalMember "count" (fun n => .integer n.toInt) r.count ++
    optionalMember "delay" (fun n => .integer n.toInt) r.delay ++
    optionalMember "ignoreDismiss" Value.bool r.ignoreDismiss)

end FrequencySettings

namespace BroadcastSettings

/-- The fields of the sticky block. -/
def fields : List (RecordField BroadcastSettings) :=
  [optionalField ["frequency"] FrequencySettings.ofTree fun r v => { r with frequency := v }]

/-- Reads the sticky block. -/
def ofTree (tree : Tree) : Decoded BroadcastSettings := tree.asRecord fields {}

/-- Writes the sticky block. -/
def toValue (r : BroadcastSettings) : Value :=
  .object (optionalMember "frequency" FrequencySettings.toValue r.frequency)

end BroadcastSettings

namespace Delivery

/-- The fields of the delivery block in order. -/
def fields : List (RecordField Delivery) :=
  [optionalField ["routeRuleAndroid", "routeRule"] Tree.asText
      fun r v => { r with routeRule := v },
   optionalField ["elementId"] Tree.asText fun r v => { r with elementId := v },
   optionalField ["campaignId"] Tree.asText fun r v => { r with campaignId := v },
   optionalField ["position"] (fun tree => tree.asWord Position.ofName?)
      fun r v => { r with position := v },
   optionalField ["persistent"] Tree.asBool fun r v => { r with persistent := v },
   optionalField ["overlayColor"] Tree.asText fun r v => { r with overlayColor := v },
   optionalField ["anonymous"] Tree.asBool fun r v => { r with anonymous := v },
   optionalField ["broadcast"] BroadcastSettings.ofTree fun r v => { r with broadcast := v }]

/-- Reads the delivery block. -/
def ofTree (tree : Tree) : Decoded Delivery := tree.asRecord fields {}

/-- Writes the delivery block. -/
def toValue (r : Delivery) : Value :=
  .object (optionalMember "routeRuleAndroid" Value.text r.routeRule ++
    optionalMember "elementId" Value.text r.elementId ++
    optionalMember "campaignId" Value.text r.campaignId ++
    optionalMember "position" (fun p => .text p.name) r.position ++
    optionalMember "persistent" Value.bool r.persistent ++
    optionalMember "overlayColor" Value.text r.overlayColor ++
    optionalMember "anonymous" Value.bool r.anonymous ++
    optionalMember "broadcast" BroadcastSettings.toValue r.broadcast)

end Delivery

namespace Message

/-- The fields of the block around the delivery block. -/
def propertyFields : List (RecordField Delivery) :=
  [plainField ["gist"] Delivery.ofTree fun _ v => v]

/-- The fields of a message in order. -/
def fields : List (RecordField Message) :=
  [plainField ["messageId"] Tree.asText fun r v => { r with id := v },
   optionalField ["priority"] readInt32 fun r v => { r with priority := v },
   optionalField ["queueId"] Tree.asText fun r v => { r with queueId := v },
   plainField ["properties"] (fun tree => tree.asRecord propertyFields {})
      fun r v => { r with delivery := v }]

/-- Reads a message. -/
def ofTree (tree : Tree) : Decoded Message := tree.asRecord fields {}

/-- Writes a message. -/
def toValue (m : Message) : Value :=
  .object (("messageId", .text m.id) ::
    (optionalMember "priority" (fun n => .integer n.toInt) m.priority ++
      optionalMember "queueId" Value.text m.queueId ++
      [("properties", .object [("gist", m.delivery.toValue)])]))

/-- The compact JSON text of a message. -/
def encode (m : Message) : String := m.toValue.toText

/-- Reads a message from JSON text. -/
def decode (text : String) : Decoded Message := decodeText ofTree text

end Message

end InAppMessaging
