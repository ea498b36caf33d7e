import InAppMessaging.Message.Json
import InAppMessaging.Proofs.Json.Layout
import InAppMessaging.Proofs.Message.RoundTrip

/-!
# A message is read from any layout

The texts that spell a message (`Message.SpelledBy`): the members of each block in any order, with
unknown ones between them; absent fields left out or null; the route rule under either name; empty
blocks left out; any white space; any escapes.  Each block has a list of field layouts, in the
order of its fields; what is read from a block so far is the message with the other fields at
their defaults.

* `FrequencySettings.readsSpelled`, `BroadcastSettings.readsSpelled`, `Delivery.reads` — each
  block is read from what spells it;
* `Message.decode_spelled` — **every text that spells a message gives that message**.
-/

namespace InAppMessaging

open Json

/-! ## The texts of a value -/

/-- A truth value is a word. -/
def SpellsBool (b : Bool) (text : List Char) : Prop :=
  text = (if b then "true" else "false").toList

/-- A whole number has one spelling, in decimal. -/
def SpellsInteger (n : Int) (text : List Char) : Prop := text = (toString n).toList

/-- An anchor is spelled by any of its names. -/
def Position.SpelledBy (p : Position) (text : List Char) : Prop :=
  ∃ name, Position.ofName? name = some p ∧ SpellsText name text

/-- The fields of a frequency rule. -/
def FrequencySettings.layouts (r : FrequencySettings) : List FieldLayout :=
  [.optional ["count"] (fun n => SpellsInteger n.toInt) r.count,
   .optional ["delay"] (fun n => SpellsInteger n.toInt) r.delay,
   .optional ["ignoreDismiss"] SpellsBool r.ignoreDismiss]

/-- A text spells a frequency rule. -/
def FrequencySettings.SpelledBy (r : FrequencySettings) (text : List Char) : Prop :=
  SpellsRecord r.layouts text

/-- The field of a sticky block. -/
def BroadcastSettings.layouts (r : BroadcastSettings) : List FieldLayout :=
  [.optional ["frequency"] FrequencySettings.SpelledBy r.frequency]

/-- A text spells a sticky block. -/
def BroadcastSettings.SpelledBy (r : BroadcastSettings) (text : List Char) : Prop :=
  SpellsRecord r.layouts text

/-- The fields of a delivery block. -/
def Delivery.layouts (r : Delivery) : List FieldLayout :=
  [.optional ["routeRuleAndroid", "routeRule"] SpellsText r.routeRule,
   .optional ["elementId"] SpellsText r.elementId,
   .optional ["campaignId"] SpellsText r.campaignId,
   .optional ["position"] Position.SpelledBy r.position,
   .optional ["persistent"] SpellsBool r.persistent,
   .optional ["overlayColor"] SpellsText r.overlayColor,
   .optional ["anonymous"] SpellsBool r.anonymous,
   .optional ["broadcast"] BroadcastSettings.SpelledBy r.broadcast]

/-- A text spells a delivery block. -/
def Delivery.SpelledBy (r : Delivery) (text : List Char) : Prop := SpellsRecord r.layouts text

/-- The block around a delivery block. -/
def Delivery.propertyLayouts (r : Delivery) : List FieldLayout :=
  [.plain ["gist"] Delivery.SpelledBy r {}]

/-- A text spells the block around a delivery block. -/
def Delivery.SpelledWithin (r : Delivery) (text : List Char) : Prop :=
  SpellsRecord r.propertyLayouts text

/-- The fields of a message. -/
def Message.layouts (m : Message) : List FieldLayout :=
  [.plain ["messageId"] SpellsText m.id "",
   .optional ["priority"] (fun n => SpellsInteger n.toInt) m.priority,
   .optional ["queueId"] SpellsText m.queueId,
   .plain ["properties"] Delivery.SpelledWithin m.delivery {}]

/-- A text spells a message. -/
def Message.SpelledBy (m : Message) (text : String) : Prop :=
  ∃ before body after, AllSpaces before ∧ AllSpaces after ∧ SpellsRecord m.layouts body ∧
    text.toList = before ++ (body ++ after)

/-! ## Reading a value -/

/-- A decoder reads the texts of each value, and takes nothing that begins like null. -/
structure ReadsSpelled {α : Type} (decode : Tree → Decoded α) (spells : α → List Char → Prop) :
    Prop where
  null : ∀ a, decode .null ≠ .ok a
  broken : ∀ fault a, decode (.brokenWord true fault) ≠ .ok a
  reads : ∀ a text, spells a text → ∃ tree, Reads text tree ∧ decode tree = .ok a

theorem readsSpelled_text : ReadsSpelled Tree.asText SpellsText where
  null _ := nofun
  broken _ _ := nofun
  reads _ _ := reads_text

theorem readsSpelled_bool : ReadsSpelled Tree.asBool SpellsBool where
  null _ := nofun
  broken _ _ := nofun
  reads b text h := by
    subst h
    cases b with
    | true => exact ⟨.bool true, reads_word (by simp), rfl⟩
    | false => exact ⟨.bool false, reads_word (by simp), rfl⟩

theorem reads_integer (n : Int) : Reads (toString n).toList (Value.integer n).tree := by
  obtain ⟨c, cs, hn, hc⟩ := exists_toString n
  obtain ⟨hspace, -, -, -, -, -, -, hclose⟩ := opens_number hc
  refine ⟨⟨c, cs, hn, hspace, hclose⟩, fun fuel rest hfuel hrest => ?_⟩
  have hlength := congrArg List.length hn
  rw [List.length_cons] at hlength
  obtain ⟨fuel, rfl⟩ : ∃ k, fuel = k + 1 := ⟨fuel - 1, by omega⟩
  exact readValue_integer fuel n hrest

theorem readsSpelled_int64 :
    ReadsSpelled readInt64 fun n => SpellsInteger n.toInt where
  null _ := nofun
  broken _ _ := nofun
  reads n _ h := ⟨_, h ▸ reads_integer n.toInt, readInt64_tree n⟩

theorem readsSpelled_int32 :
    ReadsSpelled readInt32 fun n => SpellsInteger n.toInt where
  null _ := nofun
  broken _ _ := nofun
  reads n _ h := ⟨_, h ▸ reads_integer n.toInt, readInt32_tree n⟩

theorem readsSpelled_position :
    ReadsSpelled (fun tree => tree.asWord Position.ofName?) Position.SpelledBy where
  null _ := nofun
  broken _ _ := nofun
  reads p text h := by
    obtain ⟨name, hname, pieces, body, hspelled, hdenotes, rfl⟩ := h
    refine ⟨_, reads_string hspelled, ?_⟩
    simp only [Tree.asWord, Spelling.text_denotes hdenotes, bind, Except.bind, hname]

/-! ## Reading a field -/

section

variable {σ α : Type} {upTo : List Nat → σ} {place : Nat} {names : List String}
  {decode : Tree → Decoded α} {spells : α → List Char → Prop}

/-- A field that may be absent reads its value, or null. -/
theorem Json.Matching.optional {set : σ → Option α → σ} {o : Option α}
    (h : ReadsSpelled decode spells) (hset : ∀ seen, set (upTo seen) o = upTo (place :: seen)) :
    Matching upTo place (optionalField names decode set) (.optional names spells o) where
  names := rfl
  put text htext := by
    have hread : ∃ tree, Reads text tree ∧ tree.asOption decode = .ok o := by
      cases o with
      | none => exact ⟨.null, htext ▸ reads_word (by simp), rfl⟩
      | some a =>
          obtain ⟨tree, hread, hdecode⟩ := h.reads a text htext
          refine ⟨tree, hread, ?_⟩
          have hsome : tree.asOption decode = some <$> decode tree := by
            unfold Tree.asOption
            split
            · exact absurd hdecode (h.null a)
            · exact absurd hdecode (h.broken _ a)
            · rfl
          rw [hsome, hdecode]
          rfl
    obtain ⟨tree, hread, hdecode⟩ := hread
    refine ⟨tree, hread, fun seen => ?_⟩
    show set (upTo seen) <$> tree.asOption decode = _
    rw [hdecode, ← hset]
    rfl

/-- A field that may be left out but is never null reads its value. -/
theorem Json.Matching.plain {set : σ → α → σ} {a default : α}
    (h : ∀ text, spells a text → ∃ tree, Reads text tree ∧ decode tree = .ok a)
    (hset : ∀ seen, set (upTo seen) a = upTo (place :: seen)) :
    Matching upTo place (plainField names decode set) (.plain names spells a default) where
  names := rfl
  put text htext := by
    obtain ⟨tree, hread, hdecode⟩ := h text htext
    refine ⟨tree, hread, fun seen => ?_⟩
    show set (upTo seen) <$> decode tree = _
    rw [hdecode, ← hset]
    rfl

end

/-! ## Reading a block -/

/-- A field as far as it is read: its value if its place has been met, else its default. -/
def readUpTo {α : Type} (seen : List Nat) (place : Nat) (a default : α) : α :=
  if place ∈ seen then a else default

theorem readUpTo_eq {α : Type} {seen : List Nat} {place : Nat} {a default : α}
    (h : place ∈ seen ∨ a = default) : readUpTo seen place a default = a := by
  unfold readUpTo
  split
  · rfl
  · next hnot => exact (h.resolve_left hnot).symm

/-- A frequency rule as far as it is read. -/
def FrequencySettings.upTo (r : FrequencySettings) (seen : List Nat) : FrequencySettings where
  count := readUpTo seen 0 r.count none
  delay := readUpTo seen 1 r.delay none
  ignoreDismiss := readUpTo seen 2 r.ignoreDismiss none

theorem FrequencySettings.matching (r : FrequencySettings) :
    AllMatching r.upTo 0 fields r.layouts := by
  refine .cons (.optional readsSpelled_int64 fun seen => ?_) <|
    .cons (.optional readsSpelled_int64 fun seen => ?_) <|
    .cons (.optional readsSpelled_bool fun seen => ?_) (.nil _)
  all_goals simp [upTo, readUpTo]

/-- A frequency rule is read from what spells it. -/
theorem FrequencySettings.readsSpelled :
    ReadsSpelled FrequencySettings.ofTree FrequencySettings.SpelledBy where
  null _ := nofun
  broken _ _ := nofun
  reads r text h := by
    obtain ⟨tree, final, hread, hrecord, hall⟩ := h.reads r.matching (by decide)
    refine ⟨tree, hread, hrecord.trans (congrArg Except.ok ?_)⟩
    rw [upTo, readUpTo_eq (hall 0 _ rfl), readUpTo_eq (hall 1 _ rfl), readUpTo_eq (hall 2 _ rfl)]

/-- A sticky block as far as it is read. -/
def BroadcastSettings.upTo (r : BroadcastSettings) (seen : List Nat) : BroadcastSettings where
  frequency := readUpTo seen 0 r.frequency none

theorem BroadcastSettings.matching (r : BroadcastSettings) :
    AllMatching r.upTo 0 fields r.layouts := by
  refine .cons (.optional FrequencySettings.readsSpelled fun seen => ?_) (.nil _)
  simp [upTo, readUpTo]

/-- A sticky block is read from what spells it. -/
theorem BroadcastSettings.readsSpelled :
    ReadsSpelled BroadcastSettings.ofTree BroadcastSettings.SpelledBy where
  null _ := nofun
  broken _ _ := nofun
  reads r text h := by
    obtain ⟨tree, final, hread, hrecord, hall⟩ := h.reads r.matching (by decide)
    refine ⟨tree, hread, hrecord.trans (congrArg Except.ok ?_)⟩
    rw [upTo, readUpTo_eq (hall 0 _ rfl)]

/-- A delivery block as far as it is read. -/
def Delivery.upTo (r : Delivery) (seen : List Nat) : Delivery where
  routeRule := readUpTo seen 0 r.routeRule none
  elementId := readUpTo seen 1 r.elementId none
  campaignId := readUpTo seen 2 r.campaignId none
  position := readUpTo seen 3 r.position none
  persistent := readUpTo seen 4 r.persistent none
  overlayColor := readUpTo seen 5 r.overlayColor none
  anonymous := readUpTo seen 6 r.anonymous none
  broadcast := readUpTo seen 7 r.broadcast none

theorem Delivery.matching (r : Delivery) : AllMatching r.upTo 0 fields r.layouts := by
  refine .cons (.optional readsSpelled_text fun seen => ?_) <|
    .cons (.optional readsSpelled_text fun seen => ?_) <|
    .cons (.optional readsSpelled_text fun seen => ?_) <|
    .cons (.optional readsSpelled_position fun seen => ?_) <|
    .cons (.optional readsSpelled_bool fun seen => ?_) <|
    .cons (.optional readsSpelled_text fun seen => ?_) <|
    .cons (.optional readsSpelled_bool fun seen => ?_) <|
    .cons (.optional BroadcastSettings.readsSpelled fun seen => ?_) (.nil _)
  all_goals simp [upTo, readUpTo]

/-- A delivery block is read from what spells it. -/
theorem Delivery.reads {r : Delivery} {text : List Char} (h : r.SpelledBy text) :
    ∃ tree, Reads text tree ∧ Delivery.ofTree tree = .ok r := by
  obtain ⟨tree, final, hread, hrecord, hall⟩ := SpellsRecord.reads r.matching (by decide) h
  refine ⟨tree, hread, hrecord.trans (congrArg Except.ok ?_)⟩
  rw [upTo, readUpTo_eq (hall 0 _ rfl), readUpTo_eq (hall 1 _ rfl), readUpTo_eq (hall 2 _ rfl),
    readUpTo_eq (hall 3 _ rfl), readUpTo_eq (hall 4 _ rfl), readUpTo_eq (hall 5 _ rfl),
    readUpTo_eq (hall 6 _ rfl), readUpTo_eq (hall 7 _ rfl)]

/-- The block around a delivery block is read from what spells it. -/
theorem Delivery.reads_within {r : Delivery} {text : List Char} (h : r.SpelledWithin text) :
    ∃ tree, Reads text tree ∧ tree.asRecord Message.propertyFields {} = .ok r := by
  have hmatching : AllMatching (fun seen => readUpTo seen 0 r {}) 0 Message.propertyFields
      r.propertyLayouts :=
    .cons (.plain (fun _ => Delivery.reads) fun seen => by simp [readUpTo]) (.nil _)
  obtain ⟨tree, final, hread, hrecord, hall⟩ := SpellsRecord.reads hmatching (by decide) h
  exact ⟨tree, hread, hrecord.trans (congrArg Except.ok (readUpTo_eq (hall 0 _ rfl)))⟩

/-! ## Reading a message -/

namespace Message

/-- A message as far as it is read. -/
def upTo (m : Message) (seen : List Nat) : Message where
  id := readUpTo seen 0 m.id ""
  priority := readUpTo seen 1 m.priority none
  queueId := readUpTo seen 2 m.queueId none
  delivery := readUpTo seen 3 m.delivery {}

theorem matching (m : Message) : AllMatching m.upTo 0 fields m.layouts := by
  refine .cons (.plain (fun _ => reads_text) fun seen => ?_) <|
    .cons (.optional readsSpelled_int32 fun seen => ?_) <|
    .cons (.optional readsSpelled_text fun seen => ?_) <|
    .cons (.plain (fun _ => Delivery.reads_within) fun seen => ?_) (.nil _)
  all_goals simp [upTo, readUpTo]

/-- **Every text that spells a message gives that message**, however it is laid out. -/
theorem decode_spelled {m : Message} {text : String} (h : m.SpelledBy text) :
    decode text = .ok m := by
  obtain ⟨before, body, after, hbefore, hafter, hbody, htext⟩ := h
  obtain ⟨tree, final, hread, hrecord, hall⟩ := hbody.reads m.matching (by decide)
  have hmessage : ofTree tree = .ok m := by
    refine hrecord.trans (congrArg Except.ok ?_)
    rw [upTo, readUpTo_eq (hall 0 _ rfl), readUpTo_eq (hall 1 _ rfl),
      readUpTo_eq (hall 2 _ rfl), readUpTo_eq (hall 3 _ rfl)]
  have htree : Tree.read text.toList = (tree, after) := by
    rw [Tree.read, htext, readValue_spaces hbefore]
    refine hread.read _ after (by simp only [List.length_append]; omega) ?_
    simpa using endsNumber_spaces hafter endsNumber_nil
  have hend : skipSpaces after = [] := by
    have hskip := skipSpaces_append hafter []
    rwa [List.append_nil] at hskip
  simp [decode, decodeText, htree, hmessage, hend, bind, Except.bind]

/-- The blocks first, a rule under its other name, and a member that nobody knows. -/
theorem decode_shuffled :
    decode ("\x7b \"x\":[-1.5e3],\"properties\":\x7b\"gist\":\x7b\"routeRule\":\"\\u00e9\"," ++
        "\"position\" : null\x7d\x7d,\n\"messageId\":\"a/b\"\x7d") =
      .ok { id := "a/b", delivery := { routeRule := some "é" } } := by
  have hnone : AllSpaces [] := by simp [AllSpaces]
  have hspace : AllSpaces [' '] := by simp [AllSpaces, isSpace]
  have hline : AllSpaces ['\n'] := by simp [AllSpaces, isSpace]
  have hgist : Delivery.SpelledBy { routeRule := some "é" }
      "\x7b\"routeRule\":\"\\u00e9\",\"position\" : null\x7d".toList := by
    have hrule : SpellsText "é" "\"\\u00e9\"".toList :=
      ⟨[.unit 'é'.toNat], _, .number (by decide) .nil, .unit .nil, rfl⟩
    refine ⟨[("routeRule", "\"\\u00e9\"".toList), ("position", "null".toList)],
      ⟨[("\"routeRule\"".toList, _), ("\"position\"".toList, _)],
        ⟨_, .cons ⟨[], [], hnone, hnone, rfl⟩ (.cons ⟨[' '], [' '], hspace, hspace, rfl⟩ .nil), _,
          .inr (.more hnone hnone (.last hnone hnone)), rfl⟩,
        .cons ⟨spellsText_self (by simp), rfl⟩
          (.cons ⟨spellsText_self (by simp), rfl⟩ .nil)⟩, ?_, ?_⟩
    · simpa [Delivery.layouts, FieldLayout.Given, FieldLayout.own, FieldLayout.optional,
        List.filter] using hrule
    · simp [Delivery.layouts, FieldLayout.optional]
  have hproperties : Delivery.SpelledWithin { routeRule := some "é" }
      "\x7b\"gist\":\x7b\"routeRule\":\"\\u00e9\",\"position\" : null\x7d\x7d".toList := by
    refine ⟨[("gist", "\x7b\"routeRule\":\"\\u00e9\",\"position\" : null\x7d".toList)],
      ⟨[("\"gist\"".toList, _)],
      ⟨_, .cons ⟨[], [], hnone, hnone, rfl⟩ .nil, _, .inr (.last hnone hnone), rfl⟩,
      .cons ⟨spellsText_self (by simp), rfl⟩ .nil⟩, ?_, ?_⟩
    · simpa [Delivery.propertyLayouts, FieldLayout.Given, FieldLayout.own, FieldLayout.plain,
        List.filter] using hgist
    · simp [Delivery.propertyLayouts, FieldLayout.plain]
  have hunknown : WellFormed "[-1.5e3]".toList := by
    have hitems : Bracketed '[' ']' ["-1.5e3".toList] "[-1.5e3]".toList :=
      ⟨_, .inr (.last hnone hnone), rfl⟩
    refine .array hitems ?_
    intro item hitem
    rw [List.mem_singleton.mp hitem]
    have hdigit (c : Char) (hc : c.isDigit = true) : IsDigits [c] := by simpa [IsDigits] using hc
    exact .number ⟨['-'], ['1'], ['.', '5'], ['e', '3'], by simp,
      .inr ⟨hdigit '1' rfl, by simp⟩, .inr ⟨['5'], hdigit '5' rfl, rfl⟩,
      .inr ⟨'e', [], ['3'], .inl rfl, by simp, hdigit '3' rfl, rfl⟩, rfl⟩
  refine decode_spelled ⟨[], _, [], hnone, hnone,
    ⟨[("x", "[-1.5e3]".toList),
      ("properties",
        "\x7b\"gist\":\x7b\"routeRule\":\"\\u00e9\",\"position\" : null\x7d\x7d".toList),
      ("messageId", "\"a/b\"".toList)],
      ⟨[("\"x\"".toList, _), ("\"properties\"".toList, _), ("\"messageId\"".toList, _)],
        ⟨_, .cons ⟨[], [], hnone, hnone, rfl⟩ (.cons ⟨[], [], hnone, hnone, rfl⟩
            (.cons ⟨[], [], hnone, hnone, rfl⟩ .nil)), _,
          .inr (.more hspace hnone (.more hnone hnone (.last hline hnone))), rfl⟩,
        .cons ⟨spellsText_self (by simp), rfl⟩
          (.cons ⟨spellsText_self (by simp), rfl⟩
            (.cons ⟨spellsText_self (by simp), rfl⟩ .nil))⟩, ?_, ?_⟩, rfl⟩
  · have hid : SpellsText "a/b" "\"a/b\"".toList := spellsText_self (by simp)
    simpa [layouts, FieldLayout.Given, FieldLayout.own, FieldLayout.optional, FieldLayout.plain,
      List.filter] using And.intro hid hproperties
  · simpa [layouts, FieldLayout.optional, FieldLayout.plain] using hunknown

end Message

end InAppMessaging
