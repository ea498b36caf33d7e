import InAppMessaging.Json.Decode
import InAppMessaging.Proofs.Json.Grammar
import Mathlib.Data.List.Nodup

/-!
# Records, however they are laid out

The texts that spell a record as an object: each field under one of its names, once, or left out
where that is allowed, in any order and with any other members between them (`SpellsRecord`).  A
record under construction depends on nothing but which fields have been read so far; so the order
does not matter, and at the end every field is there that was spelled.

* `asRecord_ofList` — members are read one after the other, whatever their order;
* `SpellsRecord.reads` — **a spelled record is read, and no field that was spelled is missing**.
-/

namespace InAppMessaging.Json

/-! ## The texts of a record -/

/-- The members of an object, under their names. -/
def SpellsObject (members : List (String × List Char)) (text : List Char) : Prop :=
  ∃ entries, Braced entries text ∧
    List.Forall₂ (fun member entry => SpellsText member.1 entry.1 ∧ member.2 = entry.2)
      members entries

/-- How a field of a record may be spelled: its names, the texts of its value, and whether its
member may be left out. -/
structure FieldLayout where
  names : List String
  spells : List Char → Prop
  omissible : Prop

namespace FieldLayout

/-- The members that go by a field's names. -/
def own (layout : FieldLayout) (members : List (String × List Char)) : List (String × List Char) :=
  members.filter fun member => layout.names.contains member.1

/-- A field is spelled by one member, or left out where it may be. -/
def Given (layout : FieldLayout) (members : List (String × List Char)) : Prop :=
  layout.own members = [] ∧ layout.omissible ∨
    ∃ member, layout.own members = [member] ∧ layout.spells member.2

/-- A field that may be absent: absence is null, or nothing at all. -/
def optional {α : Type} (names : List String) (spells : α → List Char → Prop) (o : Option α) :
    FieldLayout where
  names := names
  spells text :=
    match o with
    | none => text = "null".toList
    | some a => spells a text
  omissible := o = none

/-- A field that has to be there, unless it has the value it is given without a member. -/
def plain {α : Type} (names : List String) (spells : α → List Char → Prop) (a default : α) :
    FieldLayout where
  names := names
  spells := spells a
  omissible := a = default

end FieldLayout

/-- A text spells a record: each field is given, and every other member is JSON. -/
def SpellsRecord (layouts : List FieldLayout) (text : List Char) : Prop :=
  ∃ members, SpellsObject members text ∧ (∀ layout ∈ layouts, layout.Given members) ∧
    ∀ member ∈ members, (∀ layout ∈ layouts, member.1 ∉ layout.names) → WellFormed member.2

/-! ## One field -/

section

variable {σ : Type} {upTo : List Nat → σ} {fields : List (RecordField σ)}
  {layouts : List FieldLayout}

/-- A field reads what its layout spells: the record as far as the fields `seen` are read becomes
the record with this one as well. -/
structure Matching (upTo : List Nat → σ) (place : Nat) (field : RecordField σ)
    (layout : FieldLayout) : Prop where
  names : field.names = layout.names
  put : ∀ text, layout.spells text →
    ∃ tree, Reads text tree ∧ ∀ seen, field.put tree (upTo seen) = .ok (upTo (place :: seen))

/-- The fields from a place on read what their layouts spell. -/
inductive AllMatching (upTo : List Nat → σ) :
    Nat → List (RecordField σ) → List FieldLayout → Prop
  | nil (place : Nat) : AllMatching upTo place [] []
  | cons {place : Nat} {field : RecordField σ} {layout : FieldLayout}
      {fields : List (RecordField σ)} {layouts : List FieldLayout}
      (head : Matching upTo place field layout)
      (tail : AllMatching upTo (place + 1) fields layouts) :
      AllMatching upTo place (field :: fields) (layout :: layouts)

theorem AllMatching.length_eq {place : Nat} (h : AllMatching upTo place fields layouts) :
    fields.length = layouts.length := by
  induction h with
  | nil => rfl
  | cons _ _ ih => simp [ih]

theorem AllMatching.get {place : Nat} (h : AllMatching upTo place fields layouts) :
    ∀ {i : Nat} (hf : i < fields.length) (hl : i < layouts.length),
      Matching upTo (place + i) fields[i] layouts[i] := by
  induction h with
  | nil => exact fun hf => absurd hf (Nat.not_lt_zero _)
  | cons head _ ih =>
      intro i hf hl
      cases i with
      | zero => exact head
      | succ i =>
          have := ih (i := i) (by simpa using hf) (by simpa using hl)
          rwa [Nat.add_assoc, Nat.add_comm 1] at this

/-! ## Which field a member belongs to -/

/-- The places of the fields that members belong to, in the order of the members. -/
def placesOf (fields : List (RecordField σ)) (members : List (String × List Char)) : List Nat :=
  members.filterMap fun member => placeOf? fields member.1

/-- A name belongs to the field that goes by it, and to no other. -/
theorem placeOf?_eq_some_iff (hdistinct : (fields.flatMap (·.names)).Nodup) {place : Nat}
    (hplace : place < fields.length) {name : String} :
    placeOf? fields name = some place ↔ name ∈ fields[place].names := by
  have hdisjoint := List.pairwise_iff_getElem.mp (List.nodup_flatMap.mp hdistinct).2
  simp only [placeOf?, List.findIdx?_eq_some_iff_getElem, List.contains_eq_mem,
    decide_eq_true_eq]
  constructor
  · rintro ⟨_, hname, -⟩
    exact hname
  · intro hname
    exact ⟨hplace, hname, fun earlier hlt hother =>
      hdisjoint earlier place (by omega) hplace hlt hother hname⟩

/-- What a value does to the record under a name: an unknown one can be skipped, and a known one
adds its field. -/
def Suits (fields : List (RecordField σ)) (upTo : List Nat → σ) (name : String)
    (value : Tree) : Prop :=
  match placeOf? fields name with
  | none => value.skip = .ok ()
  | some place => ∃ field, fields[place]? = some field ∧
      ∀ seen, field.put value (upTo seen) = .ok (upTo (place :: seen))

/-- A member is read: its key spells its name, and its value suits that name. -/
def Takes (fields : List (RecordField σ)) (upTo : List Nat → σ)
    (member : String × List Char) (read : Spelling × Tree) : Prop :=
  read.1.text = .ok member.1 ∧ Suits fields upTo member.1 read.2

/-- **Members are read one after the other, whatever their order**, if no field is met twice. -/
theorem asRecord_ofList {members : List (String × List Char)} {reads : List (Spelling × Tree)}
    (h : List.Forall₂ (Takes fields upTo) members reads) :
    ∀ seen, (placesOf fields members).Nodup → (∀ place ∈ placesOf fields members, place ∉ seen) →
      (Members.ofList reads).asRecord fields seen (upTo seen) =
        .ok (upTo ((placesOf fields members).reverse ++ seen)) := by
  induction h with
  | nil => exact fun _ _ _ => rfl
  | @cons member read members reads htakes _ ih =>
      intro seen hnodup hnew
      obtain ⟨hkey, hsuits⟩ := htakes
      unfold Suits at hsuits
      rw [Members.ofList, Members.asRecord, hkey]
      cases hplace : placeOf? fields member.1 with
      | none =>
          have hplaces : placesOf fields (member :: members) = placesOf fields members := by
            simp [placesOf, hplace]
          rw [hplaces] at hnodup hnew ⊢
          simp only [hplace] at hsuits
          simp only [bind, Except.bind, hplace, hsuits]
          exact ih seen hnodup hnew
      | some place =>
          have hplaces : placesOf fields (member :: members) =
              place :: placesOf fields members := by
            simp [placesOf, hplace]
          rw [hplaces] at hnodup hnew ⊢
          simp only [hplace] at hsuits
          obtain ⟨field, hfield, hput⟩ := hsuits
          have hplaceNew : place ∉ seen := hnew place (by simp)
          obtain ⟨hfirst, hnodup⟩ := List.nodup_cons.mp hnodup
          simp only [bind, Except.bind, hplace, List.contains_eq_mem, decide_eq_true_eq,
            if_neg hplaceNew, hfield, hput]
          rw [ih (place :: seen) hnodup]
          · simp
          · intro other hother
            have hne : other ≠ place := by rintro rfl; exact hfirst hother
            simpa [hne] using hnew other (by simp [hother])

/-! ## The whole record -/

/-- A field that is given at most once is met at most once. -/
theorem nodup_placesOf (hdistinct : (fields.flatMap (·.names)).Nodup)
    {members : List (String × List Char)}
    (hgiven : ∀ field ∈ fields, (members.filter fun m => field.names.contains m.1).length ≤ 1) :
    (placesOf fields members).Nodup := by
  rw [List.nodup_iff_count_le_one]
  intro place
  rw [placesOf, List.count_filterMap]
  by_cases hplace : place < fields.length
  · have hsame : ∀ m ∈ members, (placeOf? fields m.1 == some place) = true ↔
        fields[place].names.contains m.1 = true := by
      intro m _
      simpa using placeOf?_eq_some_iff hdistinct hplace
    rw [List.countP_congr hsame, List.countP_eq_length_filter]
    exact hgiven _ (List.getElem_mem hplace)
  · have hnone : ∀ m ∈ members, ¬ (placeOf? fields m.1 == some place) = true := by
      intro m _ hm
      have hfound := List.findIdx?_eq_some_iff_getElem.mp (by simpa [placeOf?] using hm)
      exact hplace hfound.1
    rw [List.countP_eq_zero.mpr hnone]
    exact Nat.zero_le 1

/-- Members that spell names, each with a value that can be read, are read with their keys. -/
theorem exists_reads {members : List (String × List Char)}
    {entries : List (List Char × List Char)}
    (h : List.Forall₂ (fun member entry => SpellsText member.1 entry.1 ∧ member.2 = entry.2)
      members entries)
    (hvalues : ∀ member ∈ members,
      ∃ tree, Reads member.2 tree ∧ Suits fields upTo member.1 tree) :
    ∃ reads : List (Spelling × Tree), List.Forall₂ ReadsEntry entries reads ∧
      List.Forall₂ (Takes fields upTo) members reads := by
  induction h with
  | nil => exact ⟨[], .nil, .nil⟩
  | @cons member entry members entries hentry _ ih =>
      obtain ⟨⟨pieces, body, hspelled, hdenotes, hkey⟩, hvalue⟩ := hentry
      obtain ⟨tree, hread, hsuits⟩ := hvalues member (by simp)
      obtain ⟨reads, hentries, hreads⟩ := ih fun other hother => hvalues other (by simp [hother])
      exact ⟨(⟨pieces, none⟩, tree) :: reads,
        .cons ⟨hkey ▸ readsKey_spelled hspelled, hvalue ▸ hread⟩ hentries,
        .cons ⟨Spelling.text_denotes hdenotes, hsuits⟩ hreads⟩

/-- What is spelled for a field is a member under one of its names. -/
theorem FieldLayout.mem_own {layout : FieldLayout} {members : List (String × List Char)}
    {member : String × List Char} :
    member ∈ layout.own members ↔ member ∈ members ∧ member.1 ∈ layout.names := by
  simp [own]

/-- Each value is read: that of an unknown member to be skipped, that of a known one for its
field. -/
theorem reads_member (hmatching : AllMatching upTo 0 fields layouts)
    {members : List (String × List Char)} (hgiven : ∀ layout ∈ layouts, layout.Given members)
    (hunknown : ∀ member ∈ members, (∀ layout ∈ layouts, member.1 ∉ layout.names) →
      WellFormed member.2)
    (hdistinct : (fields.flatMap (·.names)).Nodup) {member : String × List Char}
    (hmember : member ∈ members) :
    ∃ tree, Reads member.2 tree ∧ Suits fields upTo member.1 tree := by
  unfold Suits
  cases hplace : placeOf? fields member.1 with
  | none =>
      refine reads_wellFormed (hunknown member hmember fun layout hlayout hname => ?_)
      obtain ⟨place, hl, rfl⟩ := List.mem_iff_getElem.mp hlayout
      have hf : place < fields.length := hmatching.length_eq ▸ hl
      rw [← (hmatching.get hf hl).names, ← placeOf?_eq_some_iff hdistinct hf, hplace] at hname
      cases hname
  | some place =>
      have hf : place < fields.length :=
        (List.findIdx?_eq_some_iff_getElem.mp (by simpa [placeOf?] using hplace)).1
      have hl : place < layouts.length := hmatching.length_eq ▸ hf
      have hmatch := hmatching.get hf hl
      rw [Nat.zero_add] at hmatch
      have hown : member ∈ layouts[place].own members :=
        FieldLayout.mem_own.mpr ⟨hmember, hmatch.names ▸
          (placeOf?_eq_some_iff hdistinct hf).mp hplace⟩
      obtain ⟨hnone, -⟩ | ⟨only, honly, hspells⟩ := hgiven _ (List.getElem_mem hl)
      · rw [hnone] at hown
        cases hown
      · rw [honly, List.mem_singleton] at hown
        obtain ⟨tree, hread, hput⟩ := hmatch.put member.2 (hown ▸ hspells)
        exact ⟨tree, hread, fields[place], List.getElem?_eq_getElem hf, hput⟩

/-- **A spelled record is read**, and no field that was spelled is missing. -/
theorem SpellsRecord.reads (hmatching : AllMatching upTo 0 fields layouts)
    (hdistinct : (fields.flatMap (·.names)).Nodup) {text : List Char}
    (h : SpellsRecord layouts text) :
    ∃ tree final, Reads text tree ∧ tree.asRecord fields (upTo []) = .ok (upTo final) ∧
      ∀ place layout, layouts[place]? = some layout → place ∈ final ∨ layout.omissible := by
  obtain ⟨members, ⟨entries, hbraced, hentries⟩, hgiven, hunknown⟩ := h
  obtain ⟨reads, hread, htakes⟩ := exists_reads hentries fun member hmember =>
    reads_member hmatching hgiven hunknown hdistinct hmember
  have honce : ∀ field ∈ fields,
      (members.filter fun m => field.names.contains m.1).length ≤ 1 := by
    intro field hfield
    obtain ⟨place, hf, rfl⟩ := List.mem_iff_getElem.mp hfield
    have hl : place < layouts.length := hmatching.length_eq ▸ hf
    rw [(hmatching.get hf hl).names]
    show (layouts[place].own members).length ≤ 1
    obtain ⟨hnone, -⟩ | ⟨only, honly, -⟩ := hgiven _ (List.getElem_mem hl)
    · simp [hnone]
    · simp [honly]
  refine ⟨_, (placesOf fields members).reverse ++ [], reads_object hbraced hread,
    asRecord_ofList htakes [] (nodup_placesOf hdistinct honce) (by simp),
    fun place layout hlayout => ?_⟩
  obtain ⟨hl, rfl⟩ := List.getElem?_eq_some_iff.mp hlayout
  have hf : place < fields.length := hmatching.length_eq ▸ hl
  obtain ⟨-, homissible⟩ | ⟨only, honly, -⟩ := hgiven _ (List.getElem_mem hl)
  · exact .inr homissible
  · obtain ⟨hmember, hname⟩ := FieldLayout.mem_own.mp (honly ▸ List.mem_singleton_self only)
    rw [← (hmatching.get hf hl).names, ← placeOf?_eq_some_iff hdistinct hf] at hname
    left
    simpa [placesOf] using ⟨only.1, ⟨only.2, hmember⟩, hname⟩

end

end InAppMessaging.Json
