import InAppMessaging.Realtime.Event
import Mathlib.Data.List.Forall2
import Mathlib.Data.List.TakeWhile

/-!
# Lines, blocks and frames

A stream of lines falls into blocks, each of them ended by a blank line.  What a block is at any
time is settled by its lines so far (`Block.ofLines`): the last value that they give to the field
`event`, and those that they give to the field `data`.  A blank line ends the block and leaves
nothing behind, so the frames of a stream are those of its complete blocks.

* `valueOf?_eq_some_iff` — which lines give a field a value;
* `Block.frames_eq` — **each complete block that gives one of the two fields is one frame**;
* `Block.frames_padded` — idle lines have no effect, wherever they stand;
* `Block.events_returned` — neither have carriage returns at the ends of lines;
* `Block.frames_rendering`, `Block.events_rendering` — **frames that are written as lines are read
  back**;
* `Block.framing` — all of these together.
-/

namespace InAppMessaging

/-! ## Lines and fields -/

/-- A line gives a field a value: either the name of the field is all there is, or after it come a
colon and the value, with a space in front that may be missing unless the value starts with one. -/
inductive Gives (field : String) : String → String → Prop
  | bare : Gives field "" field
  | spaced (value : String) : Gives field value (field ++ ": " ++ value)
  | tight (value : String) (h : value.toList.head? ≠ some ' ') :
      Gives field value (field ++ ":" ++ value)

/-- Without the space at the front, if there is one. -/
def withoutSpace : List Char → List Char
  | ' ' :: rest => rest
  | cs => cs

/-- The value that a line gives to a field. -/
def valueOf? (field line : String) : Option String :=
  if line = field then some ""
  else ((field.toList ++ [':']).isPrefixOf? line.toList).map fun rest =>
    String.ofList (withoutSpace rest)

section Fields

variable {field value line : String} {name rest : List Char}

theorem withoutSpace_of_head? {cs : List Char} (h : cs.head? ≠ some ' ') :
    withoutSpace cs = cs := by
  unfold withoutSpace
  split
  · exact absurd rfl h
  · rfl

/-- A line that starts with the name of a field and a colon gives the field what comes then, but for
one space. -/
theorem gives_of_toList (h : line.toList = field.toList ++ ':' :: rest) :
    Gives field (String.ofList (withoutSpace rest)) line := by
  by_cases hspace : rest.head? = some ' '
  · obtain ⟨rest, rfl⟩ := List.head?_eq_some_iff.mp hspace
    have hline : line = field ++ ": " ++ String.ofList rest := by
      rw [← String.toList_inj, h]
      simp
    rw [hline]
    exact .spaced (String.ofList rest)
  · have hline : line = field ++ ":" ++ String.ofList rest := by
      rw [← String.toList_inj, h]
      simp
    rw [withoutSpace_of_head? hspace, hline]
    apply Gives.tight
    rw [String.toList_ofList]
    exact hspace

/-- What a line that gives a field a value looks like. -/
theorem Gives.toList (h : Gives field value line) :
    (line = field ∧ value = "") ∨ ∃ rest, line.toList = field.toList ++ ':' :: rest ∧
      value = String.ofList (withoutSpace rest) := by
  cases h with
  | bare => exact Or.inl ⟨rfl, rfl⟩
  | spaced =>
      refine Or.inr ⟨' ' :: value.toList, by simp, ?_⟩
      exact String.ofList_toList.symm
  | tight _ hhead =>
      refine Or.inr ⟨value.toList, by simp, ?_⟩
      rw [withoutSpace_of_head? hhead, String.ofList_toList]

/-- **Which lines give a field a value.** -/
theorem valueOf?_eq_some_iff : valueOf? field line = some value ↔ Gives field value line := by
  unfold valueOf?
  by_cases hline : line = field
  · rw [if_pos hline, hline]
    constructor
    · intro h
      obtain rfl := Option.some.inj h
      exact .bare
    · intro h
      rcases h.toList with ⟨-, rfl⟩ | ⟨rest, hlist, -⟩
      · rfl
      · exact absurd (congrArg List.length hlist) (by simp)
  · rw [if_neg hline, Option.map_eq_some_iff]
    constructor
    · rintro ⟨rest, hprefix, rfl⟩
      rw [List.isPrefixOf?_eq_some_iff_append_eq, List.append_assoc] at hprefix
      exact gives_of_toList hprefix.symm
    · intro h
      rcases h.toList with ⟨hbare, -⟩ | ⟨rest, hlist, rfl⟩
      · exact absurd hbare hline
      · refine ⟨rest, ?_, rfl⟩
        rw [List.isPrefixOf?_eq_some_iff_append_eq, List.append_assoc]
        exact hlist.symm

/-- A text without a colon is all name. -/
theorem fieldOf_bare (h : ':' ∉ name) : fieldOf name = (String.ofList name, "") := by
  have hall : ∀ c ∈ name, decide (c ≠ ':') = true := by
    intro c hc
    exact decide_eq_true fun heq => h (heq ▸ hc)
  unfold fieldOf
  rw [List.takeWhile_eq_self_iff.mpr hall, List.dropWhile_eq_nil_iff.mpr hall]

/-- The name of a field ends at the first colon. -/
theorem fieldOf_colon (h : ':' ∉ name) (rest : List Char) :
    fieldOf (name ++ ':' :: rest) = (String.ofList name, String.ofList (withoutSpace rest)) := by
  have hall : ∀ c ∈ name, decide (c ≠ ':') = true := by
    intro c hc
    exact decide_eq_true fun heq => h (heq ▸ hc)
  unfold fieldOf withoutSpace
  rw [List.takeWhile_append_of_pos hall, List.dropWhile_append_of_pos hall,
    List.takeWhile_cons_of_neg (by decide), List.dropWhile_cons_of_neg (by decide),
    List.append_nil]
  cases rest with
  | nil => rfl
  | cons c rest =>
      by_cases hc : c = ' '
      · rw [hc]
        rfl
      · simp [hc]

/-- A line that gives a field a value is read so. -/
theorem fieldOf_of_gives (hfield : ':' ∉ field.toList) (h : Gives field value line) :
    fieldOf line.toList = (field, value) := by
  rcases h.toList with ⟨rfl, rfl⟩ | ⟨rest, hlist, rfl⟩
  · rw [fieldOf_bare hfield, String.ofList_toList]
  · rw [hlist, fieldOf_colon hfield, String.ofList_toList]

/-- Every line gives the field that it is read as the value that it is read as. -/
theorem gives_fieldOf (line : String) :
    Gives (fieldOf line.toList).1 (fieldOf line.toList).2 line := by
  by_cases hcolon : ':' ∈ line.toList
  · obtain ⟨name, rest, hlist, hname⟩ := List.eq_append_cons_of_mem hcolon
    rw [hlist, fieldOf_colon hname]
    apply gives_of_toList
    rw [hlist, String.toList_ofList]
  · rw [fieldOf_bare hcolon, String.ofList_toList]
    exact .bare

/-- A line gives a field a value if it is read as that field. -/
theorem valueOf?_eq_ite (hfield : ':' ∉ field.toList) (line : String) :
    valueOf? field line =
      if (fieldOf line.toList).1 = field then some (fieldOf line.toList).2 else none := by
  by_cases hname : (fieldOf line.toList).1 = field
  · rw [if_pos hname, valueOf?_eq_some_iff, ← hname]
    exact gives_fieldOf line
  · rw [if_neg hname, Option.eq_none_iff_forall_ne_some]
    intro value hvalue
    rw [valueOf?_eq_some_iff] at hvalue
    exact hname (congrArg Prod.fst (fieldOf_of_gives hfield hvalue))

end Fields

/-- A line says nothing: it is a comment, or gives a value to another field than the two that
count. -/
inductive Idle : String → Prop
  | comment (text : String) : Idle (":" ++ text)
  | other {field value line : String} (hevent : field ≠ "event") (hdata : field ≠ "data")
      (hname : ':' ∉ field.toList) (hline : line ≠ "") (h : Gives field value line) : Idle line

/-! ## Blocks -/

/-- What a stream has brought since its last blank line. -/
def Block.ofLines (lines : List String) : Block where
  kind := (lines.filterMap (valueOf? "event")).getLast?
  data := lines.filterMap (valueOf? "data")

/-- The frame of the lines of a block: there is one if they give a value to one of the fields
`event` and `data`; the last value for `event` is its kind, and the values for `data` are its
lines. -/
def Frame.ofLines? (lines : List String) : Option Frame :=
  if lines.filterMap (valueOf? "event") = [] ∧ lines.filterMap (valueOf? "data") = [] then none
  else some
    { kind := (lines.filterMap (valueOf? "event")).getLast?.getD "message"
      data := "\n".intercalate (lines.filterMap (valueOf? "data")) }

/-- The blocks that a blank line has ended. -/
def completeBlocks (lines : List String) : List (List String) := (lines.splitOn "").dropLast

theorem completeBlocks_of_open {lines : List String} (h : "" ∉ lines) :
    completeBlocks lines = [] := by
  unfold completeBlocks
  rw [List.splitOn_eq_singleton h]
  rfl

theorem completeBlocks_append {block : List String} (h : "" ∉ block) (rest : List String) :
    completeBlocks (block ++ "" :: rest) = block :: completeBlocks rest := by
  unfold completeBlocks
  rw [List.splitOn_append_cons_self, List.splitOn_eq_singleton h, List.singleton_append,
    List.dropLast_cons_of_ne_nil (List.splitOn_ne_nil "" rest)]

namespace Block

variable {b : Block} {line : String} {block lines more : List String}

/-- What has become of a block after some lines. -/
def after (b : Block) (lines : List String) : Block := lines.foldl (fun b line => (b.push line).2) b

/-- A line that is not blank is read as a field; a comment is read as one without a name. -/
theorem push_of_ne (b : Block) (h : line ≠ "") :
    b.push line = (none, b.addField (fieldOf line.toList).1 (fieldOf line.toList).2) := by
  unfold push
  split
  · next hlist => exact absurd (String.toList_inj.mp hlist) h
  · next rest hlist =>
      rw [hlist]
      rfl
  · rfl

/-- **A line that is not blank adds to a block what it gives to the two fields that count.** -/
theorem push_ofLines (block : List String) (h : line ≠ "") :
    (ofLines block).push line = (none, ofLines (block ++ [line])) := by
  have hevent : valueOf? "event" line = _ := valueOf?_eq_ite (by decide) line
  have hdata : valueOf? "data" line = _ := valueOf?_eq_ite (by decide) line
  rw [push_of_ne _ h]
  unfold addField ofLines
  simp only [List.filterMap_append, List.filterMap_cons, List.filterMap_nil, hevent, hdata]
  by_cases hkind : (fieldOf line.toList).1 = "event"
  · simp [hkind]
  · by_cases hlines : (fieldOf line.toList).1 = "data"
    · simp [hlines]
    · simp [hkind, hlines]

/-- The frame of a block is that of its lines. -/
theorem frame?_ofLines (block : List String) :
    (ofLines block).frame? = Frame.ofLines? block := by
  unfold frame? isBlank ofLines Frame.ofLines? Frame.defaultKind
  simp [List.isEmpty_iff]

/-- A line that says nothing leaves a block as it is. -/
theorem push_idle (b : Block) (h : Idle line) : b.push line = (none, b) := by
  cases h with
  | comment text =>
      have hlist : ":" ++ text = String.ofList (':' :: text.toList) := by
        rw [← String.toList_inj]
        simp
      rw [hlist, push_comment]
  | other hevent hdata hname hline hgives =>
      rw [push_of_ne b hline, fieldOf_of_gives hname hgives]
      unfold addField
      rw [if_neg hevent, if_neg hdata]

/-! ## Streams -/

theorem frames_cons (b : Block) (line : String) (rest : List String) :
    b.frames (line :: rest) = (b.push line).1.toList ++ (b.push line).2.frames rest := rfl

/-- A blank line leaves nothing behind. -/
theorem after_blank (b : Block) (lines : List String) : b.after (lines ++ [""]) = {} := by
  unfold after
  rw [List.foldl_append]
  rfl

/-- With the lines since the last blank one at hand, the frames are those of the complete blocks. -/
theorem frames_ofLines (hblock : "" ∉ block) (lines : List String) :
    (ofLines block).frames lines = (completeBlocks (block ++ lines)).filterMap Frame.ofLines? := by
  induction lines generalizing block with
  | nil =>
      rw [List.append_nil, completeBlocks_of_open hblock]
      rfl
  | cons line rest ih =>
      by_cases hline : line = ""
      · subst hline
        have hrest : ({} : Block).frames rest = _ := ih List.not_mem_nil
        rw [frames_cons, push_empty, hrest, frame?_ofLines, completeBlocks_append hblock,
          List.filterMap_cons]
        cases Frame.ofLines? block <;> rfl
      · have hlonger : "" ∉ block ++ [line] := by
          simp [hblock, Ne.symm hline]
        rw [frames_cons, push_ofLines block hline, ih hlonger, List.append_assoc]
        rfl

/-- **Each complete block that gives one of the two fields a value is one frame**, and nothing else
is. -/
theorem frames_eq (lines : List String) :
    ({} : Block).frames lines = (completeBlocks lines).filterMap Frame.ofLines? :=
  frames_ofLines List.not_mem_nil lines

end Block

/-! ## Idle lines -/

/-- More lines are put in between lines, all of which pass a test. -/
inductive Padded (P : String → Prop) : List String → List String → Prop
  | nil : Padded P [] []
  | keep {lines padded : List String} (line : String) (h : Padded P lines padded) :
      Padded P (line :: lines) (line :: padded)
  | pad {lines padded : List String} {line : String} (hline : P line) (h : Padded P lines padded) :
      Padded P lines (line :: padded)

section Padded

variable {P Q : String → Prop} {lines padded : List String}

theorem Padded.mono (h : Padded P lines padded) (hPQ : ∀ line, P line → Q line) :
    Padded Q lines padded := by
  induction h with
  | nil => exact .nil
  | keep line h ih => exact .keep line ih
  | pad hline h ih => exact .pad (hPQ _ hline) ih

/-- A line is one of those that were put in, or was there before. -/
theorem Padded.mem {line : String} (h : Padded P lines padded) (hline : line ∈ padded) :
    P line ∨ line ∈ lines := by
  induction h with
  | nil => exact Or.inr hline
  | keep first h ih =>
      rcases List.mem_cons.mp hline with rfl | hrest
      · exact Or.inr List.mem_cons_self
      · exact (ih hrest).imp_right (List.mem_cons_of_mem first)
  | pad hfirst h ih =>
      rcases List.mem_cons.mp hline with rfl | hrest
      · exact Or.inl hfirst
      · exact ih hrest

/-- **Lines that say nothing have no effect**, wherever they stand. -/
theorem Block.frames_padded (h : Padded Idle lines padded) (b : Block) :
    b.frames padded = b.frames lines := by
  induction h generalizing b with
  | nil => rfl
  | keep line h ih => rw [frames_cons, frames_cons, ih]
  | pad hline h ih =>
      rw [frames_cons, b.push_idle hline, ih]
      rfl

end Padded

/-! ## Carriage returns -/

/-- A line does not end in a carriage return. -/
def ReturnFree (line : String) : Prop := line.toList.getLast? ≠ some '\r'

instance : DecidablePred ReturnFree := fun line =>
  inferInstanceAs (Decidable (line.toList.getLast? ≠ some '\r'))

/-- A line with some more carriage returns at its end. -/
def withReturns (line : String) (n : Nat) : String := line ++ String.ofList (List.replicate n '\r')

/-- What arrives has some more carriage returns at the end of a line. -/
inductive StreamLine.Returned : StreamLine → StreamLine → Prop
  | text (line : String) (n : Nat) : Returned (.text line) (.text (withReturns line n))
  | failed (failure : ChannelFailure) : Returned (.failed failure) (.failed failure)

theorem withoutReturns_withReturns (line : String) (n : Nat) :
    withoutReturns (withReturns line n) = withoutReturns line := by
  have hreturns : ∀ c ∈ List.replicate n '\r', decide (c = '\r') = true := by
    intro c hc
    exact decide_eq_true (List.eq_of_mem_replicate hc)
  unfold withoutReturns withReturns Text.dropTrailing
  rw [String.toList_append, String.toList_ofList, List.reverse_append, List.reverse_replicate,
    List.dropWhile_append_of_pos hreturns]

theorem withoutReturns_of_returnFree {line : String} (h : ReturnFree line) :
    withoutReturns line = line := by
  have hhead : line.toList.reverse.head? ≠ some '\r' := by
    rw [List.head?_reverse]
    exact h
  have hkept : line.toList.reverse.dropWhile (fun c => decide (c = '\r')) =
      line.toList.reverse := by
    cases hreverse : line.toList.reverse with
    | nil => rfl
    | cons c rest =>
        rw [hreverse] at hhead
        exact List.dropWhile_cons_of_neg (by simpa using hhead)
  unfold withoutReturns Text.dropTrailing
  rw [hkept, List.reverse_reverse, String.ofList_toList]

namespace Block

variable {lines wire : List StreamLine}

theorem events_cons (b : Block) (line : StreamLine) (rest : List StreamLine) :
    b.events (line :: rest) = (b.receive line).1.toList ++ (b.receive line).2.events rest := rfl

theorem receive_text (b : Block) (line : String) :
    b.receive (.text line) =
      ((b.push (withoutReturns line)).1.map fun f => .ok (RealtimeEvent.ofFrame f),
        (b.push (withoutReturns line)).2) := rfl

/-- **Carriage returns at the ends of lines have no effect.** -/
theorem events_returned (h : List.Forall₂ StreamLine.Returned lines wire) (b : Block) :
    b.events wire = b.events lines := by
  induction h generalizing b with
  | nil => rfl
  | cons hline h ih =>
      cases hline with
      | text line n =>
          rw [events_cons, events_cons, receive_text, receive_text, withoutReturns_withReturns, ih]
      | failed failure => rw [events_cons, events_cons, ih]

/-- Of lines that arrive without failure, the events are what the frames mean. -/
theorem events_text (b : Block) (lines : List String) :
    b.events (lines.map .text) =
      (b.frames (lines.map withoutReturns)).map fun f => .ok (RealtimeEvent.ofFrame f) := by
  induction lines generalizing b with
  | nil => rfl
  | cons line rest ih =>
      rw [List.map_cons, List.map_cons, events_cons, frames_cons, receive_text, ih,
        List.map_append]
      cases (b.push (withoutReturns line)).1 <;> rfl

end Block

/-! ## Frames that are written as lines -/

namespace Frame

/-- The lines of the data of a frame. -/
def lines (f : Frame) : List String := (f.data.toList.splitOn '\n').map String.ofList

/-- Neither the kind of a frame nor a line of its data ends in a carriage return. -/
def IsReturnFree (f : Frame) : Prop := ReturnFree f.kind ∧ ∀ line ∈ f.lines, ReturnFree line

instance : DecidablePred IsReturnFree := fun f =>
  inferInstanceAs (Decidable (ReturnFree f.kind ∧ ∀ line ∈ f.lines, ReturnFree line))

/-- A frame as lines: its kind, its data line by line, and a blank line. -/
def written (f : Frame) : List String :=
  ("event: " ++ f.kind) :: f.lines.map ("data: " ++ ·) ++ [""]

/-- The data of a frame are its lines, with line breaks between them. -/
theorem intercalate_lines (f : Frame) : "\n".intercalate f.lines = f.data := by
  rw [← String.toList_inj, String.toList_intercalate]
  unfold lines
  rw [List.map_map]
  have hsame : String.toList ∘ String.ofList = id := funext fun _ => String.toList_ofList
  rw [hsame, List.map_id]
  exact List.intercalate_splitOn '\n'

end Frame

/-- Frames are rendered as lines: each one as a line that gives its kind, lines that give the lines
of its data, and a blank line. -/
inductive Rendering : List Frame → List String → Prop
  | nil : Rendering [] []
  | cons {f : Frame} {fs : List Frame} {kindLine : String} {dataLines lines : List String}
      (hkind : Gives "event" f.kind kindLine)
      (hdata : List.Forall₂ (Gives "data") f.lines dataLines) (h : Rendering fs lines) :
      Rendering (f :: fs) (kindLine :: dataLines ++ "" :: lines)

section Rendering

variable {fs : List Frame} {f : Frame} {kindLine : String} {dataLines lines padded : List String}

/-- The frames of any list can be written so. -/
theorem rendering_written (fs : List Frame) : Rendering fs (fs.flatMap Frame.written) := by
  induction fs with
  | nil => exact .nil
  | cons f rest ih =>
      have hdata : List.Forall₂ (Gives "data") f.lines (f.lines.map ("data: " ++ ·)) := by
        rw [List.forall₂_map_right_iff]
        exact List.forall₂_same.mpr fun line _ => .spaced line
      have hwritten : (f :: rest).flatMap Frame.written =
          ("event: " ++ f.kind) :: f.lines.map ("data: " ++ ·) ++ "" :: rest.flatMap Frame.written := by
        rw [List.flatMap_cons, Frame.written, List.append_assoc]
        rfl
      rw [hwritten]
      exact .cons (.spaced f.kind) hdata ih

/-- A line that gives a value to a field is not blank, unless the field has no name. -/
theorem Gives.ne_blank {field value line : String} (h : Gives field value line)
    (hfield : field ≠ "") : line ≠ "" := by
  rintro rfl
  rcases h.toList with ⟨rfl, -⟩ | ⟨rest, hlist, -⟩
  · exact hfield rfl
  · exact absurd (congrArg List.length hlist) (by simp)

/-- The value that a line gives to one of the fields that count. -/
theorem Gives.valueOf? {field other value line : String} (h : Gives field value line)
    (hfield : ':' ∉ field.toList) (hother : ':' ∉ other.toList) :
    InAppMessaging.valueOf? other line = if field = other then some value else none := by
  rw [valueOf?_eq_ite hother, fieldOf_of_gives hfield h]

/-- The lines that give the values of a field, as it reads them and as another one does. -/
theorem filterMap_valueOf? {field other : String} {values : List String}
    (h : List.Forall₂ (Gives field) values lines) (hfield : ':' ∉ field.toList)
    (hother : ':' ∉ other.toList) :
    lines.filterMap (valueOf? other) = if field = other then values else [] := by
  induction h with
  | nil => exact (ite_self []).symm
  | cons hline h ih =>
      rw [List.filterMap_cons, hline.valueOf? hfield hother, ih]
      by_cases hsame : field = other
      · rw [if_pos hsame, if_pos hsame, if_pos hsame]
      · rw [if_neg hsame, if_neg hsame, if_neg hsame]

/-- Each of the lines that give some values gives one of them. -/
theorem exists_value_of_mem {field line : String} {values : List String}
    (h : List.Forall₂ (Gives field) values lines) (hline : line ∈ lines) :
    ∃ value ∈ values, Gives field value line := by
  induction h with
  | nil => exact absurd hline List.not_mem_nil
  | cons hfirst h ih =>
      rcases List.mem_cons.mp hline with rfl | hrest
      · exact ⟨_, List.mem_cons_self, hfirst⟩
      · obtain ⟨value, hmem, hgives⟩ := ih hrest
        exact ⟨value, List.mem_cons_of_mem _ hmem, hgives⟩

/-- The lines of a frame are read as the frame. -/
theorem ofLines?_of_gives (hkind : Gives "event" f.kind kindLine)
    (hdata : List.Forall₂ (Gives "data") f.lines dataLines) :
    Frame.ofLines? (kindLine :: dataLines) = some f := by
  have hkinds : (kindLine :: dataLines).filterMap (valueOf? "event") = [f.kind] := by
    rw [List.filterMap_cons, hkind.valueOf? (by decide) (by decide),
      filterMap_valueOf? hdata (by decide) (by decide)]
    rfl
  have hvalues : (kindLine :: dataLines).filterMap (valueOf? "data") = f.lines := by
    rw [List.filterMap_cons, hkind.valueOf? (by decide) (by decide),
      filterMap_valueOf? hdata (by decide) (by decide)]
    rfl
  unfold Frame.ofLines?
  rw [hkinds, hvalues, f.intercalate_lines, if_neg fun h => List.cons_ne_nil _ _ h.1]
  rfl

/-- **Frames that are written as lines are read back.** -/
theorem Block.frames_rendering (h : Rendering fs lines) : ({} : Block).frames lines = fs := by
  rw [frames_eq]
  induction h with
  | nil => rfl
  | @cons f rest kindLine dataLines lines hkind hdata h ih =>
      have hblock : "" ∉ kindLine :: dataLines := by
        intro hmem
        rcases List.mem_cons.mp hmem with hfirst | hmem
        · exact hkind.ne_blank (by decide) hfirst.symm
        · obtain ⟨value, -, hgives⟩ := exists_value_of_mem hdata hmem
          exact hgives.ne_blank (by decide) rfl
      rw [completeBlocks_append hblock, List.filterMap_cons, ofLines?_of_gives hkind hdata, ih]

/-- A line that gives a value ends in a carriage return only if the value does, or the name of the
field. -/
theorem Gives.returnFree {field value line : String} (h : Gives field value line)
    (hfield : ReturnFree field) (hvalue : ReturnFree value) : ReturnFree line := by
  have hend : ∀ front : String, ReturnFree front → ReturnFree (front ++ value) := by
    intro front hfront
    unfold ReturnFree at hfront hvalue ⊢
    rw [String.toList_append, List.getLast?_append]
    cases hlast : value.toList.getLast? with
    | none => exact hfront
    | some c =>
        rw [hlast] at hvalue
        exact hvalue
  cases h with
  | bare => exact hfield
  | spaced =>
      apply hend
      unfold ReturnFree
      rw [String.toList_append, List.getLast?_append]
      exact (by decide : some ' ' ≠ some '\r')
  | tight =>
      apply hend
      unfold ReturnFree
      rw [String.toList_append, List.getLast?_append]
      exact (by decide : some ':' ≠ some '\r')

/-- Frames whose texts do not end in carriage returns are written without any at the ends of lines. -/
theorem Rendering.returnFree (h : Rendering fs lines) (hfs : ∀ f ∈ fs, f.IsReturnFree) :
    ∀ line ∈ lines, ReturnFree line := by
  induction h with
  | nil => exact fun line hline => absurd hline List.not_mem_nil
  | @cons f rest kindLine dataLines lines hkind hdata h ih =>
      obtain ⟨⟨hkindFree, hlinesFree⟩, hrest⟩ := List.forall_mem_cons.mp hfs
      intro line hline
      rcases List.mem_append.mp hline with hblock | hbehind
      · rcases List.mem_cons.mp hblock with rfl | hmem
        · exact hkind.returnFree (by decide) hkindFree
        · obtain ⟨value, hvalue, hgives⟩ := exists_value_of_mem hdata hmem
          exact hgives.returnFree (by decide) (hlinesFree value hvalue)
      · rcases List.mem_cons.mp hbehind with rfl | hmem
        · decide
        · exact ih hrest line hmem

/-- **Frames that arrive as lines are read back**, with carriage returns behind the lines or not. -/
theorem Block.events_rendering {wire : List StreamLine} (h : Rendering fs lines)
    (hfs : ∀ f ∈ fs, f.IsReturnFree)
    (hpadded : Padded (fun line => Idle line ∧ ReturnFree line) lines padded)
    (hwire : List.Forall₂ StreamLine.Returned (padded.map .text) wire) :
    ({} : Block).events wire = fs.map fun f => .ok (RealtimeEvent.ofFrame f) := by
  have hkept : padded.map withoutReturns = padded := by
    have hline : ∀ line ∈ padded, withoutReturns line = id line := by
      intro line hline
      apply withoutReturns_of_returnFree
      rcases hpadded.mem hline with hidle | hmem
      · exact hidle.2
      · exact h.returnFree hfs line hmem
    rw [List.map_congr_left hline, List.map_id]
  have hidle : Padded Idle lines padded := hpadded.mono fun line hline => hline.1
  rw [events_returned hwire, events_text, hkept, frames_padded hidle, frames_rendering h]

/-- **How an event stream is framed.**  The frames of any lines are those of their complete blocks,
and a blank line leaves nothing behind.  Comments and other fields have no effect, wherever they
stand, nor have carriage returns at the ends of lines that arrive.  Any frames can be written as
lines, and however they are, with any idle lines in between, they are read back; so are the events
they stand for, when the lines arrive with or without carriage returns behind them, if no text of the
frames ends in one. -/
theorem Block.framing :
    (∀ lines, ({} : Block).frames lines = (completeBlocks lines).filterMap Frame.ofLines?) ∧
    (∀ (b : Block) lines, b.after (lines ++ [""]) = {}) ∧
    (∀ (b : Block) lines padded, Padded Idle lines padded → b.frames padded = b.frames lines) ∧
    (∀ (b : Block) lines wire, List.Forall₂ StreamLine.Returned lines wire →
      b.events wire = b.events lines) ∧
    (∀ fs, Rendering fs (fs.flatMap Frame.written)) ∧
    ∀ fs lines padded, Rendering fs lines →
      (Padded Idle lines padded → ({} : Block).frames padded = fs) ∧
      ((∀ f ∈ fs, f.IsReturnFree) →
        Padded (fun line => Idle line ∧ ReturnFree line) lines padded →
        ∀ wire, List.Forall₂ StreamLine.Returned (padded.map .text) wire →
          ({} : Block).events wire = fs.map fun f => .ok (RealtimeEvent.ofFrame f)) := by
  refine ⟨frames_eq, after_blank, fun b lines padded h => frames_padded h b,
    fun b lines wire h => events_returned h b, rendering_written, ?_⟩
  intro fs lines padded h
  constructor
  · intro hpadded
    rw [frames_padded hpadded, frames_rendering h]
  · intro hfs hpadded wire hwire
    exact events_rendering h hfs hpadded hwire

/-- A frame whose data are a colon with spaces and an empty line, and one of which all is empty, with
a comment and another field in between; every line arrives with two carriage returns. -/
theorem Block.framing_of_noise :
    let fs : List Frame := [⟨"tip", " : \n"⟩, ⟨"", ""⟩]
    let padded := ["event:tip", ": noise", "data:  : ", "data", "", "event", "retry: 5", "data:", ""]
    let wire := padded.map fun line => StreamLine.text (withReturns line 2)
    ({} : Block).frames padded = fs ∧
      ({} : Block).events wire = [.ok (.unknown "tip"), .ok (.unknown "")] := by
  intro fs padded wire
  have hgives : ∀ field value line, valueOf? field line = some value → Gives field value line :=
    fun _ _ _ => valueOf?_eq_some_iff.mp
  have hempty : List.Forall₂ (Gives "data") (Frame.lines ⟨"", ""⟩) ["data:"] :=
    .cons (hgives "data" "" "data:" (by decide)) .nil
  have htip : List.Forall₂ (Gives "data") (Frame.lines ⟨"tip", " : \n"⟩) ["data:  : ", "data"] :=
    .cons (hgives "data" " : " "data:  : " (by decide))
      (.cons (hgives "data" "" "data" (by decide)) .nil)
  have hfs : Rendering fs ["event:tip", "data:  : ", "data", "", "event", "data:", ""] :=
    .cons (hgives "event" "tip" "event:tip" (by decide)) htip
      (.cons (hgives "event" "" "event" (by decide)) hempty .nil)
  have hpadded : Padded (fun line => Idle line ∧ ReturnFree line)
      ["event:tip", "data:  : ", "data", "", "event", "data:", ""] padded := by
    have hnoise : Idle ": noise" := .comment " noise"
    have hretry : Idle "retry: 5" := .other (by decide) (by decide) (by decide) (by decide)
      (hgives "retry" "5" "retry: 5" (by decide))
    exact .keep _ (.pad ⟨hnoise, by decide⟩ (.keep _ (.keep _ (.keep _ (.keep _
      (.pad ⟨hretry, by decide⟩ (.keep _ (.keep _ .nil))))))))
  have hwire : List.Forall₂ StreamLine.Returned (padded.map .text) wire := by
    rw [List.forall₂_map_left_iff, List.forall₂_map_right_iff]
    exact List.forall₂_same.mpr fun line _ => .text line 2
  obtain ⟨hframes, hevents⟩ := framing.2.2.2.2.2 fs _ padded hfs
  exact ⟨hframes (hpadded.mono fun _ h => h.1), hevents (by decide) hpadded wire hwire⟩

end Rendering

end InAppMessaging
