import InAppMessaging.Proofs.Text.Inspect
import InAppMessaging.Session.Diff
import Mathlib.Data.List.Basic

/-!
# Differences of sessions are exact

Everything a session is made of is printed legibly, from the number of a frequency rule to the map
of the inline elements, so a field that differs is reported with two different texts.  The fields
of a session are named (`SessionField`) in order to speak about all of them at once.

* `Message.inspect_legible`, `ModalState.inspect_legible`, `InlineSurfaces.inspect_legible` — one
  value, one text;
* `Session.diff_eq` — what is reported, field by field;
* `Session.diff_exact` — **exactly the fields that differ, each once and in order**.
-/

namespace InAppMessaging

open Text.Inspect

/-! ## What sessions are made of -/

theorem Position.inspect_legible : Legible Position.inspect :=
  legible_of_prefixFree fun a b => by cases a <;> cases b <;> decide

theorem Environment.inspect_legible : Legible Environment.inspect :=
  legible_of_prefixFree fun a b => by cases a <;> cases b <;> decide

theorem int64_legible : Legible fun n : Int64 => integer n.toInt :=
  integer_legible.view fun _ _ => Int64.toInt_inj.mp

theorem int32_legible : Legible fun n : Int32 => integer n.toInt :=
  integer_legible.view fun _ _ => Int32.toInt_inj.mp

theorem natural_legible : Legible fun n : Nat => integer n :=
  integer_legible.view fun _ _ => Int.ofNat.inj

theorem FrequencySettings.inspect_legible : Legible FrequencySettings.inspect := by
  refine record_legible "FrequencySettings"
    [.of "count" (optional_legible int64_legible) FrequencySettings.count,
     .of "delay" (optional_legible int64_legible) FrequencySettings.delay,
     .of "ignore_dismiss" (optional_legible bool_legible) FrequencySettings.ignoreDismiss] ?_
  intro a b h
  simp only [List.forall_mem_cons, Part.of] at h
  obtain ⟨hcount, hdelay, hignore, -⟩ := h
  cases a; cases b
  simp_all

theorem BroadcastSettings.inspect_legible : Legible BroadcastSettings.inspect := by
  refine record_legible "BroadcastSettings"
    [.of "frequency" (optional_legible FrequencySettings.inspect_legible)
      BroadcastSettings.frequency] ?_
  intro a b h
  simp only [List.forall_mem_cons, Part.of] at h
  cases a; cases b
  simp_all

theorem Delivery.inspect_legible : Legible Delivery.inspect := by
  have htext := optional_legible quoted_legible
  have hbool := optional_legible bool_legible
  refine record_legible "GistProperties"
    [.of "route_rule" htext Delivery.routeRule,
     .of "element_id" htext Delivery.elementId,
     .of "campaign_id" htext Delivery.campaignId,
     .of "position" (optional_legible Position.inspect_legible) Delivery.position,
     .of "persistent" hbool Delivery.persistent,
     .of "overlay_color" htext Delivery.overlayColor,
     .of "anonymous" hbool Delivery.anonymous,
     .of "broadcast" (optional_legible BroadcastSettings.inspect_legible) Delivery.broadcast] ?_
  intro a b h
  simp only [List.forall_mem_cons, Part.of] at h
  cases a; cases b
  simp_all

/-- The block around the delivery block has no other field. -/
theorem properties_legible : Legible fun d : Delivery =>
    record "MessageProperties" [field "gist" d.inspect] :=
  record_legible "MessageProperties" [.of "gist" Delivery.inspect_legible id]
    fun _ _ h => h _ List.mem_cons_self

theorem Message.inspect_legible : Legible Message.inspect := by
  refine record_legible "Message"
    [.of "message_id" quoted_legible Message.id,
     .of "priority" (optional_legible int32_legible) Message.priority,
     .of "queue_id" (optional_legible quoted_legible) Message.queueId,
     .of "properties" properties_legible Message.delivery] ?_
  intro a b h
  simp only [List.forall_mem_cons, Part.of] at h
  cases a; cases b
  simp_all

/-! ## The parts of a session -/

theorem MessageQueue.inspect_legible : Legible MessageQueue.inspect := by
  have hitems : Legible (sequence Message.inspect) :=
    sequence_legible Message.inspect_legible fun m s t h => by simp [Message.inspect, record] at h
  refine record_legible "MessageQueue" [.of "messages" hitems MessageQueue.messages] ?_
  intro a b h
  have hmessages := h _ List.mem_cons_self
  cases a; cases b
  cases hmessages
  rfl

theorem ModalState.inspect_legible : Legible ModalState.inspect := by
  intro a b s t hs ht heq
  cases a <;> cases b
  case initial.initial => exact ⟨rfl, List.append_cancel_left heq⟩
  case loading.loading m n =>
    obtain ⟨rfl, hst⟩ := wrapped_legible Message.inspect_legible "Loading" hs ht heq
    exact ⟨rfl, hst⟩
  case displayed.displayed m n =>
    obtain ⟨rfl, hst⟩ := wrapped_legible Message.inspect_legible "Displayed" hs ht heq
    exact ⟨rfl, hst⟩
  case dismissed.dismissed m n =>
    obtain ⟨rfl, hst⟩ := wrapped_legible Message.inspect_legible "Dismissed" hs ht heq
    exact ⟨rfl, hst⟩
  -- The names of two stages differ before the shorter one ends.
  all_goals simp [ModalState.inspect, ModalState.message?, ModalState.name, wrapped] at heq

/-- A message and the element it is for, under the name of a stage. -/
theorem placed_legible (name : String) : Legible fun p : Message × String =>
    record name [field "message" p.1.inspect, field "element_id" (quoted p.2)] := by
  refine record_legible name
    [.of "message" Message.inspect_legible Prod.fst, .of "element_id" quoted_legible Prod.snd] ?_
  intro a b h
  simp only [List.forall_mem_cons, Part.of] at h
  exact Prod.ext h.1 h.2.1

/-- A message that left its element. -/
theorem gone_legible : Legible fun m : Message =>
    record "Dismissed" [field "message" m.inspect] :=
  record_legible "Dismissed" [.of "message" Message.inspect_legible id]
    fun _ _ h => h _ List.mem_cons_self

theorem InlineState.inspect_legible : Legible InlineState.inspect := by
  intro a b s t hs ht heq
  cases a <;> cases b
  case readyToEmbed.readyToEmbed m e n f =>
    obtain ⟨hpair, hst⟩ := placed_legible "ReadyToEmbed" (x := (m, e)) (y := (n, f)) hs ht heq
    cases hpair
    exact ⟨rfl, hst⟩
  case embedded.embedded m e n f =>
    obtain ⟨hpair, hst⟩ := placed_legible "Embedded" (x := (m, e)) (y := (n, f)) hs ht heq
    cases hpair
    exact ⟨rfl, hst⟩
  case dismissed.dismissed m n =>
    obtain ⟨rfl, hst⟩ := gone_legible hs ht heq
    exact ⟨rfl, hst⟩
  all_goals simp [InlineState.inspect, InlineState.name, record] at heq

/-- An element and what it holds. -/
theorem entry_legible : Legible fun e : String × InlineState =>
    quoted e.1 ++ ':' :: ' ' :: e.2.inspect := by
  intro a b s t hs ht heq
  simp only [List.append_assoc, List.cons_append] at heq
  obtain ⟨hkey, hrest⟩ := quoted_legible (stops_cons (by decide) _) (stops_cons (by decide) _) heq
  obtain ⟨hstate, hst⟩ := InlineState.inspect_legible hs ht
    (List.cons.inj (List.cons.inj hrest).2).2
  exact ⟨Prod.ext hkey hstate, hst⟩

theorem quoted_append_ne {c : Char} (hc : c ≠ '"') (text : String) (s t : List Char) :
    quoted text ++ s ≠ c :: t := fun h => hc (List.cons.inj h).1.symm

theorem InlineSurfaces.inspect_legible : Legible InlineSurfaces.inspect := by
  have hitems : Legible fun entries : List (String × InlineState) =>
      braces (entries.map fun e => quoted e.1 ++ ':' :: ' ' :: e.2.inspect) := by
    refine braces_legible entry_legible fun e s t h => ?_
    rw [List.append_assoc] at h
    exact quoted_append_ne (by decide) e.1 _ t h
  refine record_legible "QueuedInlineMessagesState"
    [.of "messages" hitems fun s : InlineSurfaces => s.elements.entries] ?_
  intro a b h
  have hentries : a.elements.entries = b.elements.entries := h _ List.mem_cons_self
  cases a; cases b
  exact congrArg InlineSurfaces.mk (Keyed.ext_entries hentries)

/-- A set of texts is its keys. -/
theorem TextSet.keys_injective : Function.Injective fun s : TextSet => s.keys := by
  intro a b h
  exact Keyed.ext_entries (List.map_injective_iff.mpr
    (fun e f hef => Prod.ext hef rfl) h)

theorem TextSet.inspect_legible : Legible TextSet.inspect := by
  have hkeys : Legible fun keys : List String => braces (keys.map quoted) :=
    braces_legible quoted_legible fun e s t h => quoted_append_ne (by decide) e s t h
  exact hkeys.view TextSet.keys_injective

/-! ## The fields of a session -/

/-- A field of a session. -/
inductive SessionField where
  | siteId
  | dataCenter
  | environment
  | pollInterval
  | sessionId
  | route
  | userId
  | anonymousId
  | realtime
  | queue
  | shown
  | modal
  | inline
deriving DecidableEq

namespace SessionField

/-- The fields in the order of declaration. -/
def inOrder : List SessionField :=
  [siteId, dataCenter, environment, pollInterval, sessionId, route, userId, anonymousId, realtime,
   queue, shown, modal, inline]

/-- The name a field is reported by. -/
def name : SessionField → String
  | siteId => "site_id"
  | dataCenter => "data_center"
  | environment => "environment"
  | pollInterval => "poll_interval_ms"
  | sessionId => "session_id"
  | route => "current_route"
  | userId => "user_id"
  | anonymousId => "anonymous_id"
  | realtime => "sse_enabled"
  | queue => "messages_in_queue"
  | shown => "shown_message_queue_ids"
  | modal => "modal_message_state"
  | inline => "queued_inline_messages_state"

/-- The values a field can have. -/
def Value : SessionField → Type
  | siteId | dataCenter | sessionId => String
  | environment => Environment
  | pollInterval => Nat
  | route | userId | anonymousId => Option String
  | realtime => Bool
  | queue => MessageQueue
  | shown => TextSet
  | modal => ModalState
  | inline => InlineSurfaces

instance : (f : SessionField) → DecidableEq f.Value
  | siteId | dataCenter | sessionId => inferInstanceAs (DecidableEq String)
  | environment => inferInstanceAs (DecidableEq Environment)
  | pollInterval => inferInstanceAs (DecidableEq Nat)
  | route | userId | anonymousId => inferInstanceAs (DecidableEq (Option String))
  | realtime => inferInstanceAs (DecidableEq Bool)
  | queue => inferInstanceAs (DecidableEq MessageQueue)
  | shown => inferInstanceAs (DecidableEq TextSet)
  | modal => inferInstanceAs (DecidableEq ModalState)
  | inline => inferInstanceAs (DecidableEq InlineSurfaces)

/-- The value of a field. -/
def get (s : Session) : (f : SessionField) → f.Value
  | siteId => s.siteId
  | dataCenter => s.dataCenter
  | environment => s.environment
  | pollInterval => s.pollInterval
  | sessionId => s.sessionId
  | route => s.route
  | userId => s.userId
  | anonymousId => s.anonymousId
  | realtime => s.realtime
  | queue => s.queue
  | shown => s.shown
  | modal => s.modal
  | inline => s.inline

/-- The value of a field, printed. -/
def inspect : (f : SessionField) → f.Value → List Char
  | siteId | dataCenter | sessionId => quoted
  | environment => Environment.inspect
  | pollInterval => fun n : Nat => integer n
  | route | userId | anonymousId => optional quoted
  | realtime => bool
  | queue => MessageQueue.inspect
  | shown => TextSet.inspect
  | modal => ModalState.inspect
  | inline => InlineSurfaces.inspect

/-- The change of a field, printed. -/
def change (f : SessionField) (a b : Session) : Change :=
  ⟨f.name, String.ofList (f.inspect (f.get a)), String.ofList (f.inspect (f.get b))⟩

theorem mem_inOrder (f : SessionField) : f ∈ inOrder := by
  cases f <;> decide

theorem nodup_names : (inOrder.map name).Nodup := by
  decide

/-- **Every field is printed legibly.** -/
theorem inspect_legible (f : SessionField) : Legible f.inspect := by
  cases f
  case siteId | dataCenter | sessionId => exact quoted_legible
  case environment => exact Environment.inspect_legible
  case pollInterval => exact natural_legible
  case route | userId | anonymousId => exact optional_legible quoted_legible
  case realtime => exact bool_legible
  case queue => exact MessageQueue.inspect_legible
  case shown => exact TextSet.inspect_legible
  case modal => exact ModalState.inspect_legible
  case inline => exact InlineSurfaces.inspect_legible

/-- Sessions with the same fields are the same. -/
theorem ext_get {a b : Session} (h : ∀ f : SessionField, f.get a = f.get b) : a = b := by
  obtain ⟨⟩ := a
  obtain ⟨⟩ := b
  simp only [Session.mk.injEq]
  exact ⟨h siteId, h dataCenter, h environment, h pollInterval, h sessionId, h route, h userId,
    h anonymousId, h realtime, h queue, h shown, h modal, h inline⟩

/-- A reported change shows two different texts. -/
theorem before_ne_after {f : SessionField} {a b : Session} (h : f.get a ≠ f.get b) :
    (f.change a b).before ≠ (f.change a b).after := fun htexts =>
  h (f.inspect_legible.injective (String.ofList_injective htexts))

end SessionField

/-! ## What is reported -/

/-- A change as it is reported the other way round. -/
def Change.reversed (c : Change) : Change := ⟨c.field, c.after, c.before⟩

/-- What is reported, field by field. -/
theorem Session.diff_eq (a b : Session) :
    a.diff b =
      (SessionField.inOrder.filter fun f => f.get a ≠ f.get b).map fun f => f.change a b := by
  have hfield (f : SessionField) (fields : List SessionField) :
      ((f :: fields).filter fun f => f.get a ≠ f.get b).map (fun f => f.change a b) =
        changeOf f.name f.inspect (f.get a) (f.get b) ++
          (fields.filter fun f => f.get a ≠ f.get b).map fun f => f.change a b := by
    by_cases h : f.get a = f.get b
    · simp [changeOf, h]
    · simp [changeOf, h, SessionField.change]
  simp only [SessionField.inOrder, hfield, List.filter_nil, List.map_nil, List.append_nil]
  simp only [Session.diff, List.append_assoc]
  rfl

/-- **Differences are exact.**  Of two sessions exactly the fields with different values are
reported, in the order of declaration and each once, so nothing is reported of equal sessions
only.  The other way round the same fields are reported with the texts exchanged.  The two texts of
a field differ, since no field prints two values alike. -/
theorem Session.diff_exact (a b : Session) :
    (a.diff b =
      (SessionField.inOrder.filter fun f => f.get a ≠ f.get b).map fun f => f.change a b) ∧
    ((a.diff b).map Change.field).Nodup ∧
    (a.diff b = [] ↔ a = b) ∧
    b.diff a = (a.diff b).map Change.reversed ∧
    (∀ c ∈ a.diff b, c.before ≠ c.after) ∧
    ∀ f : SessionField, Function.Injective f.inspect := by
  refine ⟨a.diff_eq b, ?once, ?empty, ?reversed, ?texts, fun f => f.inspect_legible.injective⟩
  case once =>
    rw [a.diff_eq b, List.map_map]
    exact SessionField.nodup_names.sublist (List.filter_sublist.map _)
  case empty =>
    refine ⟨fun h => ?_, fun h => h ▸ a.diff_self⟩
    rw [a.diff_eq b, List.map_eq_nil_iff, List.filter_eq_nil_iff] at h
    exact SessionField.ext_get fun f => by simpa using h f f.mem_inOrder
  case reversed =>
    rw [a.diff_eq b, b.diff_eq a, List.map_map]
    congr 1
    exact List.filter_congr fun f _ => by simp [eq_comm]
  case texts =>
    intro c hc
    rw [a.diff_eq b] at hc
    obtain ⟨f, hf, rfl⟩ := List.mem_map.mp hc
    exact SessionField.before_ne_after (by simpa using (List.mem_filter.mp hf).2)

end InAppMessaging
