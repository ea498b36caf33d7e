import InAppMessaging.Catalog.Poller
import InAppMessaging.Catalog.Response
import InAppMessaging.Eligibility.Tracker
import InAppMessaging.Host.Event
import InAppMessaging.Preferences.File
import InAppMessaging.Store.Program

/-!
# The host

What the store and its stages act on: the journal of all that happened, the stored
preferences and the clock they are judged by, the work posted to the main thread, the realtime
channel, the inline views, who is ready to run next, and who has to let the others go first.

Posted work either runs at once or waits for the poster's turn.  It reads the session as it is
when it runs, not as it was when it was posted.

* `Host.track_of_kept` — what changes no stored value changes nothing;
* `Host.ready_wake` — a task is ready at most once.
-/

namespace InAppMessaging

/-- Where preferences are kept. -/
inductive Storage where
  | memory (values : Preferences)
  | file (f : PreferenceFile)

namespace Storage

/-- The stored values. -/
def values : Storage → Preferences
  | memory p => p
  | file f => f.values

/-- Replaces the stored values. -/
def put : Storage → Preferences → Storage
  | memory _, p => memory p
  | file f, p => file (f.put p)

/-- Putting back what is stored changes nothing. -/
theorem put_values (s : Storage) : s.put s.values = s := by
  cases s with
  | memory values => rfl
  | file f =>
      show Storage.file (f.put f.values) = Storage.file f
      unfold PreferenceFile.put
      rw [if_pos rfl]

end Storage

/-- Work for the main thread. -/
inductive Work where
  | foreground
  | background
  | restart
  | realtimeChanged (enabled : Bool)
  | identityChanged (identified : Bool)
  | tearDown
  | follow (place : Nat) (state : InlineState)
deriving DecidableEq

/-- Those who run one after the other. -/
inductive Task where
  | store
  | poster
  | poller
deriving DecidableEq, Repr

/-- Everything outside the session; the journal comes newest first. -/
structure Host where
  journal : List Event := []
  storage : Storage := .memory .empty
  clock : Int := 0
  broadcastLifetime : Nat := 0
  anonymousLifetime : Nat := 0
  listens : Bool := true
  answers : List (Except String CatalogResponse) := []
  postsLater : Bool := false
  posted : List Work := []
  channel : Channel := {}
  views : List InlineView := []
  poller : Poller := {}
  ready : List Task := []
  resting : List Task := []

namespace Host

/-- Writes an event into the journal. -/
def record (e : Event) (h : Host) : Host := { h with journal := e :: h.journal }

/-- Writes events into the journal, the first one first. -/
def recordAll (es : List Event) (h : Host) : Host := es.foldl (fun h e => h.record e) h

instance : ErrorLog Host where
  logError text h := h.record (.errorLogged text)

/-- Makes a task ready to run, unless it is or rests. -/
def wake (t : Task) (h : Host) : Host :=
  if t ∈ h.ready ∨ t ∈ h.resting then h else { h with ready := h.ready ++ [t] }

/-- Lets a task rest until nobody else is ready. -/
def rest (t : Task) (h : Host) : Host := { h with resting := t :: h.resting }

/-- Makes those who rest ready, the one that rests shortest first. -/
def rouse (h : Host) : Host := { h with ready := h.ready ++ h.resting, resting := [] }

/-! ## Stored preferences -/

/-- The frequency caps of a class. -/
def tracker (h : Host) (k : StickyClass) : Tracker :=
  { kind := k
    lifetime := match k with
      | .broadcast => h.broadcastLifetime
      | .anonymous => h.anonymousLifetime }

/-- Changes the stored values of a class at the present time. -/
def track (k : StickyClass) (change : Tracker → Int → Preferences → Preferences) (h : Host) :
    Host :=
  { h with storage := h.storage.put (change (h.tracker k) h.clock h.storage.values) }

/-- The messages of a class that may be shown to the owner of a token. -/
def eligible (k : StickyClass) (token : Option String) (h : Host) : List Message × Host :=
  let (messages, p) := (h.tracker k).eligible token h.clock h.storage.values
  (messages, { h with storage := h.storage.put p })

/-! ## The main thread -/

/-- Takes over the channel and records what the transport is told. -/
def setChannel (h : Host) (next : Channel × List ChannelCall) : Host :=
  { h with channel := next.1 }.recordAll (next.2.map .channel)

/-- Lets the view at a place follow its element. -/
def followView (place : Nat) (state : InlineState) (h : Host) : Host :=
  match h.views[place]? with
  | none => h
  | some v =>
      let (v, calls) := v.follow state
      { h with views := h.views.set place v }.recordAll (calls.map (.view place))

/-- Does a piece of work, given the session as it is. -/
def perform (s : Session) (h : Host) : Work → Host
  | .foreground => h.setChannel (h.channel.enterForeground s.usesRealtime)
  | .background => h.setChannel h.channel.enterBackground
  | .restart => h.setChannel (h.channel.restart s.usesRealtime)
  | .realtimeChanged enabled => h.setChannel (h.channel.conditionChanged s.usesRealtime enabled)
  | .identityChanged identified =>
      h.setChannel (h.channel.conditionChanged s.usesRealtime identified)
  | .tearDown => h.record .tornDown
  | .follow place state => h.followView place state

/-- Posts a piece of work. -/
def post (work : Work) (s : Session) (h : Host) : Host :=
  if h.postsLater then { h with posted := h.posted ++ [work] }.wake .poster
  else h.perform s work

/-! ## The poller -/

/-- Asks for a fetch as soon as possible. -/
def requestRefresh (h : Host) : Host :=
  let woken := { h with poller := h.poller.request }
  if h.poller.isWaiting then woken.wake .poller else woken

/-- The answer to the next fetch; when there is none left, that nothing is queued. -/
def nextAnswer (h : Host) : Except String CatalogResponse × Host :=
  match h.answers with
  | [] => (.ok { status := 204 }, h)
  | answer :: rest => (answer, { h with answers := rest })

/-! ## Laws -/

/-- A change that keeps all values keeps the host. -/
theorem track_of_kept (k : StickyClass) {change : Tracker → Int → Preferences → Preferences}
    (hkept : ∀ t now p, change t now p = p) (h : Host) : h.track k change = h := by
  unfold track
  rw [hkept, Storage.put_values]

/-- A task is ready at most once. -/
theorem ready_wake (t : Task) (h : Host) (hd : h.ready.Nodup) : (h.wake t).ready.Nodup := by
  unfold wake
  split
  · exact hd
  · next hn =>
      exact List.nodup_append.mpr
        ⟨hd, by simp, by simp; exact fun a ha h => hn (.inl (h ▸ ha))⟩

end Host

end InAppMessaging
