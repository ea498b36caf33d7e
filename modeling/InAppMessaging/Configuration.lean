import InAppMessaging.Eligibility.Class
import InAppMessaging.Session.Basic
import InAppMessaging.Toml.Document

/-!
# Configuration

What can be configured, with the defaults, and how it is read from a TOML document.  Every
section and every key may be missing; unknown ones are ignored.  A section is a table, or the
array of its values in the order of declaration, where trailing ones may be missing.

* `Configuration.ofText?_empty` — an empty document gives the defaults.
-/

namespace InAppMessaging

open Toml (Node)

/-- How long stored snapshots stay valid, in minutes. -/
structure EligibilitySettings where
  broadcastMinutes : Nat := 60
  anonymousMinutes : Nat := 60
deriving DecidableEq, Repr

/-- The polling cadence until the server announces one, in milliseconds. -/
structure PollingSettings where
  interval : Nat := defaultPollInterval
deriving DecidableEq, Repr

/-- The realtime channel: times in milliseconds, but for the read timeout in seconds. -/
structure RealtimeSettings where
  readTimeoutSecs : Nat := 300
  heartbeatTimeout : Nat := 30000
  heartbeatBuffer : Nat := 5000
  maxRetries : Nat := 3
  retryDelay : Nat := 5000
  prodEndpoint : String := "https://realtime.cloud.gist.build/api/v3/sse"
  devEndpoint : String := "https://realtime.cloud.dev.gist.build/api/v3/sse"
  localEndpoint : String := "http://localhost:8000/api/v3/sse"
deriving DecidableEq, Repr

/-- How the client names itself to the server. -/
structure ClientSettings where
  platform : String := "rust"
  version : String := "0.1.0"
deriving DecidableEq, Repr

/-- What is logged, and the name of the log file. -/
structure TracingSettings where
  level : String := "info"
  logFileName : String := "herald.log"
deriving DecidableEq, Repr

/-- Where logs and preferences are kept; a leading `~/` stands for the home directory. -/
structure PathSettings where
  logDirectory : String := "~/.local/share/herald/logs"
  dataDirectory : String := "~/.local/share/herald"
deriving DecidableEq, Repr

/-- Switches. -/
structure BehaviorSettings where
  tracing : Bool := true
  fileLogging : Bool := false
deriving DecidableEq, Repr

/-- The whole configuration. -/
structure Configuration where
  eligibility : EligibilitySettings := {}
  polling : PollingSettings := {}
  realtime : RealtimeSettings := {}
  client : ClientSettings := {}
  tracing : TracingSettings := {}
  paths : PathSettings := {}
  behavior : BehaviorSettings := {}
deriving DecidableEq, Repr

/-! ## What follows from the settings -/

/-- How long a snapshot of a class stays valid, in seconds that fit a 64-bit word. -/
def EligibilitySettings.lifetimeSecs (s : EligibilitySettings) (k : StickyClass) : Nat :=
  let minutes := match k with
    | .broadcast => s.broadcastMinutes
    | .anonymous => s.anonymousMinutes
  min (minutes * 60) Text.maxWord64

/-- How long a snapshot of a class stays valid, in milliseconds. -/
def EligibilitySettings.lifetime (s : EligibilitySettings) (k : StickyClass) : Nat :=
  s.lifetimeSecs k * 1000

/-- The endpoint of an environment. -/
def RealtimeSettings.endpoint (s : RealtimeSettings) (e : Environment) : String :=
  match e with
  | .prod => s.prodEndpoint
  | .dev => s.devEndpoint
  | .localhost => s.localEndpoint

/-- A path inside a directory: an absolute path stands for itself, and one slash stands
between the two, unless there is one or the directory is nameless. -/
def joinPath (directory path : String) : String :=
  if path.toList.head? = some '/' then path
  else if directory.isEmpty ∨ directory.toList.getLast? = some '/' then directory ++ path
  else directory ++ "/" ++ path

/-- A path with the home directory in place of a leading `~/`, if the home is known. -/
def expandHome (home : Option String) (path : String) : String :=
  match path.toList, home with
  | '~' :: '/' :: rest, some home => joinPath home (String.ofList rest)
  | _, _ => path

/-! ## Reading -/

/-- A key of a section: its name and how its value is put into the section. -/
structure Setting (σ : Type) where
  name : String
  put : Node → σ → Option σ

/-- A whole number up to a bound. -/
def naturalOf? (limit : Nat) : Node → Option Nat
  | .integer n => if 0 ≤ n ∧ n ≤ limit then some n.toNat else none
  | _ => none

/-- A text. -/
def textOf? : Node → Option String
  | .text s => some s
  | _ => none

/-- A truth value. -/
def flagOf? : Node → Option Bool
  | .bool b => some b
  | _ => none

/-- A key whose value is read and set. -/
def setting {σ α : Type} (name : String) (read : Node → Option α) (set : σ → α → σ) :
    Setting σ :=
  ⟨name, fun node section_ => (read node).map (set section_)⟩

/-- A 64-bit count. -/
def count64 : Node → Option Nat := naturalOf? Text.maxWord64

/-- Reads a table into a section. -/
def readTable {σ : Type} (settings : List (Setting σ)) (entries : List (String × Node))
    (start : σ) : Option σ :=
  settings.foldlM
    (fun s key =>
      match Toml.lookup? key.name entries with
      | some node => key.put node s
      | none => some s)
    start

/-- Reads an array into a section. -/
def readValues {σ : Type} : List (Setting σ) → List Node → σ → Option σ
  | key :: settings, node :: rest, s => do readValues settings rest (← key.put node s)
  | _, _, s => some s

/-- Reads a section.  A date or a time holds none of its keys. -/
def readSection {σ : Type} (settings : List (Setting σ)) (start : σ) : Node → Option σ
  | .table _ entries => readTable settings entries start
  | .array items => readValues settings items start
  | .tables items => readValues settings items start
  | .moment => some start
  | _ => none

/-- The keys of the section on stored snapshots. -/
def EligibilitySettings.keys : List (Setting EligibilitySettings) :=
  [setting "broadcast_ttl_minutes" count64 fun s v => { s with broadcastMinutes := v },
   setting "anonymous_ttl_minutes" count64 fun s v => { s with anonymousMinutes := v }]

/-- The keys of the section on polling. -/
def PollingSettings.keys : List (Setting PollingSettings) :=
  [setting "default_interval_ms" count64 fun s v => { s with interval := v }]

/-- The keys of the section on the realtime channel. -/
def RealtimeSettings.keys : List (Setting RealtimeSettings) :=
  [setting "read_timeout_secs" count64 fun s v => { s with readTimeoutSecs := v },
   setting "default_heartbeat_timeout_ms" count64 fun s v => { s with heartbeatTimeout := v },
   setting "heartbeat_buffer_ms" count64 fun s v => { s with heartbeatBuffer := v },
   setting "max_retry_count" (naturalOf? Text.maxWord32) fun s v => { s with maxRetries := v },
   setting "retry_delay_ms" count64 fun s v => { s with retryDelay := v },
   setting "prod_endpoint" textOf? fun s v => { s with prodEndpoint := v },
   setting "dev_endpoint" textOf? fun s v => { s with devEndpoint := v },
   setting "local_endpoint" textOf? fun s v => { s with localEndpoint := v }]

/-- The keys of the section on the client. -/
def ClientSettings.keys : List (Setting ClientSettings) :=
  [setting "platform" textOf? fun s v => { s with platform := v },
   setting "version" textOf? fun s v => { s with version := v }]

/-- The keys of the section on logging. -/
def TracingSettings.keys : List (Setting TracingSettings) :=
  [setting "level" textOf? fun s v => { s with level := v },
   setting "log_file_name" textOf? fun s v => { s with logFileName := v }]

/-- The keys of the section on paths. -/
def PathSettings.keys : List (Setting PathSettings) :=
  [setting "log_directory" textOf? fun s v => { s with logDirectory := v },
   setting "data_directory" textOf? fun s v => { s with dataDirectory := v }]

/-- The keys of the section of switches. -/
def BehaviorSettings.keys : List (Setting BehaviorSettings) :=
  [setting "enable_tracing" flagOf? fun s v => { s with tracing := v },
   setting "enable_file_logging" flagOf? fun s v => { s with fileLogging := v }]

namespace Configuration

/-- The sections. -/
def sections : List (Setting Configuration) :=
  [setting "eligibility" (readSection EligibilitySettings.keys {})
      fun c v => { c with eligibility := v },
   setting "polling" (readSection PollingSettings.keys {}) fun c v => { c with polling := v },
   setting "sse" (readSection RealtimeSettings.keys {}) fun c v => { c with realtime := v },
   setting "client" (readSection ClientSettings.keys {}) fun c v => { c with client := v },
   setting "tracing" (readSection TracingSettings.keys {}) fun c v => { c with tracing := v },
   setting "paths" (readSection PathSettings.keys {}) fun c v => { c with paths := v },
   setting "behavior" (readSection BehaviorSettings.keys {}) fun c v => { c with behavior := v }]

/-- Reads a document. -/
def ofText? (text : String) : Option Configuration := do
  readTable sections (← Toml.readText? text) {}

/-- The configuration of a file that may be missing or unreadable: whatever is wrong with it,
the defaults are used as a whole. -/
def load (page : Option String) : Configuration := (page.bind ofText?).getD {}

/-- A table without any key of a section leaves the section at its defaults. -/
theorem readTable_nil {σ : Type} (settings : List (Setting σ)) (start : σ) :
    readTable settings [] start = some start := by
  unfold readTable
  induction settings with
  | nil => rfl
  | cons key rest ih => simpa [Toml.lookup?] using ih

/-- An empty document gives the defaults. -/
theorem ofText?_empty : ofText? "" = some {} := by
  have h : Toml.readText? "" = some [] := by rfl
  unfold ofText?
  rw [h]
  exact readTable_nil sections {}

end Configuration

end InAppMessaging
