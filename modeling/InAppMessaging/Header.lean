import InAppMessaging.Configuration
import InAppMessaging.Text.Base64
import InAppMessaging.Text.Blank
import InAppMessaging.Text.Case

/-!
# Headers

The headers that catalog and realtime requests carry, and those a catalog answer is read
by.  A header is looked up by its name, whatever the case of its letters; the first one of
that name counts.
-/

namespace InAppMessaging

/-- A header. -/
structure Header where
  name : String
  value : String
deriving DecidableEq, Repr

namespace Header

/-- The value of the first header of a name. -/
def find? (headers : List Header) (name : String) : Option String :=
  (headers.find? fun h => Text.sameIgnoringCase h.name name).map (·.value)

/-- The value of the first header of a name, without blanks around it. -/
def findTrimmed? (headers : List Header) (name : String) : Option String :=
  (find? headers name).map Text.trim

/-- The cadence the server wants, in seconds. -/
def pollInterval : String := "X-Gist-Queue-Polling-Interval"

/-- Whether the server wants realtime updates. -/
def useRealtime : String := "X-CIO-Use-SSE"

/-- Forbids caches between client and server. -/
def noCache : Header := ⟨"Cache-Control", "no-cache"⟩

/-- Asks for an event stream. -/
def acceptEvents : Header := ⟨"Accept", "text/event-stream"⟩

/-- A truth value in a header. -/
def flag (b : Bool) : String := if b then "true" else "false"

/-- The headers that tell who is asking, with which client, for which workspace. -/
def ofSession (s : Session) (client : ClientSettings) (token : String) : List Header :=
  [⟨"X-CIO-Site-Id", s.siteId⟩,
   ⟨"X-CIO-Datacenter", s.dataCenter⟩,
   ⟨"X-CIO-Client-Platform", client.platform⟩,
   ⟨"X-CIO-Client-Version", client.version⟩,
   ⟨"X-Gist-User-Anonymous", flag !s.isIdentified⟩,
   ⟨"X-Gist-Encoded-User-Token", Text.base64 token⟩]

end Header

end InAppMessaging
