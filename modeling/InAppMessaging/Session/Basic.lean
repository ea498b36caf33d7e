import InAppMessaging.Session.Queue
import InAppMessaging.Session.Surface

/-!
# The session

Everything the engine knows, as one value: which workspace it talks to, who the user is, what
is queued, what was shown and what the surfaces hold.  Only reducing an action makes a new
session; everyone else reads it.

* `userToken?_isSome` — there is a token exactly when there is an identity;
* `hasIdentity_eq_false` — there is none with neither id.
-/

namespace InAppMessaging

/-- The backend a session talks to. -/
inductive Environment where
  | prod
  | dev
  | localhost
deriving DecidableEq, Repr, Inhabited

/-- The short name of an environment. -/
def Environment.name : Environment → String
  | prod => "prod"
  | dev => "dev"
  | localhost => "local"

/-- The polling cadence of a session that was told none, in milliseconds. -/
def defaultPollInterval : Nat := 600000

/-- The state of the engine. -/
structure Session where
  siteId : String := ""
  dataCenter : String := ""
  environment : Environment := .prod
  pollInterval : Nat := defaultPollInterval
  sessionId : String := ""
  route : Option String := none
  userId : Option String := none
  anonymousId : Option String := none
  realtime : Bool := false
  queue : MessageQueue := .empty
  shown : TextSet := .empty
  modal : ModalState := .initial
  inline : InlineSurfaces := {}
deriving DecidableEq, Inhabited

namespace Session

/-- Whom stored data belong to: the user once identified, before that the anonymous id. -/
def userToken? (s : Session) : Option String := s.userId.or s.anonymousId

/-- A named user is known. -/
def isIdentified (s : Session) : Bool := s.userId.isSome

/-- Any identity is known. -/
def hasIdentity (s : Session) : Bool := s.userId.isSome || s.anonymousId.isSome

/-- Realtime updates replace polling, for identified users only. -/
def usesRealtime (s : Session) : Bool := s.realtime && s.isIdentified

theorem userToken?_isSome (s : Session) : s.userToken?.isSome = s.hasIdentity := by
  unfold userToken? hasIdentity
  cases s.userId <;> simp

/-- A session with neither id knows nobody. -/
theorem hasIdentity_eq_false {s : Session} (huser : s.userId = none)
    (hanonymous : s.anonymousId = none) : s.hasIdentity = false := by
  unfold hasIdentity
  rw [huser, hanonymous]
  rfl

/-- Who is not known has no token. -/
theorem userToken?_eq_none {s : Session} (h : s.hasIdentity = false) : s.userToken? = none := by
  rw [← userToken?_isSome] at h
  exact Option.isNone_iff_eq_none.mp (Option.isSome_eq_false_iff.mp h)

end Session

end InAppMessaging
