import InAppMessaging.Header

/-!
# Asking for the catalog

What a host needs to fetch the messages of a user: where to ask and on whose behalf.  There
is nothing to ask while nobody is known.
-/

namespace InAppMessaging

/-- A fetch of the user's messages. -/
structure CatalogRequest where
  siteId : String
  dataCenter : String
  environment : Environment
  sessionId : String
  token : String
  anonymous : Bool
  headers : List Header
deriving DecidableEq, Repr

/-- The fetch that a session calls for. -/
def Session.catalogRequest? (s : Session) (client : ClientSettings) : Option CatalogRequest :=
  s.userToken?.map fun token =>
    { siteId := s.siteId
      dataCenter := s.dataCenter
      environment := s.environment
      sessionId := s.sessionId
      token := token
      anonymous := !s.isIdentified
      headers := Header.ofSession s client token ++ [Header.noCache] }

end InAppMessaging
