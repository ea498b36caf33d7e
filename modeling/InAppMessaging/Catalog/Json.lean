import InAppMessaging.Catalog.Request
import InAppMessaging.Catalog.Response
import InAppMessaging.Session.Json

/-!
# Catalog exchanges as JSON

The request for the catalog and what an answer says, as objects.  Headers are pairs in their
order.
-/

namespace InAppMessaging

open Json

/-- Headers as pairs of name and value. -/
def headerArray (headers : List Header) : Value :=
  .array (headers.map fun h => .array [.text h.name, .text h.value])

/-- A request for the catalog. -/
def CatalogRequest.toValue (r : CatalogRequest) : Value :=
  .object
    [("site_id", .text r.siteId), ("data_center", .text r.dataCenter),
     ("environment", .text r.environment.name), ("session_id", .text r.sessionId),
     ("user_token", .text r.token), ("anonymous", .bool r.anonymous),
     ("headers", headerArray r.headers)]

/-- What an answer says. -/
def CatalogOutcome.toValue : CatalogOutcome → Value
  | .noContent => .object [("name", .text "NoContent")]
  | .messages ms => .object [("name", .text "Messages"), ("messages", messageArray ms)]
  | .failed status => .object [("name", .text "Failed"), ("status", .integer status)]

end InAppMessaging
