import InAppMessaging.Proofs.Url.Form
import InAppMessaging.Realtime.Request

/-!
# What the realtime request carries

Whoever reads the query of the request finds the pairs of the endpoint and then the three that
subscribe the session, as they are: whatever signs the ids and the token hold, none of them ends a
value, begins another pair or cuts the query off.

* `Session.realtimeRequest_carries` — **the request carries the session's ids and its token**.
-/

namespace InAppMessaging

/-- A URL that was read has no fragment in its query. -/
theorem Url.not_mem_query_of_ofText {text : String} {u : Url} (h : Url.ofText text = .ok u) :
    '#' ∉ (u.query.getD "").toList := by
  unfold Url.ofText at h
  split at h
  · cases h
  · next scheme rest _ =>
      simp only [bind, Except.bind, pure, Except.pure] at h
      split at h
      · cases h
      · next hierarchy _ =>
          cases h
          simp only
          split
          · simp
          · simp only [Option.getD_some, String.toList_ofList]
            exact Url.not_mem_percentEncode (by simp [Url.keptInQuery]) _

variable {s : Session} {c : Configuration} {token : String} {endpoint : Url}

/-- **The request carries the session's ids and its token**: the query's pairs are those of the
endpoint, then the session id, the site id and the token in base64, from which the token's bytes
come back; a header has the same text; all of the endpoint but its query is as it was. -/
theorem Session.realtimeRequest_carries (htoken : s.userToken? = some token)
    (hendpoint : Url.ofText (c.realtime.endpoint s.environment) = .ok endpoint) :
    ∃ request, s.realtimeRequest c = .ok request ∧
      request.url.pairs = endpoint.pairs ++
        [("sessionId", s.sessionId), ("siteId", s.siteId), ("userToken", Text.base64 token)] ∧
      Text.Base64.decode? (Text.base64 token).toList = some (Text.utf8Bytes token) ∧
      Header.find? request.headers "X-Gist-Encoded-User-Token" = some (Text.base64 token) ∧
      request.url.scheme = endpoint.scheme ∧ request.url.authority = endpoint.authority ∧
      request.url.path = endpoint.path ∧ request.url.fragment = endpoint.fragment ∧
      '#' ∉ (request.url.query.getD "").toList := by
  simp only [Session.realtimeRequest, htoken, hendpoint, Except.ok.injEq, exists_eq_left']
  refine ⟨Url.pairs_withPairs endpoint _, Text.decode?_base64 token, ?_, rfl, rfl, rfl, rfl,
    Url.not_mem_query_withPairs (Url.not_mem_query_of_ofText hendpoint) _⟩
  simp [Header.find?, Header.ofSession, Text.sameIgnoringCase, Text.lowerCase]

theorem eq_ok_of_toOption {ε α : Type} {result : Except ε α} {a : α}
    (h : result.toOption = some a) : result = .ok a := by
  cases result with
  | error e => cases h
  | ok b => exact congrArg Except.ok (Option.some.inj h)

/-- An endpoint with a query and a fragment, and ids full of the signs that part a query. -/
theorem Session.realtimeRequest_carries_signs :
    let token := "Zoë & Co+100% #1=✓"
    let s : Session :=
      { environment := .localhost, sessionId := "a b&c=d", siteId := "é#+%26",
        userId := some token }
    let c : Configuration :=
      { realtime := { localEndpoint := "http://[::1]:3000/sse?v=1&w=#top" } }
    ∃ request, s.realtimeRequest c = .ok request ∧
      request.url.pairs =
        [("v", "1"), ("w", ""), ("sessionId", "a b&c=d"), ("siteId", "é#+%26"),
          ("userToken", Text.base64 token)] ∧
      request.url.fragment = some "top" := by
  intro token s c
  have hendpoint : Url.ofText (c.realtime.endpoint s.environment) = .ok
      { scheme := "http"
        authority := some { host := .ipv6 [0, 0, 0, 0, 0, 0, 0, 1], port := some 3000 }
        path := .segments ["sse"], query := some "v=1&w=", fragment := some "top" } :=
    eq_ok_of_toOption (by decide +kernel)
  have hown : Url.pairsOf "v=1&w=".toList = [("v", "1"), ("w", "")] :=
    Url.pairsOf_pairsText [("v", "1"), ("w", "")]
  obtain ⟨request, hrequest, hpairs, -, -, -, -, -, hfragment, -⟩ :=
    Session.realtimeRequest_carries (show s.userToken? = some token from rfl) hendpoint
  refine ⟨request, hrequest, hpairs.trans ?_, hfragment⟩
  rw [Url.pairs, Option.getD_some, hown]
  rfl

end InAppMessaging
