import InAppMessaging.Url.Host

/-!
# URLs

A URL in its parts, each in the form in which it is written, and its text.

* `Url.pairsText_append` — the text of the pairs of two lists is that of each, with an
  ampersand between.
-/

namespace InAppMessaging

open Url (HostName)

/-- Who and where: the part of a URL between `//` and the path. -/
structure Authority where
  user : String := ""
  password : String := ""
  host : HostName
  port : Option Nat := none
deriving DecidableEq, Repr

/-- The path of a URL, in segments, or raw where the scheme gives it no shape. -/
inductive UrlPath where
  | raw (text : String)
  | segments (parts : List String)
deriving DecidableEq, Repr

/-- A URL. -/
structure Url where
  scheme : String
  authority : Option Authority := none
  path : UrlPath
  query : Option String := none
  fragment : Option String := none
deriving DecidableEq, Repr

namespace Authority

/-- The user and the password with the sign behind them. -/
def credentials (a : Authority) : String :=
  if a.password.isEmpty then (if a.user.isEmpty then "" else a.user ++ "@")
  else a.user ++ ":" ++ a.password ++ "@"

/-- The text of an authority. -/
def text (a : Authority) : String :=
  "//" ++ a.credentials ++ a.host.text ++
    match a.port with
    | some port => ":" ++ toString port
    | none => ""

end Authority

/-- The text of a path. -/
def UrlPath.text : UrlPath → String
  | raw s => s
  | segments parts => String.join (parts.map ("/" ++ ·))

namespace Url

/-- The text of the path, set apart from `//` where there is no authority. -/
def pathText (u : Url) : String :=
  match u.authority, u.path with
  | none, .segments ("" :: _ :: _) => "/." ++ u.path.text
  | _, _ => u.path.text

/-- A part with the sign before it, if there is one. -/
def partText (sign : String) : Option String → String
  | some s => sign ++ s
  | none => ""

/-- The text of a URL. -/
def text (u : Url) : String :=
  u.scheme ++ ":" ++ ((u.authority.map Authority.text).getD "") ++ u.pathText ++
    partText "?" u.query ++ partText "#" u.fragment

/-! ## The pairs of a query -/

/-- A pair as it is written in a query. -/
def pairText (pair : String × String) : List Char :=
  formEncode pair.1 ++ '=' :: formEncode pair.2

/-- Pairs as they are written in a query, with ampersands between them. -/
def pairsText : List (String × String) → List Char
  | [] => []
  | [pair] => pairText pair
  | pair :: rest => pairText pair ++ '&' :: pairsText rest

/-- Adds pairs after a query. -/
def extendQuery (query : String) (pairs : List (String × String)) : String :=
  if query.isEmpty ∨ pairs.isEmpty then query ++ String.ofList (pairsText pairs)
  else query ++ "&" ++ String.ofList (pairsText pairs)

/-- Adds pairs after the query of a URL. -/
def withPairs (u : Url) (pairs : List (String × String)) : Url :=
  { u with query := some (extendQuery (u.query.getD "") pairs) }

/-- The text of the pairs of two lists is that of each, with an ampersand between. -/
theorem pairsText_append {a b : List (String × String)} (ha : a ≠ []) (hb : b ≠ []) :
    pairsText (a ++ b) = pairsText a ++ '&' :: pairsText b := by
  induction a with
  | nil => exact absurd rfl ha
  | cons p rest ih =>
      cases rest with
      | nil =>
          cases b with
          | nil => exact absurd rfl hb
          | cons q more => rfl
      | cons q more =>
          have := ih (by simp)
          simp only [List.cons_append, pairsText] at this ⊢
          rw [this]
          simp

end Url

end InAppMessaging
