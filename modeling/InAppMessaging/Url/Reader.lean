import InAppMessaging.Text.Blank
import InAppMessaging.Url.Basic

/-!
# Reading URLs

An absolute URL is read from its scheme on.  Some schemes have rules of their own: any number
of slashes, of either direction, leads to their authority, which must have a host, and their
default port is left out.  Spaces and control characters around the text, and tabs and line
ends in it, are skipped.  In the path of a file a drive letter at the front stands for the
volume: it takes the place of a host, and nothing leads out of it.
-/

namespace InAppMessaging.Url

/-- The schemes with rules of their own and an authority, with their default ports. -/
def defaultPorts : List (String × Nat) :=
  [("http", 80), ("https", 443), ("ws", 80), ("wss", 443), ("ftp", 21)]

/-- How the text after a scheme is read. -/
inductive SchemeKind where
  | special (defaultPort : Nat)
  | file
  | other
deriving DecidableEq

/-- The kind of a scheme. -/
def kindOf (scheme : String) : SchemeKind :=
  if scheme = "file" then .file
  else
    match defaultPorts.find? fun entry => entry.1 = scheme with
    | some entry => .special entry.2
    | none => .other

/-- The scheme has rules of its own. -/
def SchemeKind.isSpecial : SchemeKind → Bool
  | special _ | file => true
  | other => false

/-- A slash; under special schemes a backslash is one too. -/
def SchemeKind.isSlash (k : SchemeKind) (c : Char) : Bool := c = '/' || (k.isSpecial && c = '\\')

/-- A character that a scheme may hold after its first. -/
def isSchemeChar (c : Char) : Bool := c.isAlphanum || c = '+' || c = '-' || c = '.'

/-- A tab or a line end, which is skipped wherever it stands. -/
def isSkipped (c : Char) : Bool := c = '\t' || c = '\n' || c = '\r'

/-- A text without what is skipped in it. -/
def withoutSkipped (cs : List Char) : List Char := cs.filter fun c => !isSkipped c

/-- Parts the scheme from the rest. -/
def scheme? (cs : List Char) : Option (String × List Char) :=
  let isBefore (c : Char) : Bool := isSchemeChar c || isSkipped c
  match cs.dropWhile isBefore with
  | ':' :: rest =>
      let scheme := withoutSkipped (cs.takeWhile isBefore)
      if scheme.head?.any Char.isAlpha then
        some (String.ofList (scheme.map Char.toLower), rest)
      else none
  | _ => none

/-! ## The authority -/

/-- Parts a text at its last `@`. -/
def splitAtLastAt? (cs : List Char) : Option (List Char × List Char) :=
  match cs.reverse.dropWhile (· ≠ '@') with
  | [] => none
  | _ :: before => some (before.reverse, cs.drop (before.length + 1))

/-- The user and the password. -/
def credentialsOf (cs : List Char) : String × String :=
  let encode (part : List Char) := String.ofList (percentEncode keptInUser part)
  (encode (cs.takeWhile (· ≠ ':')), encode ((cs.dropWhile (· ≠ ':')).drop 1))

/-- The text of a host ends at a colon outside brackets. -/
def spanHost (inBrackets : Bool) : List Char → List Char × List Char
  | [] => ([], [])
  | c :: rest =>
      if c = ':' ∧ !inBrackets then ([], c :: rest)
      else
        let next := if c = '[' then true else if c = ']' then false else inBrackets
        let (host, after) := spanHost next rest
        (c :: host, after)

/-- The port behind a host: no digits stand for none, and so does the default.  A backslash
ends it, and what begins there is returned. -/
def port? (k : SchemeKind) (cs : List Char) : Except Fault (Option Nat × List Char) :=
  let rest := cs.dropWhile Char.isDigit
  let ends := rest.head?.all (· = '\\')
  match Text.digits? (cs.takeWhile Char.isDigit) with
  | none => if ends then .ok (none, rest) else .error .port
  | some n =>
      if 65535 < n ∨ !ends then .error .port
      else .ok (if k = .special n then none else some n, rest)

/-- Reads host and port; returns what stands behind the port. -/
def hostAndPort (k : SchemeKind) (cs : List Char) :
    Except Fault (HostName × Option Nat × List Char) := do
  let (hostText, after) := spanHost false cs
  if k.isSpecial ∧ hostText.isEmpty then throw .emptyHost
  let host ← HostName.ofText k.isSpecial hostText
  if host.isEmpty ∧ !after.isEmpty then throw .emptyHost
  return (host, ← port? k (after.drop 1))

/-- Reads an authority; `atEnd` tells that nothing follows it.  Returns what stands behind the
port. -/
def authorityOf (k : SchemeKind) (atEnd : Bool) (cs : List Char) :
    Except Fault (Authority × List Char) := do
  match splitAtLastAt? cs with
  | none =>
      let (host, port, rest) ← hostAndPort k cs
      return ({ host, port }, rest)
  | some (before, after) =>
      if before.isEmpty ∧ after.isEmpty ∧ !atEnd then throw .emptyHost
      let (user, password) := credentialsOf before
      let (host, port, rest) ← hostAndPort k after
      let named := !user.isEmpty || !password.isEmpty
      if host.isEmpty ∧ named then throw .emptyHost
      return ({ user, password, host, port }, rest)

/-! ## The path -/

/-- The segment stands for the directory itself. -/
def isHere (segment : List Char) : Bool :=
  segment = ['.'] || segment.map Char.toLower = ['%', '2', 'e']

/-- The segment stands for the directory above. -/
def isAbove (segment : List Char) : Bool :=
  let folded := segment.map Char.toLower
  folded = ['.', '.'] || folded = ['.', '%', '2', 'e'] || folded = ['%', '2', 'e', '.'] ||
    folded = ['%', '2', 'e', '%', '2', 'e']

/-- A segment begins with a drive letter: a letter and a colon or a bar, and then nothing more
or a sign that might end the segment. -/
def beginsWithDrive : List Char → Bool
  | letter :: mark :: rest =>
      letter.isAlpha && (mark = ':' || mark = '|') &&
        rest.head?.all fun c => c = '/' || c = '\\' || c = '?' || c = '#'
  | _ => false

/-- A segment is a drive letter. -/
def isDrive (segment : List Char) : Bool := segment.length = 2 && beginsWithDrive segment

/-- Goes to the directory above; those followed come in reverse.  No way leads out of one that
begins with a drive letter. -/
def goAbove : List String → List String
  | [] => []
  | segment :: before =>
      if beginsWithDrive segment.toList then segment :: before else before

/-- Follows the segments of a path; those followed before come in reverse.  The drive letter at
the front of a file's path is written with a colon. -/
def follow (k : SchemeKind) (before : List String) : List (List Char) → List String
  | [] => before.reverse
  | segment :: rest =>
      let stay (before : List String) := if rest.isEmpty then "" :: before else before
      if isAbove segment then follow k (stay (goAbove before)) rest
      else if isHere segment then follow k (stay before) rest
      else if k = .file ∧ before.isEmpty ∧ isDrive segment then
        follow k [String.ofList (segment.take 1 ++ [':'])] rest
      else follow k (String.ofList (percentEncode keptInPath segment) :: before) rest

/-- Drops empty segments at the front, but not the last one. -/
def dropEmptyFront : List String → List String
  | "" :: next :: rest => dropEmptyFront (next :: rest)
  | parts => parts

/-- The segments of a path, without the slash at its front. -/
def segmentsOf (k : SchemeKind) (cs : List Char) : List String :=
  follow k [] (splitWhere k.isSlash cs)

/-- The path behind an authority. -/
def pathAfterAuthority (k : SchemeKind) (cs : List Char) : UrlPath :=
  match cs with
  | [] => .segments (if k.isSpecial then [""] else [])
  | c :: rest => .segments (segmentsOf k (if k.isSlash c then rest else c :: rest))

/-! ## Files -/

/-- Takes the slash that a text begins with. -/
def takeSlash? (k : SchemeKind) (cs : List Char) : Option (List Char) :=
  match cs.dropWhile isSkipped with
  | c :: rest => if k.isSlash c then some rest else none
  | [] => none

/-- Parts a text before the first character that passes a test. -/
def spanUntil (test : Char → Bool) (cs : List Char) : List Char × List Char :=
  (cs.takeWhile fun c => !test c, cs.dropWhile fun c => !test c)

/-- A drive letter and what stands behind it in the first segment, if something skipped stands
between the two. -/
def partedDrive? (segment : List Char) : Option (List Char × List Char) :=
  match spanUntil (· = ':') segment with
  | (letter, ':' :: behind) =>
      let drive := withoutSkipped letter ++ [':']
      let rest := withoutSkipped behind
      if isDrive drive ∧ behind.head?.any isSkipped ∧ !rest.isEmpty then some (drive, rest)
      else none
  | _ => none

/-- The segments of a file's path, without the slash at its front.  What stands behind a parted
drive letter is a segment of its own, whatever it is. -/
def fileSegments (cs : List Char) : List String :=
  let (first, behind) := spanUntil SchemeKind.file.isSlash cs
  match partedDrive? first with
  | some (drive, rest) =>
      let known := [String.ofList (percentEncode keptInPath rest), String.ofList drive]
      match withoutSkipped behind with
      | [] => known.reverse
      | _ :: more => follow .file known (splitWhere SchemeKind.file.isSlash more)
  | none => segmentsOf .file (withoutSkipped cs)

/-- Puts the segments of a file's path behind its host, which a drive letter at the front takes
the place of. -/
def fileAt (host : HostName) (parted : Bool) (segments : List String) : Authority × UrlPath :=
  let volume := !parted && segments.head?.any fun segment => isDrive segment.toList
  ({ host := if volume then .name "" else host }, .segments (dropEmptyFront segments))

/-- Reads what stands between the scheme of a file and the query. -/
def fileHierarchy (cs : List Char) : Except Fault (Authority × UrlPath) :=
  let k : SchemeKind := .file
  let settle (host : HostName) (path : List Char) : Authority × UrlPath :=
    fileAt host (partedDrive? (spanUntil k.isSlash path).1).isSome (fileSegments path)
  match takeSlash? k cs with
  | none => .ok (settle (.name "") cs)
  | some behind =>
      match takeSlash? k behind with
      | none => .ok (settle (.name "") behind)
      | some text => do
          let (before, path) := spanUntil k.isSlash text
          let written := withoutSkipped before
          if isDrive written then return settle (.name "") text
          let host ← if written.isEmpty then pure (.name "") else HostName.ofText true written
          return settle (if host = .name "localhost" then .name "" else host) (path.drop 1)

/-! ## The whole -/

/-- Reads what stands between the scheme and the query; `atEnd` tells that nothing follows. -/
def hierarchy (k : SchemeKind) (atEnd : Bool) (cs : List Char) :
    Except Fault (Option Authority × UrlPath) :=
  let atAuthority (cs : List Char) : Except Fault (Option Authority × UrlPath) := do
    let (before, path) := spanUntil k.isSlash cs
    let (authority, rest) ← authorityOf k (atEnd && path.isEmpty) before
    return (some authority, pathAfterAuthority k (rest ++ path))
  match k with
  | .special _ => atAuthority ((withoutSkipped cs).dropWhile k.isSlash)
  | .file => do
      let (authority, path) ← fileHierarchy cs
      return (some authority, path)
  | .other =>
      match withoutSkipped cs with
      | '/' :: '/' :: rest => atAuthority rest
      | '/' :: rest => .ok (none, .segments (segmentsOf k rest))
      | cs => .ok (none, .raw (String.ofList (percentEncode keptInRawPath cs)))

/-- The text without the spaces and control characters around it. -/
def trimmed (cs : List Char) : List Char :=
  let isOuter (c : Char) : Bool := c.toNat ≤ 0x20
  Text.dropTrailing isOuter (cs.dropWhile isOuter)

/-- Reads an absolute URL. -/
def ofText (s : String) : Except Fault Url := do
  match scheme? (trimmed s.toList) with
  | none => throw .relative
  | some (scheme, rest) =>
      let k := kindOf scheme
      let (main, fragment) := spanUntil (· = '#') rest
      let (hierarchyText, query) := spanUntil (· = '?') main
      let (authority, path) ← hierarchy k (query.isEmpty && fragment.isEmpty) hierarchyText
      let encoded (keep : Char → Bool) : List Char → Option String
        | [] => none
        | _ :: part => some (String.ofList (percentEncode keep (withoutSkipped part)))
      return { scheme, authority, path
               query := encoded (keptInQuery k.isSpecial) query
               fragment := encoded keptInFragment fragment }

end InAppMessaging.Url
