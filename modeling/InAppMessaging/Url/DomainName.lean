import InAppMessaging.Text.Blank
import InAppMessaging.Text.Composed
import InAppMessaging.Text.Unicode.Category
import InAppMessaging.Text.Unicode.Direction
import InAppMessaging.Text.Unicode.Joining
import InAppMessaging.Text.Unicode.NameMapping
import InAppMessaging.Url.Address
import InAppMessaging.Url.Punycode

/-!
# Domain names

A domain name as it is written in ASCII.  The characters of a name are mapped to those they
stand for and composed, and each label between two dots is checked: its characters, its
joiners, and, if anything in the name is written from right to left, its direction.  A label
with characters beyond ASCII is written in Punycode, and one that is written so already has to
stand for a label that would be.
-/

namespace InAppMessaging.Url

open Text.Unicode

/-! ## Characters -/

/-- An ASCII character that no name may hold. -/
def isForbiddenInName (c : Char) : Bool :=
  c.toNat ≤ 0x20 || c = '\x7f' ||
    ['%', '#', '/', ':', '<', '>', '?', '@', '[', '\\', ']', '^', '|'].contains c

/-- What a name's characters stand for, unless one of them is not allowed. -/
def mappedCharacters? (cs : List Char) : Option (List Char) :=
  (cs.mapM fun (c : Char) =>
    match nameStatusRuns.valueAt c.toNat with
    | "v" => some [c]
    | "m" => some ((mappedName c.toNat).map Char.ofNat)
    | "i" => some []
    | _ => none).map List.flatten

/-- A character that stays what it is in a name. -/
def isNameCharacter (c : Char) : Bool :=
  nameStatusRuns.valueAt c.toNat = "v" && !isForbiddenInName c

/-! ## Joiners -/

/-- The class of the marks that suppress a vowel. -/
def vowelKiller : Nat := 9

/-- Among letters that are passed in order, the first that is not transparent joins in a way. -/
def joinsFirst (types : List String) (letters : List Char) : Bool :=
  match letters.dropWhile fun c => joiningType c = "T" with
  | [] => false
  | c :: _ => types.contains (joiningType c)

/-- The joiners of a label stand where they may: behind a mark that suppresses a vowel, or, for
the one that keeps letters apart, between letters that would be joined; `before` holds the
characters in front, last first. -/
def joinersFit (before : List Char) : List Char → Bool
  | [] => true
  | c :: rest =>
      let behindKiller := before.head?.any fun d => combiningClass d.toNat = vowelKiller
      let fits :=
        if c = '\u200c' then
          behindKiller || (joinsFirst ["L", "D"] before && joinsFirst ["R", "D"] rest)
        else if c = '\u200d' then behindKiller
        else true
      fits && joinersFit (c :: before) rest

/-! ## Direction -/

/-- A character that makes a name one in which directions matter. -/
def isRightToLeft (c : Char) : Bool := ["R", "AL", "AN"].contains (directionClass c)

/-- The signs that may stand inside a label of either direction. -/
def neutralClasses : List String := ["EN", "ES", "CS", "ET", "ON", "BN", "NSM"]

/-- The direction of a label is kept from its first character to its last: marks at its end
aside, it ends in a letter of its direction or a digit, and digits of two kinds are not mixed
from right to left. -/
def isSoundDirection : List Char → Bool
  | [] => true
  | first :: rest =>
      let behind := (Text.dropTrailing (fun c => directionClass c = "NSM") rest).map directionClass
      let closes (classes : List String) : Bool := behind.getLast?.all classes.contains
      let holds (classes : List String) : Bool :=
        behind.dropLast.all fun c => classes.contains c || neutralClasses.contains c
      match directionClass first with
      | "L" => closes ["L", "EN"] && holds ["L"]
      | "R" | "AL" =>
          closes ["R", "AL", "AN", "EN"] && holds ["R", "AL", "AN"] &&
            !(behind.contains "EN" && behind.contains "AN")
      | _ => false

/-! ## Labels -/

/-- The most characters of a label that is written in Punycode. -/
def longestLabel : Nat := 1000

/-- The most characters of a label in Punycode. -/
def longestPunycode : Nat := 2000

/-- A label that holds characters beyond ASCII, or stood for one that does. -/
def isSoundLabel (label : List Char) : Bool :=
  label.all isNameCharacter && !label.head?.any isMark && joinersFit [] label &&
    label.length ≤ longestLabel

/-- A label of a name: how it is written in ASCII, and what it stands for. -/
structure Label where
  written : List Char
  meant : List Char
deriving DecidableEq

/-- What begins a label in Punycode. -/
def punycodeMark : List Char := ['x', 'n', '-', '-']

/-- The label that is written in Punycode, without its mark.  It stands for characters that are
mapped and composed already, some of them beyond ASCII, and does not look like Punycode
itself. -/
def labelOfPunycode? (written : List Char) : Option Label := do
  if longestPunycode < written.length then none
  let label ← Punycode.decode? written
  let isMeant := label.any (0x80 ≤ ·.toNat) && isSoundLabel label &&
    Text.composed label = label && !punycodeMark.isPrefixOf label
  if isMeant then return ⟨punycodeMark ++ written, label⟩ else none

/-- The label of mapped and composed characters. -/
def labelOf? (label : List Char) : Option Label :=
  if punycodeMark.isPrefixOf label then
    if label.all (·.toNat < 0x80) then labelOfPunycode? (label.drop punycodeMark.length) else none
  else if label.all (·.toNat < 0x80) then
    if label.any isForbiddenInName then none else some ⟨label, label⟩
  else if isSoundLabel label then some ⟨punycodeMark ++ Punycode.encode label, label⟩
  else none

/-- Puts dots between labels. -/
def dotted : List (List Char) → List Char
  | [] => []
  | [label] => label
  | label :: labels => label ++ '.' :: dotted labels

/-- A name as it is written in ASCII. -/
def domainName? (name : List Char) : Option (List Char) := do
  let mapped ← mappedCharacters? name
  let labels ← (splitWhere (· = '.') (Text.composed mapped)).mapM labelOf?
  let directed := labels.any fun label => label.meant.any isRightToLeft
  if directed && !(labels.all fun label => isSoundDirection label.meant) then none
  return dotted (labels.map Label.written)

end InAppMessaging.Url
