import InAppMessaging.Text.Unicode.Category
import InAppMessaging.Text.Unicode.Trait

/-!
# The newest characters

The tables describe the characters of version 16 of the standard, by which patterns and the
names of hosts go.  What is printed for a reader and what groups are called goes by version
17, which assigned some characters more; they are kept here with the little that is asked of
them.
-/

namespace InAppMessaging.Text.Unicode

/-- What is known of the characters assigned last: they are alphabetic (`a`), numbers (`n`),
marks that extend the character before (`e`), or none of this (`o`). -/
def newestRuns : Runs := Runs.ofLines
  ["2191-1a972-1a127-1a3570-15e2-12e1493-1o2772-1o31799-2a2-1a1-1a28-1a21457-16o445-2o54-7o2929",
   "-26a1387-3a8-9o33-2ae3172-1ae1a3ae1a1ae1a584-44a4-10n20662-25a2-25a286-2a3an6145-8a1289-22a",
   "97-115a16135-3o445-23o15-17o6095-31a1-3a1ae2a1ae7a2ae5a1ae8-2a4056-1o158-4o341-9o379-4o50-1",
   "o3-1o57-1o4-1o28-1o4-1o266-1o47935-6a5986-12a21762-4298a904070-"]

/-- A character assigned last that has a quality, given by its letter. -/
def isNewest (quality : Char) (c : Char) : Bool :=
  (newestRuns.valueAt c.toNat).toList.contains quality

/-- One of the characters assigned last. -/
def isOneOfNewest (c : Char) : Bool := newestRuns.valueAt c.toNat ≠ "-"

/-- An alphabetic character. -/
def isAlphabetic (c : Char) : Bool := alphabeticRuns.holdsAt c || isNewest 'a' c

/-- A character that stands for a number. -/
def isNumber (c : Char) : Bool := isCategoryOf "N" (category c) || isNewest 'n' c

/-- A mark that extends the character before it. -/
def isExtendingMark (c : Char) : Bool :=
  (graphemeExtendRuns.holdsAt c && isMark c) || isNewest 'e' c

/-- A character that shows itself: everything that is neither a control, a format character,
unassigned, private, a separator other than the space, nor without a shape. -/
def isPrintable (c : Char) : Bool :=
  if c.toNat < 0x7F then 0x20 ≤ c.toNat
  else
    isOneOfNewest c ||
      !(isCategoryOf "C" (category c) || isCategoryOf "Z" (category c) ||
        defaultIgnorableCodePointRuns.holdsAt c)

end InAppMessaging.Text.Unicode
