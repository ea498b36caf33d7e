import InAppMessaging.Preferences
import InAppMessaging.Proofs.Text.Decimal

/-!
# Numbers and truth values in the store

What is written through one of the typed writers is read back through the reader of the same
type, and every reader looks at the text of its own key only.

* `natural?_setInteger_self`, `integer?_setInteger_self`, `bool?_setBool_self` — what was
  written is what is read;
* `natural?_congr`, `integer?_congr`, `bool?_congr` — stores with the same text at a key give
  the same reading there.
-/

namespace InAppMessaging.Preferences

open Text

variable {p q : Preferences} {key other : String}

/-- A count within a 32-bit word is read back. -/
theorem natural?_setInteger_self (p : Preferences) (key : String) {n : Nat}
    (h : n ≤ maxWord32) : (p.setInteger key n).natural? key = some n := by
  have htext : (p.setInteger key n).text? key = some (toString (n : Int)) :=
    p.text?_setText_self key _
  unfold natural?
  rw [htext, Option.bind_some, trim_toString, natural?_toString h]

/-- A signed 64-bit number is read back. -/
theorem integer?_setInteger_self (p : Preferences) (key : String) {n : Int}
    (hlow : minSigned64 ≤ n) (hhigh : n ≤ maxSigned64) :
    (p.setInteger key n).integer? key = some n := by
  have htext : (p.setInteger key n).text? key = some (toString n) :=
    p.text?_setText_self key _
  unfold integer?
  rw [htext, Option.bind_some, trim_toString, signed64?_toString hlow hhigh]

/-- A truth value is read back. -/
theorem bool?_setBool_self (p : Preferences) (key : String) (b : Bool) :
    (p.setBool key b).bool? key = some b := by
  have htext : (p.setBool key b).text? key = some (if b then "true" else "false") :=
    p.text?_setText_self key _
  unfold bool?
  rw [htext]
  cases b <;> decide

theorem natural?_congr (h : p.text? key = q.text? key) : p.natural? key = q.natural? key := by
  unfold natural?
  rw [h]

theorem integer?_congr (h : p.text? key = q.text? key) : p.integer? key = q.integer? key := by
  unfold integer?
  rw [h]

theorem bool?_congr (h : p.text? key = q.text? key) : p.bool? key = q.bool? key := by
  unfold bool?
  rw [h]

theorem text?_setInteger_ne (p : Preferences) (n : Int) (h : other ≠ key) :
    (p.setInteger key n).text? other = p.text? other :=
  p.text?_setText_ne _ h

theorem text?_setBool_ne (p : Preferences) (b : Bool) (h : other ≠ key) :
    (p.setBool key b).text? other = p.text? other :=
  p.text?_setText_ne _ h

end InAppMessaging.Preferences
