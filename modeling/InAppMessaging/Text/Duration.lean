/-!
# Durations as text

A span of time prints in the largest unit that keeps its whole part positive: seconds with
the fraction that is needed, or milliseconds.  No time at all is `0ns`.
-/

namespace InAppMessaging.Text

/-- The decimals of a number of thousandths, without closing zeros. -/
def thousandths (n : Nat) : List Char :=
  let digits := [n / 100 % 10, n / 10 % 10, n % 10].map Nat.digitChar
  (digits.reverse.dropWhile (· = '0')).reverse

/-- A span of time given in milliseconds. -/
def durationText (milliseconds : Nat) : String :=
  if milliseconds = 0 then "0ns"
  else if milliseconds < 1000 then toString milliseconds ++ "ms"
  else
    let whole := toString (milliseconds / 1000)
    match thousandths (milliseconds % 1000) with
    | [] => whole ++ "s"
    | decimals => whole ++ "." ++ String.ofList decimals ++ "s"

end InAppMessaging.Text
