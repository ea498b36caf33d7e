import InAppMessaging.Json.Tree

/-!
# The value of a spelled number

A number without fraction and exponent is a whole number if it fits a 64-bit word of its
sign; `-0` and everything else is a fractional number.  No field of this library is
fractional, so of those only one thing matters: whether the double nearest to the spelled
value is finite.  `isFinite` decides that in exact arithmetic, on the leading digits that
fit a 64-bit word and a decimal exponent, each rounded to a double before they are
multiplied.
-/

namespace InAppMessaging.Json

open Text

/-- What a number is, once it is read. -/
inductive Number where
  | natural (n : Nat)
  | negative (n : Int)
  | fractional
deriving DecidableEq, Repr

/-- Adds digits to a number while it fits a 64-bit word.  Returns the number, how many digits
went in, and how many were left. -/
def gather : Nat → Nat → List Char → Nat × Nat × Nat
  | n, taken, [] => (n, taken, 0)
  | n, taken, c :: cs =>
      let next := n * 10 + (c.toNat - 48)
      if next ≤ maxWord64 then gather next (taken + 1) cs else (n, taken, (c :: cs).length)

/-- A positive number rounded to fifty-three binary digits, a half going to the even
neighbour. -/
def round53 (n : Nat) : Nat :=
  let shift := n.log2 - 52
  let unit := 1 <<< shift
  let down := n / unit
  let twice := 2 * (n % unit)
  if twice < unit ∨ (twice = unit ∧ down % 2 = 0) then down * unit else (down + 1) * unit

/-- The least value that rounds to a double beyond all finite ones. -/
def doubleBound : Nat := (1 <<< 1024) - (1 <<< 970)

/-- The spelled value is nearest to a finite double. -/
def Numeral.isFinite (n : Numeral) : Bool :=
  let (whole, _, dropped) := gather 0 0 n.whole
  let (significand, taken, _) := gather whole 0 (n.fraction?.getD [])
  let shift : Int := (dropped : Int) - (taken : Int)
  let (below, digits) := n.exponent?.getD (false, [])
  let size := digitsValue digits
  if significand = 0 ∨ (below && (size : Int) > shift) then true
  else
    let exponent := if below then shift - size else shift + size
    if exponent < 0 then true
    else if exponent > 308 then false
    else round53 significand * round53 (Nat.pow 10 exponent.toNat) < doubleBound

/-- The value of a number, unless it is beyond every finite double. -/
def Numeral.value? (n : Numeral) : Option Number :=
  let size := digitsValue n.whole
  if n.fraction?.isNone ∧ n.exponent?.isNone ∧ n.negative = false ∧ size ≤ maxWord64 then
    some (.natural size)
  else if n.fraction?.isNone ∧ n.exponent?.isNone ∧ n.negative ∧ size ≠ 0 ∧
      size ≤ 0x8000000000000000 then
    some (.negative (-(size : Int)))
  else if n.isFinite then some .fractional
  else none

/-- The value of a number somebody reads. -/
def Numeral.read (n : Numeral) : Except Fault Number :=
  match n.value? with
  | some value => .ok value
  | none => .error .malformed

mutual

/-- The walk of a value that is kept before its shape is known: strings have to be texts,
numbers finite, and at most `depth` brackets may be open at once. -/
def Tree.buffer : Nat → Tree → Except Fault Unit
  | _, .null => .ok ()
  | _, .bool _ => .ok ()
  | _, .number n => (fun _ => ()) <$> n.read
  | _, .partialNumber atEnd => .error (if atEnd then .cutShort else .malformed)
  | _, .text s => (fun _ => ()) <$> s.text
  | depth, .array items => if depth = 0 then .error .malformed else items.buffer (depth - 1)
  | depth, .object members =>
      if depth = 0 then .error .malformed else members.buffer (depth - 1)
  | _, .brokenWord _ fault => .error fault
  | _, .broken fault => .error fault

def Items.buffer : Nat → Items → Except Fault Unit
  | _, .done => .ok ()
  | _, .cut fault => .error fault
  | depth, .cons head tail => do head.buffer depth; tail.buffer depth

def Members.buffer : Nat → Members → Except Fault Unit
  | _, .done => .ok ()
  | _, .cut fault => .error fault
  | _, .keyless fault _ => .error fault
  | depth, .cons key value tail => do
      discard key.text
      value.buffer depth
      tail.buffer depth

end

end InAppMessaging.Json
