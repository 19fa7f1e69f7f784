/-!
# Binary floating-point numbers

IEEE 754 binary64 values as their 64 bits, with the exact number that the bits denote: a finite
value is `mantissa · 2 ^ exponent` with its sign.  Rounding and truncation are done in exact
integer arithmetic.
-/

namespace NativeMethod

/-- A binary64 value, given by its bits. -/
structure Binary64 where
  bits : UInt64
  deriving DecidableEq

namespace Binary64

/-! ## Fields -/

def isNegative (x : Binary64) : Bool := decide (Nat.pow 2 63 ≤ x.bits.toNat)

/-- The eleven bits of the biased exponent. -/
def exponentField (x : Binary64) : Nat := x.bits.toNat / Nat.pow 2 52 % Nat.pow 2 11

/-- The fifty-two bits of the fraction. -/
def fractionField (x : Binary64) : Nat := x.bits.toNat % Nat.pow 2 52

/-- A value that is neither infinite nor a NaN. -/
def isFinite (x : Binary64) : Bool := x.exponentField != 2047

def isNaN (x : Binary64) : Bool := x.exponentField == 2047 && x.fractionField != 0

def isZero (x : Binary64) : Bool := x.exponentField == 0 && x.fractionField == 0

/-! ## The number denoted -/

/-- The integer part of the magnitude of a finite value: normal values have a leading bit that
is not stored. -/
def mantissa (x : Binary64) : Nat :=
  if x.exponentField = 0 then x.fractionField else Nat.pow 2 52 + x.fractionField

/-- The power of two that scales the mantissa of a finite value. -/
def exponent (x : Binary64) : Int := max x.exponentField 1 - 1075

/-- The magnitude of a finite value without its fraction. -/
def wholePart (x : Binary64) : Nat :=
  match x.exponent with
  | .ofNat e => x.mantissa * Nat.pow 2 e
  | .negSucc e => x.mantissa / Nat.pow 2 (e + 1)

/-- A finite value truncated toward zero. -/
def truncate (x : Binary64) : Int :=
  if x.isNegative then -(x.wholePart : Int) else x.wholePart

/-! ## Equality and rounding -/

/-- Two values are the same number: the zeros are one, and so are all NaNs. -/
def same (x y : Binary64) : Bool :=
  x == y || (x.isNaN && y.isNaN) || (x.isZero && y.isZero)

/-- A natural number divided by `2 ^ k` and rounded to the nearest integer, a half to the even
neighbour. -/
def shiftRound (n k : Nat) : Nat :=
  let unit := Nat.pow 2 k
  let q := n / unit
  let twice := 2 * (n % unit)
  if unit < twice ∨ (twice = unit ∧ q % 2 = 1) then q + 1 else q

/-- The bits of the value nearest to a natural number below `2 ^ 1024`, ties to even.  The
mantissa is added to the exponent field as a number, so that a mantissa rounded up to `2 ^ 53`
carries into the exponent. -/
def bitsOfNat (n : Nat) : Nat :=
  if n = 0 then 0
  else
    let top := n.log2
    -- up to 53 bits are kept as they are
    let significand := if top ≤ 52 then n * Nat.pow 2 (52 - top) else shiftRound n (top - 52)
    (top + 1022) * Nat.pow 2 52 + significand

/-- The value nearest to an integer of less than 1024 bits, ties to even. -/
def ofInt (i : Int) : Binary64 :=
  let magnitude := bitsOfNat i.natAbs
  ⟨UInt64.ofNat (if i < 0 then Nat.pow 2 63 + magnitude else magnitude)⟩

/-! ## Laws -/

theorem same_refl (x : Binary64) : x.same x = true := by
  simp [same]

end Binary64

end NativeMethod
