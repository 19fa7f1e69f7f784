import NativeMethod.Number.Binary64

/-!
# Shortest decimals

The decimal with the fewest digits that still reads back as a given binary64 value.  Around the
value lies the interval of the reals that round to it; the coarsest decimal grid with a point in
that interval gives the digits, and of two such points the nearer one is taken, the upper one
from the middle.  The digits are then laid out in positional notation, without an exponent.
-/

namespace NativeMethod

/-- The positive decimal number `digits · 10 ^ scale`. -/
structure Decimal where
  digits : Nat
  scale : Int
  deriving DecidableEq

namespace Decimal

/-- The number in positional notation; a point is written only where digits follow it. -/
def positional (d : Decimal) : String :=
  let text := Nat.toDigits 10 d.digits
  match d.scale with
  | .ofNat zeros => String.ofList (text ++ List.replicate zeros '0')
  | .negSucc n =>
    let places := n + 1
    if places < text.length then
      String.ofList
        (text.take (text.length - places) ++ '.' :: text.drop (text.length - places))
    else
      String.ofList ('0' :: '.' :: (List.replicate (places - text.length) '0' ++ text))

end Decimal

namespace Shortest

/-- A positive value and its rounding interval, counted in units of `2 ^ power`: the value is
`value` units, the interval reaches from `low` to `high`, and its ends belong to it when
`closed`. -/
structure Interval where
  low : Nat
  value : Nat
  high : Nat
  power : Int
  closed : Bool

/-- The reals that round to a finite value other than zero.  Half a unit in the last place lies
on either side, but only a quarter below a power of two, where the spacing changes.  Ties go to
even, so the ends belong to even mantissas. -/
def interval (x : Binary64) : Interval :=
  let m := x.mantissa
  let narrow := decide (x.fractionField = 0 ∧ 1 < x.exponentField)
  { low := 4 * m - (if narrow then 1 else 2)
    value := 4 * m
    high := 4 * m + 2
    power := x.exponent - 2
    closed := m % 2 == 0 }

/-- Whether a point lies in the interval with the given ends. -/
def within (closed : Bool) (low high point : Nat) : Bool :=
  if closed then decide (low ≤ point ∧ point ≤ high) else decide (low < point ∧ point < high)

/-- The point of the grid of multiples of `10 ^ k` that lies in the interval, the one nearest to
the value if there are several.  Unit and step are brought to integers by a common factor. -/
def gridPoint? (i : Interval) (k : Int) : Option Nat :=
  let unit := Nat.pow 2 i.power.toNat * Nat.pow 10 (-k).toNat
  let step := Nat.pow 2 (-i.power).toNat * Nat.pow 10 k.toNat
  let value := i.value * unit
  let below := value / step
  let inside (n : Nat) : Bool := within i.closed (i.low * unit) (i.high * unit) (n * step)
  if inside below && inside (below + 1) then
    -- the exact middle goes up
    if 2 * (value - below * step) < step then some below else some (below + 1)
  else if inside below then some below
  else if inside (below + 1) then some (below + 1)
  else none

/-- The grids tried: from `10 ^ 308`, as no interval reaches the points of a coarser one, down to
`10 ^ -324`, which is finer than every interval. -/
def grids : List Int := (List.range 633).map fun (n : Nat) => (308 : Int) - n

/-- The shortest decimal of a finite value other than zero, by its magnitude. -/
def decimal (x : Binary64) : Decimal :=
  let i := interval x
  ((grids.findSome? fun k => (gridPoint? i k).map fun n => ⟨n, k⟩)).getD ⟨0, 0⟩

end Shortest

namespace Binary64

/-- The C expression of a value.  Values that are not finite are spelled by the macros of the
mathematics header; finite ones have the fewest digits that read back, in positional notation
and always with a point. -/
def spelling (x : Binary64) : String :=
  if x.isNaN then "NAN"
  else
    let sign := if x.isNegative then "-" else ""
    if !x.isFinite then sign ++ "INFINITY"
    else if x.isZero then sign ++ "0.0"
    else
      let text := (Shortest.decimal x).positional
      sign ++ (if text.toList.contains '.' then text else text ++ ".0")

end Binary64

end NativeMethod
