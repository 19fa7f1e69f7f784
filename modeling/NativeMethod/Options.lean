/-!
# Options

Which optimisation passes looked at a method before its code is generated, and whether unused
variables are reported.
-/

namespace NativeMethod

/-- A set of optimisation passes. -/
structure Passes where
  /-- Mutations of every variable were counted. -/
  mutationAnalysis : Bool := false
  /-- Types of untyped variables were inferred. -/
  typeInference : Bool := false
  /-- Call sites were gathered. -/
  callGathering : Bool := false
  deriving DecidableEq

namespace Passes

/-- The passes of either set. -/
def union (a b : Passes) : Passes :=
  { mutationAnalysis := a.mutationAnalysis || b.mutationAnalysis
    typeInference := a.typeInference || b.typeInference
    callGathering := a.callGathering || b.callGathering }

/-- Every pass of the second set is in the first. -/
def includes (a b : Passes) : Bool := a.union b == a

/-- A set of passes as a number, one binary digit for each pass. -/
def bits (p : Passes) : Nat :=
  p.mutationAnalysis.toNat + 2 * p.typeInference.toNat + 4 * p.callGathering.toNat

end Passes

structure Options where
  passes : Passes := {}
  reportUnused : Bool := true
  deriving DecidableEq

/-- Whether all passes of a set ran. -/
def Options.ran (o : Options) (p : Passes) : Bool := o.passes.includes p

end NativeMethod
