import NativeMethod.Options
import NativeMethod.StorageType

/-!
# Facts

What the optimisation passes found out about the variables of a method.  Mutations have two
sources, a precise count and a coarse test for writes; the passes that ran decide which of the
two a compilation asks, and it asks no other.
-/

namespace NativeMethod

/-- What is known about the mutations of a variable. -/
inductive Estimate where
  | exact (count : UInt32)
  /-- Whether there is a write at all. -/
  | written (isWritten : Bool)
  deriving DecidableEq

namespace Estimate

/-- The variable must have storage of its own before it is written. -/
def needsSeparation : Estimate → Bool
  | exact count => decide (1 < count)
  | written isWritten => isWritten

/-- The variable may point at a shared value. -/
def mayShare (e : Estimate) : Bool := !e.needsSeparation

end Estimate

/-- The findings of all passes, the latest for a name first. -/
structure Facts where
  counts : List (String × UInt32) := []
  writes : List String := []
  inferred : List (String × StorageType) := []

namespace Facts

def recordCount (f : Facts) (name : String) (count : UInt32) : Facts :=
  { f with counts := (name, count) :: f.counts }

def recordWrite (f : Facts) (name : String) : Facts := { f with writes := name :: f.writes }

def recordType (f : Facts) (name : String) (type : StorageType) : Facts :=
  { f with inferred := (name, type) :: f.inferred }

/-- The number of mutations of a variable; none if nobody counted. -/
def mutationsOf (f : Facts) (name : String) : UInt32 := (f.counts.lookup name).getD 0

def isWritten (f : Facts) (name : String) : Bool := f.writes.contains name

/-- The estimate from the one source that the passes select. -/
def estimate (f : Facts) (passes : Passes) (name : String) : Estimate :=
  if passes.mutationAnalysis then .exact (f.mutationsOf name) else .written (f.isWritten name)

/-- The type inferred for a variable, if inference ran and found one. -/
def inferredType? (f : Facts) (passes : Passes) (name : String) : Option StorageType :=
  if passes.typeInference then f.inferred.lookup name else none

end Facts

end NativeMethod
