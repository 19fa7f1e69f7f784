import NativeMethod.ClassName
import NativeMethod.Literal.Basic
import NativeMethod.Span
import NativeMethod.StorageType

/-!
# Variables

A variable of a method: its storage, where it comes from, how it starts and how often it is used.
-/

namespace NativeMethod

inductive InitState where
  | uninitialized
  /-- Declared with an explicit null. -/
  | mustInitNull
  | initialized
  deriving DecidableEq

/-- Storage and provenance of a variable. -/
structure Flags where
  /-- The variable comes from a parameter. -/
  isExternal : Bool := false
  isReadOnly : Bool := false
  /-- The boxed value itself is a C local, not a pointer to one. -/
  isLocalOnly : Bool := false
  /-- One more indirection, for a parameter passed by reference. -/
  isDoublePointer : Bool := false
  /-- The receiver or the return slot, which is never declared or reported. -/
  isImplicit : Bool := false
  /-- The slot that receives an argument before it is converted. -/
  isParamSlot : Bool := false
  deriving DecidableEq

namespace Flags

def union (a b : Flags) : Flags :=
  { isExternal := a.isExternal || b.isExternal
    isReadOnly := a.isReadOnly || b.isReadOnly
    isLocalOnly := a.isLocalOnly || b.isLocalOnly
    isDoublePointer := a.isDoublePointer || b.isDoublePointer
    isImplicit := a.isImplicit || b.isImplicit
    isParamSlot := a.isParamSlot || b.isParamSlot }

/-- A set of flags as a number, one binary digit for each flag. -/
def bits (f : Flags) : Nat :=
  f.isExternal.toNat + 2 * f.isReadOnly.toNat + 4 * f.isLocalOnly.toNat +
    8 * f.isDoublePointer.toNat + 16 * f.isImplicit.toNat + 32 * f.isParamSlot.toNat

end Flags

/-- A C expression for a boxed value: a pointer variable, or the address of an inline one. -/
structure Operand where
  name : String
  isAddress : Bool
  deriving DecidableEq

def Operand.text (o : Operand) : String := if o.isAddress then "&" ++ o.name else o.name

structure Variable where
  name : String
  type : StorageType
  init : InitState := .uninitialized
  flags : Flags := {}
  /-- The number of recorded uses, modulo `2 ^ 32`. -/
  uses : UInt32 := 0
  /-- The classes an object must be an instance of, each class once. -/
  constraints : List ClassName := []
  /-- The value the variable is initialised with. -/
  seed : Option Literal := none
  span : Span := .nowhere

namespace Variable

def isExternal (v : Variable) : Bool := v.flags.isExternal

def isLocalOnly (v : Variable) : Bool := v.flags.isLocalOnly

def isDoublePointer (v : Variable) : Bool := v.flags.isDoublePointer

def isImplicit (v : Variable) : Bool := v.flags.isImplicit

def isParamSlot (v : Variable) : Bool := v.flags.isParamSlot

/-- Never used, and nobody else supplies it. -/
def isDead (v : Variable) : Bool := v.uses == 0 && !v.isExternal && !v.isImplicit

/-- A parameter that is never used.  Slots do not count: they serve their parameter. -/
def isUnusedParameter (v : Variable) : Bool :=
  v.uses == 0 && v.isExternal && !v.isImplicit && !v.isParamSlot

/-- The pointer to the boxed value of a variable. -/
def operand (v : Variable) : Operand := ⟨v.name, v.isLocalOnly⟩

/-- Adds flags; none is ever taken away. -/
def addFlags (v : Variable) (f : Flags) : Variable := { v with flags := v.flags.union f }

/-- Adds a class constraint unless the class is already there. -/
def addConstraint (v : Variable) (c : ClassName) : Variable :=
  if v.constraints.any (·.sameClass c) then v
  else { v with constraints := v.constraints ++ [c] }

end Variable

end NativeMethod
