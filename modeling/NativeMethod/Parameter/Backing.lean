import NativeMethod.Parameter.Basic
import NativeMethod.Variable

/-!
# Backing variables

The variables behind a parameter.  Every parameter has a local of its name.  A parameter of a
type with a slot is fetched into an extra variable and converted from there; any other is
fetched into its local directly.
-/

namespace NativeMethod

namespace Parameter

/-- The slot that receives the argument, for types that are converted. -/
def slotName? (p : Parameter) : Option String :=
  if p.type.hasSlot then some (p.name ++ "_param") else none

/-- The C variable that the argument is fetched into. -/
def fetchedName (p : Parameter) : String := p.slotName?.getD p.name

/-- The variable that is fetched starts as null if the caller may leave it out. -/
def fetchedInit (p : Parameter) : InitState :=
  if p.isOptional then .mustInitNull else .initialized

/-- The local of a parameter.  Strings and arrays are converted into a value stored inline. -/
def localVariable (p : Parameter) : Variable :=
  { name := p.name
    type := p.type
    init := if p.type.hasSlot then .initialized else p.fetchedInit
    flags :=
      { isExternal := true
        isReadOnly := p.isConstant
        isLocalOnly := p.type == .string || p.type == .array }
    constraints := p.constraint.toList
    span := p.span }

def slotVariable? (p : Parameter) : Option Variable :=
  p.slotName?.map fun name =>
    { name
      type := .generic
      init := p.fetchedInit
      flags := { isExternal := true, isParamSlot := true }
      span := p.span }

/-- The variables behind a parameter: its local and then its slot. -/
def backing (p : Parameter) : List Variable := p.localVariable :: p.slotVariable?.toList

/-! ## Laws -/

/-- The variable that is fetched backs the parameter. -/
theorem fetchedName_mem_backing (p : Parameter) : p.fetchedName ∈ p.backing.map (·.name) := by
  cases h : p.type.hasSlot <;>
    simp [fetchedName, backing, slotVariable?, slotName?, localVariable, h]

theorem isExternal_of_mem_backing {p : Parameter} {v : Variable} (h : v ∈ p.backing) :
    v.isExternal = true := by
  cases hs : p.type.hasSlot <;>
    simp [backing, slotVariable?, slotName?, localVariable, hs] at h
  · simp [h, Variable.isExternal]
  · rcases h with rfl | rfl <;> rfl

end Parameter

end NativeMethod
