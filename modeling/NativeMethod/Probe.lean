import NativeMethod.ClassName
import NativeMethod.StorageType

/-!
# Probes — descriptions of arguments

A probe stands for an argument that a caller might pass.  Guards are asked about probes, and
strict parameters about the *tag* that an argument carries.
-/

namespace NativeMethod

/-- The type tags that a strict parameter can ask for. -/
inductive BoxTag where
  | long
  | double
  | bool
  | string
  | array
  deriving DecidableEq

/-- The tag that arguments of a type carry; only types with a slot have one. -/
def StorageType.tag? (t : StorageType) : Option BoxTag :=
  if t.isInteger then some .long
  else
    match t with
    | .double => some .double
    | .bool => some .bool
    | .string => some .string
    | .array => some .array
    | _ => none

inductive Probe where
  | null
  | long
  | double
  | bool (value : Bool)
  | string
  | array
  /-- An object of a class, with the classes above that one. -/
  | object (own : ClassName) (ancestors : List ClassName)
  deriving DecidableEq

namespace Probe

/-- The argument is an object of a class or of a class below it. -/
def isInstanceOf (p : Probe) (c : ClassName) : Bool :=
  match p with
  | object own ancestors => own.sameClass c || ancestors.any (·.sameClass c)
  | _ => false

/-- The tag of an argument; null and objects carry none that can be asked for. -/
def tag? : Probe → Option BoxTag
  | null => none
  | long => some .long
  | double => some .double
  | bool _ => some .bool
  | string => some .string
  | array => some .array
  | object _ _ => none

end Probe

/-! ## Laws -/

theorem StorageType.tag?_isSome (t : StorageType) : t.tag?.isSome = t.hasSlot := by
  cases t <;> decide

end NativeMethod
