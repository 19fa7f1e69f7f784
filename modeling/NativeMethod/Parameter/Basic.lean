import NativeMethod.ClassName
import NativeMethod.Literal.Basic
import NativeMethod.Span
import NativeMethod.StorageType

/-!
# Parameters

A declared parameter.  It is optional exactly when it has a default; it may be constrained to a
class, checked strictly instead of converted, and protected from assignment.
-/

namespace NativeMethod

/-- A declared parameter of a method. -/
structure Parameter where
  name : String
  /-- The declared type, if any. -/
  declaredType : Option StorageType := none
  /-- The class whose instances the parameter takes, if it is constrained. -/
  constraint : Option ClassName := none
  /-- The value taken when the caller supplies none. -/
  default : Option Literal := none
  /-- Arguments of another type are refused instead of converted. -/
  isStrict : Bool := false
  isConstant : Bool := false
  span : Span := .nowhere

namespace Parameter

/-- The type a parameter is stored as.  Without a declared type a constrained parameter is an
object, and any other takes whatever comes. -/
def type (p : Parameter) : StorageType :=
  match p.declaredType, p.constraint with
  | some t, _ => t
  | none, some _ => .object
  | none, none => .generic

/-- The caller may leave the parameter out. -/
def isOptional (p : Parameter) : Bool := p.default.isSome

end Parameter

end NativeMethod
