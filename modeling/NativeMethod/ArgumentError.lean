/-!
# Argument errors

What generated code tells a caller whose argument it refuses.  These errors are raised when the
compiled method is called, never by the compilation.
-/

namespace NativeMethod

/-- Why an argument is refused at call time. -/
inductive ArgumentError where
  /-- The argument does not have the declared type. -/
  | wrongType (parameter expected : String)
  /-- The argument is no instance of the class. -/
  | notAnInstance (parameter expected : String)
  deriving DecidableEq

namespace ArgumentError

/-- The parameter whose argument is refused. -/
def parameter : ArgumentError → String
  | wrongType p _ | notAnInstance p _ => p

/-- The type or class that was expected. -/
def expected : ArgumentError → String
  | wrongType _ e | notAnInstance _ e => e

def message : ArgumentError → String
  | wrongType parameter expected =>
    s!"Parameter '{parameter}' must be of the type {expected}"
  | notAnInstance parameter expected =>
    s!"Parameter '{parameter}' must be an instance of '{expected}'"

end ArgumentError

end NativeMethod
