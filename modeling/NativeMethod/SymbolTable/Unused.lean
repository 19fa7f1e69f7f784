import NativeMethod.Diagnostics
import NativeMethod.SymbolTable.Basic

/-!
# Unused variables

A local that nobody uses is probably a mistake.  A parameter that nobody uses is only worth a
note, as its callers have to supply it all the same.
-/

namespace NativeMethod.SymbolTable

/-- The locals that were declared and never used. -/
def deadVariables (t : SymbolTable) : List Variable := t.variables.filter (·.isDead)

/-- The parameters that were never used. -/
def unusedParameters (t : SymbolTable) : List Variable :=
  t.variables.filter (·.isUnusedParameter)

/-- The findings about unused variables: all warnings about locals, then all notes about
parameters. -/
def unusedReports (t : SymbolTable) (method : String) : List Diagnostic :=
  (t.deadVariables.map fun v =>
      ⟨.warning, "variable '" ++ v.name ++ "' declared but not used in " ++ method, v.span⟩) ++
    t.unusedParameters.map fun v =>
      ⟨.info, "parameter '" ++ v.name ++ "' is never used in " ++ method, v.span⟩

end NativeMethod.SymbolTable
