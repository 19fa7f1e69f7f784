import NativeMethod.Literal.Basic
import NativeMethod.Span
import NativeMethod.StorageType

/-!
# Compile errors

Why a method cannot be compiled.  Every cause that lies in a source has a span; the two causes
that only a defective body compiler can bring about have none.
-/

namespace NativeMethod

/-- Why the compilation of a method stopped. -/
inductive CompileError where
  /-- Two modifiers exclude each other. -/
  | modifierConflict (method first second : String) (span : Span)
  /-- A constructor or destructor has a modifier it cannot have. -/
  | illegalModifier (method role modifier : String) (span : Span)
  /-- A parameter constrained to a class has a default other than null. -/
  | constrainedDefault (parameter className : String) (span : Span)
  /-- A literal cannot initialise a variable of the type. -/
  | unsupportedDefault (name : String) (target : StorageType) (literal : LiteralKind) (span : Span)
  /-- The type is not one that a parameter can have. -/
  | unsupportedParameter (parameter : String) (type : StorageType) (span : Span)
  /-- A variable of a type without storage was to be declared. -/
  | undeclarable (name : String) (type : StorageType)
  /-- The end of the body is reached although a value is owed. -/
  | missingReturn (method : String) (span : Span)
  /-- A variable that backs a parameter is already taken. -/
  | nameClash (parameter taken : String) (span : Span)
  /-- A variable was declared again with another type. -/
  | typeConflict (name : String) (existing requested : StorageType) (span : Span)
  /-- A defect of whoever drives the compilation. -/
  | defect (message : String)
  deriving DecidableEq

namespace CompileError

/-- Where the cause lies, if it lies in a source. -/
def span? : CompileError → Option Span
  | modifierConflict _ _ _ s
  | illegalModifier _ _ _ s
  | constrainedDefault _ _ s
  | unsupportedDefault _ _ _ s
  | unsupportedParameter _ _ s
  | missingReturn _ s
  | nameClash _ _ s
  | typeConflict _ _ _ s => some s
  | undeclarable _ _
  | defect _ => none

/-- The cause is a defect and not the source. -/
def isInternal : CompileError → Bool
  | undeclarable _ _ | defect _ => true
  | _ => false

/-- The place at the head of a message. -/
def place (s : Span) : String := "at " ++ s.text ++ ": "

def message : CompileError → String
  | modifierConflict method first second span =>
    place span ++ s!"method '{method}' cannot be both {first} and {second}"
  | illegalModifier method role modifier span =>
    place span ++ s!"{role} '{method}' cannot be {modifier}"
  | constrainedDefault parameter className span =>
    place span ++
      s!"parameter '{parameter}' is constrained to '{className}' and can only default to null"
  | unsupportedDefault name target literal span =>
    place span ++
      s!"default value of kind {literal.name} cannot initialize '{name}' of type {target.name}"
  | unsupportedParameter parameter type span =>
    place span ++ s!"parameter '{parameter}' has unsupported type {type.name}"
  | undeclarable name type =>
    s!"internal error: cannot declare variable '{name}' of type {type.name}"
  | missingReturn method span =>
    place span ++
      s!"reached end of method '{method}' without returning a value of the declared return type"
  | nameClash parameter taken span =>
    place span ++ s!"parameter '{parameter}' needs variable '{taken}', which is already declared"
  | typeConflict name existing requested span =>
    place span ++
      s!"variable '{name}' redeclared as {requested.name}, previously {existing.name}"
  | defect message => "internal error: " ++ message

/-- An error has a place exactly when it is not internal. -/
theorem span?_eq_none_iff (e : CompileError) : e.span? = none ↔ e.isInternal = true := by
  cases e <;> simp [span?, isInternal]

end CompileError

end NativeMethod
