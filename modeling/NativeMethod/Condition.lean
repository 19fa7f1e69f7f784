import NativeMethod.Probe

/-!
# Conditions — tests in generated code

The C conditions that decide whether an argument is refused: comparisons of its type with a
constant of the runtime, instance tests, and conjunctions of those.
-/

namespace NativeMethod

/-- The type constants of the runtime that conditions compare with. -/
inductive TypeConstant where
  | null
  | yes
  | no
  | long
  | double
  | string
  | array
  deriving DecidableEq

def TypeConstant.symbol : TypeConstant → String
  | null => "IS_NULL"
  | yes => "IS_TRUE"
  | no => "IS_FALSE"
  | long => "IS_LONG"
  | double => "IS_DOUBLE"
  | string => "IS_STRING"
  | array => "IS_ARRAY"

/-- A C condition on the argument in a variable, the `subject`. -/
inductive Condition where
  /-- The argument has another type. -/
  | hasNotType (subject : String) (type : TypeConstant)
  /-- The argument is no instance of the class. -/
  | notInstanceOf (subject : String) (c : ClassName)
  | both (first second : Condition)
  deriving DecidableEq

namespace Condition

/-- The C text; a conjunction needs no parentheses, as no other operator binds more loosely
around it. -/
def text : Condition → String
  | hasNotType subject type => "Z_TYPE_P(" ++ subject ++ ") != " ++ type.symbol
  | notInstanceOf subject c => "!(zephir_instance_of_ev(" ++ subject ++ ", " ++ c.entrySymbol ++ "))"
  | both first second => first.text ++ " && " ++ second.text

end Condition

/-- The condition that an argument does not carry a tag.  A boolean has a type of its own for
each of its values. -/
def BoxTag.mismatch (tag : BoxTag) (subject : String) : Condition :=
  match tag with
  | long => .hasNotType subject .long
  | double => .hasNotType subject .double
  | bool => .both (.hasNotType subject .yes) (.hasNotType subject .no)
  | string => .hasNotType subject .string
  | array => .hasNotType subject .array

end NativeMethod
