import NativeMethod.Number.Shortest
import NativeMethod.Text.Quoted

/-!
# C constants

The constant expressions that generated code is initialised from, as values with a spelling.
-/

namespace NativeMethod

inductive CConstant where
  /-- Decimal digits, with a minus sign for a negative value. -/
  | integer (value : Int64)
  /-- A character constant in single quotes. -/
  | character (byte : UInt8)
  | real (value : Binary64)
  /-- A string literal in double quotes. -/
  | text (value : String)
  deriving DecidableEq

namespace CConstant

/-- Zero, which also stands for an absent scalar and for a false one. -/
def zero : CConstant := .integer 0

/-- Truth values are the integers one and zero. -/
def ofBool (b : Bool) : CConstant := .integer (if b then 1 else 0)

def spelling : CConstant → String
  | integer value => toString value.toInt
  | character byte => Quoted.character byte
  | real value => value.spelling
  | text value => Quoted.string value

end CConstant

end NativeMethod
