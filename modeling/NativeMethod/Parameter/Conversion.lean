import NativeMethod.Probe

/-!
# Conversions of arguments

How the local of a parameter is computed from the slot that received the argument.  A strict
parameter knows the type of its argument and reads the value out; any other asks the runtime to
convert whatever came.
-/

namespace NativeMethod

inductive Conversion where
  | longValue
  | castLong (cType : String)
  | doubleValue
  | isTrue
  /-- A function of the runtime returns the value. -/
  | call (function : String)
  /-- A function of the runtime writes a boxed value, which it allocates. -/
  | write (function : String)
  deriving DecidableEq

namespace Conversion

def text (c : Conversion) (name slot : String) : String :=
  match c with
  | longValue => name ++ " = Z_LVAL_P(" ++ slot ++ ");"
  | castLong cType => name ++ " = (" ++ cType ++ ") Z_LVAL_P(" ++ slot ++ ");"
  | doubleValue => name ++ " = Z_DVAL_P(" ++ slot ++ ");"
  | isTrue => name ++ " = (Z_TYPE_P(" ++ slot ++ ") == IS_TRUE);"
  | call function => name ++ " = " ++ function ++ "(" ++ slot ++ ");"
  | write function => function ++ "(&" ++ name ++ ", " ++ slot ++ ");"

def allocates : Conversion → Bool
  | write _ => true
  | _ => false

end Conversion

namespace StorageType

/-- The conversion of an argument that is known to carry the tag of the type. -/
def strictConversion? : StorageType → Option Conversion
  | int | long => some .longValue
  | uint => some (.castLong "zend_ulong")
  | ulong => some (.castLong "unsigned long")
  | char => some (.castLong "char")
  | uchar => some (.castLong "unsigned char")
  | double => some .doubleValue
  | bool => some .isTrue
  | string => some (.write "zephir_get_strval")
  | array => some (.write "ZEPHIR_OBS_COPY_OR_DUP")
  | _ => none

/-- The conversion of an argument of any kind. -/
def looseConversion? : StorageType → Option Conversion
  | int | uint | long | ulong => some (.call "zephir_get_intval")
  | char | uchar => some (.call "zephir_get_charval")
  | double => some (.call "zephir_get_doubleval")
  | bool => some (.call "zephir_get_boolval")
  | string => some (.write "zephir_get_strval")
  | array => some (.write "zephir_get_arrval")
  | _ => none

/-! ## Laws -/

/-- Types with a slot have both conversions, and no other type has one. -/
theorem strictConversion?_isSome (t : StorageType) : t.strictConversion?.isSome = t.hasSlot := by
  cases t <;> decide

theorem looseConversion?_isSome (t : StorageType) : t.looseConversion?.isSome = t.hasSlot := by
  cases t <;> decide

end StorageType

end NativeMethod
