import NativeMethod.Literal.Basic
import NativeMethod.StorageType

/-!
# Defaults of native variables

The C constant that gives a C scalar the value of a literal:

* integers take null (as zero), integers, characters, and finite doubles, which lose their
  fraction and are then brought into 64 bits;
* doubles take null, integers and characters, rounded to the nearest double, and doubles;
* booleans take null (as false) and booleans.

No other type has such constants, and no other literal fits.
-/

namespace NativeMethod

/-- The 64-bit integer nearest to an integer. -/
def clamp64 (n : Int) : Int64 :=
  Int64.ofInt (max Int64.minValue.toInt (min n Int64.maxValue.toInt))

namespace Literal

/-- The constant for an integer variable. -/
def integerConstant? : Literal → Option CConstant
  | null => some .zero
  | int value => some (.integer value)
  | char byte => some (.character byte)
  | double value => if value.isFinite then some (.integer (clamp64 value.truncate)) else none
  | _ => none

/-- The constant for a double variable. -/
def doubleConstant? : Literal → Option CConstant
  | null => some .zero
  | int value => some (.real (.ofInt value.toInt))
  | char byte => some (.real (.ofInt byte.toNat))
  | double value => some (.real value)
  | _ => none

/-- The constant for a boolean variable. -/
def boolConstant? : Literal → Option CConstant
  | null => some .zero
  | bool value => some (.ofBool value)
  | _ => none

/-- The constant that gives a variable of a type the value of a literal. -/
def nativeConstant? (l : Literal) (t : StorageType) : Option CConstant :=
  if t.isInteger then l.integerConstant?
  else if t = .double then l.doubleConstant?
  else if t = .bool then l.boolConstant?
  else none

/-- Only native variables have constants. -/
theorem nativeConstant?_eq_none {l : Literal} {t : StorageType} (h : t.isNative = false) :
    l.nativeConstant? t = none := by
  revert h
  cases t <;> simp [nativeConstant?, StorageType.isNative, StorageType.isInteger]

end Literal

end NativeMethod
