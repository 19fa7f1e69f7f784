import NativeMethod.CConstant

/-!
# Literals

The values that a source gives as defaults.  The null literal also stands for "no explicit
value": it initialises a variable with the empty value of its type.

Equality of literals, `Literal.same`, is equality of values: doubles are compared as numbers,
so the zeros are equal and so are all NaNs.
-/

namespace NativeMethod

/-- A default value of the source. -/
inductive Literal where
  | null
  | int (value : Int64)
  | char (byte : UInt8)
  | double (value : Binary64)
  | bool (value : Bool)
  | string (value : String)
  | array (items : List Literal)

/-- The kind of a literal, as far as messages tell. -/
inductive LiteralKind where
  | null
  | int
  | char
  | double
  | bool
  | string
  | array
  deriving DecidableEq

namespace LiteralKind

def name : LiteralKind → String
  | null => "null"
  | int => "integer"
  | char => "char"
  | double => "double"
  | bool => "bool"
  | string => "string"
  | array => "array"

def isIntLike : LiteralKind → Bool
  | int | char => true
  | _ => false

end LiteralKind

namespace Literal

def kind : Literal → LiteralKind
  | null => .null
  | int _ => .int
  | char _ => .char
  | double _ => .double
  | bool _ => .bool
  | string _ => .string
  | array _ => .array

def isNull : Literal → Bool
  | null => true
  | _ => false

/-- The C constant of a literal; arrays have none. -/
def constant? : Literal → Option CConstant
  | null => some .zero
  | int value => some (.integer value)
  | char byte => some (.character byte)
  | double value => some (.real value)
  | bool value => some (.ofBool value)
  | string value => some (.text value)
  | array _ => none

/-- The C expression of a literal; arrays have none. -/
def spelling? (l : Literal) : Option String := l.constant?.map CConstant.spelling

mutual

/-- Two literals are the same value. -/
def same : Literal → Literal → Bool
  | null, null => true
  | int v, int w => v == w
  | char b, char c => b == c
  | double x, double y => x.same y
  | bool v, bool w => v == w
  | string s, string t => s == t
  | array xs, array ys => sameItems xs ys
  | _, _ => false

/-- Two lists of literals are the same, item by item. -/
def sameItems : List Literal → List Literal → Bool
  | [], [] => true
  | x :: xs, y :: ys => same x y && sameItems xs ys
  | _, _ => false

end

instance : BEq Literal := ⟨same⟩

end Literal

end NativeMethod
