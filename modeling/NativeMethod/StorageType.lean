/-!
# Storage types

The closed set of types a compiled variable may have.  A type is *native* (a C scalar), *boxed*
(held in a `zval`), *internal* (a runtime structure that only method bodies use) or has no
storage at all.  The ordinal fixes the order of the declaration groups.
-/

namespace NativeMethod

/-- How a compiled variable is stored. -/
inductive StorageType where
  | int
  | uint
  | long
  | ulong
  | char
  | uchar
  | bool
  | double
  | string
  | array
  /-- A boxed value of any kind. -/
  | generic
  /-- A boxed value of any kind that was declared so. -/
  | mixed
  | object
  | callable
  | resource
  | classEntry
  | callCache
  | hashTable
  | hashPosition
  | objectIterator
  /-- No storage: a return hint only. -/
  | void
  /-- A type nobody has resolved. -/
  | unknown
  deriving DecidableEq

namespace StorageType

/-- All types, in the order of their ordinals. -/
def all : List StorageType :=
  [int, uint, long, ulong, char, uchar, bool, double, string, array, generic, mixed, object,
    callable, resource, classEntry, callCache, hashTable, hashPosition, objectIterator, void,
    unknown]

/-- The place of a type in the order of declaration groups. -/
def ordinal (t : StorageType) : Nat := all.idxOf t

/-- The type with a given ordinal. -/
def ofOrdinal? (n : Nat) : Option StorageType := all[n]?

def name : StorageType → String
  | int => "int"
  | uint => "uint"
  | long => "long"
  | ulong => "ulong"
  | char => "char"
  | uchar => "uchar"
  | bool => "bool"
  | double => "double"
  | string => "string"
  | array => "array"
  | generic => "variable"
  | mixed => "mixed"
  | object => "object"
  | callable => "callable"
  | resource => "resource"
  | classEntry => "zend_class_entry"
  | callCache => "zephir_fcall_cache_entry"
  | hashTable => "HashTable"
  | hashPosition => "HashPosition"
  | objectIterator => "zend_object_iterator"
  | void => "void"
  | unknown => "unknown"

/-- The type that has a given name in messages. -/
def ofName? (s : String) : Option StorageType := all.find? (·.name == s)

/-- The type a source name stands for.  Four types have a second name in sources; internal and
unresolved types have none. -/
def ofSource? (s : String) : Option StorageType :=
  match s with
  | "int" => some int
  | "uint" => some uint
  | "long" => some long
  | "ulong" => some ulong
  | "char" => some char
  | "uchar" => some uchar
  | "bool" | "boolean" => some bool
  | "double" | "float" => some double
  | "string" | "istring" => some string
  | "array" => some array
  | "var" | "variable" => some generic
  | "mixed" => some mixed
  | "object" => some object
  | "callable" => some callable
  | "resource" => some resource
  | "void" => some void
  | _ => none

/-- The complaint about a source name that stands for no type. -/
def unknownName (s : String) : String := "unknown type name '" ++ s ++ "'"

/-! ## Families -/

/-- Every width of C integer, the character types included. -/
def isInteger : StorageType → Bool
  | int | uint | long | ulong | char | uchar => true
  | _ => false

/-- The C scalars a literal can initialise: integers, doubles and booleans. -/
def isNative (t : StorageType) : Bool := t.isInteger || t == double || t == bool

/-- Types held in a `zval`. -/
def isBoxed : StorageType → Bool
  | string | array | generic | mixed | object | callable | resource => true
  | _ => false

/-- Boxed types that take any argument as it comes. -/
def isPolymorphic : StorageType → Bool
  | generic | mixed | object | callable | resource => true
  | _ => false

/-- Runtime structures, which only method bodies declare. -/
def isInternal : StorageType → Bool
  | classEntry | callCache | hashTable | hashPosition | objectIterator => true
  | _ => false

/-- Internal types that are only ever handled through a pointer. -/
def isPointer : StorageType → Bool
  | classEntry | callCache | hashTable | objectIterator => true
  | _ => false

/-- Types whose parameters are received in a slot of their own and converted from there. -/
def hasSlot (t : StorageType) : Bool := t.isNative || t == string || t == array

/-- The C type of a declaration; the types without storage have none. -/
def cType? : StorageType → Option String
  | int => some "zend_long"
  | uint => some "zend_ulong"
  | long => some "long"
  | ulong => some "unsigned long"
  | char => some "char"
  | uchar => some "unsigned char"
  | bool => some "zend_bool"
  | double => some "double"
  | string | array | generic | mixed | object | callable | resource => some "zval"
  | classEntry => some "zend_class_entry"
  | callCache => some "zephir_fcall_cache_entry"
  | hashTable => some "HashTable"
  | hashPosition => some "HashPosition"
  | objectIterator => some "zend_object_iterator"
  | void | unknown => none

/-! ## Laws of the families -/

theorem ofOrdinal?_ordinal (t : StorageType) : ofOrdinal? t.ordinal = some t := by
  cases t <;> rfl

/-- What can be a parameter is either converted from a slot or taken as it comes, never both. -/
theorem isPolymorphic_eq_not_hasSlot {t : StorageType} (declarable : t.cType?.isSome)
    (user : t.isInternal = false) : t.isPolymorphic = !t.hasSlot := by
  revert declarable user
  cases t <;> decide

theorem isBoxed_of_isPolymorphic {t : StorageType} (h : t.isPolymorphic) : t.isBoxed := by
  revert h
  cases t <;> decide

end StorageType

end NativeMethod
