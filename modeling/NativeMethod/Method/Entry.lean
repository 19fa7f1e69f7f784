import NativeMethod.ClassName
import NativeMethod.Method.Basic

/-!
# Method entries

The line that registers a compiled method with its class.
-/

namespace NativeMethod

namespace Visibility

def word : Visibility → String
  | everyone => "public"
  | descendants => "protected"
  | classOnly => "private"

def accessFlag : Visibility → String
  | everyone => "ZEND_ACC_PUBLIC"
  | descendants => "ZEND_ACC_PROTECTED"
  | classOnly => "ZEND_ACC_PRIVATE"

end Visibility

namespace Method

/-- The access flags of a method: its visibility, other modifiers, and its role. -/
def accessFlags (m : Method) : List String :=
  let flag (holds : Bool) (name : String) : List String := if holds then [name] else []
  [m.visibility.accessFlag] ++ flag (m.has .static) "ZEND_ACC_STATIC" ++
    flag (m.has .final) "ZEND_ACC_FINAL" ++ flag (m.has .abstract) "ZEND_ACC_ABSTRACT" ++
    flag (m.has .deprecated) "ZEND_ACC_DEPRECATED" ++ flag m.isConstructor "ZEND_ACC_CTOR"

/-- The access flags as a C expression. -/
def accessExpression (m : Method) : String := " | ".intercalate m.accessFlags

end Method

structure MethodEntry where
  classPrefix : String
  name : String
  /-- The C symbol that describes the arguments. -/
  argumentInfo : String
  flags : String
  deriving DecidableEq

namespace MethodEntry

/-- The registration of a method of a class. -/
def ofMethod (c : ClassName) (m : Method) : MethodEntry :=
  { classPrefix := c.cPrefix
    name := m.name
    argumentInfo := "arginfo_" ++ Ascii.lower c.cPrefix ++ "_" ++ Ascii.lower m.name
    flags := m.accessExpression }

def line (e : MethodEntry) : String :=
  "PHP_ME(" ++ e.classPrefix ++ ", " ++ e.name ++ ", " ++ e.argumentInfo ++ ", " ++ e.flags ++ ")"

end MethodEntry

end NativeMethod
