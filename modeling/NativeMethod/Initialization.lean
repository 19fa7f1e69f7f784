import NativeMethod.Command
import NativeMethod.CompileError
import NativeMethod.Facts
import NativeMethod.Literal.Native
import NativeMethod.SharedConstants

/-!
# Initialisation of variables

The code that gives a variable the value of a literal.  A native variable is assigned a
constant.  A boxed variable either points at a shared value, where nothing will be written
through it, or gets a value of its own, which needs a managed frame.

* `Variable.initialization?` — the table of conversions: which type takes which literal;
* `Variable.genericInitialization?_eq` — a variable for values of any kind takes them all;
* `Variable.shareOrCopy` — the choice between a shared value and one's own.
-/

namespace NativeMethod

/-- The code that gives a variable its first value. -/
inductive Initialization where
  /-- A native variable is assigned a constant. -/
  | assign (name : String) (value : CConstant)
  /-- A pointer is set to the address of a shared value. -/
  | share (name address : String)
  /-- A boxed value is allocated and filled in by commands. -/
  | build (target : Operand) (commands : List Command)
  deriving DecidableEq

namespace Initialization

def lines : Initialization → List String
  | assign name value => [name ++ " = " ++ value.spelling ++ ";"]
  | share name address => [name ++ " = " ++ address ++ ";"]
  | build target commands => ("ZEPHIR_INIT_VAR(" ++ target.text ++ ");") :: Command.lines 0 commands

/-- Only a value of one's own is allocated, and needs a managed frame. -/
def allocates : Initialization → Bool
  | build _ _ => true
  | _ => false

end Initialization

namespace Variable

/-- A boxed value of the variable's own, holding a scalar. -/
def buildScalar (v : Variable) (value : BoxedScalar) : Initialization :=
  .build v.operand [.set v.operand value]

/-- A shared value if the variable is a pointer and may share it, and a copy otherwise. -/
def shareOrCopy (v : Variable) (constants : SharedConstants) (e : Estimate) (s : SharedValue) :
    Initialization :=
  -- an inline value has no pointer that could be redirected
  if e.mayShare && !v.isLocalOnly then .share v.name (constants.address s)
  else
    match s with
    | .null => v.buildScalar .null
    | .bool b => v.buildScalar (.bool b)

/-- The code for a variable that holds values of any kind. -/
def genericInitialization? (v : Variable) (constants : SharedConstants) (e : Estimate) :
    Literal → Option Initialization
  | .null => some (v.shareOrCopy constants e .null)
  | .bool b => some (v.shareOrCopy constants e (.bool b))
  | .int n => some (v.buildScalar (.int n))
  -- a character goes by its constant, as in an array
  | .char b => (Literal.char b).constant?.map fun constant => v.buildScalar (.ofConstant constant)
  | .double x => some (v.buildScalar (.double x))
  | .string s => some (v.buildScalar (.string s))
  | .array items => (Command.buildArray? v items).map (.build v.operand)

/-- The code that gives a variable the value of a literal, if its type can hold it. -/
def initialization? (v : Variable) (constants : SharedConstants) (e : Estimate) (l : Literal) :
    Option Initialization :=
  match v.type, l with
  | .string, .null => some (.build v.operand [.setEmptyString v.operand])
  | .string, .string s => some (v.buildScalar (.string s))
  | .array, .null => some (.build v.operand [.newArray v.operand])
  | .array, .array items => (Command.buildArray? v items).map (.build v.operand)
  | .generic, l => v.genericInitialization? constants e l
  | .mixed, l => v.genericInitialization? constants e l
  | .object, .null => some (v.shareOrCopy constants e .null)
  | .callable, .null => some (v.shareOrCopy constants e .null)
  | .resource, .null => some (v.shareOrCopy constants e .null)
  | t, l => (l.nativeConstant? t).map (.assign v.name)

/-- The code that gives a variable the value of a literal.  A literal that the type cannot hold
is an error of the source at the given place. -/
def initialization (v : Variable) (constants : SharedConstants) (e : Estimate) (span : Span)
    (l : Literal) : Except CompileError Initialization :=
  match v.initialization? constants e l with
  | some i => .ok i
  | none => .error (.unsupportedDefault v.name v.type l.kind span)

/-! ## Laws -/

/-- The code for a variable that holds values of any kind, as every literal has some. -/
def genericInitialization (v : Variable) (constants : SharedConstants) (e : Estimate) :
    Literal → Initialization
  | .null => v.shareOrCopy constants e .null
  | .bool b => v.shareOrCopy constants e (.bool b)
  | .int n => v.buildScalar (.int n)
  | .char b => v.buildScalar (.char b)
  | .double x => v.buildScalar (.double x)
  | .string s => v.buildScalar (.string s)
  | .array items => .build v.operand (Command.buildArray v items)

theorem genericInitialization?_eq (v : Variable) (constants : SharedConstants) (e : Estimate)
    (l : Literal) :
    v.genericInitialization? constants e l = some (v.genericInitialization constants e l) := by
  cases l with
  | array items =>
      rw [genericInitialization?, Command.buildArray?_eq]
      rfl
  | _ => rfl

/-- What a native variable is given is assigned and needs no frame. -/
theorem initialization?_of_isNative {v : Variable} (constants : SharedConstants) (e : Estimate)
    (l : Literal) (h : v.type.isNative = true) :
    v.initialization? constants e l = (l.nativeConstant? v.type).map (.assign v.name) := by
  unfold initialization?
  split <;> simp_all [StorageType.isNative, StorageType.isInteger]

end Variable

end NativeMethod
