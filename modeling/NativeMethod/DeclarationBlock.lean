import NativeMethod.Literal.Native
import NativeMethod.SymbolTable.Basic

/-!
# Declaration blocks

The C declarations of the variables of a method: one statement for each type, one declarator for
each variable.  Boxed values that live in the C local itself have nothing to be initialised with
there and get a line of their own that marks them as undefined.
-/

namespace NativeMethod

/-- What a declarator is initialised with. -/
inductive Initializer where
  | nullPointer
  | constant (value : CConstant)
  deriving DecidableEq

def Initializer.text : Initializer → String
  | nullPointer => "NULL"
  | constant value => value.spelling

/-- The declaration of one variable behind its C type. -/
structure Declarator where
  name : String
  /-- The number of stars in front of the name. -/
  indirection : Nat
  initial : Option Initializer
  deriving DecidableEq

def Declarator.text (d : Declarator) : String :=
  let named := String.ofList (List.replicate d.indirection '*') ++ d.name
  match d.initial with
  | none => named
  | some i => named ++ " = " ++ i.text

structure DeclarationGroup where
  type : StorageType
  cType : String
  declarators : List Declarator
  deriving DecidableEq

def DeclarationGroup.text (g : DeclarationGroup) : String :=
  g.cType ++ " " ++ ", ".intercalate (g.declarators.map Declarator.text) ++ ";"

structure DeclarationBlock where
  groups : List DeclarationGroup
  /-- The boxed variables that start as undefined values. -/
  undefined : List String
  deriving DecidableEq

namespace DeclarationBlock

def declarations (b : DeclarationBlock) : List String := b.groups.map DeclarationGroup.text

/-- One line for each boxed value that is stored inline. -/
def initializers (b : DeclarationBlock) : List String :=
  b.undefined.map fun name => "ZVAL_UNDEF(&" ++ name ++ ");"

def isEmpty (b : DeclarationBlock) : Bool := b.groups.isEmpty && b.undefined.isEmpty

end DeclarationBlock

namespace Variable

/-- The boxed value of the variable is stored in the C local itself. -/
def isInlineBoxed (v : Variable) : Bool := v.type.isBoxed && v.isLocalOnly

/-- A pointer starts as null where the variable says so, and a cache always does. -/
def pointerInitializer? (v : Variable) : Option Initializer :=
  if v.init = .mustInitNull ∨ v.type = .callCache then some .nullPointer else none

/-- A scalar starts with its literal, else as zero where the variable says so. -/
def scalarInitializer? (v : Variable) : Except CompileError (Option Initializer) :=
  match v.seed with
  | some l =>
    match l.nativeConstant? v.type with
    | some c => .ok (some (.constant c))
    | none => .error (.unsupportedDefault v.name v.type l.kind v.span)
  | none => .ok (if v.init = .mustInitNull then some (.constant .zero) else none)

/-- The declarator of a variable.  A literal is spelled out only for scalars. -/
def declarator (v : Variable) : Except CompileError Declarator :=
  -- there is no pointer to set: the value is marked as undefined on its own line
  if v.isInlineBoxed then .ok ⟨v.name, 0, none⟩
  else if v.type.isBoxed || v.type.isPointer then
    .ok ⟨v.name, if v.isDoublePointer then 2 else 1, v.pointerInitializer?⟩
  else v.scalarInitializer?.map fun i => ⟨v.name, if v.isDoublePointer then 1 else 0, i⟩

end Variable

/-- The declarators of the variables of a type, which has to have storage. -/
def DeclarationGroup.ofVariables (type : StorageType) (vs : List Variable) :
    Except CompileError DeclarationGroup :=
  match type.cType? with
  | some cType => (vs.mapM Variable.declarator).map fun ds => ⟨type, cType, ds⟩
  | none => .error (.undeclarable ((vs.head?.map (·.name)).getD "") type)

/-- The declarations of all variables of a table but the implicit ones. -/
def SymbolTable.declarationBlock (t : SymbolTable) : Except CompileError DeclarationBlock :=
  (t.groups.mapM fun g => DeclarationGroup.ofVariables g.1 g.2).map fun gs =>
    ⟨gs, t.groups.flatMap fun g => (g.2.filter (·.isInlineBoxed)).map (·.name)⟩

end NativeMethod
