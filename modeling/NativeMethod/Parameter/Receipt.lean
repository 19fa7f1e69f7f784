import NativeMethod.Guard
import NativeMethod.Initialization
import NativeMethod.Parameter.Backing
import NativeMethod.Parameter.Conversion

/-!
# Receipts — how a method receives a parameter

A supplied argument is checked, then converted, then separated from the storage of the caller;
each of these is a `Receipt`.  A parameter that was not supplied is given its default instead.
`BoundParameter` holds the decisions, and everything emitted for the parameter follows from
them.
-/

namespace NativeMethod

/-- One thing done to a supplied argument. -/
inductive Receipt where
  | check (guard : Guard)
  | convert (conversion : Conversion) (name slot : String)
  /-- A value of one's own takes the place of one that the caller also uses. -/
  | separate (target : Operand)
  deriving DecidableEq

namespace Receipt

def fragments (indent : Nat) : Receipt → List Fragment
  | check guard => guard.fragments indent
  | convert conversion name slot => [.code indent (conversion.text name slot)]
  | separate target => [.code indent ("ZEPHIR_SEPARATE_PARAM(" ++ target.text ++ ");")]

/-- The receipt needs a managed frame. -/
def allocates : Receipt → Bool
  | check _ => false
  | convert conversion _ _ => conversion.allocates
  | separate _ => true

def guard? : Receipt → Option Guard
  | check guard => some guard
  | _ => none

end Receipt

/-- A parameter and the decisions about receiving it. -/
structure BoundParameter where
  parameter : Parameter
  /-- The body writes through the argument, which therefore gets storage of its own. -/
  isSeparated : Bool
  /-- What an argument that was not supplied is replaced by; nothing for required parameters. -/
  fallback : Option Initialization
  /-- The type that inference proposes for a parameter without any; it is only reported. -/
  inferred : Option StorageType

namespace BoundParameter

def name (b : BoundParameter) : String := b.parameter.name

/-- The guard of a constrained parameter.  Null passes it if it is the default. -/
def instanceGuard? (b : BoundParameter) : Option Guard :=
  b.parameter.constraint.map fun c =>
    ⟨b.name, b.parameter.fetchedName,
      .instanceOf c ((b.parameter.default.map Literal.isNull).getD false)⟩

/-- The guard of a strict parameter of a type with a slot. -/
def strictGuard? (b : BoundParameter) : Option Guard :=
  if b.parameter.isStrict then
    b.parameter.type.tag?.map fun tag =>
      ⟨b.name, b.parameter.fetchedName, .tag b.parameter.type tag⟩
  else none

/-- The conversion from the slot, for types that have one. -/
def conversion? (b : BoundParameter) : Option Conversion :=
  if b.parameter.isStrict then b.parameter.type.strictConversion?
  else b.parameter.type.looseConversion?

/-- What is separated: the converted local, or the argument itself if it is not converted. -/
def separationTarget (b : BoundParameter) : Operand :=
  if b.parameter.type.hasSlot then b.parameter.localVariable.operand
  else ⟨b.parameter.fetchedName, false⟩

/-- What is done to a supplied argument, in order. -/
def receipts (b : BoundParameter) : List Receipt :=
  b.instanceGuard?.toList.map .check ++ b.strictGuard?.toList.map .check ++
    b.conversion?.toList.map (.convert · b.name b.parameter.fetchedName) ++
    (if b.isSeparated then [.separate b.separationTarget] else [])

def guards (b : BoundParameter) : List Guard := b.receipts.filterMap Receipt.guard?

/-- The lines for a supplied argument. -/
def suppliedFragments (indent : Nat) (b : BoundParameter) : List Fragment :=
  b.receipts.flatMap (Receipt.fragments indent)

/-- The lines that receive the parameter.  An optional one is tested for being there. -/
def fragments (indent : Nat) (b : BoundParameter) : List Fragment :=
  match b.fallback with
  | none => b.suppliedFragments indent
  | some i =>
    let supplied := b.suppliedFragments (indent + 1)
    [.code indent ("if (!" ++ b.parameter.fetchedName ++ ") \x7b")] ++
      Fragment.codeLines (indent + 1) i.lines ++
      -- an argument that is taken as it comes leaves nothing for the other branch
      (if supplied.isEmpty then [] else .code indent "\x7d else \x7b" :: supplied) ++
      [.code indent "\x7d"]

/-- The number of reasons for a managed frame. -/
def requests (b : BoundParameter) : Nat :=
  b.fallback.toList.countP (·.allocates) + b.receipts.countP (·.allocates)

end BoundParameter

end NativeMethod
