import NativeMethod.Parameter.Basic

/-!
# Methods

The declaration of a method: its role in the class, its modifiers, its parameters and the types
it may return.
-/

namespace NativeMethod

inductive Modifier where
  | publicAccess
  | protectedAccess
  | privateAccess
  | static
  | final
  | abstract
  | deprecated
  deriving DecidableEq

def Modifier.word : Modifier → String
  | publicAccess => "public"
  | protectedAccess => "protected"
  | privateAccess => "private"
  | static => "static"
  | final => "final"
  | abstract => "abstract"
  | deprecated => "deprecated"

inductive Visibility where
  | everyone
  | descendants
  | classOnly
  deriving DecidableEq

/-- What a method is for its class. -/
inductive Role where
  | regular
  | constructor
  | destructor
  deriving DecidableEq

/-- A declared return type.  `void` as a storage type is a type like any other here; only the
hint `nothing` says that no value is owed. -/
inductive ReturnHint where
  | type (t : StorageType)
  | object (c : ClassName)
  | nothing
  deriving DecidableEq

structure Method where
  name : String
  role : Role := .regular
  modifiers : List Modifier := [.publicAccess]
  parameters : List Parameter := []
  returns : List ReturnHint := []
  span : Span := .nowhere

namespace Method

def has (m : Method) (x : Modifier) : Bool := m.modifiers.contains x

def isStatic (m : Method) : Bool := m.has .static

def isConstructor (m : Method) : Bool := m.role == .constructor

/-- The number of parameters that every call supplies. -/
def requiredCount (m : Method) : Nat := m.parameters.countP (!·.isOptional)

/-- The number of parameters that a call may leave out. -/
def optionalCount (m : Method) : Nat := m.parameters.countP (·.isOptional)

/-- Some hint other than `nothing` was given, so the end of the body must not be reached. -/
def owesValue (m : Method) : Bool := m.returns.any (· != .nothing)

def returnsNothing (m : Method) : Bool := m.returns.contains .nothing

/-- The narrowest visibility written; a method without one is for everyone. -/
def visibility (m : Method) : Visibility :=
  if m.has .privateAccess then .classOnly
  else if m.has .protectedAccess then .descendants
  else .everyone

end Method

end NativeMethod
