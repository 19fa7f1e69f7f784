import NativeMethod.Parameter.Receipt
import NativeMethod.SymbolTable.Basic

/-!
# Binding of parameters

Parameters are bound one after the other.  Each is first checked for being well formed, its
type and constraint, its default beside the constraint, and the names of its backing variables;
then the backing variables are declared; then its default is turned into code.  The first
parameter that fails ends the binding, and what the earlier ones left behind stays.
-/

namespace NativeMethod

/-- What binding asks about a method besides its parameters. -/
structure BindingFacts where
  estimate : String → Estimate
  inferredType? : String → Option StorageType
  constants : SharedConstants

/-- What the compilation of one method changes as it goes on. -/
structure MethodState where
  table : SymbolTable := .initial
  growth : Growth := {}

namespace Parameter

/-- The type is one that a parameter can have, and a constraint only stands on objects. -/
def checkType (p : Parameter) : Except CompileError Unit :=
  let refusal := CompileError.unsupportedParameter p.name p.type p.span
  if p.type.isInternal || p.type == .void || p.type == .unknown then .error refusal
  else if p.constraint.isSome && p.type != .object then .error refusal
  else .ok ()

/-- A constrained parameter has no default or null. -/
def checkDefault (p : Parameter) : Except CompileError Unit :=
  match p.constraint, p.default with
  | some c, some l =>
    if l.isNull then .ok () else .error (.constrainedDefault p.name c.spelling p.span)
  | _, _ => .ok ()

/-- The names of the backing variables are free. -/
def checkNames (p : Parameter) (t : SymbolTable) : Except CompileError Unit :=
  match (p.backing.map (·.name)).find? t.contains with
  | some taken => .error (.nameClash p.name taken p.span)
  | none => .ok ()

/-- All conditions on a parameter that do not depend on the value of its default, in the order
in which they are reported. -/
def check (p : Parameter) (t : SymbolTable) : Except CompileError Unit := do
  p.checkType
  p.checkDefault
  p.checkNames t

/-- The code for a parameter that was not supplied; none if it has to be. -/
def fallback (p : Parameter) (facts : BindingFacts) :
    Except CompileError (Option Initialization) :=
  match p.default with
  | none => .ok none
  | some l =>
    (p.localVariable.initialization facts.constants (facts.estimate p.name) p.span l).map some

/-- The proposal of inference, which concerns parameters that declare neither a type nor a
class. -/
def inferred? (p : Parameter) (facts : BindingFacts) : Option StorageType :=
  if p.declaredType.isNone && p.constraint.isNone then facts.inferredType? p.name else none

/-- Binds one parameter.  Its variables are declared before its default is looked at, and stay
declared if the default does not fit. -/
def bind (p : Parameter) (facts : BindingFacts) (s : MethodState) :
    Except CompileError BoundParameter × MethodState :=
  match p.check s.table with
  | .error e => (.error e, s)
  | .ok () =>
    -- the names are free, so declaring cannot fail
    let table := s.table.append p.backing
    match p.fallback facts with
    | .error e => (.error e, { s with table })
    | .ok fallback =>
      let b : BoundParameter :=
        { parameter := p
          isSeparated := p.type.isBoxed && (facts.estimate p.name).needsSeparation
          fallback
          inferred := p.inferred? facts }
      (.ok b, ⟨table, s.growth.requestTimes b.requests⟩)

end Parameter

/-- Binds parameters in order, up to the first that fails. -/
def bindParameters (facts : BindingFacts) :
    List Parameter → MethodState → Except CompileError (List BoundParameter) × MethodState
  | [], s => (.ok [], s)
  | p :: ps, s =>
    match p.bind facts s with
    | (.error e, s) => (.error e, s)
    | (.ok b, s) =>
      let (bs, s) := bindParameters facts ps s
      (bs.map (b :: ·), s)

/-! ## What a list of bound parameters amounts to -/

/-- The parameters of a method after binding, in declaration order. -/
abbrev BoundParameters := List BoundParameter

namespace BoundParameters

def required (bs : BoundParameters) : Nat := bs.countP (!·.parameter.isOptional)

def optional (bs : BoundParameters) : Nat := bs.countP (·.parameter.isOptional)

/-- The call that fetches the arguments, unless there are none. -/
def fetch? (bs : BoundParameters) : Option FrameSite :=
  if bs.isEmpty then none
  else some (.fetch (required bs) (optional bs) (bs.map ("&" ++ ·.parameter.fetchedName)))

def fragments (bs : BoundParameters) : List Fragment := bs.flatMap (BoundParameter.fragments 1)

/-- The parameters that get storage of their own. -/
def separated (bs : BoundParameters) : List String := (bs.filter (·.isSeparated)).map (·.name)

/-- The guards, each with the name of its parameter. -/
def guards (bs : BoundParameters) : List (String × Guard) :=
  bs.flatMap fun b => b.guards.map fun g => (b.name, g)

def inferred (bs : BoundParameters) : List (String × StorageType) :=
  bs.filterMap fun b => b.inferred.map fun t => (b.name, t)

end BoundParameters

end NativeMethod
