import NativeMethod.ArgumentError
import NativeMethod.Condition
import NativeMethod.Fragment
import NativeMethod.Text.Quoted

/-!
# Guards

A guard says which arguments a parameter takes.  It has two readings:

* `Guard.accepts` — the answer about a probe;
* `Guard.rejection` — the C condition that holds of the arguments to refuse, which
  `Guard.fragments` puts in front of a throw and a return.
-/

namespace NativeMethod

/-- What a guarded argument has to be. -/
inductive Requirement where
  /-- A value with a tag; messages name the declared type. -/
  | tag (type : StorageType) (tag : BoxTag)
  /-- An instance of a class, or null where that is allowed. -/
  | instanceOf (c : ClassName) (orNull : Bool)
  deriving DecidableEq

/-- A check on one argument, received in the C variable `subject`. -/
structure Guard where
  parameter : String
  subject : String
  requirement : Requirement
  deriving DecidableEq

namespace Guard

def acceptsNull (g : Guard) : Bool :=
  match g.requirement with
  | .tag _ _ => false
  | .instanceOf _ orNull => orNull

/-- The error raised for an argument that is refused. -/
def error (g : Guard) : ArgumentError :=
  match g.requirement with
  | .tag type _ => .wrongType g.parameter type.name
  | .instanceOf c _ => .notAnInstance g.parameter c.qualified

def accepts (g : Guard) (p : Probe) : Bool :=
  if p = .null then g.acceptsNull
  else
    match g.requirement with
    | .tag _ tag => p.tag? == some tag
    | .instanceOf c _ => p.isInstanceOf c

def rejection (g : Guard) : Condition :=
  match g.requirement with
  | .tag _ tag => tag.mismatch g.subject
  | .instanceOf c false => .notInstanceOf g.subject c
  -- null passes, and the instance test decides about everything else
  | .instanceOf c true => .both (.hasNotType g.subject .null) (.notInstanceOf g.subject c)

def raiseLine (g : Guard) : String :=
  "zephir_throw_exception_string(spl_ce_InvalidArgumentException, SL(" ++
    Quoted.string g.error.message ++ "));"

/-- The emitted check: an argument to refuse throws and leaves the method. -/
def fragments (indent : Nat) (g : Guard) : List Fragment :=
  [.code indent ("if (UNEXPECTED(" ++ g.rejection.text ++ ")) \x7b"),
    .code (indent + 1) g.raiseLine,
    .site (indent + 1) (.leave .null),
    .code indent "\x7d"]

/-! ## Laws -/

/-- A guard leaves the method at one place. -/
theorem sites_fragments (indent : Nat) (g : Guard) :
    Fragment.sites (g.fragments indent) = [.leave .null] := rfl

end Guard

end NativeMethod
