import NativeMethod.DeclarationBlock
import NativeMethod.Method.Entry
import NativeMethod.Parameter.Binding

/-!
# Compiled methods

What the phases of a compilation leave behind, and the text put together from it.  The order of
the parts is fixed here:

* the declarations, and the receiver of a method that is not static;
* the managed frame, entered before anything is fetched or built;
* the variables with a default, then the parameters, then the body.
-/

namespace NativeMethod

/-- A variable that is initialised at the head of a method, and the code for it. -/
structure Seed where
  target : Variable
  code : Initialization

structure CompiledMethod where
  owner : ClassName
  method : Method
  bound : BoundParameters
  seeds : List Seed
  /-- The lines of the body, with the restored frame at its end if control gets there. -/
  body : List Fragment
  declarations : DeclarationBlock
  table : SymbolTable
  growth : Growth

namespace CompiledMethod

/-- The line that makes the receiver known. -/
def receiverLines (c : CompiledMethod) : List String :=
  if c.method.isStatic then [] else ["zval *this_ptr = getThis();"]

/-- Lines of code followed by an empty line, or nothing. -/
def paragraph (lines : List String) : List Fragment :=
  if lines.isEmpty then [] else Fragment.codeLines 1 lines ++ [.blank]

def declarationFragments (c : CompiledMethod) : List Fragment :=
  paragraph (c.declarations.declarations ++ c.receiverLines) ++
    paragraph c.declarations.initializers

def seedFragments (c : CompiledMethod) : List Fragment :=
  c.seeds.flatMap fun s => Fragment.codeLines 1 s.code.lines

def fragments (c : CompiledMethod) : List Fragment :=
  [.code 0 ("PHP_METHOD(" ++ c.owner.cPrefix ++ ", " ++ c.method.name ++ ") \x7b")] ++
    c.declarationFragments ++
    [.site 1 .acquire] ++ c.bound.fetch?.toList.map (.site 1) ++
    c.seedFragments ++ c.bound.fragments ++ c.body ++
    [.code 0 "\x7d"]

/-- The method with the decision about its frame made. -/
def resolved (c : CompiledMethod) : Resolved := c.growth.resolve c.fragments

def code (c : CompiledMethod) : String := c.resolved.code

def isManaged (c : CompiledMethod) : Bool := c.resolved.managed

def entry (c : CompiledMethod) : MethodEntry := .ofMethod c.owner c.method

/-! ## Laws -/

/-- Declarations do not depend on the frame. -/
theorem sites_declarationFragments (c : CompiledMethod) :
    Fragment.sites c.declarationFragments = [] := by
  have plain (lines : List String) : Fragment.sites (paragraph lines) = [] := by
    unfold paragraph
    split
    · rfl
    · rw [Fragment.sites_append, Fragment.sites_codeLines]
      rfl
  simp [declarationFragments, Fragment.sites_append, plain]

theorem code_eq_render (c : CompiledMethod) : c.code = Fragment.render c.isManaged c.fragments :=
  rfl

end CompiledMethod

end NativeMethod
