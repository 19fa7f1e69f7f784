import NativeMethod.DeclarationBlock
import NativeMethod.Parameter.Binding
import NativeMethod.SymbolTable.Change

/-!
# Method bodies

A body is the list of actions that a statement compiler takes on the method: it emits lines,
changes the symbol table and asks for a managed frame.  An action may fail; then the body either
goes on as if nothing had happened or ends with that error.
-/

namespace NativeMethod

/-- How a body ends, by its last statement. -/
inductive LastStatement where
  | returns
  | throws
  | other
  deriving DecidableEq

namespace Body

/-- One action of a body.  Indentation counts from the inside of the method. -/
inductive Action where
  | emit (indent : Nat) (code : String)
  | blank
  | leave (indent : Nat) (form : ReturnForm)
  | restore (indent : Nat)
  /-- Throws an exception, restores the frame and returns. -/
  | throw (indent : Nat) (exception : String)
  | requestGrowth
  | change (c : SymbolTable.Change)
  /-- Looks at the state and leaves it as it is. -/
  | look
  /-- Fails if the variables cannot be declared as they are. -/
  | checkDeclarations
  | fail (e : CompileError)

/-- An action, and whether the body goes on after its failure. -/
structure Step where
  action : Action
  isCaught : Bool := false

/-- What a body works on: the state of the method and the lines emitted so far. -/
structure State where
  method : MethodState
  emitted : List Fragment := []

def State.emit (s : State) (fs : List Fragment) : State := { s with emitted := s.emitted ++ fs }

def Action.perform : Action → State → Except CompileError State
  | .emit indent code, s => .ok (s.emit [.code (indent + 1) code])
  | .blank, s => .ok (s.emit [.blank])
  | .leave indent form, s => .ok (s.emit [.site (indent + 1) (.leave form)])
  | .restore indent, s => .ok (s.emit [.site (indent + 1) .restore])
  | .throw indent exception, s =>
    .ok <| s.emit
      [.code (indent + 1) ("zephir_throw_exception_debug(" ++ exception ++ ", \"\", 0);"),
        .site (indent + 1) .restore,
        .code (indent + 1) "return;"]
  | .requestGrowth, s => .ok { s with method.growth := s.method.growth.request }
  | .change c, s => (c.apply s.method.table).map fun table => { s with method.table := table }
  | .look, s => .ok s
  | .checkDeclarations, s => s.method.table.declarationBlock.map fun _ => s
  | .fail e, _ => .error e

/-- What came of a body: the result of every action taken, and the state at its end. -/
structure Run where
  trace : List (Except CompileError State)
  final : Except CompileError State

/-- Takes the steps in order, up to the first failure that is not caught. -/
def runSteps : List Step → State → Run
  | [], s => ⟨[], .ok s⟩
  | step :: steps, s =>
    match step.action.perform s with
    | .ok next =>
      let rest := runSteps steps next
      { rest with trace := .ok next :: rest.trace }
    | .error e =>
      if step.isCaught then
        let rest := runSteps steps s
        { rest with trace := .error e :: rest.trace }
      else ⟨[.error e], .error e⟩

end Body

/-- A method body.  One without statements has no last statement. -/
structure Body where
  steps : List Body.Step := []
  last : Option LastStatement := none

namespace Body

/-- The steps of a body, taken on a state where nothing is emitted yet. -/
def run (b : Body) (s : MethodState) : Run := runSteps b.steps { method := s }

/-- Control reaches the end of the method. -/
def fallsThrough (b : Body) : Bool :=
  match b.last with
  | some .returns | some .throws => false
  | some .other | none => true

end Body

end NativeMethod
