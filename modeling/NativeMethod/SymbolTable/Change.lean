import NativeMethod.SymbolTable.Basic

/-!
# Changes of a symbol table

The operations on a table as data, so that whole histories of a table can be run and reasoned
about.  A change that fails leaves no table behind, and its user goes on with the old one.
-/

namespace NativeMethod.SymbolTable

/-- One operation on a table. -/
inductive Change where
  | declare (name : String) (type : StorageType) (span : Span)
  | markExternal (name : String)
  | markInitialized (name : String)
  | recordUse (name : String)
  | setSeed (name : String) (value : Literal)
  | constrain (name : String) (c : ClassName)
  /-- Adds flags to a variable; a name without a variable is passed over. -/
  | addFlags (name : String) (flags : Flags)
  /-- Sets how a variable starts; a name without a variable is passed over. -/
  | setInit (name : String) (state : InitState)

namespace Change

/-- The name that a change is about. -/
def name : Change → String
  | declare n _ _ | markExternal n | markInitialized n | recordUse n | setSeed n _ | constrain n _
  | addFlags n _ | setInit n _ => n

def apply : Change → SymbolTable → Except CompileError SymbolTable
  | declare name type span, t => t.declare name type span
  | markExternal name, t => t.markExternal name
  | markInitialized name, t => t.markInitialized name
  | recordUse name, t => t.recordUse name
  | setSeed name value, t => t.setSeed name value
  | constrain name c, t => t.constrain name c
  | addFlags name flags, t => .ok (t.modify name (·.addFlags flags))
  | setInit name state, t => .ok (t.modify name fun v => { v with init := state })

/-- Runs a change and keeps the old table if it fails. -/
def applyOrKeep (t : SymbolTable) (c : Change) : SymbolTable :=
  match c.apply t with
  | .ok t' => t'
  | .error _ => t

end Change

/-- The table after a history of changes, those that fail included. -/
def run (t : SymbolTable) (history : List Change) : SymbolTable :=
  history.foldl Change.applyOrKeep t

end NativeMethod.SymbolTable
