import NativeMethod.CompileError
import NativeMethod.Variable

/-!
# Symbol tables

The variables of one method in the order of their declaration.  Names are unique: declaring a
known name changes nothing, or fails if the type differs.  Variables are never removed.

Every operation is one of two kinds: it appends a fresh variable, or it updates the variable of
one name.
-/

namespace NativeMethod

/-- The variables of a method, in declaration order. -/
structure SymbolTable where
  «variables» : List Variable

namespace SymbolTable

/-- The receiver of the method. -/
def receiver : Variable :=
  { name := "this"
    type := .object
    init := .initialized
    flags := { isImplicit := true, isReadOnly := true } }

/-- The place of the value a method returns. -/
def returnSlot : Variable :=
  { name := "return_value"
    type := .generic
    init := .initialized
    flags := { isImplicit := true, isReadOnly := true } }

/-- The table every method starts with. -/
def initial : SymbolTable := ⟨[receiver, returnSlot]⟩

instance : Inhabited SymbolTable := ⟨initial⟩

/-! ## Looking up -/

def find? (t : SymbolTable) (name : String) : Option Variable :=
  t.variables.find? (·.name == name)

def contains (t : SymbolTable) (name : String) : Bool := t.variables.any (·.name == name)

def size (t : SymbolTable) : Nat := t.variables.length

def isEmpty (t : SymbolTable) : Bool := t.variables.isEmpty

/-- The variables that are declared in C: all but the implicit ones. -/
def declarable (t : SymbolTable) : List Variable := t.variables.filter (!·.isImplicit)

/-- The declarable variables by type, in the order of the types and, for one type, in the order
of declaration.  A type without variables has no group. -/
def groups (t : SymbolTable) : List (StorageType × List Variable) :=
  StorageType.all.filterMap fun type =>
    match t.declarable.filter (·.type == type) with
    | [] => none
    | v :: vs => some (type, v :: vs)

/-! ## Changing -/

def append (t : SymbolTable) (vs : List Variable) : SymbolTable := ⟨t.variables ++ vs⟩

/-- Changes the variable of a name, if there is one. -/
def modify (t : SymbolTable) (name : String) (f : Variable → Variable) : SymbolTable :=
  ⟨t.variables.map fun v => if v.name == name then f v else v⟩

/-- The complaint about a name that was never declared. -/
def undeclared (name : String) : CompileError :=
  .defect ("reference to undeclared variable '" ++ name ++ "'")

/-- The variable of a name, which has to be declared. -/
def require (t : SymbolTable) (name : String) : Except CompileError Variable :=
  match t.find? name with
  | some v => .ok v
  | none => .error (undeclared name)

/-- Changes the variable of a name, which has to be declared. -/
def update (t : SymbolTable) (name : String) (f : Variable → Variable) :
    Except CompileError SymbolTable :=
  (t.require name).map fun _ => t.modify name f

/-- Declares a variable.  A known name keeps its variable as it is, provided the types agree. -/
def declare (t : SymbolTable) (name : String) (type : StorageType) (span : Span) :
    Except CompileError SymbolTable :=
  match t.find? name with
  | some v => if v.type = type then .ok t else .error (.typeConflict name v.type type span)
  | none => .ok (t.append [{ name, type, span }])

/-- Notes that a variable comes from a parameter. -/
def markExternal (t : SymbolTable) (name : String) : Except CompileError SymbolTable :=
  t.update name (·.addFlags { isExternal := true })

/-- Notes that a variable has a value. -/
def markInitialized (t : SymbolTable) (name : String) : Except CompileError SymbolTable :=
  t.update name fun v => { v with init := .initialized }

/-- Counts one use of a variable. -/
def recordUse (t : SymbolTable) (name : String) : Except CompileError SymbolTable :=
  t.update name fun v => { v with uses := v.uses + 1 }

/-- Sets the literal a variable is initialised with. -/
def setSeed (t : SymbolTable) (name : String) (value : Literal) :
    Except CompileError SymbolTable :=
  t.update name fun v => { v with seed := some value }

/-- Requires a variable to be an instance of a class; only objects carry such constraints. -/
def constrain (t : SymbolTable) (name : String) (c : ClassName) :
    Except CompileError SymbolTable :=
  match t.require name with
  | .error e => .error e
  | .ok v =>
    if v.type = .object then .ok (t.modify name (·.addConstraint c))
    else
      .error <| .defect <|
        "class constraint '" ++ c.spelling ++ "' on non-object variable '" ++ name ++
          "' of type " ++ v.type.name

/-! ## Laws -/

theorem find?_append (t : SymbolTable) (vs : List Variable) (name : String) :
    (t.append vs).find? name = (t.find? name).or (vs.find? (·.name == name)) := by
  simp [find?, append, List.find?_append]

theorem contains_eq_isSome_find? (t : SymbolTable) (name : String) :
    t.contains name = (t.find? name).isSome := by
  rw [Bool.eq_iff_iff]
  simp [contains, find?, List.find?_isSome]

/-- Changing a variable moves none, as long as names stay. -/
theorem names_modify (t : SymbolTable) (name : String) {f : Variable → Variable}
    (keepsName : ∀ v, (f v).name = v.name) :
    (t.modify name f).variables.map (·.name) = t.variables.map (·.name) := by
  simp only [modify, List.map_map]
  congr 1
  funext v
  simp only [Function.comp_apply]
  split <;> simp [keepsName]

end SymbolTable

end NativeMethod
