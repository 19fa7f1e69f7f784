import NativeMethod.SymbolTable.Change

/-!
# Indexed tables

A symbol table as it is stored: the variables in a row, an index from their names to their positions,
and with each variable the fingerprints of its class constraints.  The parts are updated one by one and
in place, so that a change which fails leaves behind whatever it did before it failed.

* `IndexedTable.perform` — one change, with its outcome and the table it leaves;
* `IndexedTable.run` — a history of changes, those that fail included.
-/

namespace NativeMethod

/-- A stored variable.  The fingerprints say quickly which classes it is constrained to. -/
structure Row where
  content : Variable
  fingerprints : List UInt64 := []

namespace Row

/-- Adds a class constraint unless its fingerprint is known. -/
def constrain (r : Row) (c : ClassName) : Row :=
  if r.fingerprints.contains c.fingerprint then r
  else
    { content := { r.content with constraints := r.content.constraints ++ [c] }
      fingerprints := c.fingerprint :: r.fingerprints }

/-- Changes the variable and leaves the fingerprints alone. -/
def mapContent (f : Variable → Variable) (r : Row) : Row := { r with content := f r.content }

end Row

structure IndexedTable where
  rows : List Row
  /-- The positions of names, the latest for a name first. -/
  index : List (String × Nat)

namespace IndexedTable

/-- The variables without index and fingerprints. -/
def toTable (t : IndexedTable) : SymbolTable := ⟨t.rows.map (·.content)⟩

def position? (t : IndexedTable) (name : String) : Option Nat := t.index.lookup name

/-- Stores a variable behind all others and enters it into the index. -/
def push (t : IndexedTable) (v : Variable) : IndexedTable :=
  { rows := t.rows ++ [{ content := v }], index := (v.name, t.rows.length) :: t.index }

/-- The table every method starts with. -/
def initial : IndexedTable :=
  (push { rows := [], index := [] } SymbolTable.receiver).push SymbolTable.returnSlot

def modifyAt (t : IndexedTable) (i : Nat) (f : Row → Row) : IndexedTable :=
  { t with rows := t.rows.modify i f }

/-! ## Changes in place -/

/-- The outcome of an operation, and the table it leaves. -/
abbrev Outcome := Except CompileError Unit × IndexedTable

/-- Changes the row of a name, which has to be declared. -/
def update (t : IndexedTable) (name : String) (f : Row → Row) : Outcome :=
  match t.position? name with
  | some i => (.ok (), t.modifyAt i f)
  | none => (.error (SymbolTable.undeclared name), t)

/-- Changes the row of a name, if there is one. -/
def updateIfKnown (t : IndexedTable) (name : String) (f : Row → Row) : Outcome :=
  match t.position? name with
  | some i => (.ok (), t.modifyAt i f)
  | none => (.ok (), t)

/-- The row that the index gives for a name.  A position in the index always has a row. -/
def row? (t : IndexedTable) (name : String) : Option Row :=
  (t.position? name).bind fun i => t.rows[i]?

def declare (t : IndexedTable) (name : String) (type : StorageType) (span : Span) : Outcome :=
  match t.row? name with
  | some r =>
    if r.content.type = type then (.ok (), t)
    else (.error (.typeConflict name r.content.type type span), t)
  | none => (.ok (), t.push { name, type, span })

/-- The complaint about a class constraint on something that is no object. -/
def notAnObject (name : String) (type : StorageType) (c : ClassName) : CompileError :=
  .defect <|
    "class constraint '" ++ c.spelling ++ "' on non-object variable '" ++ name ++
      "' of type " ++ type.name

def constrain (t : IndexedTable) (name : String) (c : ClassName) : Outcome :=
  match t.row? name with
  | none => (.error (SymbolTable.undeclared name), t)
  | some r =>
    if r.content.type = .object then t.update name (·.constrain c)
    else (.error (notAnObject name r.content.type c), t)

open SymbolTable (Change)

def perform : Change → IndexedTable → Outcome
  | .declare name type span, t => t.declare name type span
  | .markExternal name, t =>
    t.update name (Row.mapContent (·.addFlags { isExternal := true }))
  | .markInitialized name, t =>
    t.update name (Row.mapContent fun v => { v with init := .initialized })
  | .recordUse name, t => t.update name (Row.mapContent fun v => { v with uses := v.uses + 1 })
  | .setSeed name value, t =>
    t.update name (Row.mapContent fun v => { v with seed := some value })
  | .constrain name c, t => t.constrain name c
  | .addFlags name flags, t => t.updateIfKnown name (Row.mapContent (·.addFlags flags))
  | .setInit name state, t => t.updateIfKnown name (Row.mapContent fun v => { v with init := state })

/-- The table behind a history.  What a change leaves stays, also if it failed. -/
def run (t : IndexedTable) (history : List Change) : IndexedTable :=
  history.foldl (fun t c => (perform c t).2) t

end IndexedTable

end NativeMethod
