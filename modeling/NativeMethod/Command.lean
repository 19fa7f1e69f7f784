import NativeMethod.Literal.Basic
import NativeMethod.Variable

/-!
# Commands — building boxed values

The lines of generated code that fill a boxed value, one command to a line.  An inner array is
built in a block of its own, in a temporary that the outer array then takes over:

* `Command.lines` — the text, indented by the open blocks;
* `Command.buildArray?` — the commands that make a variable an array of given items, written from the
  constants of the items;
* `Command.buildArray?_eq` — every item has its commands, so that there are always some, and
  `Command.buildArray` says which.
-/

namespace NativeMethod

/-- A boxed value without parts. -/
inductive BoxedScalar where
  | null
  | bool (value : Bool)
  | int (value : Int64)
  | char (byte : UInt8)
  | double (value : Binary64)
  | string (value : String)
  deriving DecidableEq

/-- A C constant in a boxed value. -/
def BoxedScalar.ofConstant : CConstant → BoxedScalar
  | .integer value => .int value
  | .character byte => .char byte
  | .real value => .double value
  | .text value => .string value

inductive Command where
  | set (target : Operand) (value : BoxedScalar)
  | setEmptyString (target : Operand)
  | newArray (target : Operand)
  /-- Makes the target an empty array with room for so many elements. -/
  | newArrayOf (target : Operand) (size : Nat)
  | push (target : Operand) (value : BoxedScalar)
  /-- Appends the array in a temporary. -/
  | pushTemporary (target : Operand) (temporary : String)
  | openBlock
  | declareTemporary (temporary : String)
  | closeBlock
  deriving DecidableEq

namespace Command

/-! ## Text -/

def setText (target : String) : BoxedScalar → String
  | .null => "ZVAL_NULL(" ++ target ++ ");"
  | .bool v => "ZVAL_BOOL(" ++ target ++ ", " ++ (CConstant.ofBool v).spelling ++ ");"
  | .int v => "ZVAL_LONG(" ++ target ++ ", " ++ (CConstant.integer v).spelling ++ ");"
  | .char b => "ZVAL_LONG(" ++ target ++ ", " ++ (CConstant.character b).spelling ++ ");"
  | .double x => "ZVAL_DOUBLE(" ++ target ++ ", " ++ (CConstant.real x).spelling ++ ");"
  | .string s => "ZVAL_STRING(" ++ target ++ ", " ++ (CConstant.text s).spelling ++ ");"

def pushText (target : String) : BoxedScalar → String
  | .null => "add_next_index_null(" ++ target ++ ");"
  | .bool v => "add_next_index_bool(" ++ target ++ ", " ++ (CConstant.ofBool v).spelling ++ ");"
  | .int v => "add_next_index_long(" ++ target ++ ", " ++ (CConstant.integer v).spelling ++ ");"
  | .char b => "add_next_index_long(" ++ target ++ ", " ++ (CConstant.character b).spelling ++ ");"
  | .double x => "add_next_index_double(" ++ target ++ ", " ++ (CConstant.real x).spelling ++ ");"
  | .string s =>
    "add_next_index_stringl(" ++ target ++ ", SL(" ++ (CConstant.text s).spelling ++ "));"

def text : Command → String
  | set target value => setText target.text value
  | setEmptyString target => "ZVAL_EMPTY_STRING(" ++ target.text ++ ");"
  | newArray target => "array_init(" ++ target.text ++ ");"
  | newArrayOf target size =>
    "zephir_create_array(" ++ target.text ++ ", " ++ toString size ++ ", 0);"
  | push target value => pushText target.text value
  | pushTemporary target temporary =>
    "add_next_index_zval(" ++ target.text ++ ", &" ++ temporary ++ ");"
  | openBlock => "\x7b"
  | declareTemporary temporary => "zval " ++ temporary ++ ";"
  | closeBlock => "\x7d"

def indented (depth : Nat) (text : String) : String :=
  String.ofList (List.replicate depth '\t') ++ text

/-- The lines of commands that stand inside so many blocks. -/
def lines : Nat → List Command → List String
  | _, [] => []
  | depth, openBlock :: rest => indented depth openBlock.text :: lines (depth + 1) rest
  -- a brace that closes a block stands where the one that opened it does
  | depth, closeBlock :: rest =>
    indented (depth - 1) closeBlock.text :: lines (depth - 1) rest
  | depth, c :: rest => indented depth c.text :: lines depth rest

/-! ## Arrays -/

/-- The command that makes a target an array with room for some items. -/
def create (target : Operand) (items : List Literal) : Command :=
  if items.isEmpty then newArray target else newArrayOf target items.length

/-- The temporary for arrays at a depth.  Only arrays inside one another live at the same time,
and those have different depths. -/
def temporaryAt (name : String) (depth : Nat) : String := name ++ "_nested" ++ toString depth

mutual

/-- The commands that append an item to the array in the target.  The depth counts the arrays
around the item. -/
def pushItem? (name : String) (depth : Nat) (target : Operand) : Literal → Option (List Command)
  | .null => some [push target .null]
  | .bool v => some [push target (.bool v)]
  | .int v => some [push target (.int v)]
  -- a character goes by its constant, and a literal need not have one
  | .char b => do
    let constant ← (Literal.char b).constant?
    return [push target (.ofConstant constant)]
  | .double x => some [push target (.double x)]
  | .string s => some [push target (.string s)]
  | .array items => do
    let temporary := temporaryAt name depth
    let inner ← pushItems? name (depth + 1) ⟨temporary, true⟩ items
    return [openBlock, declareTemporary temporary, create ⟨temporary, true⟩ items] ++ inner ++
      [pushTemporary target temporary, closeBlock]

/-- The commands that append items one after the other.  If one of them has none, there are none. -/
def pushItems? (name : String) (depth : Nat) (target : Operand) :
    List Literal → Option (List Command)
  | [] => some []
  | item :: items => do
    let first ← pushItem? name depth target item
    let others ← pushItems? name depth target items
    return first ++ others

end

/-- The commands that make a variable an array of the items. -/
def buildArray? (v : Variable) (items : List Literal) : Option (List Command) := do
  let filling ← pushItems? v.name 1 v.operand items
  return create v.operand items :: filling

/-! ## Arrays of any items -/

mutual

/-- The commands that append an item, which all items have. -/
def pushItem (name : String) (depth : Nat) (target : Operand) : Literal → List Command
  | .null => [push target .null]
  | .bool v => [push target (.bool v)]
  | .int v => [push target (.int v)]
  | .char b => [push target (.char b)]
  | .double x => [push target (.double x)]
  | .string s => [push target (.string s)]
  | .array items =>
    let temporary := temporaryAt name depth
    [openBlock, declareTemporary temporary, create ⟨temporary, true⟩ items] ++
      pushItems name (depth + 1) ⟨temporary, true⟩ items ++
      [pushTemporary target temporary, closeBlock]

def pushItems (name : String) (depth : Nat) (target : Operand) : List Literal → List Command
  | [] => []
  | item :: items => pushItem name depth target item ++ pushItems name depth target items

end

/-- The commands that make a variable an array of the items. -/
def buildArray (v : Variable) (items : List Literal) : List Command :=
  create v.operand items :: pushItems v.name 1 v.operand items

mutual

/-- No item is without commands: scalars have their constants, and arrays are made of items. -/
theorem pushItem?_eq (name : String) (depth : Nat) (target : Operand) :
    ∀ item : Literal, pushItem? name depth target item = some (pushItem name depth target item)
  | .null | .bool _ | .int _ | .char _ | .double _ | .string _ => rfl
  | .array items => by
      have hinner := pushItems?_eq name (depth + 1) ⟨temporaryAt name depth, true⟩ items
      simp only [pushItem?, hinner, pushItem]
      rfl

theorem pushItems?_eq (name : String) (depth : Nat) (target : Operand) :
    ∀ items : List Literal,
      pushItems? name depth target items = some (pushItems name depth target items)
  | [] => rfl
  | item :: items => by
      have hfirst := pushItem?_eq name depth target item
      have hothers := pushItems?_eq name depth target items
      simp only [pushItems?, hfirst, hothers, pushItems]
      rfl

end

/-- An array is built of any items. -/
theorem buildArray?_eq (v : Variable) (items : List Literal) :
    buildArray? v items = some (buildArray v items) := by
  simp only [buildArray?, pushItems?_eq, buildArray]
  rfl

/-! ## Laws -/

/-- Every command is one line. -/
theorem length_lines (depth : Nat) (cs : List Command) : (lines depth cs).length = cs.length := by
  fun_induction lines depth cs <;> simp_all

end Command

end NativeMethod
