import Mathlib.Data.List.Forall2
import NativeMethod.Proofs.OwnValues
import NativeMethod.Proofs.Prologue.Lines

/-!
# Statements — the lines that build a value, read as C

The lines that build a value are braces, declarations of temporaries, and calls that do something to a
variable, which is given by name or by address.  A call may have one more argument, and what that means
is up to the function.

* `Statement.read?` — the statement that a line is;
* `read?_indented` — a statement is read back from its text, if all names in it are identifiers;
* `Command.statement` — the statement that a command writes.
-/

namespace NativeMethod

inductive Statement where
  | openBlock
  | closeBlock
  /-- Declares a boxed value that is stored inline. -/
  | declare (name : String)
  | call (function : String) (target : Operand) (argument? : Option String)
  deriving DecidableEq

namespace Statement

def text : Statement → String
  | openBlock => "\x7b"
  | closeBlock => "\x7d"
  | declare name => "zval " ++ name ++ ";"
  | call function target none => function ++ "(" ++ target.text ++ ");"
  | call function target (some argument) =>
    function ++ "(" ++ target.text ++ ", " ++ argument ++ ");"

theorem text_call (function opening : String) (h : function ++ "(" = opening) (target : Operand) :
    (call function target none).text = opening ++ target.text ++ ");" := by
  rw [← h]
  rfl

theorem text_callWith (function opening : String) (h : function ++ "(" = opening)
    (target : Operand) (argument : String) :
    (call function target (some argument)).text =
      opening ++ target.text ++ ", " ++ argument ++ ");" := by
  rw [← h]
  rfl

/-- C reads the names in a statement as identifiers. -/
def WellNamed : Statement → Prop
  | openBlock | closeBlock => True
  | declare name => IsIdentifier name
  | call function target _ => IsIdentifier function ∧ IsIdentifier target.name

/-! ## Reading -/

/-- The call of a function, from the name of its target on. -/
def readTarget? (function : String) (isAddress : Bool) (text : List Char) : Option Statement :=
  let target : Operand := ⟨String.ofList (text.takeWhile isIdentifierChar), isAddress⟩
  let rest := text.dropWhile isIdentifierChar
  if rest = [')', ';'] then some (.call function target none)
  else
    (between? [',', ' '] [')', ';'] rest).map fun argument =>
      .call function target (some (String.ofList argument))

/-- The call of a function, from its target on. -/
def readCall? (function : String) : List Char → Option Statement
  | '&' :: text => readTarget? function true text
  | text => readTarget? function false text

/-- A statement that begins with a word. -/
def readWord? (text : List Char) : Option Statement :=
  let word := String.ofList (text.takeWhile isIdentifierChar)
  match text.dropWhile isIdentifierChar with
  | '(' :: rest => readCall? word rest
  | ' ' :: rest =>
    if word = "zval" ∧ rest.dropWhile isIdentifierChar = [';'] then
      some (.declare (String.ofList (rest.takeWhile isIdentifierChar)))
    else none
  | _ => none

/-- The statement that a line is, apart from its indentation. -/
def read? (line : String) : Option Statement :=
  let text := line.toList.dropWhile (· == '\t')
  if text = ['\x7b'] then some .openBlock
  else if text = ['\x7d'] then some .closeBlock
  else readWord? text

/-- A line that begins with an identifier is read as one. -/
theorem read?_of_identifier {line word : String} {depth : Nat} {rest : List Char}
    (named : IsIdentifier word) (text : line.toList = word.toList ++ rest) :
    read? (Command.indented depth line) = readWord? (word.toList ++ rest) := by
  have hdrop : (Command.indented depth line).toList.dropWhile (· == '\t') = word.toList ++ rest := by
    rw [Command.dropWhile_tab_indented, text, named.dropWhile_tab]
  obtain ⟨x, xs, hword, hx⟩ := named.exists_eq_cons
  have hbrace (y : Char) (hy : isIdentifierChar y = false) : word.toList ++ rest ≠ [y] := by
    intro h
    have hxy : x = y := by
      rw [hword] at h
      exact (List.cons.inj h).1
    rw [hxy, hy] at hx
    cases hx
  simp only [read?, hdrop, hbrace '\x7b' rfl, hbrace '\x7d' rfl, if_false]

theorem readTarget?_plain (function : String) {target : Operand} (named : IsIdentifier target.name) :
    readTarget? function target.isAddress (target.name.toList ++ [')', ';']) =
      some (.call function target none) := by
  have hend : isIdentifierChar ')' = false := rfl
  simp only [readTarget?, named.takeWhile_append hend, named.dropWhile_append hend,
    String.ofList_toList, if_true]

theorem readTarget?_argument (function : String) {target : Operand}
    (named : IsIdentifier target.name) (argument : String) :
    readTarget? function target.isAddress
        (target.name.toList ++ ',' :: ' ' :: (argument.toList ++ [')', ';'])) =
      some (.call function target (some argument)) := by
  have hend : isIdentifierChar ',' = false := rfl
  have hinner : between? [',', ' '] [')', ';'] (',' :: ' ' :: (argument.toList ++ [')', ';'])) =
      some argument.toList := between?_append [',', ' '] argument.toList [')', ';']
  simp [readTarget?, named.takeWhile_append hend, named.dropWhile_append hend, hinner]

/-- The ampersand in front of a target is part of no name. -/
theorem readCall?_text (function : String) {target : Operand} (named : IsIdentifier target.name)
    (rest : List Char) :
    readCall? function (target.text.toList ++ rest) =
      readTarget? function target.isAddress (target.name.toList ++ rest) := by
  rcases target with ⟨name, isAddress⟩
  cases isAddress with
  | true => simp [Operand.text, readCall?]
  | false =>
      obtain ⟨x, xs, hname, hx⟩ := named.exists_eq_cons
      have hother : x ≠ '&' := by
        intro h
        rw [h] at hx
        cases hx
      simp only at hname
      simp only [Operand.text, Bool.false_eq_true, if_false, hname, List.cons_append]
      unfold readCall?
      split
      · rename_i heq
        exact absurd (List.cons.inj heq).1 hother
      · rfl

theorem readWord?_call {function : String} (named : IsIdentifier function) (rest : List Char) :
    readWord? (function.toList ++ '(' :: rest) = readCall? function rest := by
  have hend : isIdentifierChar '(' = false := rfl
  simp only [readWord?, named.takeWhile_append hend, named.dropWhile_append hend,
    String.ofList_toList]

theorem readWord?_declare {name : String} (named : IsIdentifier name) :
    readWord? ("zval".toList ++ ' ' :: (name.toList ++ [';'])) = some (.declare name) := by
  have hword : IsIdentifier "zval" := by decide
  have hspace : isIdentifierChar ' ' = false := rfl
  have hend : isIdentifierChar ';' = false := rfl
  simp only [readWord?, hword.takeWhile_append hspace, hword.dropWhile_append hspace,
    named.takeWhile_append hend, named.dropWhile_append hend, String.ofList_toList, and_self, if_true]

/-- A statement is read back from its text at every indentation. -/
theorem read?_indented {st : Statement} (named : st.WellNamed) (depth : Nat) :
    read? (Command.indented depth st.text) = some st := by
  -- a brace is known by its first character, anything else by the word in front
  cases st with
  | openBlock =>
      simp only [read?, Command.dropWhile_tab_indented]
      rfl
  | closeBlock =>
      simp only [read?, Command.dropWhile_tab_indented]
      rfl
  | declare name =>
      have hword : IsIdentifier "zval" := by decide
      have htext : (declare name).text.toList = "zval".toList ++ ' ' :: (name.toList ++ [';']) := by
        simp [text]
      rw [read?_of_identifier hword htext, readWord?_declare named]
  | call function target argument? =>
      obtain ⟨hfunction, htarget⟩ := named
      cases argument? with
      | none =>
          have htext : (call function target none).text.toList =
              function.toList ++ '(' :: (target.text.toList ++ [')', ';']) := by
            simp [text]
          rw [read?_of_identifier hfunction htext, readWord?_call hfunction,
            readCall?_text function htarget, readTarget?_plain function htarget]
      | some argument =>
          have htext : (call function target (some argument)).text.toList =
              function.toList ++
                '(' :: (target.text.toList ++ ',' :: ' ' :: (argument.toList ++ [')', ';'])) := by
            simp [text]
          rw [read?_of_identifier hfunction htext, readWord?_call hfunction,
            readCall?_text function htarget, readTarget?_argument function htarget]

end Statement

/-! ## Commands as statements -/

namespace BoxedScalar

/-- The constant that a scalar is rendered as; null needs none. -/
def constant? : BoxedScalar → Option CConstant
  | null => none
  | bool v => some (.ofBool v)
  | int v => some (.integer v)
  | char b => some (.character b)
  | double x => some (.real x)
  | string s => some (.text s)

/-- The macro that sets a boxed value to a scalar. -/
def setter : BoxedScalar → String
  | null => "ZVAL_NULL"
  | bool _ => "ZVAL_BOOL"
  | int _ | char _ => "ZVAL_LONG"
  | double _ => "ZVAL_DOUBLE"
  | string _ => "ZVAL_STRING"

/-- The function that appends a scalar to an array. -/
def appender : BoxedScalar → String
  | null => "add_next_index_null"
  | bool _ => "add_next_index_bool"
  | int _ | char _ => "add_next_index_long"
  | double _ => "add_next_index_double"
  | string _ => "add_next_index_stringl"

/-- The argument that sets a boxed value to a scalar. -/
def setArgument? (value : BoxedScalar) : Option String := value.constant?.map CConstant.spelling

/-- The argument that appends a scalar.  A string comes with its length. -/
def appendArgument? (value : BoxedScalar) : Option String :=
  match value with
  | string _ => value.constant?.map fun c => "SL(" ++ c.spelling ++ ")"
  | _ => value.constant?.map CConstant.spelling

end BoxedScalar

namespace Command

/-- The statement that a command writes. -/
def statement : Command → Statement
  | set target value => .call value.setter target value.setArgument?
  | setEmptyString target => .call "ZVAL_EMPTY_STRING" target none
  | newArray target => .call "array_init" target none
  | newArrayOf target size => .call "zephir_create_array" target (some (toString size ++ ", 0"))
  | push target value => .call value.appender target value.appendArgument?
  | pushTemporary target temporary =>
    .call "add_next_index_zval" target (some (Operand.text ⟨temporary, true⟩))
  | openBlock => .openBlock
  | closeBlock => .closeBlock
  | declareTemporary temporary => .declare temporary

theorem text_set (target : Operand) (value : BoxedScalar) :
    (set target value).statement.text = (set target value).text := by
  cases value with
  | null => exact Statement.text_call "ZVAL_NULL" "ZVAL_NULL(" (by simp) target
  | bool v => exact Statement.text_callWith "ZVAL_BOOL" "ZVAL_BOOL(" (by simp) target _
  | int v => exact Statement.text_callWith "ZVAL_LONG" "ZVAL_LONG(" (by simp) target _
  | char b => exact Statement.text_callWith "ZVAL_LONG" "ZVAL_LONG(" (by simp) target _
  | double x => exact Statement.text_callWith "ZVAL_DOUBLE" "ZVAL_DOUBLE(" (by simp) target _
  | string s => exact Statement.text_callWith "ZVAL_STRING" "ZVAL_STRING(" (by simp) target _

theorem text_push (target : Operand) (value : BoxedScalar) :
    (push target value).statement.text = (push target value).text := by
  have hlong (argument : String) :=
    Statement.text_callWith "add_next_index_long" "add_next_index_long(" (by simp) target argument
  cases value with
  | null =>
      exact Statement.text_call "add_next_index_null" "add_next_index_null(" (by simp) target
  | bool v =>
      exact Statement.text_callWith "add_next_index_bool" "add_next_index_bool(" (by simp) target _
  | int v => exact hlong _
  | char b => exact hlong _
  | double x =>
      exact Statement.text_callWith "add_next_index_double" "add_next_index_double(" (by simp) target _
  | string s =>
      have hstring (argument : String) :
          (Statement.call "add_next_index_stringl" target (some ("SL(" ++ argument ++ ")"))).text =
            "add_next_index_stringl(" ++ target.text ++ ", SL(" ++ argument ++ "));" := by
        apply String.toList_injective
        simp [Statement.text]
      exact hstring _

/-- Every command writes the text of its statement. -/
theorem text_statement (c : Command) : c.statement.text = c.text := by
  cases c with
  | set target value => exact text_set target value
  | push target value => exact text_push target value
  | setEmptyString target =>
      exact Statement.text_call "ZVAL_EMPTY_STRING" "ZVAL_EMPTY_STRING(" (by simp) target
  | newArray target => exact Statement.text_call "array_init" "array_init(" (by simp) target
  | newArrayOf target size =>
      -- the number need not be known, so the text is general in it
      have hsized (size : String) :
          (Statement.call "zephir_create_array" target (some (size ++ ", 0"))).text =
            "zephir_create_array(" ++ target.text ++ ", " ++ size ++ ", 0);" := by
        apply String.toList_injective
        simp [Statement.text]
      exact hsized _
  | pushTemporary target temporary =>
      have htaken (name : String) :
          (Statement.call "add_next_index_zval" target (some (Operand.text ⟨name, true⟩))).text =
            "add_next_index_zval(" ++ target.text ++ ", &" ++ name ++ ");" := by
        apply String.toList_injective
        simp [Statement.text, Operand.text]
      exact htaken temporary
  | openBlock => rfl
  | closeBlock => rfl
  | declareTemporary temporary => rfl

/-- The lines of commands are the texts of their statements, each at some indentation. -/
theorem lines_statements (depth : Nat) (cs : List Command) :
    List.Forall₂ (fun line st => ∃ d, line = indented d st.text) (lines depth cs)
      (cs.map statement) := by
  fun_induction lines depth cs with
  | case1 depth => exact .nil
  | case2 depth rest ih => exact .cons ⟨depth, by rw [text_statement]⟩ ih
  | case3 depth rest ih => exact .cons ⟨depth - 1, by rw [text_statement]⟩ ih
  | case4 depth c rest _ _ ih => exact .cons ⟨depth, by rw [text_statement]⟩ ih

/-- The statements that build a value: the target is allocated and then filled. -/
def buildStatements (target : Operand) (cs : List Command) : List Statement :=
  .call "ZEPHIR_INIT_VAR" target none :: cs.map statement

theorem lines_buildStatements (target : Operand) (cs : List Command) :
    List.Forall₂ (fun line st => ∃ depth, line = indented depth st.text)
      (Initialization.build target cs).lines (buildStatements target cs) := by
  refine .cons ⟨0, ?_⟩ (lines_statements 0 cs)
  have htext := Statement.text_call "ZEPHIR_INIT_VAR" "ZEPHIR_INIT_VAR(" (by simp) target
  simp [indented, htext]

end Command

/-- Lines are read as the statements that they are the texts of. -/
theorem Statement.mapM_read? {ls : List String} {sts : List Statement}
    (texts : List.Forall₂ (fun line st => ∃ d, line = Command.indented d st.text) ls sts)
    (named : ∀ st ∈ sts, st.WellNamed) : ls.mapM read? = some sts := by
  induction texts with
  | nil => rfl
  | @cons line st ls sts hline _ ih =>
      obtain ⟨d, rfl⟩ := hline
      have hfirst := read?_indented (named st List.mem_cons_self) d
      have hrest := ih fun st' hst => named st' (List.mem_cons_of_mem st hst)
      simp [hfirst, hrest]

end NativeMethod
