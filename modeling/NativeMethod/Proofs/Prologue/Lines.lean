import NativeMethod.Parameter.Receipt
import NativeMethod.Proofs.Identifiers

/-!
# Lines — reading generated code back

To say what generated code does, it is read line by line as the C it is meant to be: a test with an
opening brace, the middle of a conditional, braces of their own, and plain statements.  Indentation
does not count.

* `Line.read` — the reading of a text;
* `read_assignment`, `read_call`, … — the lines that receive parameters are read as intended, as long
  as variables have proper names.
-/

namespace NativeMethod

/-! ## Parts of texts -/

/-- What stands behind a prefix. -/
def afterPrefix? (opening text : List Char) : Option (List Char) :=
  if opening.isPrefixOf text then some (text.drop opening.length) else none

/-- What stands between a prefix and a suffix. -/
def between? (opening closing text : List Char) : Option (List Char) :=
  (afterPrefix? opening text).bind fun rest =>
    if closing.isSuffixOf rest then some (rest.take (rest.length - closing.length)) else none

theorem afterPrefix?_append (opening rest : List Char) :
    afterPrefix? opening (opening ++ rest) = some rest := by
  simp [afterPrefix?]

theorem afterPrefix?_eq_none {opening text : List Char} (h : ¬ opening <+: text) :
    afterPrefix? opening text = none := by
  simpa [afterPrefix?] using h

theorem between?_append (opening inner closing : List Char) :
    between? opening closing (opening ++ (inner ++ closing)) = some inner := by
  simp [between?, afterPrefix?_append]

theorem between?_eq_none {opening closing text : List Char} (h : ¬ opening <+: text) :
    between? opening closing text = none := by
  simp [between?, afterPrefix?_eq_none h]

/-! ## Lines -/

/-- A line of structured code. -/
inductive Line where
  /-- The block that follows is for an argument that is not there. -/
  | missing (name : String)
  /-- The block that follows is for an argument that meets the condition. -/
  | refused (condition : String)
  | otherwise
  | openBlock
  | closeBlock
  | leave (form : ReturnForm)
  | plain (statement : String)
  deriving DecidableEq

namespace Line

def conditionOpening : List Char :=
  ['i', 'f', ' ', '(', 'U', 'N', 'E', 'X', 'P', 'E', 'C', 'T', 'E', 'D', '(']

def conditionClosing : List Char := [')', ')', ' ', '\x7b']

def testOpening : List Char := ['i', 'f', ' ', '(', '!']

def testClosing : List Char := [')', ' ', '\x7b']

/-- The line that a text is, apart from its indentation. -/
def read (t : String) : Line :=
  let text := t.toList.dropWhile (· == '\t')
  match between? conditionOpening conditionClosing text, between? testOpening testClosing text with
  | some condition, _ => .refused (String.ofList condition)
  | none, some name => .missing (String.ofList name)
  | none, none =>
    if text = ['\x7d', ' ', 'e', 'l', 's', 'e', ' ', '\x7b'] then .otherwise
    else if text = ['\x7b'] then .openBlock
    else if text = ['\x7d'] then .closeBlock
    else .plain (String.ofList text)

end Line

/-- The line that a fragment is.  Blank lines do nothing, and neither do the sites that enter a frame,
leave it without returning or fetch arguments: where control goes does not depend on them. -/
def Fragment.line? (f : Fragment) : Option Line :=
  match f.content with
  | .code t => some (Line.read t)
  | .site (.leave form) => some (.leave form)
  | _ => none

def Fragment.lines (fs : List Fragment) : List Line := fs.filterMap line?

theorem Fragment.lines_append (fs gs : List Fragment) : lines (fs ++ gs) = lines fs ++ lines gs :=
  List.filterMap_append

theorem Fragment.lines_flatMap {α : Type} (xs : List α) (f : α → List Fragment) :
    lines (xs.flatMap f) = xs.flatMap fun x => lines (f x) :=
  List.filterMap_flatMap

theorem Fragment.lines_cons_code (indent : Nat) (t : String) (fs : List Fragment) :
    lines (code indent t :: fs) = Line.read t :: lines fs := rfl

theorem Fragment.lines_codeLines (indent : Nat) (ts : List String) :
    lines (codeLines indent ts) = ts.map Line.read := by
  calc
    lines (codeLines indent ts) = ts.filterMap (line? ∘ code indent) := List.filterMap_map
    _ = ts.filterMap (some ∘ Line.read) := rfl
    _ = ts.map Line.read := by rw [List.filterMap_eq_map]

/-! ## What lines are read as -/

namespace Line

theorem read_missing (name : String) : read ("if (!" ++ name ++ ") \x7b") = .missing name := by
  have hdrop : ("if (!" ++ name ++ ") \x7b").toList.dropWhile (· == '\t') =
      testOpening ++ (name.toList ++ testClosing) := by
    simp [testOpening, testClosing]
  -- the two tests differ in the character behind the bracket
  have hother : between? conditionOpening conditionClosing
      (testOpening ++ (name.toList ++ testClosing)) = none := by
    apply between?_eq_none
    simp [conditionOpening, testOpening]
  simp only [read, hdrop, hother, between?_append, String.ofList_toList]

theorem read_refused (condition : String) :
    read ("if (UNEXPECTED(" ++ condition ++ ")) \x7b") = .refused condition := by
  have hdrop : ("if (UNEXPECTED(" ++ condition ++ ")) \x7b").toList.dropWhile (· == '\t') =
      conditionOpening ++ (condition.toList ++ conditionClosing) := by
    simp [conditionOpening, conditionClosing]
  simp only [read, hdrop, between?_append, String.ofList_toList]

/-- A text that neither begins a conditional nor is made of braces is a statement. -/
theorem read_plain {t : String} {x : Char} {xs : List Char} (text : t.toList = x :: xs)
    (start : x ≠ '\t' ∧ x ≠ '\x7b' ∧ x ≠ '\x7d') (unconditional : ¬ ['i', 'f', ' ', '('] <+: x :: xs) :
    read t = .plain t := by
  have hdrop : t.toList.dropWhile (· == '\t') = x :: xs := by
    simp [text, start.1]
  have hnone (opening closing : List Char) (hopening : ['i', 'f', ' ', '('] <+: opening) :
      between? opening closing (x :: xs) = none := by
    apply between?_eq_none
    intro hprefix
    exact unconditional (hopening.trans hprefix)
  have hrefused := hnone conditionOpening conditionClosing (by simp [conditionOpening])
  have hmissing := hnone testOpening testClosing (by simp [testOpening])
  have htext : String.ofList (x :: xs) = t := by
    rw [← text, String.ofList_toList]
  simp [read, hdrop, hrefused, hmissing, htext, start.2.1, start.2.2]

/-- A text that begins with an identifier is a statement, even if the identifier is `if`: what comes
next is no condition. -/
theorem read_of_identifier {t name : String} {y : Char} {rest : List Char}
    (named : IsIdentifier name) (text : t.toList = name.toList ++ y :: rest)
    (hend : isIdentifierChar y = false) (unconditional : y = ' ' → rest.head? ≠ some '(') :
    read t = .plain t := by
  rcases hname : name.toList with _ | ⟨x, xs⟩
  · rcases named.start with ⟨x, hx, _⟩
    simp [hname] at hx
  · have hchars : ∀ z ∈ x :: xs, isIdentifierChar z = true := by
      simpa only [← hname] using named.chars
    have htext : t.toList = x :: (xs ++ y :: rest) := by
      simp [text, hname]
    have hstart : isIdentifierChar x = true := hchars x List.mem_cons_self
    have hother (z : Char) (hz : isIdentifierChar z = false) : x ≠ z := by
      rintro rfl
      rw [hstart] at hz
      cases hz
    refine read_plain htext ⟨hother '\t' rfl, hother '\x7b' rfl, hother '\x7d' rfl⟩ ?_
    intro hprefix
    -- the third character of a conditional is a blank, so the identifier has two
    rcases xs with _ | ⟨z, _ | ⟨w, ws⟩⟩
    · have hcond : y = 'f' := by
        simpa [eq_comm] using (List.cons_prefix_cons.1 (List.cons_prefix_cons.1 hprefix).2).1
      subst hcond
      cases hend
    · have hcond : y = ' ' ∧ ['('] <+: rest := by
        simpa [eq_comm, List.cons_prefix_cons] using
          (List.cons_prefix_cons.1 (List.cons_prefix_cons.1 hprefix).2).2
      rcases hcond.2 with ⟨ws, hws⟩
      exact unconditional hcond.1 (by simp [← hws])
    · have hcond : w = ' ' := by
        simpa [eq_comm] using (List.cons_prefix_cons.1 (List.cons_prefix_cons.1
          (List.cons_prefix_cons.1 hprefix).2).2).1
      subst hcond
      cases hchars ' ' (by simp)

theorem read_assignment {name : String} (named : IsIdentifier name) (value : String) :
    read (name ++ " = " ++ value) = .plain (name ++ " = " ++ value) := by
  have htext : (name ++ " = " ++ value).toList = name.toList ++ ' ' :: '=' :: ' ' :: value.toList := by
    simp
  exact read_of_identifier named htext rfl (by simp)

theorem read_call {function : String} (named : IsIdentifier function) (rest : String) :
    read (function ++ "(" ++ rest) = .plain (function ++ "(" ++ rest) := by
  have htext : (function ++ "(" ++ rest).toList = function.toList ++ '(' :: rest.toList := by
    simp
  exact read_of_identifier named htext rfl (by simp)

end Line
end NativeMethod
