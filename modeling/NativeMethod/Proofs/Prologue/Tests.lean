import Mathlib.Data.List.TakeWhile
import NativeMethod.Guard
import NativeMethod.Proofs.Prologue.Lines

/-!
# Tests — the conditions of guards at a call

A guard stands in generated code as a condition on the variable that holds the argument.  Here the
text of the condition is read back and evaluated for a call, where it says of each argument that is
there what the guard says of it:

* `Call` — the arguments of a call and the instance tests of the runtime;
* `Test.readAll?` — a condition is one test or a conjunction of two;
* `Guard.holds?_rejection` — the condition of a guard holds of the arguments that it refuses.
-/

namespace NativeMethod

/-- The arguments of a call, by the variables that they are fetched into, where a missing argument
leaves a null pointer; and what the runtime answers when it is asked whether the argument in a variable
is an instance of the class behind a symbol. -/
structure Call where
  argument : String → Option Probe
  isInstance : String → String → Probe → Bool

/-- The constant that conditions have for the type of an argument; for objects they have none. -/
def Probe.typeConstant? : Probe → Option TypeConstant
  | null => some .null
  | long => some .long
  | double => some .double
  | bool true => some .yes
  | bool false => some .no
  | string => some .string
  | array => some .array
  | object _ _ => none

/-- The constant that the runtime has for the type of an argument. -/
def Probe.typeSymbol (p : Probe) : String :=
  match p.typeConstant? with
  | some t => t.symbol
  | none => "IS_OBJECT"

theorem TypeConstant.symbol_ne_object (t : TypeConstant) : "IS_OBJECT" ≠ t.symbol := by
  cases t <;> decide

theorem TypeConstant.symbol_inj {t u : TypeConstant} (h : t.symbol = u.symbol) : t = u := by
  revert h
  cases t <;> cases u <;> decide

theorem Probe.typeSymbol_bne (p : Probe) (t : TypeConstant) :
    (p.typeSymbol != t.symbol) = (p.typeConstant? != some t) := by
  unfold typeSymbol
  cases p.typeConstant? with
  | none =>
      have hne : ("IS_OBJECT" != t.symbol) = true := bne_iff_ne.2 t.symbol_ne_object
      exact hne
  | some u =>
      by_cases hu : u = t
      · simp [hu]
      · have hne : (u.symbol != t.symbol) = true :=
          bne_iff_ne.2 fun h => hu (TypeConstant.symbol_inj h)
        have hother : (some u != some t) = true := by simpa using hu
        exact hne.trans hother.symm

/-! ## Reading -/

/-- One test in a condition. -/
inductive Test where
  | hasNotType (subject symbol : String)
  | notInstanceOf (subject entry : String)
  deriving DecidableEq

namespace Test

def typeOpening : List Char := ['Z', '_', 'T', 'Y', 'P', 'E', '_', 'P', '(']

def typeMiddle : List Char := [')', ' ', '!', '=', ' ']

def instanceOpening : List Char :=
  ['!', '(', 'z', 'e', 'p', 'h', 'i', 'r', '_', 'i', 'n', 's', 't', 'a', 'n', 'c', 'e', '_', 'o',
    'f', '_', 'e', 'v', '(']

def instanceMiddle : List Char := [',', ' ']

def instanceClosing : List Char := [')', ')']

def conjunction : List Char := [' ', '&', '&', ' ']

/-- The first test of a condition and what stands behind it.  An instance test reaches to the end of
the condition. -/
def read? (text : List Char) : Option (Test × List Char) :=
  match afterPrefix? typeOpening text, afterPrefix? instanceOpening text with
  | some rest, _ =>
    (afterPrefix? typeMiddle (rest.dropWhile isIdentifierChar)).map fun tail =>
      (hasNotType (String.ofList (rest.takeWhile isIdentifierChar))
          (String.ofList (tail.takeWhile isIdentifierChar)),
        tail.dropWhile isIdentifierChar)
  | none, some rest =>
    (between? instanceMiddle instanceClosing (rest.dropWhile isIdentifierChar)).map fun entry =>
      (notInstanceOf (String.ofList (rest.takeWhile isIdentifierChar)) (String.ofList entry), [])
  | none, none => none

/-- The tests of a condition, of which there are one or two. -/
def readAll? (text : List Char) : Option (List Test) :=
  match read? text with
  | none => none
  | some (first, []) => some [first]
  | some (first, rest) =>
    match (afterPrefix? conjunction rest).bind read? with
    | some (second, []) => some [first, second]
    | _ => none

/-- What a test says of the argument in its variable.  It cannot be asked about a null pointer. -/
def holds? (call : Call) : Test → Option Bool
  | hasNotType subject symbol =>
    (call.argument subject).map fun p => p.typeSymbol != symbol
  | notInstanceOf subject entry =>
    (call.argument subject).map fun p => !call.isInstance subject entry p

/-- What a conjunction says: the first test that fails ends it. -/
def allHold? (call : Call) : List Test → Option Bool
  | [] => some true
  | test :: tests =>
    match test.holds? call with
    | some true => allHold? call tests
    | other => other

end Test

/-- What the text of a condition says at a call. -/
def Call.holds? (call : Call) (condition : String) : Option Bool :=
  (Test.readAll? condition.toList).bind (Test.allHold? call)

/-! ## What conditions are read as -/

namespace Condition

theorem toList_text_hasNotType (subject : String) (t : TypeConstant) :
    (hasNotType subject t).text.toList =
      Test.typeOpening ++ (subject.toList ++ (Test.typeMiddle ++ t.symbol.toList)) := by
  have htext : (hasNotType subject t).text = "Z_TYPE_P(" ++ subject ++ ") != " ++ t.symbol := rfl
  simp [htext, Test.typeOpening, Test.typeMiddle]

theorem toList_text_notInstanceOf (subject : String) (c : ClassName) :
    (notInstanceOf subject c).text.toList =
      Test.instanceOpening ++ (subject.toList ++
        (Test.instanceMiddle ++ (c.entrySymbol.toList ++ Test.instanceClosing))) := by
  have htext : (notInstanceOf subject c).text =
      "!(zephir_instance_of_ev(" ++ subject ++ ", " ++ c.entrySymbol ++ "))" := rfl
  simp [htext, Test.instanceOpening, Test.instanceMiddle, Test.instanceClosing]

theorem toList_text_both (first second : Condition) :
    (both first second).text.toList =
      first.text.toList ++ (Test.conjunction ++ second.text.toList) := by
  have htext : (both first second).text = first.text ++ " && " ++ second.text := rfl
  simp [htext, Test.conjunction]

end Condition

theorem TypeConstant.isIdentifier_symbol (t : TypeConstant) : IsIdentifier t.symbol := by
  cases t <;> exact ⟨by simp [symbol, isIdentifierChar], 'I', by simp [symbol], rfl⟩

namespace Test

/-- A type test ends with the condition or before a conjunction. -/
theorem read?_hasNotType {subject : String} (named : IsIdentifier subject) (t : TypeConstant)
    {rest : List Char} (hrest : rest = [] ∨ ∃ more, rest = conjunction ++ more) :
    read? ((Condition.hasNotType subject t).text.toList ++ rest) =
      some (hasNotType subject t.symbol, rest) := by
  have htext : (Condition.hasNotType subject t).text.toList ++ rest =
      typeOpening ++ (subject.toList ++ (typeMiddle ++ (t.symbol.toList ++ rest))) := by
    simp only [Condition.toList_text_hasNotType, List.append_assoc]
  have hmiddle : typeMiddle ++ (t.symbol.toList ++ rest) =
      ')' :: ' ' :: '!' :: '=' :: ' ' :: (t.symbol.toList ++ rest) := by
    simp only [typeMiddle, List.cons_append, List.nil_append]
  have hsymbol : (t.symbol.toList ++ rest).takeWhile isIdentifierChar = t.symbol.toList ∧
      (t.symbol.toList ++ rest).dropWhile isIdentifierChar = rest := by
    have hnamed := t.isIdentifier_symbol
    rcases hrest with rfl | ⟨more, rfl⟩
    · simpa only [List.append_nil] using
        ⟨List.takeWhile_eq_self_iff.2 hnamed.chars, List.dropWhile_eq_nil_iff.2 hnamed.chars⟩
    · exact ⟨hnamed.takeWhile_append rfl _, hnamed.dropWhile_append rfl _⟩
  -- the subject reaches to the bracket
  have htake := named.takeWhile_append (x := ')') rfl (' ' :: '!' :: '=' :: ' ' ::
    (t.symbol.toList ++ rest))
  have hdrop := named.dropWhile_append (x := ')') rfl (' ' :: '!' :: '=' :: ' ' ::
    (t.symbol.toList ++ rest))
  rw [← hmiddle] at htake hdrop
  simp only [read?, htext, afterPrefix?_append, htake, hdrop, hsymbol.1, hsymbol.2,
    Option.map_some, String.ofList_toList]

/-- An instance test is read with the symbol of the class, whatever characters that has. -/
theorem read?_notInstanceOf {subject : String} (named : IsIdentifier subject) (c : ClassName) :
    read? (Condition.notInstanceOf subject c).text.toList =
      some (notInstanceOf subject c.entrySymbol, []) := by
  have htext := Condition.toList_text_notInstanceOf subject c
  have hother : afterPrefix? typeOpening (instanceOpening ++
      (subject.toList ++ (instanceMiddle ++ (c.entrySymbol.toList ++ instanceClosing)))) = none := by
    apply afterPrefix?_eq_none
    simp [typeOpening, instanceOpening]
  have hmiddle : instanceMiddle ++ (c.entrySymbol.toList ++ instanceClosing) =
      ',' :: ' ' :: (c.entrySymbol.toList ++ instanceClosing) := by
    simp only [instanceMiddle, List.cons_append, List.nil_append]
  -- the subject reaches to the comma
  have htake := named.takeWhile_append (x := ',') rfl (' ' ::
    (c.entrySymbol.toList ++ instanceClosing))
  have hdrop := named.dropWhile_append (x := ',') rfl (' ' ::
    (c.entrySymbol.toList ++ instanceClosing))
  rw [← hmiddle] at htake hdrop
  simp only [read?, htext, hother, afterPrefix?_append, htake, hdrop, between?_append,
    Option.map_some, String.ofList_toList]

theorem readAll?_of_single {text : List Char} {test : Test} (h : read? text = some (test, [])) :
    readAll? text = some [test] := by
  simp only [readAll?, h]

theorem readAll?_of_both {subject : String} (named : IsIdentifier subject) (t : TypeConstant)
    {second : Condition} {test : Test} (h : read? second.text.toList = some (test, [])) :
    readAll? (Condition.both (.hasNotType subject t) second).text.toList =
      some [hasNotType subject t.symbol, test] := by
  have htext := Condition.toList_text_both (.hasNotType subject t) second
  have hfirst := read?_hasNotType named t (.inr ⟨second.text.toList, rfl⟩)
  have hcons : conjunction ++ second.text.toList =
      ' ' :: '&' :: '&' :: ' ' :: second.text.toList := by
    simp only [conjunction, List.cons_append, List.nil_append]
  have hsecond : (afterPrefix? conjunction (conjunction ++ second.text.toList)).bind read? =
      some (test, []) := by
    rw [afterPrefix?_append]
    exact h
  rw [hcons] at hfirst hsecond
  simp only [readAll?, htext, hcons, hfirst, hsecond]

end Test

/-! ## What conditions say -/

theorem Test.holds?_hasNotType {call : Call} {subject : String} {p : Probe}
    (supplied : call.argument subject = some p) (t : TypeConstant) :
    (Test.hasNotType subject t.symbol).holds? call = some (p.typeConstant? != some t) := by
  simp only [holds?, supplied, Option.map_some, Probe.typeSymbol_bne]

namespace Call

variable {call : Call} {subject : String} {p : Probe}

theorem holds?_hasNotType (named : IsIdentifier subject)
    (supplied : call.argument subject = some p) (t : TypeConstant) :
    call.holds? (Condition.hasNotType subject t).text = some (p.typeConstant? != some t) := by
  have hread := Test.read?_hasNotType named t (.inl rfl)
  rw [List.append_nil] at hread
  simp only [holds?, Test.readAll?_of_single hread, Option.bind_some, Test.allHold?,
    Test.holds?_hasNotType supplied]
  cases p.typeConstant? != some t <;> rfl

theorem holds?_notInstanceOf (named : IsIdentifier subject)
    (supplied : call.argument subject = some p) (c : ClassName) :
    call.holds? (Condition.notInstanceOf subject c).text =
      some (!call.isInstance subject c.entrySymbol p) := by
  have hread := Test.read?_notInstanceOf named c
  simp only [holds?, Test.readAll?_of_single hread, Option.bind_some, Test.allHold?, Test.holds?,
    supplied, Option.map_some]
  cases call.isInstance subject c.entrySymbol p <;> rfl

/-- A conjunction holds where both of its tests do. -/
theorem holds?_both (named : IsIdentifier subject) (supplied : call.argument subject = some p)
    (t : TypeConstant) {second : Condition} {test : Test} {b : Bool}
    (hread : Test.read? second.text.toList = some (test, [])) (second_holds : test.holds? call = some b) :
    call.holds? (Condition.both (.hasNotType subject t) second).text =
      some (p.typeConstant? != some t && b) := by
  simp only [holds?, Test.readAll?_of_both named t hread, Option.bind_some, Test.allHold?,
    Test.holds?_hasNotType supplied, second_holds]
  cases p.typeConstant? != some t <;> cases b <;> rfl

end Call

/-- The constant of the arguments that carry a tag; those of the booleans have two. -/
def BoxTag.constant? : BoxTag → Option TypeConstant
  | long => some .long
  | double => some .double
  | bool => none
  | string => some .string
  | array => some .array

namespace BoxTag

theorem mismatch_of_constant? {tag : BoxTag} {t : TypeConstant} (h : tag.constant? = some t)
    (subject : String) : tag.mismatch subject = .hasNotType subject t := by
  cases tag <;> cases h <;> rfl

theorem typeConstant?_bne {tag : BoxTag} {t : TypeConstant} (h : tag.constant? = some t)
    (p : Probe) : (p.typeConstant? != some t) = (p.tag? != some tag) := by
  cases p with
  | bool value => cases value <;> cases tag <;> cases h <;> rfl
  | _ => cases tag <;> cases h <;> rfl

theorem typeConstant?_bne_bool (p : Probe) :
    (p.typeConstant? != some .yes && p.typeConstant? != some .no) = (p.tag? != some .bool) := by
  cases p with
  | bool value => cases value <;> rfl
  | _ => rfl

end BoxTag

/-- An argument that does not carry the tag meets the condition for its absence. -/
theorem Call.holds?_mismatch {call : Call} {subject : String} {p : Probe}
    (named : IsIdentifier subject) (supplied : call.argument subject = some p) (tag : BoxTag) :
    call.holds? (tag.mismatch subject).text = some (p.tag? != some tag) := by
  cases hconstant : tag.constant? with
  | some t =>
      rw [BoxTag.mismatch_of_constant? hconstant, ← BoxTag.typeConstant?_bne hconstant]
      exact holds?_hasNotType named supplied t
  | none =>
      have htag : tag = .bool := by
        cases tag <;> first | rfl | cases hconstant
      subst htag
      -- a boolean lacks the tag if it is neither of the two values
      have hread := Test.read?_hasNotType named .no (.inl rfl)
      rw [List.append_nil] at hread
      rw [← BoxTag.typeConstant?_bne_bool]
      exact holds?_both named supplied .yes hread (Test.holds?_hasNotType supplied .no)

namespace Guard

variable {call : Call} {g : Guard} {p : Probe}

theorem accepts_of_tag {type : StorageType} {tag : BoxTag} (h : g.requirement = .tag type tag) :
    g.accepts p = (p.tag? == some tag) := by
  by_cases hnull : p = .null
  · subst hnull
    simp [accepts, acceptsNull, h, Probe.tag?]
  · simp [accepts, h, hnull]

theorem accepts_of_instanceOf {c : ClassName} {orNull : Bool}
    (h : g.requirement = .instanceOf c orNull) :
    g.accepts p = (p.isInstanceOf c || (orNull && p == .null)) := by
  by_cases hnull : p = .null
  · subst hnull
    simp [accepts, acceptsNull, h, Probe.isInstanceOf]
  · simp [accepts, h, hnull]

/-- The condition of a guard holds of an argument exactly if the guard refuses it. -/
theorem holds?_rejection (named : IsIdentifier g.subject)
    (supplied : call.argument g.subject = some p)
    (classes : ∀ c orNull, g.requirement = .instanceOf c orNull →
      call.isInstance g.subject c.entrySymbol p = p.isInstanceOf c) :
    call.holds? g.rejection.text = some (!g.accepts p) := by
  cases hrequirement : g.requirement with
  | tag type tag =>
      have hrejection : g.rejection = tag.mismatch g.subject := by
        simp only [rejection, hrequirement]
      rw [hrejection, accepts_of_tag hrequirement]
      exact Call.holds?_mismatch named supplied tag
  | instanceOf c orNull =>
      have hclass := classes c orNull hrequirement
      -- an object is judged by the instance test alone, and null by the first test where it may pass
      rw [accepts_of_instanceOf hrequirement, ← hclass]
      cases orNull with
      | false =>
          have hrejection : g.rejection = .notInstanceOf g.subject c := by
            simp only [rejection, hrequirement]
          rw [hrejection, Bool.false_and, Bool.or_false]
          exact Call.holds?_notInstanceOf named supplied c
      | true =>
          have hrejection : g.rejection =
              .both (.hasNotType g.subject .null) (.notInstanceOf g.subject c) := by
            simp only [rejection, hrequirement]
          have hread := Test.read?_notInstanceOf named c
          have hsecond : (Test.notInstanceOf g.subject c.entrySymbol).holds? call =
              some (!call.isInstance g.subject c.entrySymbol p) := by
            simp only [Test.holds?, supplied, Option.map_some]
          have hnull : (p.typeConstant? != some .null) = !(p == .null) := by
            cases p with
            | bool value => cases value <;> rfl
            | _ => rfl
          have hboth := Call.holds?_both named supplied .null hread hsecond
          rw [hrejection, hboth, hnull, Bool.true_and, Bool.not_or, Bool.and_comm]

end Guard
end NativeMethod
