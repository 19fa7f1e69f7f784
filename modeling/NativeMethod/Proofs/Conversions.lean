import NativeMethod.DeclarationBlock
import NativeMethod.Proofs.Initializations

/-!
# Conversions — which storage type takes which literal

Whether a default can initialise a variable is decided by the type of the variable and by the literal.
Flags, estimates and the items of an array have no part in it:

* `Literal.fits` — the table of conversions, one row for each kind of literal;
* `isSome_initialization?`, `isSome_nativeConstant?` — there is code, or a constant for what is not
  boxed, exactly for the literals that fit;
* `initialization_eq_error_iff` — any other literal is refused, at the place it is given with;
* `exists_lines` — the first line tells whether a value is allocated, whatever the variable is called;
* `conversions_decided` — all this of one variable and one literal, and what has no part in it.
-/

namespace NativeMethod

/-- Boxed types that hold a value of any kind. -/
def StorageType.holdsAny (t : StorageType) : Bool := t == .generic || t == .mixed

/-- The type can hold the value of the literal.  Null stands for the empty value of every type that has
one, and a double that is no number has no integer part. -/
def Literal.fits (l : Literal) (t : StorageType) : Bool :=
  match l with
  | .null => t.isNative || t.isBoxed
  | .int _ | .char _ => t.isInteger || t == .double || t.holdsAny
  | .double x => t.isInteger && x.isFinite || t == .double || t.holdsAny
  | .bool _ => t == .bool || t.holdsAny
  | .string _ => t == .string || t.holdsAny
  | .array _ => t == .array || t.holdsAny

namespace Literal

/-- What is not boxed is given a constant. -/
theorem isSome_nativeConstant? {t : StorageType} (unboxed : t.isBoxed = false) (l : Literal) :
    (l.nativeConstant? t).isSome = l.fits t := by
  cases t with
  | string | array | generic | mixed | object | callable | resource => cases unboxed
  | int | uint | long | ulong | char | uchar =>
      cases l with
      | double x =>
          -- a double that is no number has no integer part
          cases hfinite : x.isFinite <;>
            simp [nativeConstant?, integerConstant?, fits, hfinite, StorageType.isInteger,
              StorageType.holdsAny]
      | _ => rfl
  | _ => cases l <;> rfl

end Literal

namespace Variable

variable {v : Variable} {constants : SharedConstants} {e : Estimate} {l : Literal} {span : Span}

/-- A variable that is not boxed is assigned a constant or nothing. -/
theorem initialization?_of_not_isBoxed (unboxed : v.type.isBoxed = false) :
    v.initialization? constants e l = (l.nativeConstant? v.type).map (.assign v.name) := by
  unfold initialization?
  split <;> simp_all [StorageType.isBoxed]

/-- A variable for values of any kind takes every literal. -/
theorem initialization?_of_holdsAny (holdsAny : v.type.holdsAny = true) :
    v.initialization? constants e l = some (v.genericInitialization constants e l) := by
  have htype : v.type = .generic ∨ v.type = .mixed := by
    simpa [StorageType.holdsAny] using holdsAny
  rw [← genericInitialization?_eq]
  unfold initialization?
  rcases htype with htype | htype
  · rw [htype]
  · rw [htype]

theorem isSome_initialization? (v : Variable) (constants : SharedConstants) (e : Estimate)
    (l : Literal) : (v.initialization? constants e l).isSome = l.fits v.type := by
  cases hboxed : v.type.isBoxed with
  | false =>
      rw [initialization?_of_not_isBoxed hboxed, Option.isSome_map,
        Literal.isSome_nativeConstant? hboxed]
  | true =>
      rcases v with ⟨name, type, init, flags, uses, constraints, seed, place⟩
      cases type with
      | generic | mixed =>
          rw [initialization?_of_holdsAny rfl]
          cases l <;> rfl
      | array =>
          cases l with
          | array items =>
              -- no item can make the building of an array fail
              rw [initialization?_array (.inl rfl)]
              rfl
          | _ => rfl
      | string | object | callable | resource => cases l <;> rfl
      | _ => cases hboxed

theorem exists_initialization_iff :
    (∃ i, v.initialization constants e span l = .ok i) ↔ l.fits v.type = true := by
  simp only [initialization_eq_ok_iff, ← Option.isSome_iff_exists, isSome_initialization?]

theorem initialization_eq_error_iff {err : CompileError} :
    v.initialization constants e span l = .error err ↔
      l.fits v.type = false ∧ err = .unsupportedDefault v.name v.type l.kind span := by
  have hfits := v.isSome_initialization? constants e l
  unfold initialization
  cases hvalue : v.initialization? constants e l with
  | none =>
      have hunfit : l.fits v.type = false := by simpa [hvalue] using hfits.symm
      simp [hunfit, eq_comm]
  | some i =>
      have hfit : l.fits v.type = true := by simpa [hvalue] using hfits.symm
      simp [hfit]

end Variable

/-! ## Lines -/

/-- A text that a blank follows does not begin with a word and go on with itself, as the first blank would
come later then. -/
theorem append_blank_ne {name word rest rest' : List Char} (nonempty : word ≠ [])
    (blankless : ' ' ∉ word) : name ++ ' ' :: rest ≠ word ++ (name ++ rest') := by
  intro h
  -- count the characters in front of the first blank on both sides
  let unblank : List Char → List Char := List.takeWhile (· != ' ')
  have hbefore : unblank (name ++ ' ' :: rest) = unblank name := by
    simp only [unblank, List.takeWhile_append]
    split
    · rename_i hall
      simpa using ((List.takeWhile_prefix _).eq_of_length hall).symm
    · rfl
  have hbehind : unblank (word ++ (name ++ rest')) = word ++ unblank (name ++ rest') := by
    apply List.takeWhile_append_of_pos
    intro x hx
    have hx' : x ≠ ' ' := by
      rintro rfl
      exact blankless hx
    simpa using hx'
  have hgrows : (unblank name).length ≤ (unblank (name ++ rest')).length := by
    simp only [unblank, List.takeWhile_append]
    split
    · rename_i hall
      simp [hall]
    · exact Nat.le_refl _
  have hword := List.length_pos_iff.2 nonempty
  have hlength := congrArg (List.length ∘ unblank) h
  simp only [Function.comp_apply, hbefore, hbehind, List.length_append] at hlength
  omega

namespace Variable

variable {v : Variable} {constants : SharedConstants} {e : Estimate} {l : Literal}
  {i : Initialization}

/-- The line that makes room for a boxed value. -/
def allocationLine (v : Variable) : String := "ZEPHIR_INIT_VAR(" ++ v.operand.text ++ ");"

theorem lines_buildScalar (v : Variable) (value : BoxedScalar) :
    (v.buildScalar value).lines = [v.allocationLine, Command.setText v.operand.text value] := by
  have hline : Command.indented 0 (Command.setText v.operand.text value) =
      Command.setText v.operand.text value := by
    simp [Command.indented]
  show [v.allocationLine, Command.indented 0 (Command.setText v.operand.text value)] = _
  rw [hline]

/-- No name makes an assignment look like an allocation. -/
theorem assignment_ne_allocationLine (v : Variable) (value : String) :
    v.name ++ " = " ++ value ++ ";" ≠ v.allocationLine := by
  intro h
  have hline : (v.name ++ " = " ++ value ++ ";").toList =
      v.name.toList ++ ' ' :: '=' :: ' ' :: (value.toList ++ [';']) := by
    simp
  -- the line that allocates begins with the macro, whether or not the operand is an address
  have hallocation : ∃ word : List Char, word ≠ [] ∧ ' ' ∉ word ∧
      v.allocationLine.toList = word ++ (v.name.toList ++ [')', ';']) := by
    have htext : v.allocationLine.toList =
        "ZEPHIR_INIT_VAR(".toList ++ (v.operand.text.toList ++ [')', ';']) := by
      show ("ZEPHIR_INIT_VAR(" ++ v.operand.text ++ ");").toList = _
      simp
    cases hlocal : v.isLocalOnly with
    | true =>
        refine ⟨"ZEPHIR_INIT_VAR(&".toList, by decide, by decide, ?_⟩
        simp [htext, operand, Operand.text, hlocal]
    | false =>
        refine ⟨"ZEPHIR_INIT_VAR(".toList, by decide, by decide, ?_⟩
        simp [htext, operand, Operand.text, hlocal]
  obtain ⟨word, hnonempty, hblankless, htext⟩ := hallocation
  have hsame := congrArg String.toList h
  rw [hline, htext] at hsame
  exact append_blank_ne hnonempty hblankless hsame

theorem Builds.exists_lines_eq (h : v.Builds i) : ∃ rest, i.lines = v.allocationLine :: rest := by
  cases h with
  | scalar value => exact ⟨_, rfl⟩
  | emptyString => exact ⟨_, rfl⟩
  | emptyArray => exact ⟨_, rfl⟩
  | array items => exact ⟨_, rfl⟩

/-- There are lines, and the first one allocates exactly if the code says so. -/
theorem exists_lines (h : v.initialization? constants e l = some i) :
    ∃ first rest, i.lines = first :: rest ∧ (i.allocates = true ↔ first = v.allocationLine) := by
  rcases initialization?_cases h with ⟨value, hlines, hplain⟩ | hbuilds
  · have hother := v.assignment_ne_allocationLine value
    exact ⟨_, [], hlines, by simp [hplain, hother]⟩
  · obtain ⟨rest, hlines⟩ := hbuilds.exists_lines_eq
    exact ⟨_, rest, hlines, by simp [hbuilds.allocates]⟩

end Variable

/-- A default is given code exactly if it fits the type of its variable.  The code is not empty, and it
allocates exactly if its first line does.  A default that does not fit is refused for the variable, its
type, the kind of the literal and the place it is given with.  Neither the estimate nor the flags decide,
nor the name, the constants or the place; and of an array it only counts that it is one. -/
theorem conversions_decided (v : Variable) (constants : SharedConstants) (e : Estimate) (span : Span)
    (l : Literal) :
    ((∃ i, v.initialization constants e span l = .ok i) ↔ l.fits v.type = true) ∧
      (∀ i, v.initialization constants e span l = .ok i →
        ∃ first rest, i.lines = first :: rest ∧
          (i.allocates = true ↔ first = v.allocationLine)) ∧
      (∀ err, v.initialization constants e span l = .error err →
        err = .unsupportedDefault v.name v.type l.kind span) ∧
      ∀ (w : Variable) (constants' : SharedConstants) (e' : Estimate) (span' : Span),
        w.type = v.type →
          ((∃ i, w.initialization constants' e' span' l = .ok i) ↔
            ∃ i, v.initialization constants e span l = .ok i) ∧
          ∀ items items' : List Literal,
            (∃ i, w.initialization constants' e' span' (.array items) = .ok i) ↔
              ∃ i, v.initialization constants e span (.array items') = .ok i := by
  refine ⟨Variable.exists_initialization_iff, ?_, ?_, ?_⟩
  · intro i h
    exact Variable.exists_lines (Variable.initialization_eq_ok_iff.1 h)
  · intro err h
    exact (Variable.initialization_eq_error_iff.1 h).2
  · intro w constants' e' span' hsame
    simp only [Variable.exists_initialization_iff, hsame, true_and]
    intro items items'
    rfl

/-- An array in an array is built in a variable that holds its value inline, and a text is refused by a
number. -/
theorem conversions_decided_of_nested_array :
    (∃ i first rest,
      Variable.initialization { name := "v", type := .mixed, flags := { isLocalOnly := true } }
        .standard (.exact 1) .nowhere (.array [.array [.char 0xff, .null]]) = .ok i ∧
      i.lines = first :: rest ∧ (i.allocates = true ↔ first = "ZEPHIR_INIT_VAR(&v);")) ∧
      ∃ err, Variable.initialization { name := "n", type := .uint } .standard (.exact 1) ⟨3, 5, 1⟩
          (.string "1") = .error err ∧
        err = .unsupportedDefault "n" .uint .string ⟨3, 5, 1⟩ := by
  constructor
  · obtain ⟨hfits, hlines, _⟩ :=
      conversions_decided { name := "v", type := .mixed, flags := { isLocalOnly := true } }
        .standard (.exact 1) .nowhere (.array [.array [.char 0xff, .null]])
    obtain ⟨i, hi⟩ := hfits.2 rfl
    obtain ⟨first, rest, hfirst, hallocates⟩ := hlines i hi
    exact ⟨i, first, rest, hi, hfirst, hallocates⟩
  · have hrefused := (conversions_decided { name := "n", type := .uint } .standard (.exact 1)
      ⟨3, 5, 1⟩ (.string "1")).2.2.1
    exact ⟨_, rfl, hrefused _ rfl⟩

end NativeMethod
