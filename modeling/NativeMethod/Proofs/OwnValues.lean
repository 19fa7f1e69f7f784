import NativeMethod.Proofs.Identifiers
import NativeMethod.Proofs.Initializations

/-!
# OwnValues — the lines that build a value

A value of one's own is made by macros and functions of the runtime.  Each line calls one of them,
or it is a brace, or it declares a temporary for an array inside an array:

* `BuildLine` — these lines, apart from their indentation;
* `ClosedUnderItems.buildArray` — what holds of the commands for an item holds of all that build an
  array;
* `Builds.buildLine` — whatever is built, it is built by such lines;
* `Builds.assignee?_eq_none` — so no line assigns a variable, and nothing is shared.
-/

namespace NativeMethod

/-! ## Lines -/

namespace Calls

theorem initLine (target : String) :
    Calls "ZEPHIR_INIT_VAR" ("ZEPHIR_INIT_VAR(" ++ target ++ ");") :=
  (of_opening (by simp) target).append ");"

theorem separation (target : String) :
    Calls "ZEPHIR_SEPARATE_PARAM" ("ZEPHIR_SEPARATE_PARAM(" ++ target ++ ");") :=
  (of_opening (by simp) target).append ");"

end Calls

/-- The macros and functions that make and fill a value. -/
def builders : List String :=
  ["ZEPHIR_INIT_VAR", "ZVAL_NULL", "ZVAL_BOOL", "ZVAL_LONG", "ZVAL_DOUBLE", "ZVAL_STRING",
    "ZVAL_EMPTY_STRING", "array_init", "zephir_create_array", "add_next_index_null",
    "add_next_index_bool", "add_next_index_long", "add_next_index_double", "add_next_index_stringl",
    "add_next_index_zval"]

theorem isIdentifier_of_mem_builders : ∀ function ∈ builders, IsIdentifier function := by
  decide

/-- A line that builds a value of the variable of a name, apart from its indentation. -/
inductive BuildLine (name : String) : String → Prop where
  | call (function : String) {text : String} :
      function ∈ builders → Calls function text → BuildLine name text
  | openBlock : BuildLine name "\x7b"
  | closeBlock : BuildLine name "\x7d"
  | temporary (depth : Nat) : BuildLine name ("zval " ++ Command.temporaryAt name depth ++ ";")

/-! ## Commands -/

namespace Command

theorem exists_calls_setText (target : String) (value : BoxedScalar) :
    ∃ function ∈ builders, Calls function (setText target value) := by
  cases value with
  | null => exact ⟨"ZVAL_NULL", by decide, (Calls.of_opening (by simp) target).append ");"⟩
  | bool v =>
      exact ⟨"ZVAL_BOOL", by decide,
        (((Calls.of_opening (by simp) target).append ", ").append _).append ");"⟩
  | int v =>
      exact ⟨"ZVAL_LONG", by decide,
        (((Calls.of_opening (by simp) target).append ", ").append _).append ");"⟩
  | char b =>
      exact ⟨"ZVAL_LONG", by decide,
        (((Calls.of_opening (by simp) target).append ", ").append _).append ");"⟩
  | double x =>
      exact ⟨"ZVAL_DOUBLE", by decide,
        (((Calls.of_opening (by simp) target).append ", ").append _).append ");"⟩
  | string s =>
      exact ⟨"ZVAL_STRING", by decide,
        (((Calls.of_opening (by simp) target).append ", ").append _).append ");"⟩

theorem exists_calls_pushText (target : String) (value : BoxedScalar) :
    ∃ function ∈ builders, Calls function (pushText target value) := by
  cases value with
  | null => exact ⟨"add_next_index_null", by decide, (Calls.of_opening (by simp) target).append ");"⟩
  | bool v =>
      exact ⟨"add_next_index_bool", by decide,
        (((Calls.of_opening (by simp) target).append ", ").append _).append ");"⟩
  | int v =>
      exact ⟨"add_next_index_long", by decide,
        (((Calls.of_opening (by simp) target).append ", ").append _).append ");"⟩
  | char b =>
      exact ⟨"add_next_index_long", by decide,
        (((Calls.of_opening (by simp) target).append ", ").append _).append ");"⟩
  | double x =>
      exact ⟨"add_next_index_double", by decide,
        (((Calls.of_opening (by simp) target).append ", ").append _).append ");"⟩
  | string s =>
      exact ⟨"add_next_index_stringl", by decide,
        (((Calls.of_opening (by simp) target).append ", SL(").append _).append "));"⟩

/-- A command is a brace, declares a temporary or calls one of the macros and functions. -/
theorem text_cases (c : Command) :
    c = openBlock ∨ c = closeBlock ∨ (∃ temporary, c = declareTemporary temporary) ∨
      ∃ function ∈ builders, Calls function c.text := by
  have hcall {function : String} (hmem : function ∈ builders) (hcalls : Calls function c.text) :
      c = openBlock ∨ c = closeBlock ∨ (∃ temporary, c = declareTemporary temporary) ∨
        ∃ function ∈ builders, Calls function c.text :=
    .inr (.inr (.inr ⟨function, hmem, hcalls⟩))
  cases c with
  | openBlock => exact .inl rfl
  | closeBlock => exact .inr (.inl rfl)
  | declareTemporary temporary => exact .inr (.inr (.inl ⟨temporary, rfl⟩))
  | set target value => exact .inr (.inr (.inr (exists_calls_setText target.text value)))
  | push target value => exact .inr (.inr (.inr (exists_calls_pushText target.text value)))
  | setEmptyString target =>
      have hempty : Calls "ZVAL_EMPTY_STRING" (setEmptyString target).text :=
        (Calls.of_opening (by simp) target.text).append ");"
      exact hcall (by decide) hempty
  | newArray target =>
      have hnew : Calls "array_init" (newArray target).text :=
        (Calls.of_opening (by simp) target.text).append ");"
      exact hcall (by decide) hnew
  | newArrayOf target size =>
      have hnew : Calls "zephir_create_array" (newArrayOf target size).text :=
        (((Calls.of_opening (by simp) target.text).append ", ").append (toString size)).append ", 0);"
      exact hcall (by decide) hnew
  | pushTemporary target temporary =>
      have hpush : Calls "add_next_index_zval" (pushTemporary target temporary).text :=
        (((Calls.of_opening (by simp) target.text).append ", &").append temporary).append ");"
      exact hcall (by decide) hpush

/-- A command that declares a temporary declares one of those of the name. -/
def DeclaresOnly (name : String) (c : Command) : Prop :=
  ∀ temporary, c = declareTemporary temporary → ∃ depth, temporary = temporaryAt name depth

theorem buildLine_text {name : String} {c : Command} (h : c.DeclaresOnly name) :
    BuildLine name c.text := by
  rcases c.text_cases with rfl | rfl | ⟨temporary, rfl⟩ | ⟨function, hmem, hcalls⟩
  · exact .openBlock
  · exact .closeBlock
  · rcases h temporary rfl with ⟨depth, rfl⟩
    exact .temporary depth
  · exact .call function hmem hcalls

theorem exists_of_mem_lines {depth : Nat} {cs : List Command} {t : String}
    (h : t ∈ lines depth cs) : ∃ d, ∃ c ∈ cs, t = indented d c.text := by
  fun_induction lines depth cs with
  | case1 depth => cases h
  | case2 depth rest ih =>
      rcases List.mem_cons.1 h with rfl | h
      · exact ⟨depth, .openBlock, List.mem_cons_self, rfl⟩
      · rcases ih h with ⟨d, c, hc, ht⟩
        exact ⟨d, c, List.mem_cons_of_mem _ hc, ht⟩
  | case3 depth rest ih =>
      rcases List.mem_cons.1 h with rfl | h
      · exact ⟨depth - 1, .closeBlock, List.mem_cons_self, rfl⟩
      · rcases ih h with ⟨d, c, hc, ht⟩
        exact ⟨d, c, List.mem_cons_of_mem _ hc, ht⟩
  | case4 depth c rest _ _ ih =>
      rcases List.mem_cons.1 h with rfl | h
      · exact ⟨depth, c, List.mem_cons_self, rfl⟩
      · rcases ih h with ⟨d, c', hc, ht⟩
        exact ⟨d, c', List.mem_cons_of_mem _ hc, ht⟩

/-- Properties that the commands for items have if their targets are good ones.  The temporaries of inner
arrays are the targets of the items in them, so they have to be good as well. -/
structure ClosedUnderItems (name : String) (good : Operand → Prop) (P : Command → Prop) : Prop where
  openBlock : P openBlock
  closeBlock : P closeBlock
  good_temporary : ∀ depth, good ⟨temporaryAt name depth, true⟩
  declareTemporary : ∀ depth, P (declareTemporary (temporaryAt name depth))
  create : ∀ target, good target → ∀ items, P (create target items)
  push : ∀ target, good target → ∀ value, P (push target value)
  pushTemporary : ∀ target, good target → ∀ depth, P (pushTemporary target (temporaryAt name depth))

mutual

theorem ClosedUnderItems.pushItem {name : String} {good : Operand → Prop} {P : Command → Prop}
    (closed : ClosedUnderItems name good P) (depth : Nat) {target : Operand} (h : good target) :
    ∀ item : Literal, ∀ c ∈ pushItem name depth target item, P c
  | .null | .bool _ | .int _ | .char _ | .double _ | .string _ => by
      intro c hc
      rw [List.mem_singleton.1 hc]
      exact closed.push target h _
  | .array items => by
      intro c hc
      have htemporary := closed.good_temporary depth
      have hcases : c = .openBlock ∨ c = .declareTemporary (temporaryAt name depth) ∨
          c = Command.create ⟨temporaryAt name depth, true⟩ items ∨
          c ∈ Command.pushItems name (depth + 1) ⟨temporaryAt name depth, true⟩ items ∨
          c = .pushTemporary target (temporaryAt name depth) ∨ c = .closeBlock := by
        simpa [Command.pushItem, or_assoc] using hc
      rcases hcases with rfl | rfl | rfl | hc | rfl | rfl
      · exact closed.openBlock
      · exact closed.declareTemporary depth
      · exact closed.create _ htemporary items
      -- the items of the inner array go into its temporary
      · exact closed.pushItems (depth + 1) htemporary items c hc
      · exact closed.pushTemporary target h depth
      · exact closed.closeBlock

theorem ClosedUnderItems.pushItems {name : String} {good : Operand → Prop} {P : Command → Prop}
    (closed : ClosedUnderItems name good P) (depth : Nat) {target : Operand} (h : good target) :
    ∀ items : List Literal, ∀ c ∈ pushItems name depth target items, P c
  | [] => by
      intro c hc
      cases hc
  | item :: items => by
      intro c hc
      rcases List.mem_append.1 hc with hc | hc
      · exact closed.pushItem depth h item c hc
      · exact closed.pushItems depth h items c hc

end

/-- What holds of the commands for items holds of all that build an array. -/
theorem ClosedUnderItems.buildArray {v : Variable} {good : Operand → Prop} {P : Command → Prop}
    (closed : ClosedUnderItems v.name good P) (h : good v.operand) (items : List Literal) :
    ∀ c ∈ buildArray v items, P c := by
  intro c hc
  rcases List.mem_cons.1 hc with rfl | hc
  · exact closed.create v.operand h items
  · exact closed.pushItems 1 h items c hc

/-- Only the temporaries of inner arrays are declared. -/
theorem declaresOnly_closedUnderItems (name : String) :
    ClosedUnderItems name (fun _ => True) (·.DeclaresOnly name) where
  openBlock := by simp [DeclaresOnly]
  closeBlock := by simp [DeclaresOnly]
  good_temporary _ := trivial
  declareTemporary depth temporary h := by
    cases h
    exact ⟨depth, rfl⟩
  create target _ items temporary h := by
    unfold create at h
    split at h <;> cases h
  push := by simp [DeclaresOnly]
  pushTemporary := by simp [DeclaresOnly]

theorem dropWhile_tab_indented (depth : Nat) (t : String) :
    (indented depth t).toList.dropWhile (· == '\t') = t.toList.dropWhile (· == '\t') := by
  have htext : (indented depth t).toList = List.replicate depth '\t' ++ t.toList := by
    simp [indented]
  rw [htext, List.dropWhile_append_of_pos]
  intro x hx
  simp [List.eq_of_mem_replicate hx]

end Command

/-! ## Built values -/

/-- Every line of a built value makes or fills it. -/
theorem Variable.Builds.buildLine {v : Variable} {i : Initialization} (h : v.Builds i) {t : String}
    (ht : t ∈ i.lines) : ∃ depth text, t = Command.indented depth text ∧ BuildLine v.name text := by
  have hbuild {target : Operand} {commands : List Command}
      (hcommands : ∀ c ∈ commands, c.DeclaresOnly v.name)
      (ht : t ∈ (Initialization.build target commands).lines) :
      ∃ depth text, t = Command.indented depth text ∧ BuildLine v.name text := by
    rcases List.mem_cons.1 ht with rfl | ht
    -- the first line allocates, and the commands have one line each
    · have hinit : BuildLine v.name ("ZEPHIR_INIT_VAR(" ++ target.text ++ ");") :=
        .call "ZEPHIR_INIT_VAR" (by decide) (Calls.initLine target.text)
      exact ⟨0, _, by simp [Command.indented], hinit⟩
    · rcases Command.exists_of_mem_lines ht with ⟨d, c, hc, rfl⟩
      exact ⟨d, c.text, rfl, Command.buildLine_text (hcommands c hc)⟩
  have hplain {c : Command} (hc : ∀ temporary, c ≠ .declareTemporary temporary) :
      ∀ c' ∈ [c], c'.DeclaresOnly v.name := by
    intro c' hc' temporary h
    rw [List.mem_singleton.1 hc'] at h
    exact absurd h (hc temporary)
  -- only arrays declare temporaries
  cases h with
  | scalar value => exact hbuild (hplain (by simp)) ht
  | emptyString => exact hbuild (hplain (by simp)) ht
  | emptyArray => exact hbuild (hplain (by simp)) ht
  | array items =>
      exact hbuild ((Command.declaresOnly_closedUnderItems v.name).buildArray trivial items) ht

/-! ## Assignments -/

/-- The variable that a line assigns, apart from its indentation. -/
def assignee? (line : String) : Option String :=
  let text := line.toList.dropWhile (· == '\t')
  match text.dropWhile isIdentifierChar with
  | ' ' :: '=' :: ' ' :: _ => some (String.ofList (text.takeWhile isIdentifierChar))
  | _ => none

theorem IsIdentifier.dropWhile_tab {name : String} (h : IsIdentifier name) (rest : List Char) :
    (name.toList ++ rest).dropWhile (· == '\t') = name.toList ++ rest := by
  rcases h.exists_eq_cons with ⟨x, xs, hname, hx⟩
  have htab : x ≠ '\t' := by
    rintro rfl
    cases hx
  simp [hname, htab]

theorem assignee?_of_calls {function text : String} (named : IsIdentifier function)
    (h : Calls function text) : assignee? text = none := by
  rcases h with ⟨rest, rfl⟩
  have htext : (function ++ "(" ++ rest).toList = function.toList ++ '(' :: rest.toList := by
    simp
  have hparen : isIdentifierChar '(' = false := rfl
  simp only [assignee?, htext, named.dropWhile_tab, named.dropWhile_append hparen]
  rfl

theorem BuildLine.assignee?_eq_none {name text : String} (named : IsIdentifier name)
    (h : BuildLine name text) : assignee? text = none := by
  cases h with
  | call function hmem hcalls =>
      exact assignee?_of_calls (isIdentifier_of_mem_builders function hmem) hcalls
  | openBlock => rfl
  | closeBlock => rfl
  | temporary depth =>
      -- behind the type stands the name, which does not begin with the sign of an assignment
      rcases named.exists_eq_cons with ⟨x, xs, hname, hx⟩
      have hequals : x ≠ '=' := by
        rintro rfl
        cases hx
      simp [assignee?, Command.temporaryAt, hname, isIdentifierChar, hequals]

/-- Building a value assigns no variable. -/
theorem Variable.Builds.assignee?_eq_none {v : Variable} {i : Initialization} (h : v.Builds i)
    (named : IsIdentifier v.name) {t : String} (ht : t ∈ i.lines) : assignee? t = none := by
  rcases h.buildLine ht with ⟨depth, text, rfl, hline⟩
  simpa only [assignee?, Command.dropWhile_tab_indented] using hline.assignee?_eq_none named

end NativeMethod
