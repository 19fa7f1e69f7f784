import NativeMethod.Proofs.ArrayBuilding
import NativeMethod.Proofs.SeededVariables

/-!
# OperandTypes — what is initialised has the type it is declared with

The macros and functions of the runtime take pointers to boxed values, and so does a variable that is to
point at a shared one.  How many pointers lead from a variable to its value is written twice: as stars in
its declarator, and as an address operator where it is initialised.  The two agree unless a variable has a
pointer more and is not stored inline:

* `DeclarationBlock.typeOf?`, `Operand.cType?` — the C types of what is declared and of operands;
* `Command.typeAll`, `Initialization.WellTyped` — code with pointers to boxed values wherever it needs
  them, also among the temporaries of its blocks;
* `typeAll_pushItems` — items are appended in well-typed code if the array is given by a pointer;
* `typeOf?_of_mem` — the type that a variable of a table is declared with;
* `seeds_wellTyped_iff` — the variables whose initialisation is well-typed.
-/

namespace NativeMethod

/-! ## Types of declarations -/

structure CType where
  base : String
  /-- The number of pointers that lead to the base type. -/
  indirection : Nat
  deriving DecidableEq

namespace CType

def boxed : CType := ⟨"zval", 0⟩

/-- What the runtime takes, and what the address of a shared value is. -/
def boxedPointer : CType := ⟨"zval", 1⟩

def address (t : CType) : CType := { t with indirection := t.indirection + 1 }

end CType

/-- The types of the names that are declared somewhere. -/
abbrev TypeScope := String → Option CType

/-- A scope with one more boxed value, which may hide a name of the scope. -/
def TypeScope.declare (Γ : TypeScope) (x : String) : TypeScope := fun y =>
  if y = x then some .boxed else Γ y

/-- The types of the names that a block declares. -/
def DeclarationBlock.typeOf? (b : DeclarationBlock) : TypeScope := fun x =>
  b.groups.findSome? fun g =>
    (g.declarators.find? (·.name = x)).map fun d => ⟨g.cType, d.indirection⟩

def Operand.cType? (Γ : TypeScope) (o : Operand) : Option CType :=
  if o.isAddress then (Γ o.name).map CType.address else Γ o.name

/-! ## Well-typed code -/

namespace Command

/-- The operands that a command hands to the runtime. -/
def operands : Command → List Operand
  | set target _ | setEmptyString target | newArray target | newArrayOf target _
  | push target _ => [target]
  | pushTemporary target temporary => [target, ⟨temporary, true⟩]
  | openBlock | declareTemporary _ | closeBlock => []

/-- The scopes behind a command, the innermost first.  A call has none unless all its operands are
pointers to boxed values. -/
def typeStep : Command → List TypeScope → Option (List TypeScope)
  | _, [] => none
  | openBlock, Γ :: outer => some (Γ :: Γ :: outer)
  | declareTemporary x, Γ :: outer => some (Γ.declare x :: outer)
  | closeBlock, _ :: outer => some outer
  | c, Γ :: outer =>
    if ∀ o ∈ c.operands, o.cType? Γ = some .boxedPointer then some (Γ :: outer) else none

def typeAll : List Command → List TypeScope → Option (List TypeScope)
  | [], scopes => some scopes
  | c :: rest, scopes => (typeStep c scopes).bind (typeAll rest)

end Command

namespace Initialization

/-- The operand that the first line of the code is about. -/
def operand : Initialization → Operand
  | assign name _ | share name _ => ⟨name, false⟩
  | build target _ => target

/-- The code fits the types of what is declared. -/
def WellTyped (Γ : TypeScope) : Initialization → Prop
  | assign name _ => ∃ base, Γ name = some ⟨base, 0⟩
  | share name _ => Γ name = some .boxedPointer
  | build target commands =>
    target.cType? Γ = some .boxedPointer ∧ (Command.typeAll commands [Γ]).isSome = true

end Initialization

/-! ## Arrays -/

namespace Command

variable {Γ : TypeScope} {outer : List TypeScope} {name : String} {depth : Nat} {target : Operand}

theorem typeAll_append (cs ds : List Command) (scopes : List TypeScope) :
    typeAll (cs ++ ds) scopes = (typeAll cs scopes).bind (typeAll ds) := by
  induction cs generalizing scopes with
  | nil => rfl
  | cons c rest ih =>
      simp only [List.cons_append, typeAll, Option.bind_assoc]
      exact congrArg _ (funext ih)

theorem typeStep_openBlock : typeStep openBlock (Γ :: outer) = some (Γ :: Γ :: outer) := rfl

theorem typeStep_declareTemporary (x : String) :
    typeStep (declareTemporary x) (Γ :: outer) = some (Γ.declare x :: outer) := rfl

theorem typeStep_push (typed : target.cType? Γ = some .boxedPointer) (value : BoxedScalar) :
    typeStep (push target value) (Γ :: outer) = some (Γ :: outer) := by
  simp [typeStep, operands, typed]

theorem typeStep_create (typed : target.cType? Γ = some .boxedPointer) (items : List Literal) :
    typeStep (create target items) (Γ :: outer) = some (Γ :: outer) := by
  unfold create
  split <;> simp [typeStep, operands, typed]

/-- In its block, a temporary is given by its address. -/
theorem cType?_temporary (Γ : TypeScope) (x : String) :
    Operand.cType? (Γ.declare x) ⟨x, true⟩ = some .boxedPointer := by
  simp [Operand.cType?, TypeScope.declare, CType.boxed, CType.address, CType.boxedPointer]

theorem cType?_declare {x : String} (other : target.name ≠ x) :
    target.cType? (Γ.declare x) = target.cType? Γ := by
  simp [Operand.cType?, TypeScope.declare, other]

/-- An array that items of a depth can be appended to: it is given by a pointer, and is none of the
temporaries that these items need. -/
structure Appendable (Γ : TypeScope) (name : String) (depth : Nat) (target : Operand) : Prop where
  typed : target.cType? Γ = some .boxedPointer
  free : ∀ k, depth ≤ k → target.name ≠ temporaryAt name k

/-- In its block, the temporary of the depth can be appended to as well. -/
theorem appendable_temporary (Γ : TypeScope) (name : String) (depth : Nat) :
    Appendable (Γ.declare (temporaryAt name depth)) name (depth + 1)
      ⟨temporaryAt name depth, true⟩ where
  typed := cType?_temporary Γ _
  free k hk hsame := by
    have hdepth : depth = k := temporaryAt_inj hsame
    omega

/-- The block hands its temporary to the array around it, and leaves the scope behind. -/
theorem typeAll_pushTemporary (h : Appendable Γ name depth target) :
    typeAll [pushTemporary target (temporaryAt name depth), closeBlock]
      (Γ.declare (temporaryAt name depth) :: Γ :: outer) = some (Γ :: outer) := by
  have htarget : target.cType? (Γ.declare (temporaryAt name depth)) = some .boxedPointer :=
    (cType?_declare (h.free depth (Nat.le_refl depth))).trans h.typed
  simp [typeAll, typeStep, operands, htarget, cType?_temporary]

mutual

/-- An item is appended in well-typed code, and what it declares for that is gone afterwards. -/
theorem typeAll_pushItem (name : String) :
    ∀ (item : Literal) {Γ : TypeScope} {depth : Nat} {target : Operand} (outer : List TypeScope),
      Appendable Γ name depth target →
        typeAll (pushItem name depth target item) (Γ :: outer) = some (Γ :: outer)
  | .null, _, _, _, _, h | .bool _, _, _, _, _, h | .int _, _, _, _, _, h
  | .char _, _, _, _, _, h | .double _, _, _, _, _, h | .string _, _, _, _, _, h => by
      simp [pushItem, typeAll, typeStep_push h.typed]
  | .array items, Γ, depth, target, outer, h => by
      -- the block has a scope of its own, in which the temporary takes the place of the target
      have hinner := appendable_temporary Γ name depth
      have hcreate : typeStep (create ⟨temporaryAt name depth, true⟩ items)
          (Γ.declare (temporaryAt name depth) :: Γ :: outer) =
            some (Γ.declare (temporaryAt name depth) :: Γ :: outer) :=
        typeStep_create hinner.typed items
      have hitems := typeAll_pushItems name items (Γ :: outer) hinner
      simp only [pushItem, List.cons_append, List.nil_append, typeAll, typeStep_openBlock,
        typeStep_declareTemporary, hcreate, typeAll_append, hitems, Option.bind_some]
      exact typeAll_pushTemporary h

theorem typeAll_pushItems (name : String) :
    ∀ (items : List Literal) {Γ : TypeScope} {depth : Nat} {target : Operand}
      (outer : List TypeScope), Appendable Γ name depth target →
        typeAll (pushItems name depth target items) (Γ :: outer) = some (Γ :: outer)
  | [], _, _, _, _, _ => rfl
  | item :: items, _, _, _, outer, h => by
      rw [pushItems, typeAll_append, typeAll_pushItem name item outer h, Option.bind_some,
        typeAll_pushItems name items outer h]

end

/-- An array is built in well-typed code if its variable is given by a pointer. -/
theorem typeAll_buildArray {v : Variable} (typed : v.operand.cType? Γ = some .boxedPointer)
    (items : List Literal) : typeAll (buildArray v items) [Γ] = some [Γ] := by
  have hvariable : Appendable Γ v.name 1 v.operand :=
    ⟨typed, fun k _ => (temporaryAt_ne v.name k).symm⟩
  rw [buildArray, typeAll, typeStep_create typed, Option.bind_some,
    typeAll_pushItems v.name items [] hvariable]

end Command

/-! ## Initialisations -/

namespace Variable

variable {Γ : TypeScope} {v : Variable} {constants : SharedConstants} {e : Estimate}
  {i : Initialization}

/-- Built values are well-typed if their variables are given by pointers. -/
theorem Builds.wellTyped_iff (h : v.Builds i) :
    i.operand = v.operand ∧ (i.WellTyped Γ ↔ v.operand.cType? Γ = some .boxedPointer) := by
  -- the first line needs the pointer, and the commands need no more than that
  have hbuild {commands : List Command}
      (hcommands : v.operand.cType? Γ = some .boxedPointer →
        (Command.typeAll commands [Γ]).isSome = true) :
      (Initialization.build v.operand commands).WellTyped Γ ↔
        v.operand.cType? Γ = some .boxedPointer :=
    ⟨fun typed => typed.1, fun typed => ⟨typed, hcommands typed⟩⟩
  cases h with
  | scalar value =>
      exact ⟨rfl, hbuild fun typed => by simp [Command.typeAll, Command.typeStep, Command.operands, typed]⟩
  | emptyString =>
      exact ⟨rfl, hbuild fun typed => by simp [Command.typeAll, Command.typeStep, Command.operands, typed]⟩
  | emptyArray =>
      exact ⟨rfl, hbuild fun typed => by simp [Command.typeAll, Command.typeStep, Command.operands, typed]⟩
  | array items => exact ⟨rfl, hbuild fun typed => by rw [Command.typeAll_buildArray typed]; rfl⟩

theorem Shares.wellTyped_iff (h : v.Shares constants e i) :
    i.operand = v.operand ∧ (i.WellTyped Γ ↔ v.operand.cType? Γ = some .boxedPointer) := by
  cases h with
  | intro s _ hpointer =>
      -- a value is shared only by a variable that is a pointer
      have hoperand : v.operand = ⟨v.name, false⟩ := by
        simp [operand, hpointer]
      rw [hoperand]
      exact ⟨rfl, Iff.rfl⟩

end Variable

/-! ## Declared variables -/

namespace SymbolTable

variable {t : SymbolTable} {b : DeclarationBlock}

/-- A declarator is that of a variable, and stands behind the C type of that variable. -/
theorem exists_variable_of_declarator (h : t.declarationBlock = .ok b) {g : DeclarationGroup}
    (hg : g ∈ b.groups) {d : Declarator} (hd : d ∈ g.declarators) :
    ∃ v ∈ t.declarable, v.type.cType? = some g.cType ∧ v.declarator = .ok d := by
  obtain ⟨⟨type, members⟩, hmem, hof⟩ := Outcome.exists_source (declarationBlock_eq_ok h) hg
  obtain ⟨htype, hcType, hdeclarators⟩ := DeclarationGroup.ofVariables_eq_ok hof
  obtain ⟨v, hv, hok⟩ := Outcome.exists_source hdeclarators hd
  refine ⟨v, mem_declarable_iff.2 ⟨_, hmem, hv⟩, ?_, hok⟩
  rw [type_of_mem_group hmem hv]
  exact hcType

theorem exists_of_typeOf?_eq_some {x : String} {type : CType} (h : b.typeOf? x = some type) :
    ∃ g ∈ b.groups, ∃ d ∈ g.declarators, d.name = x ∧ type = ⟨g.cType, d.indirection⟩ := by
  obtain ⟨g, hg, hfound⟩ := List.exists_of_findSome?_eq_some h
  obtain ⟨d, hd, rfl⟩ := Option.map_eq_some_iff.1 hfound
  refine ⟨g, hg, d, List.mem_of_find?_eq_some hd, ?_, rfl⟩
  simpa using List.find?_some hd

theorem typeOf?_eq_none_iff {x : String} : b.typeOf? x = none ↔ x ∉ b.names := by
  simp [DeclarationBlock.typeOf?, DeclarationBlock.names]

end SymbolTable

/-- The type that a boxed variable is declared with, by its flags. -/
def Variable.boxedType (v : Variable) : CType :=
  ⟨"zval", if v.isLocalOnly then 0 else if v.isDoublePointer then 2 else 1⟩

theorem StorageType.cType?_of_isBoxed {type : StorageType} (boxed : type.isBoxed = true) :
    type.cType? = some "zval" := by
  revert boxed
  cases type <;> decide

/-- A boxed variable is declared with the type of its flags, or not at all if it is implicit. -/
theorem SymbolTable.typeOf?_of_mem {t : SymbolTable} {b : DeclarationBlock}
    (distinct : t.NamesDistinct) (h : t.declarationBlock = .ok b) {v : Variable}
    (hv : v ∈ t.variables) (boxed : v.type.isBoxed = true) :
    b.typeOf? v.name = if v.isImplicit then none else some v.boxedType := by
  have hsame {w : Variable} (hw : w ∈ t.declarable) (hname : w.name = v.name) : w = v :=
    List.inj_on_of_nodup_map distinct (List.mem_of_mem_filter hw) hv hname
  cases himplicit : v.isImplicit with
  | true =>
      rw [if_pos rfl, typeOf?_eq_none_iff, mem_names_iff h]
      rintro ⟨w, hw, hname⟩
      rw [hsame hw hname] at hw
      simp [declarable, himplicit] at hw
  | false =>
      have hdeclarable : v ∈ t.declarable := by
        simp [declarable, hv, himplicit]
      have hname : v.name ∈ b.names := (mem_names_iff h).2 ⟨v, hdeclarable, rfl⟩
      obtain ⟨type, htype⟩ : ∃ type, b.typeOf? v.name = some type := by
        rw [← Option.ne_none_iff_exists', Ne, typeOf?_eq_none_iff]
        exact not_not_intro hname
      obtain ⟨g, hg, d, hd, hdname, rfl⟩ := exists_of_typeOf?_eq_some htype
      obtain ⟨w, hw, hcType, hok⟩ := exists_variable_of_declarator h hg hd
      -- the declarator is that of the variable itself
      rw [hsame hw ((Variable.name_of_declarator hok).symm.trans hdname)] at hcType hok
      rw [Variable.declarator_of_isBoxed boxed, Except.ok.injEq] at hok
      rw [StorageType.cType?_of_isBoxed boxed, Option.some.injEq] at hcType
      rw [htype, ← hok, ← hcType]
      cases hinline : v.isLocalOnly <;> simp [Variable.boxedType, hinline]

/-- The operand of a variable that is declared with the type of its flags is a pointer to a boxed value,
unless the variable has a pointer more. -/
theorem Variable.cType?_operand_iff {v : Variable} {Γ : TypeScope}
    (declared : Γ v.name = if v.isImplicit then none else some v.boxedType) :
    v.operand.cType? Γ = some .boxedPointer ↔
      v.isImplicit = false ∧ (v.isDoublePointer = true → v.isLocalOnly = true) := by
  -- the flags decide both sides
  cases himplicit : v.isImplicit <;> cases hinline : v.isLocalOnly <;>
    cases hdouble : v.isDoublePointer <;>
      simp [Operand.cType?, operand, declared, boxedType, himplicit, hinline, hdouble, CType.address,
        CType.boxedPointer]

/-- In a compiled method, a variable that is initialised at the head is declared with the type of its
flags, or not at all if it is implicit.  The operand that its lines start with is a pointer to a boxed
value exactly if the variable is declared and has no pointer more, unless it is stored inline; and
then all of its lines are well-typed. -/
theorem seeds_wellTyped_iff {ctx : ClassContext} {m : Method} {body : Body} {sink : Diagnostics}
    {c : CompiledMethod} (compiled : (ctx.compile m body sink).result = .ok c) :
    ∀ seed ∈ c.seeds,
      (c.declarations.typeOf? seed.target.name =
          if seed.target.isImplicit then none else some seed.target.boxedType) ∧
        (seed.code.operand.cType? c.declarations.typeOf? = some .boxedPointer ↔
          seed.target.isImplicit = false ∧
            (seed.target.isDoublePointer = true → seed.target.isLocalOnly = true)) ∧
        (seed.code.WellTyped c.declarations.typeOf? ↔
          seed.code.operand.cType? c.declarations.typeOf? = some .boxedPointer) := by
  obtain ⟨s, h⟩ := ClassContext.exists_phases compiled
  intro seed hseed
  obtain ⟨⟨v, l⟩, hvl, hok⟩ := Outcome.exists_source h.seeds_ok hseed
  obtain ⟨hv, hboxed, -, -⟩ := SymbolTable.mem_seeded_iff.1 hvl
  obtain ⟨rfl, hcode⟩ := ClassContext.seed_eq_ok_iff.1 hok
  have hdeclared := SymbolTable.typeOf?_of_mem h.namesDistinct h.declarations_ok hv hboxed
  have htyped : seed.code.operand = seed.target.operand ∧
      (seed.code.WellTyped c.declarations.typeOf? ↔
        seed.target.operand.cType? c.declarations.typeOf? = some .boxedPointer) := by
    rcases Variable.initialization?_sources (Variable.initialization_eq_ok_iff.1 hcode) with
      ⟨hnative, -⟩ | hshares | hbuilds
    · -- what is initialised at the head is boxed, and needs no constant
      exact absurd hnative (by revert hboxed; cases seed.target.type <;> decide)
    · exact hshares.wellTyped_iff
    · exact hbuilds.wellTyped_iff
  rw [htyped.1, htyped.2]
  exact ⟨hdeclared, Variable.cType?_operand_iff hdeclared, Iff.rfl⟩

/-- An array in a variable that is stored inline, and so needs no pointer more. -/
theorem wellTyped_of_inline_array :
    ∃ c : CompiledMethod,
      (ClassContext.compile { owner := ⟨"C"⟩ } { name := "f" }
        { steps := [⟨.change (.declare "x" .generic .nowhere), false⟩,
          ⟨.change (.addFlags "x" { isLocalOnly := true, isDoublePointer := true }), false⟩,
          ⟨.change (.setSeed "x" (.array [.int 1, .array [.null]])), false⟩] } {}).result = .ok c ∧
        c.seeds.map (·.target.name) = ["x"] ∧
        ∀ seed ∈ c.seeds, seed.code.WellTyped c.declarations.typeOf? := by
  rcases hresult : (ClassContext.compile { owner := ⟨"C"⟩ } { name := "f" }
      { steps := [⟨.change (.declare "x" .generic .nowhere), false⟩,
        ⟨.change (.addFlags "x" { isLocalOnly := true, isDoublePointer := true }), false⟩,
        ⟨.change (.setSeed "x" (.array [.int 1, .array [.null]])), false⟩] } {}).result with _ | c
  · cases hresult
  · have htyped := seeds_wellTyped_iff hresult
    cases hresult
    refine ⟨_, rfl, rfl, fun seed hseed => ?_⟩
    obtain ⟨-, hoperand, hcode⟩ := htyped seed hseed
    rw [List.mem_singleton.1 hseed] at hoperand hcode ⊢
    exact hcode.2 (hoperand.2 ⟨rfl, fun _ => rfl⟩)

/-- A variable with a pointer more is declared as `zval **out` and initialised as if it were no pointer
to a pointer. -/
theorem not_wellTyped_of_double_pointer :
    ∃ c : CompiledMethod,
      (ClassContext.compile { owner := ⟨"C"⟩ } { name := "f" }
        { steps := [⟨.change (.declare "out" .generic .nowhere), false⟩,
          ⟨.change (.addFlags "out" { isDoublePointer := true }), false⟩,
          ⟨.change (.setSeed "out" (.int 5)), false⟩] } {}).result = .ok c ∧
        c.declarations.declarations = ["zval **out;"] ∧
        c.seeds.map (·.code.lines) = [["ZEPHIR_INIT_VAR(out);", "ZVAL_LONG(out, 5);"]] ∧
        ∃ seed ∈ c.seeds, seed.code.operand = ⟨"out", false⟩ ∧
          seed.code.operand.cType? c.declarations.typeOf? = some ⟨"zval", 2⟩ ∧
          ¬ seed.code.WellTyped c.declarations.typeOf? := by
  refine ⟨_, rfl, rfl, rfl, _, List.mem_cons_self, rfl, rfl, ?_⟩
  rintro ⟨htyped, -⟩
  exact absurd htyped (by decide)

end NativeMethod
