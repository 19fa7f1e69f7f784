import Mathlib.Data.List.Flatten
import NativeMethod.Proofs.DeclarationSteps
import NativeMethod.Proofs.ErrorPlaces

/-!
# DeclarationPartition — what is declared, where and how often

The declarations of a table are an ordered partition of its variables, the implicit ones left out: one
statement for a type, in it one declarator for a variable, and one line more for an inline value.  They
exist unless a variable has no storage or a scalar has a default that cannot be spelled:

* `Variable.Undeclarable`, `SymbolTable.declarationBlock_fails_iff` — when there are none;
* `DeclarationBlock.Partitions` — what the statements and lines are otherwise;
* `SymbolTable.partitions_of_declarationBlock` — for every table whose names are distinct;
* `declarations_partition` — for every table that a history or a method reaches.
-/

namespace NativeMethod

/-! ## Failures -/

/-- No statement can declare the variable. -/
inductive Variable.Undeclarable (v : Variable) : Prop where
  | unstored : v.type = .void ∨ v.type = .unknown → Undeclarable v
  /-- A scalar has a default that no constant stands for. -/
  | unspelled {l : Literal} : v.type.isNative = true ∨ v.type = .hashPosition → v.seed = some l →
      l.nativeConstant? v.type = none → Undeclarable v

/-- The types that are neither boxed nor pointers. -/
theorem StorageType.cases_of_plain {type : StorageType} (unboxed : type.isBoxed = false)
    (plain : type.isPointer = false) :
    (type = .void ∨ type = .unknown) ∨ type.isNative = true ∨ type = .hashPosition := by
  revert unboxed plain
  cases type <;> decide

theorem StorageType.plain_of_scalar {type : StorageType}
    (scalar : type.isNative = true ∨ type = .hashPosition) :
    type.isBoxed = false ∧ type.isPointer = false := by
  revert scalar
  cases type <;> decide

theorem Variable.undeclarable_iff {v : Variable} :
    v.Undeclarable ↔ v.type.cType? = none ∨ ∃ e, v.declarator = .error e := by
  constructor
  · rintro (hunstored | @⟨l, hscalar, hseed, hnone⟩)
    · exact .inl (StorageType.cType?_eq_none_iff.2 hunstored)
    · -- only scalars look at their default when they are declared
      obtain ⟨hboxed, hpointer⟩ := StorageType.plain_of_scalar hscalar
      have hunfit : l.fits v.type = false := by
        simp [← Literal.isSome_nativeConstant? hboxed, hnone]
      exact .inr ⟨_, declarator_eq_error_iff.2 ⟨hboxed, hpointer, l, hseed, hunfit, rfl⟩⟩
  · rintro (hunstored | ⟨e, he⟩)
    · exact .unstored (StorageType.cType?_eq_none_iff.1 hunstored)
    · obtain ⟨hboxed, hpointer, l, hseed, hunfit, -⟩ := declarator_eq_error_iff.1 he
      rcases StorageType.cases_of_plain hboxed hpointer with hunstored | hscalar
      · exact .unstored hunstored
      · refine .unspelled hscalar hseed ?_
        simpa [hunfit] using Literal.isSome_nativeConstant? hboxed l

theorem Outcome.exists_mapM_eq_error_iff {ε α β : Type} {f : α → Except ε β} {xs : List α} :
    (∃ e, xs.mapM f = .error e) ↔ ∃ x ∈ xs, ∃ e, f x = .error e := by
  constructor
  · rintro ⟨e, he⟩
    obtain ⟨earlier, x, later, rfl, -, hx⟩ := mapM_eq_error_iff.1 he
    exact ⟨x, by simp, e, hx⟩
  · rintro ⟨x, hx, e, he⟩
    exact exists_mapM_eq_error hx he

theorem DeclarationGroup.exists_ofVariables_eq_error_iff {type : StorageType} {vs : List Variable} :
    (∃ e, ofVariables type vs = .error e) ↔
      type.cType? = none ∨ ∃ v ∈ vs, ∃ e, v.declarator = .error e := by
  cases hstored : type.cType? with
  | none => simp [ofVariables, hstored]
  | some cType =>
      have hsome : type.cType?.isSome = true := by simp [hstored]
      simp [ofVariables_eq_error_iff hsome, Outcome.exists_mapM_eq_error_iff]

/-- There are no declarations exactly if one of the variables cannot be declared. -/
theorem SymbolTable.declarationBlock_fails_iff {t : SymbolTable} :
    (∃ e, t.declarationBlock = .error e) ↔ ∃ v ∈ t.declarable, v.Undeclarable := by
  simp only [declarationBlock, Outcome.map_eq_error_iff, Outcome.exists_mapM_eq_error_iff,
    DeclarationGroup.exists_ofVariables_eq_error_iff, Variable.undeclarable_iff]
  constructor
  · rintro ⟨⟨type, members⟩, hg, hfails⟩
    have hne := (mem_groups_iff.1 hg).2
    rcases hfails with hunstored | ⟨v, hv, hfails⟩
    · -- a group has a first variable, and that has its type
      obtain ⟨v, hv⟩ := List.exists_mem_of_ne_nil members hne
      exact ⟨v, mem_declarable_iff.2 ⟨_, hg, hv⟩, .inl (type_of_mem_group hg hv ▸ hunstored)⟩
    · exact ⟨v, mem_declarable_iff.2 ⟨_, hg, hv⟩, .inr hfails⟩
  · rintro ⟨v, hv, hfails⟩
    obtain ⟨g, hg, hmem⟩ := mem_declarable_iff.1 hv
    refine ⟨g, hg, ?_⟩
    rcases hfails with hunstored | hfails
    · exact .inl (type_of_mem_group hg hmem ▸ hunstored)
    · exact .inr ⟨v, hmem, hfails⟩

/-! ## Partitions -/

/-- A block declares the variables of a table, the implicit ones left out, each where it belongs. -/
structure DeclarationBlock.Partitions (b : DeclarationBlock) (t : SymbolTable) : Prop where
  /-- The statements stand in the order of their types, so that no type has two. -/
  ordered : b.groups.Pairwise fun g g' => g.type.ordinal < g'.type.ordinal
  present : ∀ type, (∃ g ∈ b.groups, g.type = type) ↔
    ∃ v ∈ t.variables, v.isImplicit = false ∧ v.type = type
  /-- A statement has the declarators of the variables of its type, in the order of declaration. -/
  members : ∀ g ∈ b.groups, g.type.cType? = some g.cType ∧
    List.Forall₂ (fun v d => v.declarator = .ok d ∧ d.name = v.name)
      (t.variables.filter fun v => !v.isImplicit && v.type == g.type) g.declarators
  once : ∀ v ∈ t.variables, b.names.count v.name = if v.isImplicit then 0 else 1
  nothingElse : ∀ x ∈ b.names, ∃ v ∈ t.variables, v.name = x
  /-- The inline values stand in the order of the declarators. -/
  undefined_sublist : b.undefined.Sublist b.names
  undefined_once : ∀ v ∈ t.variables,
    b.undefined.count v.name = if !v.isImplicit && v.isInlineBoxed then 1 else 0

namespace SymbolTable

variable {t : SymbolTable} {b : DeclarationBlock}

theorem mem_declarable {v : Variable} :
    v ∈ t.declarable ↔ v ∈ t.variables ∧ v.isImplicit = false := by
  simp [declarable]

theorem undefined_eq (h : t.declarationBlock = .ok b) :
    b.undefined = t.groups.flatMap fun g => (g.2.filter (·.isInlineBoxed)).map (·.name) := by
  obtain ⟨gs, -, rfl⟩ := Outcome.map_eq_ok_iff.1 h
  rfl

/-- The lines for inline values follow the declarators. -/
theorem undefined_sublist_names (h : t.declarationBlock = .ok b) :
    b.undefined.Sublist b.names := by
  rw [undefined_eq h, names_eq h]
  exact List.Sublist.flatMap_right t.groups fun g _ => List.filter_sublist.map _

theorem mem_undefined_iff (h : t.declarationBlock = .ok b) {x : String} :
    x ∈ b.undefined ↔ ∃ v ∈ t.declarable, v.isInlineBoxed = true ∧ v.name = x := by
  rw [undefined_eq h]
  constructor
  · intro hx
    obtain ⟨g, hg, hx⟩ := List.mem_flatMap.1 hx
    obtain ⟨v, hv, rfl⟩ := List.mem_map.1 hx
    obtain ⟨hmem, hinline⟩ := List.mem_filter.1 hv
    exact ⟨v, mem_declarable_iff.2 ⟨g, hg, hmem⟩, hinline, rfl⟩
  · rintro ⟨v, hv, hinline, rfl⟩
    obtain ⟨g, hg, hmem⟩ := mem_declarable_iff.1 hv
    exact List.mem_flatMap.2 ⟨g, hg, List.mem_map_of_mem (List.mem_filter.2 ⟨hmem, hinline⟩)⟩

/-- Among the names of some variables, each of them at most once, a variable is counted exactly if it
is one of those. -/
theorem count_name {xs : List String} (nodup : xs.Nodup) (distinct : t.NamesDistinct)
    {P : Variable → Prop} (mem_iff : ∀ x, x ∈ xs ↔ ∃ v ∈ t.variables, P v ∧ v.name = x)
    {v : Variable} (hv : v ∈ t.variables) [Decidable (P v)] :
    xs.count v.name = if P v then 1 else 0 := by
  split_ifs with hP
  · exact List.count_eq_one_of_mem nodup ((mem_iff v.name).2 ⟨v, hv, hP, rfl⟩)
  · rw [List.count_eq_zero]
    intro hmem
    obtain ⟨w, hw, hPw, hname⟩ := (mem_iff v.name).1 hmem
    exact hP (List.inj_on_of_nodup_map distinct hw hv hname ▸ hPw)

/-- If the names of a table are distinct, its declarations partition it. -/
theorem partitions_of_declarationBlock (distinct : t.NamesDistinct)
    (h : t.declarationBlock = .ok b) : b.Partitions t := by
  have hgroups := declarationBlock_eq_ok h
  -- statements and groups correspond one to one
  have htypes : t.groups.map (·.1) = b.groups.map (·.type) :=
    Outcome.map_eq_map hgroups fun g d hof => (DeclarationGroup.ofVariables_eq_ok hof).1.symm
  have hnames := nodup_names h distinct
  have hsublist := undefined_sublist_names h
  constructor
  · have hordered : (t.groups.map (·.1)).Pairwise fun type type' => type.ordinal < type'.ordinal := by
      rw [List.pairwise_map]
      exact t.pairwise_ordinal_groups
    rw [htypes, List.pairwise_map] at hordered
    exact hordered
  · intro type
    have hmem : (∃ g ∈ b.groups, g.type = type) ↔ ∃ g ∈ t.groups, g.1 = type := by
      rw [← List.mem_map, ← htypes, List.mem_map]
    rw [hmem]
    constructor
    · rintro ⟨⟨type', members⟩, hg, rfl⟩
      obtain ⟨hmembers, hne⟩ := mem_groups_iff.1 hg
      obtain ⟨v, hv⟩ := List.exists_mem_of_ne_nil members hne
      rw [hmembers, List.mem_filter, mem_declarable, beq_iff_eq] at hv
      exact ⟨v, hv.1.1, hv.1.2, hv.2⟩
    · rintro ⟨v, hv, hvisible, rfl⟩
      obtain ⟨g, hg, hmember⟩ := mem_declarable_iff.1 (mem_declarable.2 ⟨hv, hvisible⟩)
      exact ⟨g, hg, (type_of_mem_group hg hmember).symm⟩
  · intro g hg
    obtain ⟨⟨type, members⟩, hmem, hof⟩ := Outcome.exists_source hgroups hg
    obtain ⟨rfl, hcType, hdeclarators⟩ := DeclarationGroup.ofVariables_eq_ok hof
    have hmembers : members = t.variables.filter fun v => !v.isImplicit && v.type == g.type := by
      rw [(mem_groups_iff.1 hmem).1, declarable, List.filter_filter]
      simp only [Bool.and_comm]
    rw [← hmembers]
    exact ⟨hcType, hdeclarators.imp fun v d hok => ⟨hok, Variable.name_of_declarator hok⟩⟩
  · intro v hv
    -- a name is declared once at most, so counting it is asking whether it is declared
    have hcount := count_name hnames distinct (P := fun v => v.isImplicit = false)
      (fun x => by simp only [mem_names_iff h, mem_declarable, and_assoc]) hv
    cases hvisible : v.isImplicit <;> simpa [hvisible] using hcount
  · intro x hx
    obtain ⟨v, hv, hname⟩ := (mem_names_iff h).1 hx
    exact ⟨v, (mem_declarable.1 hv).1, hname⟩
  · exact hsublist
  · intro v hv
    have hcount := count_name (hnames.sublist hsublist) distinct
      (P := fun v => v.isImplicit = false ∧ v.isInlineBoxed = true)
      (fun x => by simp only [mem_undefined_iff h, mem_declarable, and_assoc]) hv
    cases hvisible : v.isImplicit <;> simpa [hvisible] using hcount

end SymbolTable

/-! ## Reached tables -/

/-- The pass over a table writes a partition of it, or fails for a variable that cannot be declared. -/
structure SymbolTable.DeclaredFaithfully (t : SymbolTable) : Prop where
  written : t.writeDeclarations = t.declarationBlock.map fun b => ⟨b.declarations, b.initializers⟩
  fails_iff : (∃ e, t.writeDeclarations = .error e) ↔
    ∃ v ∈ t.variables, v.isImplicit = false ∧ v.Undeclarable
  partitions : ∀ b, t.declarationBlock = .ok b → b.Partitions t

theorem SymbolTable.declaredFaithfully_of_namesDistinct {t : SymbolTable}
    (distinct : t.NamesDistinct) : t.DeclaredFaithfully where
  written := t.writeDeclarations_eq
  fails_iff := by
    simp only [t.writeDeclarations_eq, Outcome.map_eq_error_iff, declarationBlock_fails_iff,
      mem_declarable, and_assoc]
  partitions b hb := partitions_of_declarationBlock distinct hb

/-- Every table that a history of changes makes, failing ones included, and every table that a method has
behind its body is declared faithfully: the pass that collects, sorts and writes fails exactly for a
variable of type void or unknown, or for a scalar with a default that cannot be spelled.  Else there is
one statement for each type among the variables that are not implicit, in the order of the types, with
one declarator for each variable in the order of declaration, and one line for each inline value in the
order of the declarators. -/
theorem declarations_partition :
    (∀ history, (SymbolTable.initial.run history).DeclaredFaithfully) ∧
      ∀ (ctx : ClassContext) (m : Method) (body : Body) (bound : BoundParameters) (s : Body.State),
        ctx.Reaches m body bound s → s.method.table.DeclaredFaithfully := by
  constructor
  · intro history
    exact SymbolTable.declaredFaithfully_of_namesDistinct
      (SymbolTable.namesDistinct_run SymbolTable.namesDistinct_initial history)
  · intro ctx m body bound s hreaches
    obtain ⟨start, -, hdistinct, htable⟩ := hreaches.exists_start
    rw [htable]
    exact SymbolTable.declaredFaithfully_of_namesDistinct
      (SymbolTable.namesDistinct_run hdistinct _)

/-- Types and flags in any order, and a default that no constant stands for. -/
theorem declarations_of_interleaved_types :
    let history : List SymbolTable.Change :=
      [.declare "b" .generic .nowhere, .declare "i" .int .nowhere, .declare "a" .generic .nowhere,
        .addFlags "b" { isLocalOnly := true }, .declare "i" .double .nowhere, .setSeed "i" (.int 7),
        .declare "c" .bool .nowhere, .declare "j" .int .nowhere,
        .addFlags "j" { isDoublePointer := true }, .declare "h" .int .nowhere,
        .addFlags "h" { isImplicit := true }]
    (∃ w, (SymbolTable.initial.run history).writeDeclarations = .ok w ∧
        w.declarations = ["zend_long i = 7, *j;", "zend_bool c;", "zval b, *a;"] ∧
        w.initializers = ["ZVAL_UNDEF(&b);"]) ∧
      ∃ e, (SymbolTable.initial.run (history ++ [.setSeed "c" .null,
        .declare "p" .hashPosition .nowhere, .setSeed "p" (.int 0)])).writeDeclarations = .error e := by
  intro history
  constructor
  · refine ⟨⟨_, _⟩, ?_, rfl, rfl⟩
    rw [(declarations_partition.1 history).written]
    rfl
  · rw [(declarations_partition.1 _).fails_iff]
    have hmem : { name := "p", type := .hashPosition, seed := some (.int 0) } ∈
        (SymbolTable.initial.run (history ++ [.setSeed "c" .null,
          .declare "p" .hashPosition .nowhere, .setSeed "p" (.int 0)])).variables := by
      refine List.mem_of_getElem? (i := 8) ?_
      rfl
    exact ⟨_, hmem, rfl, .unspelled (.inr rfl) rfl rfl⟩

end NativeMethod
