import NativeMethod.Proofs.Conversions
import NativeMethod.Proofs.DeclaredVariables
import NativeMethod.Proofs.ManagedFrame

/-!
# MaterialisedDefaults — what becomes of the default of a variable

A body may give any variable a default.  A boxed variable is initialised with it at the head of the
method, and a scalar where it is declared; a default that does not fit ends the compilation.  The
pointers to runtime structures are the exception: they are declared as if there were no default.

* `CompiledMethod.Materialises` — the two places where a default may end up;
* `declarationBlock_eq_error` — the groups with storage stand first, so a default that does not fit is
  found before a variable that has no storage;
* `materialises_iff_not_isPointer` — a compiled method materialises the defaults of all variables but
  the pointers, and a default that does not fit is what the compilation fails with.
-/

namespace NativeMethod

/-- The variable is one of the method's own, and has the literal as its default. -/
structure Variable.OwnDefault (v : Variable) (l : Literal) : Prop where
  internal : v.isExternal = false
  visible : v.isImplicit = false
  seed_eq : v.seed = some l

/-- The method gives the variable the value of the literal. -/
inductive CompiledMethod.Materialises (c : CompiledMethod) (ctx : ClassContext) (v : Variable)
    (l : Literal) : Prop where
  /-- The lines that initialise a boxed variable stand at the head of the method. -/
  | seeded {seed : Seed} :
      v.type.isBoxed = true → ctx.seed v l = .ok seed → seed ∈ c.seeds →
        Fragment.codeLines 1 seed.code.lines <:+: c.seedFragments → Materialises c ctx v l
  /-- The declarator of any other variable spells the constant out. -/
  | declared {g : DeclarationGroup} {d : Declarator} {k : CConstant} :
      v.type.isBoxed = false → l.nativeConstant? v.type = some k → g ∈ c.declarations.groups →
        g.type = v.type → .code 1 g.text ∈ c.fragments → d ∈ g.declarators → d.name = v.name →
          d.text = String.ofList (List.replicate d.indirection '*') ++ v.name ++ " = " ++
            k.spelling → Materialises c ctx v l

/-! ## Declarators -/

namespace Variable

variable {v : Variable}

theorem declarator_of_not_isBoxed (unboxed : v.type.isBoxed = false) :
    v.declarator =
      if v.type.isPointer then
        .ok ⟨v.name, if v.isDoublePointer then 2 else 1, v.pointerInitializer?⟩
      else v.scalarInitializer?.map fun i => ⟨v.name, if v.isDoublePointer then 1 else 0, i⟩ := by
  simp [declarator, isInlineBoxed, unboxed]

/-- Only the default of a scalar can keep it from being declared. -/
theorem declarator_eq_error_iff {e : CompileError} :
    v.declarator = .error e ↔
      v.type.isBoxed = false ∧ v.type.isPointer = false ∧
        ∃ l, v.seed = some l ∧ l.fits v.type = false ∧
          .unsupportedDefault v.name v.type l.kind v.span = e := by
  cases hboxed : v.type.isBoxed with
  | true => simp [declarator_of_isBoxed hboxed]
  | false =>
      rw [declarator_of_not_isBoxed hboxed]
      cases hpointer : v.type.isPointer with
      | true => simp
      | false =>
          cases hseed : v.seed with
          | none => simp [scalarInitializer?, hseed, Except.map]
          | some l =>
              have hfits := l.isSome_nativeConstant? hboxed
              cases hconstant : l.nativeConstant? v.type with
              | none => simp [scalarInitializer?, hseed, hconstant, Except.map, ← hfits]
              | some k => simp [scalarInitializer?, hseed, hconstant, Except.map, ← hfits]

/-- The declarator of a scalar with a default. -/
theorem declarator_eq_ok_of_seed {l : Literal} {d : Declarator} (unboxed : v.type.isBoxed = false)
    (plain : v.type.isPointer = false) (seed : v.seed = some l) (h : v.declarator = .ok d) :
    ∃ k, l.nativeConstant? v.type = some k ∧ d.initial = some (.constant k) := by
  rw [declarator_of_not_isBoxed unboxed] at h
  cases hconstant : l.nativeConstant? v.type with
  | none => simp [plain, scalarInitializer?, seed, hconstant, Except.map] at h
  | some k =>
      simp only [plain, scalarInitializer?, seed, hconstant, Except.map] at h
      cases h
      exact ⟨k, rfl, rfl⟩

end Variable

theorem Declarator.text_of_constant {d : Declarator} {k : CConstant}
    (h : d.initial = some (.constant k)) :
    d.text = String.ofList (List.replicate d.indirection '*') ++ d.name ++ " = " ++ k.spelling := by
  simp only [text, h, Initializer.text]

/-! ## Compiled methods -/

/-- The variable is declared without its default: as a null pointer where it asks for that, and without
any value elsewhere. -/
structure CompiledMethod.Drops (c : CompiledMethod) (v : Variable) : Prop where
  unseeded : ∀ seed ∈ c.seeds, seed.target ≠ v
  declared : ∃ g ∈ c.declarations.groups, g.type = v.type ∧ .code 1 g.text ∈ c.fragments ∧
    ∃ d ∈ g.declarators, d.name = v.name ∧ d.initial = v.pointerInitializer?

theorem CompiledMethod.codeLines_infix_seedFragments {c : CompiledMethod} {seed : Seed}
    (h : seed ∈ c.seeds) : Fragment.codeLines 1 seed.code.lines <:+: c.seedFragments := by
  obtain ⟨before, after, hsplit⟩ := List.append_of_mem h
  refine ⟨before.flatMap fun s => Fragment.codeLines 1 s.code.lines,
    after.flatMap fun s => Fragment.codeLines 1 s.code.lines, ?_⟩
  simp [seedFragments, hsplit]

/-- Neither lines nor constants are made for a pointer. -/
theorem CompiledMethod.Materialises.isPointer_eq {c : CompiledMethod} {ctx : ClassContext}
    {v : Variable} {l : Literal} (h : c.Materialises ctx v l) : v.type.isPointer = false := by
  cases h with
  | seeded hboxed _ _ _ =>
      -- no type is both
      revert hboxed
      cases v.type <;> decide
  | declared _ hconstant _ _ _ _ _ _ =>
      cases hnative : v.type.isNative with
      | false => simp [Literal.nativeConstant?_eq_none hnative] at hconstant
      | true =>
          revert hnative
          cases v.type <;> decide

namespace Phases

variable {ctx : ClassContext} {m : Method} {body : Body} {s : MethodState} {c : CompiledMethod}
  {v : Variable} {l : Literal}

theorem materialises (h : Phases ctx m body s c) (hv : v ∈ c.table.variables)
    (own : v.OwnDefault l) (plain : v.type.isPointer = false) : c.Materialises ctx v l := by
  cases hboxed : v.type.isBoxed with
  | true =>
      have hseeded : (v, l) ∈ c.table.seeded :=
        SymbolTable.mem_seeded_iff.2 ⟨hv, hboxed, own.internal, own.seed_eq⟩
      rcases Outcome.exists_result h.seeds_ok hseeded with ⟨seed, hseed, hok⟩
      exact .seeded hboxed hok hseed (CompiledMethod.codeLines_infix_seedFragments hseed)
  | false =>
      have hdeclarable : v ∈ c.table.declarable := by
        simp [SymbolTable.declarable, hv, own.visible]
      rcases exists_declarator h.declarations_ok hdeclarable with ⟨g, hg, htype, d, hd, hok⟩
      have hname : d.name = v.name := Variable.name_of_declarator hok
      rcases Variable.declarator_eq_ok_of_seed hboxed plain own.seed_eq hok with
        ⟨k, hconstant, hinitial⟩
      refine .declared hboxed hconstant hg htype (CompiledMethod.mem_fragments_of_mem_groups hg) hd
        hname ?_
      rw [Declarator.text_of_constant hinitial, hname]

theorem drops (h : Phases ctx m body s c) (hv : v ∈ c.table.variables)
    (visible : v.isImplicit = false) (pointer : v.type.isPointer = true) : c.Drops v := by
  have hboxed : v.type.isBoxed = false := by
    revert pointer
    cases v.type <;> decide
  constructor
  · -- only boxed variables are initialised at the head
    intro seed hseed htarget
    rcases Outcome.exists_source h.seeds_ok hseed with ⟨⟨w, l⟩, hseeded, hok⟩
    have hsame : w = v := (ClassContext.seed_eq_ok_iff.1 hok).1.symm.trans htarget
    have hw : w.type.isBoxed = true := (SymbolTable.mem_seeded_iff.1 hseeded).2.1
    rw [hsame, hboxed] at hw
    cases hw
  · have hdeclarable : v ∈ c.table.declarable := by
      simp [SymbolTable.declarable, hv, visible]
    rcases exists_declarator h.declarations_ok hdeclarable with ⟨g, hg, htype, d, hd, hok⟩
    refine ⟨g, hg, htype, CompiledMethod.mem_fragments_of_mem_groups hg, d, hd,
      Variable.name_of_declarator hok, ?_⟩
    rw [Variable.declarator_of_not_isBoxed hboxed, pointer] at hok
    cases hok
    rfl

end Phases

/-! ## Defaults that do not fit -/

/-- The types without storage are the last two. -/
theorem StorageType.isSome_cType?_iff (t : StorageType) :
    t.cType?.isSome = true ↔ t.ordinal < 20 := by
  cases t <;> decide

theorem DeclarationGroup.ofVariables_eq_error_iff {type : StorageType} {vs : List Variable}
    {e : CompileError} (stored : type.cType?.isSome = true) :
    ofVariables type vs = .error e ↔ vs.mapM Variable.declarator = .error e := by
  obtain ⟨cType, hcType⟩ := Option.isSome_iff_exists.1 stored
  simp only [ofVariables, hcType, Outcome.map_eq_error_iff]

/-- A group that does not stand in front of another has no later type. -/
theorem SymbolTable.ordinal_le_of_groups_eq {t : SymbolTable}
    {earlier later : List (StorageType × List Variable)} {g g' : StorageType × List Variable}
    (split : t.groups = earlier ++ g :: later) (hg' : g' ∈ t.groups) (behind : g' ∉ earlier) :
    g.1.ordinal ≤ g'.1.ordinal := by
  have hmem : g' = g ∨ g' ∈ later := by
    simpa only [split, List.mem_append, List.mem_cons, behind, false_or] using hg'
  rcases hmem with rfl | hlater
  · exact Nat.le_refl _
  · have hordered := t.pairwise_ordinal_groups
    rw [split, List.pairwise_append] at hordered
    exact Nat.le_of_lt ((List.pairwise_cons.1 hordered.2.1).1 g' hlater)

/-- A variable with storage that cannot be declared fails the block, with its own error or with that of
a variable in front of it. -/
theorem SymbolTable.declarationBlock_eq_error {t : SymbolTable} {v : Variable} {e : CompileError}
    (hv : v ∈ t.declarable) (stored : v.type.cType?.isSome = true)
    (fails : v.declarator = .error e) :
    ∃ w ∈ t.variables, ∃ e', w.declarator = .error e' ∧ t.declarationBlock = .error e' := by
  let own := t.declarable.filter (·.type == v.type)
  have hown : v ∈ own := by
    simp [own, hv]
  have hgroup : (v.type, own) ∈ t.groups := mem_groups_iff.2 ⟨rfl, List.ne_nil_of_mem hown⟩
  obtain ⟨e₁, hfails⟩ : ∃ e₁, DeclarationGroup.ofVariables v.type own = .error e₁ := by
    simp only [DeclarationGroup.ofVariables_eq_error_iff stored]
    exact Outcome.exists_mapM_eq_error hown fails
  obtain ⟨e₂, hblock⟩ := Outcome.exists_mapM_eq_error
    (f := fun g : StorageType × List Variable => DeclarationGroup.ofVariables g.1 g.2) hgroup hfails
  rcases Outcome.mapM_eq_error_iff.1 hblock with ⟨earlier, g, later, hsplit, hearlier, hg⟩
  have hbehind : (v.type, own) ∉ earlier := by
    intro hbefore
    obtain ⟨group, hok⟩ := hearlier _ hbefore
    rw [hfails] at hok
    cases hok
  -- the group that fails comes no later than that of the variable, so its type has storage as well
  have hle : g.1.ordinal ≤ v.type.ordinal := ordinal_le_of_groups_eq hsplit hgroup hbehind
  have hstored : g.1.cType?.isSome = true := by
    rw [StorageType.isSome_cType?_iff] at stored ⊢
    exact Nat.lt_of_le_of_lt hle stored
  -- and it fails for one of its variables
  rw [DeclarationGroup.ofVariables_eq_error_iff hstored] at hg
  rcases Outcome.mapM_eq_error_iff.1 hg with ⟨before, w, after, hmembers, _, hw⟩
  have hwgroup : w ∈ t.variables := by
    have hwdeclarable : w ∈ t.declarable :=
      mem_declarable_iff.2 ⟨g, by simp [hsplit], by simp [hmembers]⟩
    exact List.mem_of_mem_filter hwdeclarable
  refine ⟨w, hwgroup, e₂, hw, ?_⟩
  rw [declarationBlock, Outcome.map_eq_error_iff]
  exact hblock

namespace ClassContext

variable {ctx : ClassContext} {m : Method} {body : Body}

theorem seed_eq_error_iff {v : Variable} {l : Literal} {e : CompileError} :
    ctx.seed v l = .error e ↔
      l.fits v.type = false ∧ e = .unsupportedDefault v.name v.type l.kind v.span := by
  rw [seed, Outcome.map_eq_error_iff, Variable.initialization_eq_error_iff]

/-- The phases behind the body fail with a default that does not fit, if there is any. -/
theorem finish_eq_error_of_unfit (ctx : ClassContext) (bound : BoundParameters) {s : Body.State}
    {lines : List Fragment} (closed : closeBody m body s.emitted = .ok lines) {v : Variable}
    {l : Literal} (hv : v ∈ s.method.table.variables) (own : v.OwnDefault l)
    (plain : v.type.isPointer = false) (stored : v.type.cType?.isSome = true)
    (unfit : l.fits v.type = false) :
    ∃ w ∈ s.method.table.variables, ∃ l', w.seed = some l' ∧ l'.fits w.type = false ∧
      ctx.finish m bound body s = .error (.unsupportedDefault w.name w.type l'.kind w.span) := by
  unfold finish
  cases hseeds : s.method.table.seeded.mapM fun vl => ctx.seed vl.1 vl.2 with
  | error e =>
      rcases Outcome.mapM_eq_error_iff.1 hseeds with ⟨_, ⟨w, l'⟩, _, hsplit, _, hw⟩
      have hseeded : (w, l') ∈ s.method.table.seeded := by
        simp [hsplit]
      obtain ⟨hmem, _, _, hseed⟩ := SymbolTable.mem_seeded_iff.1 hseeded
      obtain ⟨hunfit, rfl⟩ := seed_eq_error_iff.1 hw
      refine ⟨w, hmem, l', hseed, hunfit, ?_⟩
      exact Outcome.bind_eq_error_iff.2 (.inr ⟨lines, closed, rfl⟩)
  | ok seeds =>
      -- boxed variables are initialised, so the variable is a scalar
      have hboxed : v.type.isBoxed = false := by
        by_contra hboxed
        have hseeded : (v, l) ∈ s.method.table.seeded :=
          SymbolTable.mem_seeded_iff.2 ⟨hv, by simpa using hboxed, own.internal, own.seed_eq⟩
        rcases Outcome.exists_result (Outcome.mapM_eq_ok_iff.1 hseeds) hseeded with ⟨seed, _, hok⟩
        have herror : ctx.seed v l = .error (.unsupportedDefault v.name v.type l.kind v.span) :=
          seed_eq_error_iff.2 ⟨unfit, rfl⟩
        rw [herror] at hok
        cases hok
      have hdeclarable : v ∈ s.method.table.declarable := by
        simp [SymbolTable.declarable, hv, own.visible]
      rcases SymbolTable.declarationBlock_eq_error hdeclarable stored
        (Variable.declarator_eq_error_iff.2 ⟨hboxed, plain, l, own.seed_eq, unfit, rfl⟩) with
        ⟨w, hw, e, hfails, hblock⟩
      obtain ⟨_, _, l', hseed, hunfit, rfl⟩ := Variable.declarator_eq_error_iff.1 hfails
      refine ⟨w, hw, l', hseed, hunfit, ?_⟩
      refine Outcome.bind_eq_error_iff.2 (.inr ⟨lines, closed, ?_⟩)
      refine Outcome.bind_eq_error_iff.2 (.inr ⟨seeds, rfl, ?_⟩)
      exact Outcome.bind_eq_error_iff.2 (.inl hblock)

end ClassContext

/-- A compiled method materialises the default of each of its variables, unless the variable is a pointer
to a runtime structure, which is declared without it.  A default that does not fit its variable is what
the compilation fails with if it gets past the body. -/
theorem materialises_iff_not_isPointer (ctx : ClassContext) (m : Method) (body : Body)
    (sink : Diagnostics) :
    (∀ c, (ctx.compile m body sink).result = .ok c →
      ∀ v ∈ c.table.variables, ∀ l, v.OwnDefault l →
        (c.Materialises ctx v l ↔ v.type.isPointer = false) ∧
          (v.type.isPointer = true → c.Drops v)) ∧
      ∀ bound s s' lines, ctx.bindMethod m = .ok (bound, s) → (body.run s).final = .ok s' →
        ClassContext.closeBody m body s'.emitted = .ok lines →
          ∀ v ∈ s'.method.table.variables, ∀ l, v.OwnDefault l → v.type.isPointer = false →
            v.type.cType?.isSome = true → l.fits v.type = false →
              ∃ w ∈ s'.method.table.variables, ∃ l', w.seed = some l' ∧ l'.fits w.type = false ∧
                (ctx.compile m body sink).result =
                  .error (.unsupportedDefault w.name w.type l'.kind w.span) := by
  constructor
  · intro c compiled v hv l own
    rcases ClassContext.exists_phases compiled with ⟨s, h⟩
    refine ⟨⟨CompiledMethod.Materialises.isPointer_eq, h.materialises hv own⟩, ?_⟩
    exact h.drops hv own.visible
  · intro bound s s' lines hbound hran hclosed v hv l own plain stored unfit
    rcases ClassContext.finish_eq_error_of_unfit ctx bound hclosed hv own plain stored unfit with
      ⟨w, hw, l', hseed, hunfit, hfinish⟩
    refine ⟨w, hw, l', hseed, hunfit, ?_⟩
    simp [ClassContext.compile, hbound, hran, Except.bind, hfinish]

/-- A number that an integer is declared with, and a text that a truth value cannot be declared with. -/
theorem materialises_number_and_refuses_text :
    (∃ c : CompiledMethod,
      (ClassContext.compile { owner := ⟨"C"⟩ } { name := "f" }
        { steps := [⟨.change (.declare "i" .int .nowhere), false⟩,
          ⟨.change (.setSeed "i" (.int 5)), false⟩] } {}).result = .ok c ∧
        ∃ v ∈ c.table.variables, v.name = "i" ∧
          c.Materialises { owner := ⟨"C"⟩ } v (.int 5)) ∧
      ∃ (w : Variable) (l : Literal),
        (ClassContext.compile { owner := ⟨"C"⟩ } { name := "f" }
          { steps := [⟨.change (.declare "b" .bool .nowhere), false⟩,
            ⟨.change (.setSeed "b" (.string "no")), false⟩] } {}).result =
          .error (.unsupportedDefault w.name w.type l.kind w.span) := by
  constructor
  · rcases hresult : (ClassContext.compile { owner := ⟨"C"⟩ } { name := "f" }
        { steps := [⟨.change (.declare "i" .int .nowhere), false⟩,
          ⟨.change (.setSeed "i" (.int 5)), false⟩] } {}).result with _ | c
    · cases hresult
    · have hmaterialises := (materialises_iff_not_isPointer _ _ _ _).1 c hresult
      cases hresult
      refine ⟨_, rfl, { name := "i", type := .int, seed := some (.int 5) }, ?_, rfl, ?_⟩
      · exact .tail _ (.tail _ (.head _))
      · exact (hmaterialises _ (.tail _ (.tail _ (.head _))) _ ⟨rfl, rfl, rfl⟩).1.2 rfl
  · rcases (materialises_iff_not_isPointer { owner := ⟨"C"⟩ } { name := "f" }
        { steps := [⟨.change (.declare "b" .bool .nowhere), false⟩,
          ⟨.change (.setSeed "b" (.string "no")), false⟩] } {}).2 _ _ _ _ rfl rfl rfl
        { name := "b", type := .bool, seed := some (.string "no") }
        (.tail _ (.tail _ (.head _))) _ ⟨rfl, rfl, rfl⟩ rfl rfl rfl with ⟨w, _, l, _, _, hfails⟩
    exact ⟨w, l, hfails⟩

/-- The default of a pointer to a class entry is dropped without a word. -/
theorem not_materialises_of_class_entry :
    ∃ c : CompiledMethod,
      (ClassContext.compile { owner := ⟨"C"⟩ } { name := "f" }
        { steps := [⟨.change (.declare "ce" .classEntry .nowhere), false⟩,
          ⟨.change (.setSeed "ce" (.int 5)), false⟩] } {}).result = .ok c ∧
        c.declarations.declarations = ["zend_class_entry *ce;"] ∧
        ∃ v ∈ c.table.variables, v.OwnDefault (.int 5) ∧ (Literal.int 5).fits v.type = false ∧
          ¬ c.Materialises { owner := ⟨"C"⟩ } v (.int 5) := by
  refine ⟨_, rfl, rfl, { name := "ce", type := .classEntry, seed := some (.int 5) },
    .tail _ (.tail _ (.head _)), ⟨rfl, rfl, rfl⟩, rfl, ?_⟩
  intro h
  cases h.isPointer_eq

end NativeMethod
