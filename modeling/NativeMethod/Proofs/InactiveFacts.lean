import NativeMethod.Proofs.Contexts

/-!
# InactiveFacts — facts that nobody asked for

A compilation asks one of two sources about mutations, and inference only where it ran.  What the other
source says, and what inference says in any case, must not change a method.

* `ClassContext.SameActiveFacts` — two contexts agree on what a compilation asks them;
* `compile_independent_of_inactiveFacts` — in such contexts a method fails alike or becomes the same
  code, and what inference proposes is listed beside it.
-/

namespace NativeMethod

/-! ## Two contexts -/

/-- The contexts compile for one class with one set of constants, and the source of mutations that the
passes select says the same in both.  The other facts and options are free. -/
structure ClassContext.SameActiveFacts (ctx ctx' : ClassContext) : Prop where
  owner_eq : ctx.owner = ctx'.owner
  constants_eq : ctx.constants = ctx'.constants
  analysis_eq : ctx.options.passes.mutationAnalysis = ctx'.options.passes.mutationAnalysis
  counts_eq : ctx.options.passes.mutationAnalysis = true →
    ∀ x, ctx.facts.mutationsOf x = ctx'.facts.mutationsOf x
  writes_eq : ctx.options.passes.mutationAnalysis = false →
    ∀ x, ctx.facts.isWritten x = ctx'.facts.isWritten x

/-- The source that is not selected is not asked. -/
theorem ClassContext.SameActiveFacts.estimate_eq {ctx ctx' : ClassContext}
    (same : ctx.SameActiveFacts ctx') : ctx.bindingFacts.estimate = ctx'.bindingFacts.estimate := by
  funext x
  cases hran : ctx.options.passes.mutationAnalysis with
  | true =>
      have hran' : ctx'.options.passes.mutationAnalysis = true := same.analysis_eq.symm.trans hran
      simp [bindingFacts, Facts.estimate, hran, hran', same.counts_eq hran x]
  | false =>
      have hran' : ctx'.options.passes.mutationAnalysis = false := same.analysis_eq.symm.trans hran
      simp [bindingFacts, Facts.estimate, hran, hran', same.writes_eq hran x]

theorem ClassContext.SameActiveFacts.separatesWithin {ctx ctx' : ClassContext}
    (same : ctx.SameActiveFacts ctx') :
    ctx.bindingFacts.SeparatesWithin ctx'.bindingFacts ∧
      ctx'.bindingFacts.SeparatesWithin ctx.bindingFacts := by
  constructor
  · intro x needs
    simpa only [← same.estimate_eq] using needs
  · intro x needs
    simpa only [same.estimate_eq] using needs

/-! ## What the selected facts decide -/

/-- All that is decided about a parameter, but for the proposal of inference, follows from the estimates
and the constants. -/
theorem BoundParameter.Follows.eq_but_inferred {facts facts' : BindingFacts} {b b' : BoundParameter}
    (h : b.Follows facts) (h' : b'.Follows facts') (parameter : b.parameter = b'.parameter)
    (estimate : facts.estimate = facts'.estimate) (constants : facts.constants = facts'.constants) :
    b' = { b with inferred := b'.inferred } := by
  have hname : b.name = b'.name := congrArg Parameter.name parameter
  have hseparated : b.isSeparated = b'.isSeparated := by
    simp only [h.isSeparated_eq, h'.isSeparated_eq, parameter, hname, estimate]
  have hfallback : b.fallback = b'.fallback := by
    have hok := h.fallback_ok
    have hok' := h'.fallback_ok
    simp only [Parameter.fallback, parameter, estimate, constants] at hok hok'
    exact Except.ok.inj (hok.symm.trans hok')
  calc
    b' = ⟨b'.parameter, b'.isSeparated, b'.fallback, b'.inferred⟩ := rfl
    _ = { b with inferred := b'.inferred } := by simp only [parameter, hseparated, hfallback]

theorem Binds.fragments_eq {facts facts' : BindingFacts} {ps : List Parameter}
    {bs bs' : BoundParameters} {s s' t t' : MethodState} (h : Binds facts ps s bs t)
    (h' : Binds facts' ps s' bs' t') (estimate : facts.estimate = facts'.estimate)
    (constants : facts.constants = facts'.constants) : bs.fragments = bs'.fragments := by
  refine Outcome.flatMap_eq_flatMap (h.paired h') ?_
  rintro b b' ⟨hparameter, hfollows, hfollows'⟩
  -- no line is emitted for what inference proposes
  rw [hfollows.eq_but_inferred hfollows' hparameter estimate constants]
  rfl

/-- The parameters that declare neither a type nor a class. -/
def Method.untyped (m : Method) : List Parameter :=
  m.parameters.filter fun p => p.declaredType.isNone && p.constraint.isNone

/-- What is reported of inference: nothing where it did not run, and else what it found out about the
parameters that leave it the choice. -/
theorem Phases.inferred_eq {ctx : ClassContext} {m : Method} {body : Body} {s : MethodState}
    {c : CompiledMethod} (h : Phases ctx m body s c) :
    c.bound.inferred =
      if ctx.options.passes.typeInference then
        m.untyped.filterMap fun p =>
          (ctx.facts.inferred.lookup p.name).map fun type => (p.name, type)
      else [] := by
  rw [h.binds.inferred_eq]
  cases hran : ctx.options.passes.typeInference with
  | false =>
      simp [Parameter.inferred?, ClassContext.bindingFacts, Facts.inferredType?, hran]
  | true =>
      -- asking only about the untyped parameters is asking about all and leaving the others out
      rw [if_pos rfl, Method.untyped, List.filterMap_filter]
      refine List.filterMap_congr ?_
      intro p _
      cases huntyped : p.declaredType.isNone && p.constraint.isNone <;>
        simp [Parameter.inferred?, ClassContext.bindingFacts, Facts.inferredType?, hran, huntyped]

/-! ## Independence -/

/-- Two compilations gave the same method, apart from what inference proposes for it. -/
structure CompiledMethod.SameOutput (c c' : CompiledMethod) : Prop where
  name_eq : c.method.name = c'.method.name
  code_eq : c.code = c'.code
  isManaged_eq : c.isManaged = c'.isManaged
  required_eq : c.bound.required = c'.bound.required
  optional_eq : c.bound.optional = c'.bound.optional
  separated_eq : c.bound.separated = c'.bound.separated
  guards_eq : c.bound.guards = c'.bound.guards
  entry_eq : c.entry = c'.entry

namespace Phases

variable {ctx ctx' : ClassContext} {m : Method} {body : Body} {s s' : MethodState}
  {c c' : CompiledMethod}

theorem seeds_eq (h : Phases ctx m body s c) (h' : Phases ctx' m body s' c')
    (same : ctx.SameActiveFacts ctx') : c.seeds = c'.seeds := by
  have hseed (vl : Variable × Literal) : ctx'.seed vl.1 vl.2 = ctx.seed vl.1 vl.2 := by
    simp only [ClassContext.seed, same.estimate_eq, same.constants_eq]
  have hok := h'.seeds_ok
  simp only [hseed, ← (h.agrees h').table_eq] at hok
  -- one list of steps with two results
  have hresult := (Outcome.mapM_eq_ok_iff.2 h.seeds_ok).symm.trans (Outcome.mapM_eq_ok_iff.2 hok)
  exact Except.ok.inj hresult

theorem fragments_eq (h : Phases ctx m body s c) (h' : Phases ctx' m body s' c')
    (same : ctx.SameActiveFacts ctx') : c.fragments = c'.fragments := by
  have hagrees := h.agrees h'
  have howner : c.owner = c'.owner := h.owner_eq.trans (same.owner_eq.trans h'.owner_eq.symm)
  have hbound : c.bound.fragments = c'.bound.fragments :=
    h.binds.fragments_eq h'.binds same.estimate_eq same.constants_eq
  simp only [CompiledMethod.fragments, CompiledMethod.declarationFragments,
    CompiledMethod.receiverLines, CompiledMethod.seedFragments, howner, hagrees.method_eq,
    hagrees.declarations_eq, hagrees.fetch?_eq, hagrees.body_eq, hbound, h.seeds_eq h' same]

theorem sameOutput (h : Phases ctx m body s c) (h' : Phases ctx' m body s' c')
    (same : ctx.SameActiveFacts ctx') : c.SameOutput c' := by
  have hagrees := h.agrees h'
  have hmanaged : c.isManaged = c'.isManaged := by
    -- the reasons of each are reasons for the other
    obtain ⟨hthere, hback⟩ := same.separatesWithin
    exact Bool.eq_iff_iff.2 ⟨h.isManaged_mono h' hthere, h'.isManaged_mono h hback⟩
  exact {
    name_eq := congrArg Method.name hagrees.method_eq
    code_eq := by simp only [CompiledMethod.code_eq_render, hmanaged, h.fragments_eq h' same]
    isManaged_eq := hmanaged
    required_eq := hagrees.required_eq
    optional_eq := hagrees.optional_eq
    separated_eq := by
      simp only [h.binds.separated_eq, h'.binds.separated_eq, Parameter.needsSeparation,
        same.estimate_eq]
    guards_eq := hagrees.guards_eq
    entry_eq := h.entry_eq_entry h' same.owner_eq }

end Phases

/-- Facts that are not asked for do not change a method: it fails with the same error, or becomes the
same code with the same properties.  What inference proposes is only listed. -/
theorem compile_independent_of_inactiveFacts {ctx ctx' : ClassContext}
    (same : ctx.SameActiveFacts ctx') (m : Method) (body : SymbolTable → Body)
    (sink sink' : Diagnostics) :
    Outcome.Alike CompiledMethod.SameOutput (ctx.compileBy m body sink).result
        (ctx'.compileBy m body sink').result ∧
      ∀ c, (ctx.compileBy m body sink).result = .ok c →
        c.bound.inferred =
          if ctx.options.passes.typeInference then
            m.untyped.filterMap fun p =>
              (ctx.facts.inferred.lookup p.name).map fun type => (p.name, type)
          else [] := by
  simp only [ClassContext.compileBy_eq]
  constructor
  · refine ClassContext.compile_alike ?_ sink sink'
    intro c c' s s' h h'
    exact h.sameOutput h' same
  · intro c compiled
    rcases ClassContext.exists_phases compiled with ⟨s, h⟩
    exact h.inferred_eq

/-- Two contexts that differ in everything that is not asked for: writes, inference, the other passes
and the reports.  The parameter is separated in both, as its mutations were counted. -/
theorem sameOutput_beside_inactiveFacts :
    ∃ c c' : CompiledMethod,
      (ClassContext.compileBy
        { owner := ⟨"C"⟩
          options := { passes := { mutationAnalysis := true } }
          facts := { counts := [("a", 2)] } }
        { name := "f", parameters := [{ name := "a" }] }
        (fun t => { steps := t.variables.map fun v => ⟨.emit 0 v.name, false⟩ }) {}).result =
          .ok c ∧
      (ClassContext.compileBy
        { owner := ⟨"C"⟩
          options :=
            { passes := { mutationAnalysis := true, typeInference := true, callGathering := true }
              reportUnused := false }
          facts := { counts := [("a", 2)], writes := ["b"], inferred := [("a", .long)] } }
        { name := "f", parameters := [{ name := "a" }] }
        (fun t => { steps := t.variables.map fun v => ⟨.emit 0 v.name, false⟩ }) {}).result =
          .ok c' ∧
      c.SameOutput c' ∧ c.bound.separated = ["a"] ∧ c.bound.inferred = [] ∧
        c'.bound.inferred = [("a", .long)] := by
  have hsame : ClassContext.SameActiveFacts
      { owner := ⟨"C"⟩
        options := { passes := { mutationAnalysis := true } }
        facts := { counts := [("a", 2)] } }
      { owner := ⟨"C"⟩
        options :=
          { passes := { mutationAnalysis := true, typeInference := true, callGathering := true }
            reportUnused := false }
        facts := { counts := [("a", 2)], writes := ["b"], inferred := [("a", .long)] } } := {
    owner_eq := rfl
    constants_eq := rfl
    analysis_eq := rfl
    counts_eq := fun _ _ => rfl
    writes_eq := fun unselected => by cases unselected }
  have halike := compile_independent_of_inactiveFacts hsame
    { name := "f", parameters := [{ name := "a" }] }
    (fun t => { steps := t.variables.map fun v => ⟨.emit 0 v.name, false⟩ }) {} {}
  cases halike.1 with
  | ok hsameOutput => exact ⟨_, _, rfl, rfl, hsameOutput, rfl, rfl, rfl⟩

end NativeMethod
