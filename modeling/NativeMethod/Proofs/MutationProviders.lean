import NativeMethod.Proofs.Contexts

/-!
# MutationProviders — counted mutations and writes that were seen

Mutations are counted, or only the variables that are written at all are known.  The coarse source is
safe to take for the precise one as long as it misses no variable that was counted to be mutated twice.

* `ClassContext.withMutationAnalysis` — a context with one of the two sources selected;
* `CompiledMethod.Refines` — the first method does no more than the second for what is written;
* `precise_refines_conservative` — what is compiled with counts refines what is compiled with writes.
-/

namespace NativeMethod

/-! ## Two sources of mutations -/

/-- The context with the analysis that counts mutations done or left out; nothing else changes. -/
def ClassContext.withMutationAnalysis (ctx : ClassContext) (ran : Bool) : ClassContext :=
  let passes := { ctx.options.passes with mutationAnalysis := ran }
  { ctx with options := { ctx.options with passes := passes } }

/-- Every variable that was counted to be mutated more than once is known to be written. -/
def Facts.CountsAreWrites (f : Facts) : Prop :=
  ∀ x, 1 < f.mutationsOf x → f.isWritten x = true

namespace ClassContext

variable {ctx : ClassContext}

theorem separatesWithin_of_counted (counted : ctx.facts.CountsAreWrites) :
    (ctx.withMutationAnalysis true).bindingFacts.SeparatesWithin
      (ctx.withMutationAnalysis false).bindingFacts := by
  intro x needs
  have hcount : 1 < ctx.facts.mutationsOf x := by
    simpa [withMutationAnalysis, bindingFacts, Facts.estimate, Estimate.needsSeparation] using needs
  have hwritten : ctx.facts.isWritten x = true := counted x hcount
  simpa [withMutationAnalysis, bindingFacts, Facts.estimate, Estimate.needsSeparation] using hwritten

end ClassContext

/-! ## Refinement -/

/-- The first method separates no parameter and asks for no frame that the second does not, and is the
same for its callers. -/
structure CompiledMethod.Refines (c c' : CompiledMethod) : Prop where
  separated : c.bound.separated.Sublist c'.bound.separated
  managed : c.isManaged = true → c'.isManaged = true
  required_eq : c.bound.required = c'.bound.required
  optional_eq : c.bound.optional = c'.bound.optional
  guards_eq : c.bound.guards = c'.bound.guards
  inferred_eq : c.bound.inferred = c'.bound.inferred
  entry_eq : c.entry = c'.entry

theorem Phases.refines {ctx ctx' : ClassContext} {m : Method} {body : Body} {s s' : MethodState}
    {c c' : CompiledMethod} (h : Phases ctx m body s c) (h' : Phases ctx' m body s' c')
    (within : ctx.bindingFacts.SeparatesWithin ctx'.bindingFacts)
    (owner : ctx.owner = ctx'.owner)
    (proposals : ctx.bindingFacts.inferredType? = ctx'.bindingFacts.inferredType?) :
    c.Refines c' := by
  have hagrees := h.agrees h'
  exact {
    separated := h.binds.separated_sublist h'.binds within
    managed := h.isManaged_mono h' within
    required_eq := hagrees.required_eq
    optional_eq := hagrees.optional_eq
    guards_eq := hagrees.guards_eq
    inferred_eq := by
      simp only [h.binds.inferred_eq, h'.binds.inferred_eq, Parameter.inferred?, proposals]
    entry_eq := h.entry_eq_entry h' owner }

/-- A method fails with counted mutations as it does with writes, or compiles in both ways.  Then the
counts separate some of the parameters that the writes do, ask for a frame only where the writes do, and
change nothing else that callers see. -/
theorem precise_refines_conservative (ctx : ClassContext) (counted : ctx.facts.CountsAreWrites)
    (m : Method) (body : SymbolTable → Body) (sink sink' : Diagnostics) :
    Outcome.Alike CompiledMethod.Refines
      ((ctx.withMutationAnalysis true).compileBy m body sink).result
      ((ctx.withMutationAnalysis false).compileBy m body sink').result := by
  simp only [ClassContext.compileBy_eq]
  refine ClassContext.compile_alike ?_ sink sink'
  intro c c' s s' h h'
  exact h.refines h' (ClassContext.separatesWithin_of_counted counted) rfl rfl

/-- Both parameters are written, and the second only once: counting spares its separation. -/
theorem refines_of_counted_twice :
    Facts.CountsAreWrites { counts := [("a", 2), ("b", 1)], writes := ["a", "b"] } ∧
    ∃ c c' : CompiledMethod,
      ((ClassContext.withMutationAnalysis
        { owner := ⟨"C"⟩
          facts := { counts := [("a", 2), ("b", 1)], writes := ["a", "b"] } } true).compileBy
        { name := "f", parameters := [{ name := "a" }, { name := "b" }] } (fun _ => {}) {}).result =
          .ok c ∧
      ((ClassContext.withMutationAnalysis
        { owner := ⟨"C"⟩
          facts := { counts := [("a", 2), ("b", 1)], writes := ["a", "b"] } } false).compileBy
        { name := "f", parameters := [{ name := "a" }, { name := "b" }] } (fun _ => {}) {}).result =
          .ok c' ∧
      c.Refines c' ∧ c.bound.separated = ["a"] ∧ c'.bound.separated = ["a", "b"] := by
  have hcounted : Facts.CountsAreWrites
      { counts := [("a", 2), ("b", 1)], writes := ["a", "b"] } := by
    intro x hmany
    by_cases ha : x = "a"
    · subst ha
      rfl
    by_cases hb : x = "b"
    · subst hb
      rfl
    -- nobody counted any other name
    simp [Facts.mutationsOf, List.lookup_cons, beq_eq_false_iff_ne.2 ha, beq_eq_false_iff_ne.2 hb] at hmany
  refine ⟨hcounted, ?_⟩
  have halike := precise_refines_conservative
    { owner := ⟨"C"⟩
      facts := { counts := [("a", 2), ("b", 1)], writes := ["a", "b"] } } hcounted
    { name := "f", parameters := [{ name := "a" }, { name := "b" }] } (fun _ => {}) {} {}
  cases halike with
  | ok hrefines => exact ⟨_, _, rfl, rfl, hrefines, rfl, rfl⟩

end NativeMethod
