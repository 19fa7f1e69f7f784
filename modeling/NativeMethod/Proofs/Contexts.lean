import NativeMethod.Proofs.Failures
import NativeMethod.Proofs.Separation

/-!
# Contexts — one method in two contexts

A method that compiles in two contexts is bound twice and keeps most of what was bound: the contexts
are asked for estimates and for inferred types, and for nothing else.

* `Binds.paired` — the parameters of both bindings belong together, position by position;
* `BindingFacts.SeparatesWithin` — one context has written through all that the other has, and maybe more;
* `CompiledMethod.Agrees` — what two compilations of a method have in common in any case, which is all
  but the code of defaults, the separations and the frame;
* `Phases.isManaged_mono` — a managed frame is kept where more is written through.
-/

namespace NativeMethod

/-! ## Bound parameters -/

namespace BoundParameter

theorem guard?_eq_of_parameter_eq {b b' : BoundParameter} (same : b.parameter = b'.parameter) :
    b.guard? = b'.guard? := by
  simp only [guard?, instanceGuard?, strictGuard?, name, same]

/-- The guards of a parameter are those that it declares. -/
theorem Follows.guards_eq_of_parameter_eq {facts facts' : BindingFacts} {b b' : BoundParameter}
    (h : b.Follows facts) (h' : b'.Follows facts') (same : b.parameter = b'.parameter) :
    b.guards = b'.guards := by
  calc
    b.guards = b.guard?.toList := h.guards_eq
    _ = b'.guard?.toList := congrArg Option.toList (guard?_eq_of_parameter_eq same)
    _ = b'.guards := h'.guards_eq.symm

end BoundParameter

namespace Binds

variable {facts facts' : BindingFacts} {ps : List Parameter} {bs bs' : BoundParameters}
  {s s' t t' : MethodState}

/-- Two bindings of the same parameters are about the same parameter at each position. -/
theorem paired (h : Binds facts ps s bs t) (h' : Binds facts' ps s' bs' t') :
    List.Forall₂ (fun b b' =>
      b.parameter = b'.parameter ∧ b.Follows facts ∧ b'.Follows facts') bs bs' := by
  induction h generalizing s' bs' t' with
  | nil s =>
      cases h'
      exact .nil
  | cons hbind _ ih =>
      cases h' with
      | cons hbind' hrest' =>
          obtain ⟨hparameter, hfollows, _⟩ := Parameter.bind_eq_ok hbind
          obtain ⟨hparameter', hfollows', _⟩ := Parameter.bind_eq_ok hbind'
          exact .cons ⟨hparameter.trans hparameter'.symm, hfollows, hfollows'⟩ (ih hrest')

theorem required_eq (h : Binds facts ps s bs t) : bs.required = ps.countP (!·.isOptional) := by
  simp only [← h.parameters_eq, BoundParameters.required, List.countP_map, Function.comp_def]

theorem optional_eq (h : Binds facts ps s bs t) : bs.optional = ps.countP (·.isOptional) := by
  simp only [← h.parameters_eq, BoundParameters.optional, List.countP_map, Function.comp_def]

/-- The call that fetches the arguments is that of the declaration. -/
theorem fetch?_eq (h : Binds facts ps s bs t) :
    bs.fetch? =
      if ps.isEmpty then none
      else some (.fetch (ps.countP (!·.isOptional)) (ps.countP (·.isOptional))
        (ps.map fun p => "&" ++ p.fetchedName)) := by
  have hnames : (bs.map fun b => "&" ++ b.parameter.fetchedName) =
      ps.map fun p => "&" ++ p.fetchedName := by
    simp only [← h.parameters_eq, List.map_map, Function.comp_def]
  have hempty : bs.isEmpty = ps.isEmpty := by
    simp only [← h.parameters_eq, List.isEmpty_map]
  simp only [BoundParameters.fetch?, hempty, hnames, h.required_eq, h.optional_eq]

theorem guards_eq_guards (h : Binds facts ps s bs t) (h' : Binds facts' ps s' bs' t') :
    bs.guards = bs'.guards := by
  refine Outcome.flatMap_eq_flatMap (h.paired h') ?_
  rintro b b' ⟨hparameter, hfollows, hfollows'⟩
  have hname : b.name = b'.name := congrArg Parameter.name hparameter
  have hguards : b.guards = b'.guards := hfollows.guards_eq_of_parameter_eq hfollows' hparameter
  simp only [hname, hguards]

/-- What inference proposes is collected in the order of the declaration. -/
theorem inferred_eq (h : Binds facts ps s bs t) :
    bs.inferred = ps.filterMap fun p => (p.inferred? facts).map fun type => (p.name, type) := by
  calc
    bs.inferred
        = bs.filterMap fun b =>
            (b.parameter.inferred? facts).map fun type => (b.parameter.name, type) := by
          refine List.filterMap_congr ?_
          intro b hb
          simp only [(h.follows b hb).inferred_eq]
          rfl
    _ = (bs.map (·.parameter)).filterMap fun p =>
          (p.inferred? facts).map fun type => (p.name, type) := by
          simp only [List.filterMap_map, Function.comp_def]
    _ = ps.filterMap fun p => (p.inferred? facts).map fun type => (p.name, type) := by
          simp only [h.parameters_eq]

end Binds

/-! ## Estimates -/

/-- Every variable that is written through by the first facts is so by the second. -/
def BindingFacts.SeparatesWithin (facts facts' : BindingFacts) : Prop :=
  ∀ x, (facts.estimate x).needsSeparation = true → (facts'.estimate x).needsSeparation = true

theorem BindingFacts.SeparatesWithin.needsSeparation {facts facts' : BindingFacts}
    (within : facts.SeparatesWithin facts') (p : Parameter) :
    p.needsSeparation facts = true → p.needsSeparation facts' = true := by
  intro h
  obtain ⟨hboxed, hneeds⟩ := Bool.and_eq_true_iff.1 h
  exact Bool.and_eq_true_iff.2 ⟨hboxed, within p.name hneeds⟩

/-- What is written through more is separated more, in the same order. -/
theorem Binds.separated_sublist {facts facts' : BindingFacts} {ps : List Parameter}
    {bs bs' : BoundParameters} {s s' t t' : MethodState} (h : Binds facts ps s bs t)
    (h' : Binds facts' ps s' bs' t') (within : facts.SeparatesWithin facts') :
    bs.separated.Sublist bs'.separated := by
  simpa only [h.separated_eq, h'.separated_eq] using
    (List.monotone_filter_right ps within.needsSeparation).map Parameter.name

/-! ## Compiled methods -/

/-- Two compilations agree on everything about a method that no context decides. -/
structure CompiledMethod.Agrees (c c' : CompiledMethod) : Prop where
  method_eq : c.method = c'.method
  table_eq : c.table = c'.table
  body_eq : c.body = c'.body
  declarations_eq : c.declarations = c'.declarations
  required_eq : c.bound.required = c'.bound.required
  optional_eq : c.bound.optional = c'.bound.optional
  fetch?_eq : c.bound.fetch? = c'.bound.fetch?
  guards_eq : c.bound.guards = c'.bound.guards

/-- What is written through more asks for a frame no less. -/
theorem NeedsFrame.mono {ctx ctx' : ClassContext} {m : Method} {body : Body} {t : SymbolTable}
    (within : ctx.bindingFacts.SeparatesWithin ctx'.bindingFacts)
    (h : NeedsFrame ctx m body t) : NeedsFrame ctx' m body t := by
  -- a default that was built in the first context fits, and is built in the second as well
  have hbuilt {v : Variable} {span : Span} {l : Literal} {i : Initialization}
      (hi : v.initialization ctx.constants (ctx.bindingFacts.estimate v.name) span l = .ok i)
      (hallocates : i.allocates = true) :
      ∃ i', v.initialization ctx'.constants (ctx'.bindingFacts.estimate v.name) span l = .ok i' ∧
        i'.allocates = true := by
    obtain ⟨i', hi'⟩ :=
      Variable.exists_initialization_iff.2 (Variable.exists_initialization_iff.1 ⟨i, hi⟩)
    exact ⟨i', hi', Variable.allocates_of_more_writes (within v.name)
      (Variable.initialization_eq_ok_iff.1 hi) (Variable.initialization_eq_ok_iff.1 hi') hallocates⟩
  cases h with
  | requested hasks => exact .requested hasks
  | copied hp htype => exact .copied hp htype
  | separated hp hboxed hneeds => exact .separated hp hboxed (within _ hneeds)
  | defaulted hp hl hi hallocates =>
      obtain ⟨i', hi', hallocates'⟩ := hbuilt hi hallocates
      exact .defaulted hp hl hi' hallocates'
  | seeded hv hboxed hexternal hseed hi hallocates =>
      obtain ⟨i', hi', hallocates'⟩ := hbuilt hi hallocates
      exact .seeded hv hboxed hexternal hseed hi' hallocates'

namespace Phases

variable {ctx ctx' : ClassContext} {m : Method} {body : Body} {s s' : MethodState}
  {c c' : CompiledMethod}

theorem agrees (h : Phases ctx m body s c) (h' : Phases ctx' m body s' c') : c.Agrees c' := by
  have htable : c.table = c'.table := by
    simp only [h.table_eq, h'.table_eq, h.binds.table_eq, h'.binds.table_eq]
  have hbody : (.ok c.body : Except CompileError (List Fragment)) = .ok c'.body :=
    h.body_ok.symm.trans h'.body_ok
  have hblock : (.ok c.declarations : Except CompileError DeclarationBlock) = .ok c'.declarations :=
    h.declarations_ok.symm.trans (htable ▸ h'.declarations_ok)
  exact {
    method_eq := h.method_eq.trans h'.method_eq.symm
    table_eq := htable
    body_eq := Except.ok.inj hbody
    declarations_eq := Except.ok.inj hblock
    required_eq := h.binds.required_eq.trans h'.binds.required_eq.symm
    optional_eq := h.binds.optional_eq.trans h'.binds.optional_eq.symm
    fetch?_eq := h.binds.fetch?_eq.trans h'.binds.fetch?_eq.symm
    guards_eq := h.binds.guards_eq_guards h'.binds }

theorem entry_eq_entry (h : Phases ctx m body s c) (h' : Phases ctx' m body s' c')
    (owner : ctx.owner = ctx'.owner) : c.entry = c'.entry := by
  simp only [CompiledMethod.entry, h.owner_eq, h'.owner_eq, owner, h.method_eq, h'.method_eq]

theorem isManaged_mono (h : Phases ctx m body s c) (h' : Phases ctx' m body s' c')
    (within : ctx.bindingFacts.SeparatesWithin ctx'.bindingFacts)
    (managed : c.isManaged = true) : c'.isManaged = true := by
  have hreason : NeedsFrame ctx m body c.table := h.isManaged_iff_needsFrame.1 managed
  have hreason' : NeedsFrame ctx' m body c'.table := (h.agrees h').table_eq ▸ hreason.mono within
  exact h'.isManaged_iff_needsFrame.2 hreason'

end Phases
end NativeMethod
