import NativeMethod.Compilation
import NativeMethod.Proofs.BodyHistory
import NativeMethod.Proofs.BoundParameters

/-!
# CompiledMethods — the phases behind a compiled method

A method that compiles went through every phase, and each phase is visible in the result.
`Phases` collects what they did, as equations between the parts of the compiled method and the
declaration and body it was compiled from; `exists_phases` says that every compiled method has them.
From these follow what holds of every table that is compiled: its names are distinct, and a variable is
what the body left of a parameter, of one of the implicit variables or of a local of its own.
-/

namespace NativeMethod

/-- What the phases of a successful compilation did.  The state is the one that binding leaves and
the body starts with. -/
structure Phases (ctx : ClassContext) (m : Method) (body : Body) (s : MethodState)
    (c : CompiledMethod) : Prop where
  modifiers_ok : m.checkModifiers = .ok ()
  binds : Binds ctx.bindingFacts m.parameters {} c.bound s
  owner_eq : c.owner = ctx.owner
  method_eq : c.method = m
  table_eq : c.table = s.table.run (Body.changes body.steps)
  body_ok : ClassContext.closeBody m body (Body.lines body.steps) = .ok c.body
  seeds_ok : List.Forall₂ (fun vl seed => ctx.seed vl.1 vl.2 = .ok seed) c.table.seeded c.seeds
  declarations_ok : c.table.declarationBlock = .ok c.declarations
  growth_eq :
    c.growth =
      (s.growth.requestTimes (Body.requests body.steps)).requestTimes
        (c.seeds.countP (·.code.allocates))

namespace Phases

variable {ctx : ClassContext} {m : Method} {body : Body} {s : MethodState} {c : CompiledMethod}

theorem namesDistinct_start (h : Phases ctx m body s c) : s.table.NamesDistinct :=
  h.binds.namesDistinct SymbolTable.namesDistinct_initial

theorem namesDistinct (h : Phases ctx m body s c) : c.table.NamesDistinct := by
  rw [h.table_eq]
  exact SymbolTable.namesDistinct_run h.namesDistinct_start _

/-- A variable of the compiled method is what the body left under its name. -/
theorem find?_run (h : Phases ctx m body s c) {v : Variable} (hv : v ∈ c.table.variables) :
    (s.table.run (Body.changes body.steps)).find? v.name = some v := by
  rw [← h.table_eq]
  exact SymbolTable.find?_eq_some_of_mem h.namesDistinct hv

/-- A variable that the body starts with is implicit or backs a parameter. -/
theorem implicit_or_backing (h : Phases ctx m body s c) {v : Variable}
    (hv : v ∈ s.table.variables) :
    v = SymbolTable.receiver ∨ v = SymbolTable.returnSlot ∨
      ∃ p ∈ m.parameters, v ∈ p.backing := by
  rw [h.binds.table_eq] at hv
  rcases List.mem_append.1 hv with hinitial | hbacking
  · have hcases : v = SymbolTable.receiver ∨ v = SymbolTable.returnSlot := by
      simpa [SymbolTable.initial] using hinitial
    exact hcases.imp_right .inl
  · exact .inr (.inr (List.mem_flatMap.1 hbacking))

end Phases

namespace CompiledMethod

/-- The declarations of the variables and of the receiver are lines of the method. -/
theorem mem_fragments_of_mem_declarations {c : CompiledMethod} {line : String}
    (h : line ∈ c.declarations.declarations ++ c.receiverLines) : .code 1 line ∈ c.fragments := by
  have hparagraph : .code 1 line ∈ paragraph (c.declarations.declarations ++ c.receiverLines) := by
    have hne : (c.declarations.declarations ++ c.receiverLines).isEmpty = false := by
      simpa only [List.isEmpty_eq_false_iff] using List.ne_nil_of_mem h
    unfold paragraph
    rw [hne]
    exact List.mem_append_left _ (List.mem_map_of_mem h)
  simp [fragments, declarationFragments, hparagraph]

theorem mem_fragments_of_mem_groups {c : CompiledMethod} {g : DeclarationGroup}
    (h : g ∈ c.declarations.groups) : .code 1 g.text ∈ c.fragments :=
  mem_fragments_of_mem_declarations (List.mem_append_left _ (List.mem_map_of_mem h))

end CompiledMethod

namespace ClassContext

variable {ctx : ClassContext} {m : Method} {body : Body} {sink : Diagnostics}
  {c : CompiledMethod}

theorem bindMethod_eq_ok {bound : BoundParameters} {s : MethodState}
    (h : ctx.bindMethod m = .ok (bound, s)) :
    m.checkModifiers = .ok () ∧ Binds ctx.bindingFacts m.parameters {} bound s := by
  unfold bindMethod at h
  split at h
  · cases h
  · rename_i hmodifiers
    split at h
    · cases h
    · rename_i hbound
      cases h
      exact ⟨hmodifiers, binds_of_bindParameters hbound⟩

theorem finish_eq_ok {bound : BoundParameters} {s : Body.State}
    (h : ctx.finish m bound body s = .ok c) :
    ∃ lines seeds block,
      closeBody m body s.emitted = .ok lines ∧
      List.Forall₂ (fun vl seed => ctx.seed vl.1 vl.2 = .ok seed) s.method.table.seeded seeds ∧
      s.method.table.declarationBlock = .ok block ∧
      c = { owner := ctx.owner
            method := m
            bound
            seeds
            body := lines
            declarations := block
            table := s.method.table
            growth := s.method.growth.requestTimes (seeds.countP (·.code.allocates)) } := by
  unfold finish at h
  rcases Outcome.bind_eq_ok_iff.1 h with ⟨lines, hlines, h⟩
  rcases Outcome.bind_eq_ok_iff.1 h with ⟨seeds, hseeds, h⟩
  rcases Outcome.bind_eq_ok_iff.1 h with ⟨block, hblock, h⟩
  exact ⟨lines, seeds, block, hlines, Outcome.mapM_eq_ok_iff.1 hseeds, hblock,
    (Except.ok.inj h).symm⟩

/-- A method compiles when it can be bound, its body succeeds and what the body leaves open can be
finished.  Findings are added for it alone. -/
theorem compile_eq_ok_iff :
    (ctx.compile m body sink).result = .ok c ↔
      ∃ bound s s', ctx.bindMethod m = .ok (bound, s) ∧ (body.run s).final = .ok s' ∧
        ctx.finish m bound body s' = .ok c := by
  unfold compile
  cases hbound : ctx.bindMethod m with
  | error e => simp
  | ok opened =>
      rcases opened with ⟨bound, s⟩
      cases hfinal : (body.run s).final with
      | error e => simp [hfinal, Except.bind]
      | ok s' =>
          cases hfinished : ctx.finish m bound body s' with
          | error e => simp [hfinal, hfinished, Except.bind]
          | ok c' => simp [hfinal, hfinished, Except.bind]

theorem sink_of_result_eq_ok (h : (ctx.compile m body sink).result = .ok c) :
    (ctx.compile m body sink).sink = sink.append (ctx.reports c) := by
  unfold compile at h ⊢
  split
  · rename_i hopened
    rw [hopened] at h
    cases h
  · rename_i bound s hopened
    rw [hopened] at h
    dsimp only at h ⊢
    split
    · rename_i hfinished
      rw [hfinished] at h
      cases h
    · rename_i c' hfinished
      rw [hfinished] at h
      cases h
      rfl

/-- Every compiled method went through all phases. -/
theorem exists_phases (h : (ctx.compile m body sink).result = .ok c) :
    ∃ s, Phases ctx m body s c := by
  rcases compile_eq_ok_iff.1 h with ⟨bound, s, s', hbound, hrun, hfinish⟩
  rcases bindMethod_eq_ok hbound with ⟨hmodifiers, hbinds⟩
  rcases finish_eq_ok hfinish with ⟨lines, seeds, block, hlines, hseeds, hblock, rfl⟩
  -- what the body does is read off its steps, so its state need not be kept
  have hstate : s' = Body.after body.steps { method := s } := Body.runSteps_eq_ok hrun
  subst hstate
  exact ⟨s, hmodifiers, hbinds, rfl, rfl, rfl, hlines, hseeds, hblock, rfl⟩

end ClassContext
end NativeMethod
