import NativeMethod.Proofs.FrameRequests
import NativeMethod.Proofs.MaterialisedDefaults
import NativeMethod.Proofs.WellFormedParameters

/-!
# Failures — where a compilation ends

A compilation that fails does so in one of six phases, with the error of that phase.  None of them looks
at anything but the method and its body: neither the facts nor the options nor the class have a part in
whether a method compiles, nor in the error if it does not.

* `Failure` — the phase that fails, behind all phases that succeed, and its error;
* `Failure.in_context` — a failure in one context is a failure in every other;
* `compile_alike` — compilations in two contexts fail together, and otherwise went through the same
  phases;
* `compileBy` — a body that looks at the variables before it decides what to do.
-/

namespace NativeMethod
namespace ClassContext

variable {ctx ctx' : ClassContext} {m : Method} {body : Body} {sink : Diagnostics}
  {c : CompiledMethod} {e : CompileError} {bound : BoundParameters}

/-! ## Phases that fail -/

/-- The body ran to its end, behind parameters that were bound. -/
def Reaches (ctx : ClassContext) (m : Method) (body : Body) (bound : BoundParameters)
    (t : Body.State) : Prop :=
  ∃ s, ctx.bindMethod m = .ok (bound, s) ∧ (body.run s).final = .ok t

/-- The body of a compiled method ran to its end, and its table and its lines are those of the method. -/
theorem exists_reaches (compiled : (ctx.compile m body sink).result = .ok c) :
    ∃ t, ctx.Reaches m body c.bound t ∧ c.table = t.method.table ∧
      t.emitted = Body.lines body.steps := by
  rcases compile_eq_ok_iff.1 compiled with ⟨bound, s, t, hbound, hran, hfinish⟩
  have hemitted : t.emitted = Body.lines body.steps := by
    simpa [Body.after] using congrArg Body.State.emitted (Body.runSteps_eq_ok hran)
  rcases finish_eq_ok hfinish with ⟨_, _, _, _, _, _, rfl⟩
  exact ⟨t, ⟨s, hbound, hran⟩, rfl, hemitted⟩

/-- The first phase that fails, and its error. -/
inductive Failure (ctx : ClassContext) (m : Method) (body : Body) : CompileError → Prop where
  | modifiers {e : CompileError} : m.checkModifiers = .error e → Failure ctx m body e
  | binding {e : CompileError} :
      m.checkModifiers = .ok () →
        (bindParameters ctx.bindingFacts m.parameters {}).1 = .error e → Failure ctx m body e
  | body {e : CompileError} {bound : BoundParameters} {s : MethodState} :
      ctx.bindMethod m = .ok (bound, s) → (body.run s).final = .error e → Failure ctx m body e
  | missingReturn {e : CompileError} {bound : BoundParameters} {t : Body.State} :
      ctx.Reaches m body bound t → closeBody m body t.emitted = .error e → Failure ctx m body e
  | seeding {e : CompileError} {bound : BoundParameters} {t : Body.State}
      {lines : List Fragment} :
      ctx.Reaches m body bound t → closeBody m body t.emitted = .ok lines →
        (t.method.table.seeded.mapM fun vl => ctx.seed vl.1 vl.2) = .error e →
          Failure ctx m body e
  | declarations {e : CompileError} {bound : BoundParameters} {t : Body.State}
      {lines : List Fragment} {seeds : List Seed} :
      ctx.Reaches m body bound t → closeBody m body t.emitted = .ok lines →
        (t.method.table.seeded.mapM fun vl => ctx.seed vl.1 vl.2) = .ok seeds →
          t.method.table.declarationBlock = .error e → Failure ctx m body e

theorem bindMethod_eq_error_iff :
    ctx.bindMethod m = .error e ↔
      m.checkModifiers = .error e ∨
        (m.checkModifiers = .ok () ∧
          (bindParameters ctx.bindingFacts m.parameters {}).1 = .error e) := by
  unfold bindMethod
  cases hmodifiers : m.checkModifiers with
  | error e' => simp
  | ok _ =>
      rcases bindParameters ctx.bindingFacts m.parameters {} with ⟨e' | bound, s⟩ <;> simp

theorem finish_eq_error_iff {t : Body.State} :
    ctx.finish m bound body t = .error e ↔
      closeBody m body t.emitted = .error e ∨
        ∃ lines, closeBody m body t.emitted = .ok lines ∧
          ((t.method.table.seeded.mapM fun vl => ctx.seed vl.1 vl.2) = .error e ∨
            ∃ seeds, (t.method.table.seeded.mapM fun vl => ctx.seed vl.1 vl.2) = .ok seeds ∧
              t.method.table.declarationBlock = .error e) := by
  -- a method with declarations has nothing left that could fail
  have hlast (block : Except CompileError DeclarationBlock) (k : DeclarationBlock → CompiledMethod) :
      (block >>= fun b => (.ok (k b) : Except CompileError CompiledMethod)) = .error e ↔
        block = .error e :=
    Outcome.bind_eq_error_iff.trans (by simp)
  refine Outcome.bind_eq_error_iff.trans (or_congr_right (exists_congr ?_))
  intro lines
  refine and_congr_right fun _ => Outcome.bind_eq_error_iff.trans (or_congr_right (exists_congr ?_))
  intro seeds
  exact and_congr_right fun _ => hlast _ _

/-- A compilation fails exactly where its first failing phase does. -/
theorem compile_eq_error_iff :
    (ctx.compile m body sink).result = .error e ↔ ctx.Failure m body e := by
  have hphases : (ctx.compile m body sink).result = .error e ↔
      ctx.bindMethod m = .error e ∨
        ∃ bound s, ctx.bindMethod m = .ok (bound, s) ∧
          ((body.run s).final = .error e ∨
            ∃ t, (body.run s).final = .ok t ∧ ctx.finish m bound body t = .error e) := by
    unfold compile
    cases hbound : ctx.bindMethod m with
    | error e' => simp
    | ok opened =>
        rcases opened with ⟨bound, s⟩
        cases hfinal : (body.run s).final with
        | error e' => simp [hfinal, Except.bind]
        | ok t => cases hfinish : ctx.finish m bound body t <;> simp [hfinal, hfinish, Except.bind]
  -- what is opened, run and finished is refused in the phase that each of the three ends in
  rw [hphases]
  constructor
  · rintro (hopen | ⟨bound, s, hbound, hbody | ⟨t, hran, hfinish⟩⟩)
    · rcases bindMethod_eq_error_iff.1 hopen with hmodifiers | ⟨hmodifiers, hbinding⟩
      · exact .modifiers hmodifiers
      · exact .binding hmodifiers hbinding
    · exact .body hbound hbody
    · have hreaches : ctx.Reaches m body bound t := ⟨s, hbound, hran⟩
      rcases finish_eq_error_iff.1 hfinish with
        hclose | ⟨lines, hclose, hseeds | ⟨seeds, hseeds, hblock⟩⟩
      · exact .missingReturn hreaches hclose
      · exact .seeding hreaches hclose hseeds
      · exact .declarations hreaches hclose hseeds hblock
  · intro h
    cases h with
    | modifiers hmodifiers => exact .inl (bindMethod_eq_error_iff.2 (.inl hmodifiers))
    | binding hmodifiers hbinding =>
        exact .inl (bindMethod_eq_error_iff.2 (.inr ⟨hmodifiers, hbinding⟩))
    | body hbound hbody => exact .inr ⟨_, _, hbound, .inl hbody⟩
    | missingReturn hreaches hclose =>
        rcases hreaches with ⟨s, hbound, hran⟩
        exact .inr ⟨_, s, hbound, .inr ⟨_, hran, finish_eq_error_iff.2 (.inl hclose)⟩⟩
    | seeding hreaches hclose hseeds =>
        rcases hreaches with ⟨s, hbound, hran⟩
        exact .inr ⟨_, s, hbound, .inr ⟨_, hran,
          finish_eq_error_iff.2 (.inr ⟨_, hclose, .inl hseeds⟩)⟩⟩
    | declarations hreaches hclose hseeds hblock =>
        rcases hreaches with ⟨s, hbound, hran⟩
        exact .inr ⟨_, s, hbound, .inr ⟨_, hran,
          finish_eq_error_iff.2 (.inr ⟨_, hclose, .inr ⟨_, hseeds, hblock⟩⟩)⟩⟩

/-! ## Two contexts -/

/-- The table that the body starts with, if there is anything to start with. -/
theorem table_of_bindMethod {s : MethodState} (h : ctx.bindMethod m = .ok (bound, s)) :
    s.table = SymbolTable.initial.append (m.parameters.flatMap Parameter.backing) :=
  (bindMethod_eq_ok h).2.table_eq

/-- What can be bound in one context can be bound in every other, and leaves the same table. -/
theorem exists_bindMethod_in_context {s : MethodState} (h : ctx.bindMethod m = .ok (bound, s))
    (ctx' : ClassContext) :
    ∃ bound' s', ctx'.bindMethod m = .ok (bound', s') ∧ s'.table = s.table := by
  obtain ⟨hmodifiers, hbinds⟩ := bindMethod_eq_ok h
  cases hother : ctx'.bindMethod m with
  | ok opened =>
      rcases opened with ⟨bound', s'⟩
      exact ⟨bound', s', rfl, (table_of_bindMethod hother).trans (table_of_bindMethod h).symm⟩
  | error e =>
      rcases bindMethod_eq_error_iff.1 hother with hrefused | ⟨_, hrefused⟩
      · cases hmodifiers.symm.trans hrefused
      · -- an offence would be one in the first context as well
        have hoffence := (bindParameters_eq_error_iff _ _ _ e).1 hrefused
        have hfails : ctx.bindMethod m = .error e :=
          bindMethod_eq_error_iff.2
            (.inr ⟨hmodifiers, (bindParameters_eq_error_iff _ _ _ e).2 hoffence⟩)
        cases h.symm.trans hfails

/-- A body that reaches its end does so in every context, with the same lines and the same table. -/
theorem Reaches.in_context {t : Body.State} (h : ctx.Reaches m body bound t)
    (ctx' : ClassContext) :
    ∃ bound' t', ctx'.Reaches m body bound' t' ∧ t'.emitted = t.emitted ∧
      t'.method.table = t.method.table := by
  rcases h with ⟨s, hbound, hran⟩
  rcases exists_bindMethod_in_context hbound ctx' with ⟨bound', s', hbound', htable⟩
  have hsame : (body.run s').final.map (·.withGrowth {}) = .ok (t.withGrowth {}) := by
    simpa only [hran, Except.map] using body.final_run_of_table_eq htable
  rcases Outcome.map_eq_ok_iff.1 hsame with ⟨t', hran', hstate⟩
  refine ⟨bound', t', ⟨s', hbound', hran'⟩, ?_, ?_⟩
  · simpa using congrArg Body.State.emitted hstate
  · simpa using congrArg (fun u : Body.State => u.method.table) hstate

/-- The code for a default fails for a reason that lies in the variable and the literal. -/
theorem seed_eq_error_in_context (ctx ctx' : ClassContext) (vl : Variable × Literal)
    (e : CompileError) : ctx.seed vl.1 vl.2 = .error e ↔ ctx'.seed vl.1 vl.2 = .error e :=
  seed_eq_error_iff.trans seed_eq_error_iff.symm

/-- What fails in one context fails in every other, in the same phase and with the same error. -/
theorem Failure.in_context (h : ctx.Failure m body e) (ctx' : ClassContext) :
    ctx'.Failure m body e := by
  cases h with
  | modifiers hmodifiers => exact .modifiers hmodifiers
  | binding hmodifiers hbinding =>
      have hoffence := (bindParameters_eq_error_iff _ _ _ e).1 hbinding
      exact .binding hmodifiers ((bindParameters_eq_error_iff _ _ _ e).2 hoffence)
  | body hbound hbody =>
      rcases exists_bindMethod_in_context hbound ctx' with ⟨bound', s', hbound', htable⟩
      have hsame : (body.run s').final.map (·.withGrowth {}) = .error e := by
        simpa only [hbody, Except.map] using body.final_run_of_table_eq htable
      exact .body hbound' (Outcome.map_eq_error_iff.1 hsame)
  -- from here on the body has run, and left the same lines and the same table
  | missingReturn hreaches hclose =>
      rcases hreaches.in_context ctx' with ⟨bound', t', hreaches', hemitted, _⟩
      exact .missingReturn hreaches' (hemitted ▸ hclose)
  | seeding hreaches hclose hseeds =>
      rcases hreaches.in_context ctx' with ⟨bound', t', hreaches', hemitted, htable⟩
      exact .seeding hreaches' (hemitted ▸ hclose)
        (Outcome.mapM_eq_error_of_same (seed_eq_error_in_context ctx ctx') (htable ▸ hseeds))
  | declarations hreaches hclose hseeds hblock =>
      rcases hreaches.in_context ctx' with ⟨bound', t', hreaches', hemitted, htable⟩
      cases hseeds' : t'.method.table.seeded.mapM fun vl => ctx'.seed vl.1 vl.2 with
      | ok seeds' => exact .declarations hreaches' (hemitted ▸ hclose) hseeds' (htable ▸ hblock)
      | error e' =>
          have hfails : (t'.method.table.seeded.mapM fun vl => ctx.seed vl.1 vl.2) = .error e' :=
            Outcome.mapM_eq_error_of_same (seed_eq_error_in_context ctx' ctx) hseeds'
          cases hseeds.symm.trans (htable ▸ hfails)

/-- In two contexts a method fails to compile with one error, or it compiles in both and each
compilation went through all phases. -/
theorem compile_alike {R : CompiledMethod → CompiledMethod → Prop}
    (related : ∀ c c' s s', Phases ctx m body s c → Phases ctx' m body s' c' → R c c')
    (sink sink' : Diagnostics) :
    Outcome.Alike R (ctx.compile m body sink).result (ctx'.compile m body sink').result := by
  refine Outcome.alike_of_errors ?_ ?_
  · intro e
    refine compile_eq_error_iff.trans (Iff.trans ?_ compile_eq_error_iff.symm)
    exact ⟨fun h => h.in_context ctx', fun h => h.in_context ctx⟩
  · intro c c' compiled compiled'
    rcases exists_phases compiled with ⟨s, h⟩
    rcases exists_phases compiled' with ⟨s', h'⟩
    exact related c c' s s' h h'

/-! ## Bodies that look at the variables -/

/-- Compiles a method whose body decides what to do by looking at the table it starts with. -/
def compileBy (ctx : ClassContext) (m : Method) (body : SymbolTable → Body) (sink : Diagnostics) :
    Compilation :=
  match ctx.bindMethod m with
  | .error e => ⟨.error e, [], sink⟩
  | .ok (_, s) => ctx.compile m (body s.table) sink

/-- Such a body sees the variables behind the parameters, which are the same in every context.  One that
does not look is compiled as it is. -/
theorem compileBy_eq (ctx : ClassContext) (m : Method) (body : SymbolTable → Body)
    (sink : Diagnostics) :
    ctx.compileBy m body sink =
      ctx.compile m
        (body (SymbolTable.initial.append (m.parameters.flatMap Parameter.backing))) sink := by
  unfold compileBy
  cases hbound : ctx.bindMethod m with
  | error e => simp [compile, hbound]
  | ok opened =>
      rcases opened with ⟨bound, s⟩
      simp only [table_of_bindMethod hbound]

end ClassContext
end NativeMethod
