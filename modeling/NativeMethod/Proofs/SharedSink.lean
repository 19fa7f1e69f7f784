import NativeMethod.Proofs.Failures

/-!
# SharedSink — methods that report to one sink

The methods of a class are compiled in order and all put their findings into one sink.

* `ClassContext.findings` — what a method adds to the sink, read off its compilation alone;
* `sink_compile` — one method adds that, behind everything that is there;
* `compileAll_isolated` — a method becomes what it would have become alone, the sink grows by the
  findings of the methods in order, and a method that fails adds none.
-/

namespace NativeMethod
namespace ClassContext

variable {ctx : ClassContext} {m : Method} {body : Body} {sink : Diagnostics}

/-! ## One method -/

/-- The findings about a method that is compiled alone: those on the variables it leaves unused, if it
compiles and they are asked for. -/
def findings (ctx : ClassContext) (mb : Method × Body) : List Diagnostic :=
  match (ctx.compile mb.1 mb.2 {}).result with
  | .ok c => if ctx.options.reportUnused then c.table.unusedReports mb.1.name else []
  | .error _ => []

/-- What a sink holds already has no part in a compilation. -/
theorem result_eq_of_sinks (ctx : ClassContext) (m : Method) (body : Body)
    (sink sink' : Diagnostics) :
    (ctx.compile m body sink).result = (ctx.compile m body sink').result := by
  unfold compile
  cases ctx.bindMethod m with
  | error e => rfl
  | ok opened =>
      rcases opened with ⟨bound, s⟩
      dsimp only
      cases (body.run s).final.bind (ctx.finish m bound body) <;> rfl

/-- One method adds its findings, behind everything that is there. -/
theorem sink_compile (ctx : ClassContext) (m : Method) (body : Body) (sink : Diagnostics) :
    (ctx.compile m body sink).sink = sink.append (ctx.findings (m, body)) := by
  have halone := ctx.result_eq_of_sinks m body sink {}
  -- what is found does not depend on what is in the sink, so it can be found with an empty one
  cases hresult : (ctx.compile m body sink).result with
  | error e =>
      have hnone : ctx.findings (m, body) = [] := by
        simp only [findings, ← halone, hresult]
      rw [sink_of_result_eq_error hresult, hnone]
      simp [Diagnostics.append]
  | ok c =>
      have hname : c.method.name = m.name := by
        rcases exists_phases hresult with ⟨s, h⟩
        exact congrArg Method.name h.method_eq
      have hfindings : ctx.findings (m, body) = ctx.reports c := by
        simp only [findings, ← halone, hresult, reports, hname]
      rw [sink_of_result_eq_ok hresult, hfindings]

theorem findings_of_failure {e : CompileError} (h : ctx.Failure m body e) :
    ctx.findings (m, body) = [] := by
  have hresult : (ctx.compile m body {}).result = .error e := compile_eq_error_iff.2 h
  simp only [findings, hresult]

/-! ## Methods in order -/

/-- No method sees what the ones before it left in the sink. -/
theorem results_compileAll (ctx : ClassContext) (methods : List (Method × Body))
    (sink : Diagnostics) :
    (ctx.compileAll methods sink).1.map (·.result) =
      methods.map fun mb => (ctx.compile mb.1 mb.2 {}).result := by
  induction methods generalizing sink with
  | nil => rfl
  | cons mb rest ih =>
      -- the others start with whatever sink the first method left
      have hfirst := ctx.result_eq_of_sinks mb.1 mb.2 sink {}
      have hrest := ih (ctx.compile mb.1 mb.2 sink).sink
      simpa only [compileAll, List.map_cons, hfirst] using congrArg (_ :: ·) hrest

/-- Findings are collected in the order of the methods. -/
theorem sink_compileAll (ctx : ClassContext) (methods : List (Method × Body))
    (sink : Diagnostics) :
    (ctx.compileAll methods sink).2 = sink.append (methods.flatMap ctx.findings) := by
  induction methods generalizing sink with
  | nil => simp [compileAll, Diagnostics.append]
  | cons mb rest ih =>
      calc
        (ctx.compileAll (mb :: rest) sink).2
            = (ctx.compileAll rest (ctx.compile mb.1 mb.2 sink).sink).2 := rfl
        _ = (ctx.compile mb.1 mb.2 sink).sink.append (rest.flatMap ctx.findings) := ih _
        _ = (sink.append (ctx.findings mb)).append (rest.flatMap ctx.findings) := by
              rw [sink_compile]
        _ = sink.append ((mb :: rest).flatMap ctx.findings) := by
              simp [Diagnostics.append]

end ClassContext

/-- Methods that share a sink do not interfere: each becomes what it would have become alone, and the
sink grows by what each found, in order.  A method that compiles reports on the variables that its body
left unused, and only if reports are wanted; one that fails, in whichever phase, reports nothing. -/
theorem compileAll_isolated (ctx : ClassContext) (methods : List (Method × Body))
    (sink : Diagnostics) :
    (ctx.compileAll methods sink).1.map (·.result) =
        methods.map (fun mb => (ctx.compile mb.1 mb.2 {}).result) ∧
      (ctx.compileAll methods sink).2 = sink.append (methods.flatMap ctx.findings) ∧
      (∀ mb ∈ methods, ∀ c, (ctx.compile mb.1 mb.2 {}).result = .ok c →
        (∃ t, ctx.Reaches mb.1 mb.2 c.bound t ∧ c.table = t.method.table) ∧
          ctx.findings mb =
            if ctx.options.reportUnused then c.table.unusedReports mb.1.name else []) ∧
      ∀ mb ∈ methods, ∀ e,
        ((ctx.compile mb.1 mb.2 {}).result = .error e ↔ ctx.Failure mb.1 mb.2 e) ∧
          (ctx.Failure mb.1 mb.2 e → ctx.findings mb = []) := by
  refine ⟨ctx.results_compileAll methods sink, ctx.sink_compileAll methods sink, ?_, ?_⟩
  · intro mb _ c compiled
    rcases ClassContext.exists_reaches compiled with ⟨t, hreaches, htable, _⟩
    refine ⟨⟨t, hreaches, htable⟩, ?_⟩
    simp only [ClassContext.findings, compiled]
  · intro mb _ e
    exact ⟨ClassContext.compile_eq_error_iff, ClassContext.findings_of_failure⟩

/-- All three methods leave a variable unused.  The second fails when its default turns out not to fit,
so only the first and the third report theirs. -/
theorem isolated_around_failure :
    ∃ c c' : CompiledMethod, ∃ e,
      (ClassContext.compileAll { owner := ⟨"C"⟩ }
        [({ name := "f" }, { steps := [⟨.change (.declare "x" .generic .nowhere), false⟩] }),
          ({ name := "g" },
            { steps := [⟨.change (.declare "y" .object .nowhere), false⟩,
              ⟨.change (.setSeed "y" (.int 1)), false⟩] }),
          ({ name := "h" }, { steps := [⟨.change (.declare "z" .generic .nowhere), false⟩] })]
        {}).1.map (·.result) = [.ok c, .error e, .ok c'] ∧
      (ClassContext.compileAll { owner := ⟨"C"⟩ }
        [({ name := "f" }, { steps := [⟨.change (.declare "x" .generic .nowhere), false⟩] }),
          ({ name := "g" },
            { steps := [⟨.change (.declare "y" .object .nowhere), false⟩,
              ⟨.change (.setSeed "y" (.int 1)), false⟩] }),
          ({ name := "h" }, { steps := [⟨.change (.declare "z" .generic .nowhere), false⟩] })]
        {}).2.entries =
          [⟨.warning, "variable 'x' declared but not used in f", .nowhere⟩,
            ⟨.warning, "variable 'z' declared but not used in h", .nowhere⟩] := by
  obtain ⟨hresults, hsink, hfound, hfailed⟩ := compileAll_isolated { owner := ⟨"C"⟩ }
    [({ name := "f" }, { steps := [⟨.change (.declare "x" .generic .nowhere), false⟩] }),
      ({ name := "g" },
        { steps := [⟨.change (.declare "y" .object .nowhere), false⟩,
          ⟨.change (.setSeed "y" (.int 1)), false⟩] }),
      ({ name := "h" }, { steps := [⟨.change (.declare "z" .generic .nowhere), false⟩] })] {}
  have hfirst := (hfound _ (.head _) _ rfl).2
  have hsecond := (hfailed _ (.tail _ (.head _)) _).2 ((hfailed _ (.tail _ (.head _)) _).1.1 rfl)
  have hthird := (hfound _ (.tail _ (.tail _ (.head _))) _ rfl).2
  refine ⟨_, _, _, hresults.trans rfl, ?_⟩
  rw [hsink, List.flatMap_cons, List.flatMap_cons, List.flatMap_cons, hfirst, hsecond, hthird]
  rfl

end NativeMethod
