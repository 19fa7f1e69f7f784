import NativeMethod.Method.Body
import NativeMethod.Method.Compiled
import NativeMethod.Method.Modifiers
import NativeMethod.SymbolTable.Unused

/-!
# Compilation of methods

A method is compiled in phases: its modifiers are checked, its parameters bound, its body run,
its end looked at, variables with a default initialised, and all variables declared.  The first
phase that fails ends the compilation.  Unused variables are reported only for a method that
compiles.

* `ClassContext.compile` — one method;
* `ClassContext.compileAll` — the methods of a class, which share nothing but the sink for
  findings.
-/

namespace NativeMethod

/-- What the methods of a class have in common. -/
structure ClassContext where
  owner : ClassName
  options : Options := {}
  facts : Facts := {}
  constants : SharedConstants := .standard

/-- The variables that are initialised at the head of a method: boxed ones that no caller
supplies and that have a default. -/
def SymbolTable.seeded (t : SymbolTable) : List (Variable × Literal) :=
  (t.variables.filter fun v => v.type.isBoxed && !v.isExternal).filterMap fun v =>
    v.seed.map fun l => (v, l)

/-- What came of a compilation: the method or an error, the result of every action of the body,
and all findings so far. -/
structure Compilation where
  result : Except CompileError CompiledMethod
  trace : List (Except CompileError Body.State)
  sink : Diagnostics

namespace ClassContext

def bindingFacts (ctx : ClassContext) : BindingFacts :=
  { estimate := ctx.facts.estimate ctx.options.passes
    inferredType? := ctx.facts.inferredType? ctx.options.passes
    constants := ctx.constants }

/-! ## Phases -/

/-- Checks the modifiers and binds the parameters. -/
def bindMethod (ctx : ClassContext) (m : Method) :
    Except CompileError (BoundParameters × MethodState) :=
  match m.checkModifiers with
  | .error e => .error e
  | .ok () =>
    match bindParameters ctx.bindingFacts m.parameters {} with
    | (.error e, _) => .error e
    | (.ok bound, s) => .ok (bound, s)

/-- The lines of a body with its end.  A body that falls through restores the frame, and must
not owe a value. -/
def closeBody (m : Method) (body : Body) (emitted : List Fragment) :
    Except CompileError (List Fragment) :=
  if body.fallsThrough then
    if m.owesValue then .error (.missingReturn m.name m.span)
    else .ok (emitted ++ [.site 1 .restore])
  else .ok emitted

/-- The code for one variable with a default. -/
def seed (ctx : ClassContext) (v : Variable) (l : Literal) : Except CompileError Seed :=
  (v.initialization ctx.constants (ctx.bindingFacts.estimate v.name) v.span l).map (⟨v, ·⟩)

/-- All phases behind the body.  What the body leaves open is decided in the order of the
phases, so an owed value is missed before a default is found not to fit. -/
def finish (ctx : ClassContext) (m : Method) (bound : BoundParameters) (body : Body)
    (s : Body.State) : Except CompileError CompiledMethod := do
  let lines ← closeBody m body s.emitted
  let seeds ← s.method.table.seeded.mapM fun (v, l) => ctx.seed v l
  let declarations ← s.method.table.declarationBlock
  return {
    owner := ctx.owner
    method := m
    bound
    seeds
    body := lines
    declarations
    table := s.method.table
    growth := s.method.growth.requestTimes (seeds.countP (·.code.allocates)) }

/-- The findings about a compiled method. -/
def reports (ctx : ClassContext) (c : CompiledMethod) : List Diagnostic :=
  if ctx.options.reportUnused then c.table.unusedReports c.method.name else []

/-! ## Compilations -/

/-- Compiles a method.  Findings go to the end of the sink. -/
def compile (ctx : ClassContext) (m : Method) (body : Body) (sink : Diagnostics) : Compilation :=
  match ctx.bindMethod m with
  | .error e => ⟨.error e, [], sink⟩
  | .ok (bound, s) =>
    let run := body.run s
    match run.final.bind (ctx.finish m bound body) with
    | .error e => ⟨.error e, run.trace, sink⟩
    | .ok c => ⟨.ok c, run.trace, sink.append (ctx.reports c)⟩

/-- Compiles methods in order, all with one sink, and gives the sink back. -/
def compileAll (ctx : ClassContext) :
    List (Method × Body) → Diagnostics → List Compilation × Diagnostics
  | [], sink => ([], sink)
  | (m, body) :: rest, sink =>
    let c := ctx.compile m body sink
    let (cs, sink) := compileAll ctx rest c.sink
    (c :: cs, sink)

/-! ## Laws -/

/-- A compilation that fails leaves the sink as it was. -/
theorem sink_of_result_eq_error {ctx : ClassContext} {m : Method} {body : Body}
    {sink : Diagnostics} {e : CompileError} (h : (ctx.compile m body sink).result = .error e) :
    (ctx.compile m body sink).sink = sink := by
  unfold compile at h ⊢
  split
  · rfl
  · rename_i bound s opened
    rw [opened] at h
    dsimp only at h ⊢
    split
    · rfl
    · rename_i c finished
      rw [finished] at h
      cases h

end ClassContext

end NativeMethod
