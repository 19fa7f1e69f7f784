import NativeMethod.Proofs.BindingSteps
import NativeMethod.Proofs.BodyHistory
import NativeMethod.Proofs.Failures
import NativeMethod.Proofs.LocalChanges

/-!
# CaughtFailures — a step that fails and is caught might as well not be there

A body works in place: on the stored table, whatever a failing change may leave of it, and on the lines
and requests so far.  As a change that fails leaves nothing, the result of a compilation is that of the
body without its failing steps:

* `Body.runInPlace`, `ClassContext.compileInPlace` — bodies and compilations on the stored table;
* `compileInPlace_eq` — they come to what the compiler computes, step by step;
* `Body.withoutFailures` — a body without the steps that failed;
* `effects_local_and_failures_removable` — the reach of every change, and the same compilation with
  and without caught failures.
-/

namespace NativeMethod

open SymbolTable (Change)

/-! ## Tables of methods -/

namespace SymbolTable

/-- A history that never fails leaves what its changes do one after the other. -/
theorem run_of_applyAll {t t' : SymbolTable} {cs : List Change} (h : applyAll cs t = (.ok (), t')) :
    t.run cs = t' := by
  induction cs generalizing t with
  | nil =>
      cases h
      rfl
  | cons c rest ih =>
      cases hstep : c.apply t with
      | error e => simp [applyAll, hstep] at h
      | ok next =>
          have hrest : next.run rest = t' := ih (by simpa [applyAll, hstep] using h)
          simpa [run, Change.applyOrKeep, hstep] using hrest

end SymbolTable

/-- The changes that declare the variables behind the parameters of a method. -/
def Method.declarations (m : Method) : List Change := m.parameters.flatMap Parameter.declarations

/-- Declaring what is behind the parameters, change by change, leaves the table that binding does. -/
theorem Binds.run_declarations {facts : BindingFacts} {ps : List Parameter} {s s' : MethodState}
    {bs : BoundParameters} (h : Binds facts ps s bs s') :
    s.table.run (ps.flatMap Parameter.declarations) = s'.table := by
  induction h with
  | nil s => rfl
  | @cons p ps b bs s s₁ s₂ hbind _ ih =>
      obtain ⟨hparameter, hfollows, hnames, hstate⟩ := Parameter.bind_eq_ok hbind
      have htype : p.checkType = .ok () := hparameter ▸ hfollows.type_ok
      have hown : s.table.run p.declarations = s₁.table := by
        rw [SymbolTable.run_of_applyAll (Parameter.applyAll_declarations htype hnames), hstate]
      calc
        s.table.run ((p :: ps).flatMap Parameter.declarations)
            = (s.table.run p.declarations).run (ps.flatMap Parameter.declarations) := by
              rw [List.flatMap_cons, SymbolTable.run_append]
        _ = s₁.table.run (ps.flatMap Parameter.declarations) := by rw [hown]
        _ = s₂.table := ih

/-! ## Bodies in place -/

namespace Body

/-- What a body works on: the stored table of its method, the requests for a frame and the lines. -/
structure Workspace where
  table : IndexedTable
  growth : Growth := {}
  emitted : List Fragment := []

def Workspace.state (w : Workspace) : State :=
  { method := { table := w.table.toTable, growth := w.growth }, emitted := w.emitted }

/-- Takes an action in place.  What a change does before it fails stays. -/
def Action.performInPlace : Action → Workspace → Except CompileError Unit × Workspace
  | .change c, w =>
    let (outcome, table) := IndexedTable.perform c w.table
    (outcome, { w with table })
  | a, w =>
    match a.perform w.state with
    | .ok s => (.ok (), { w with growth := s.method.growth, emitted := s.emitted })
    | .error e => (.error e, w)

/-- Takes the steps in place, up to the first failure that is not caught. -/
def runInPlace : List Step → Workspace → Except CompileError Unit × Workspace
  | [], w => (.ok (), w)
  | step :: steps, w =>
    match step.action.performInPlace w with
    | (.ok (), left) => runInPlace steps left
    | (.error e, left) => if step.isCaught then runInPlace steps left else (.error e, left)

/-- An action taken in place has the outcome it has for the compiler, and leaves everything alone if it
fails. -/
theorem Action.performInPlace_cases (a : Action) {w : Workspace} (consistent : w.table.Consistent) :
    (∃ left, a.performInPlace w = (.ok (), left) ∧ left.table.Consistent ∧
        a.perform w.state = .ok left.state) ∨
      ∃ e, a.performInPlace w = (.error e, w) ∧ a.perform w.state = .error e := by
  cases a with
  | change c =>
      -- a change in place is one of the table for the compiler, and a refused one has no effect
      have heffect := consistent.effect_perform c
      have houtcome := consistent.outcome_perform c
      have htable := consistent.toTable_perform c
      have hkeeps := consistent.perform c
      rcases hperform : IndexedTable.perform c w.table with ⟨outcome, table⟩
      simp only [hperform] at heffect houtcome htable hkeeps
      cases hresult : c.apply w.table.toTable with
      | ok t =>
          left
          have hok : outcome = .ok () := by simpa [hresult, Except.map] using houtcome
          have ht : t = table.toTable := by
            simpa [Change.applyOrKeep, hresult] using htable.symm
          refine ⟨{ w with table }, ?_, hkeeps, ?_⟩
          · simp [Action.performInPlace, hperform, hok]
          · simp [Action.perform, Workspace.state, hresult, ht, Except.map]
      | error e =>
          right
          have herror : outcome = .error e := by simpa [hresult, Except.map] using houtcome
          subst herror
          refine ⟨e, ?_, ?_⟩
          · simp [Action.performInPlace, hperform, heffect.eq_of_error]
          · simp [Action.perform, Workspace.state, hresult, Except.map]
  | checkDeclarations =>
      -- the check leaves the workspace alone, whatever comes of it
      cases hblock : w.state.method.table.declarationBlock with
      | ok block =>
          refine .inl ⟨w, ?_, consistent, ?_⟩
          · simp only [Action.performInPlace, Action.perform, hblock, Except.map]
            rfl
          · simp [Action.perform, hblock, Except.map]
      | error e =>
          refine .inr ⟨e, ?_, ?_⟩
          · simp [Action.performInPlace, Action.perform, hblock, Except.map]
          · simp [Action.perform, hblock, Except.map]
  | fail e => exact .inr ⟨e, rfl, rfl⟩
  | _ => exact .inl ⟨_, rfl, consistent, rfl⟩

/-- A body in place ends as it does for the compiler, and in the same state. -/
theorem runInPlace_eq (steps : List Step) {w : Workspace} (consistent : w.table.Consistent) :
    ((runInPlace steps w).1.map fun _ => (runInPlace steps w).2.state) =
      (runSteps steps w.state).final := by
  induction steps generalizing w with
  | nil => rfl
  | cons step steps ih =>
      rcases step.action.performInPlace_cases consistent with
        ⟨left, hplace, hconsistent, hperform⟩ | ⟨e, hplace, hperform⟩
      · simpa only [runInPlace, runSteps, hplace, hperform] using ih hconsistent
      · simp only [runInPlace, runSteps, hplace, hperform]
        split_ifs
        · exact ih consistent
        · rfl

end Body

namespace ClassContext

/-- Compiles a method with the table of its variables in place, from the receiver on. -/
def compileInPlace (ctx : ClassContext) (m : Method) (body : Body) (sink : Diagnostics) :
    Except CompileError CompiledMethod × Diagnostics :=
  match ctx.bindMethod m with
  | .error e => (.error e, sink)
  | .ok (bound, s) =>
    let start : Body.Workspace :=
      { table := IndexedTable.initial.run m.declarations, growth := s.growth }
    let (outcome, left) := Body.runInPlace body.steps start
    match outcome.bind fun _ => ctx.finish m bound body left.state with
    | .error e => (.error e, sink)
    | .ok c => (.ok c, sink.append (ctx.reports c))

variable {ctx : ClassContext} {m : Method} {body : Body} {bound : BoundParameters}
  {sink : Diagnostics} {s : MethodState}

/-- The stored table of the declared parameters is the one that binding leaves. -/
theorem toTable_of_bindMethod (h : ctx.bindMethod m = .ok (bound, s)) :
    (IndexedTable.initial.run m.declarations).toTable = s.table := by
  rw [IndexedTable.consistent_initial.toTable_run]
  exact (bindMethod_eq_ok h).2.run_declarations

theorem compileInPlace_eq (ctx : ClassContext) (m : Method) (body : Body) (sink : Diagnostics) :
    ctx.compileInPlace m body sink =
      ((ctx.compile m body sink).result, (ctx.compile m body sink).sink) := by
  unfold compileInPlace compile
  cases hbound : ctx.bindMethod m with
  | error e => rfl
  | ok opened =>
      rcases opened with ⟨bound, s⟩
      let start : Body.Workspace :=
        { table := IndexedTable.initial.run m.declarations, growth := s.growth }
      have hstart : start.state = { method := s } := by
        simp [start, Body.Workspace.state, toTable_of_bindMethod hbound]
      have hrun := Body.runInPlace_eq body.steps (w := start) (IndexedTable.consistent_initial.run _)
      rw [hstart] at hrun
      simp only [Body.run, ← hrun]
      rcases Body.runInPlace body.steps start with ⟨e | ⟨⟩, left⟩
      · rfl
      · simp only [Except.map, Except.bind]
        cases ctx.finish m bound body left.state <;> rfl

end ClassContext

/-! ## Bodies without their failures -/

namespace Body

/-- The steps that did not fail, by the outcomes of those taken.  A step that was not taken stays. -/
def succeeding : List Step → List (Except CompileError State) → List Step
  | step :: steps, outcome :: trace =>
    if outcome.isOk then step :: succeeding steps trace else succeeding steps trace
  | steps, _ => steps

/-- The body without the steps that failed. -/
def withoutFailures (body : Body) (trace : List (Except CompileError State)) : Body :=
  { body with steps := succeeding body.steps trace }

/-- Every step that failed is one after whose failure the body goes on. -/
def CatchesFailures (body : Body) (trace : List (Except CompileError State)) : Prop :=
  ∀ p ∈ body.steps.zip trace, p.2.isOk = false → p.1.isCaught = true

instance (body : Body) (trace : List (Except CompileError State)) :
    Decidable (body.CatchesFailures trace) :=
  inferInstanceAs (Decidable (∀ p ∈ body.steps.zip trace, p.2.isOk = false → p.1.isCaught = true))

theorem final_runSteps_succeeding {steps : List Step} {s : State}
    (caught : ∀ p ∈ steps.zip (runSteps steps s).trace, p.2.isOk = false → p.1.isCaught = true) :
    (runSteps (succeeding steps (runSteps steps s).trace) s).final = (runSteps steps s).final := by
  induction steps generalizing s with
  | nil => rfl
  | cons step steps ih =>
      cases hperform : step.action.perform s with
      | ok next =>
          simp only [runSteps, hperform] at caught ⊢
          have hrest := ih (s := next) fun p hp => caught p (List.mem_cons_of_mem _ hp)
          simpa [succeeding, Except.isOk, Except.toBool, runSteps, hperform] using hrest
      | error e =>
          have hcaught : step.isCaught = true := by
            apply caught (step, .error e) ?_ rfl
            by_cases hstep : step.isCaught = true <;> simp [runSteps, hperform, hstep]
          simp only [runSteps, hperform, hcaught, if_true] at caught ⊢
          have hrest := ih (s := s) fun p hp => caught p (List.mem_cons_of_mem _ hp)
          simpa [succeeding, Except.isOk, Except.toBool] using hrest

end Body

/-- What is left out of a body failed when its turn came, and the compilation is the same without it. -/
theorem ClassContext.compile_withoutFailures {ctx : ClassContext} {m : Method} {body : Body}
    {sink : Diagnostics} (caught : body.CatchesFailures (ctx.compile m body sink).trace) :
    (ctx.compile m (body.withoutFailures (ctx.compile m body sink).trace) sink).result =
        (ctx.compile m body sink).result ∧
      (ctx.compile m (body.withoutFailures (ctx.compile m body sink).trace) sink).sink =
        (ctx.compile m body sink).sink := by
  cases hbound : ctx.bindMethod m with
  | error e => simp [ClassContext.compile, hbound]
  | ok opened =>
      rcases opened with ⟨bound, s⟩
      have htrace : (ctx.compile m body sink).trace = (body.run s).trace := by
        simp only [ClassContext.compile, hbound]
        split <;> rfl
      rw [htrace] at caught ⊢
      have hfinal : ((body.withoutFailures (body.run s).trace).run s).final = (body.run s).final :=
        Body.final_runSteps_succeeding caught
      -- the phases behind the body only ask it for its last statement
      have hfinish : ctx.finish m bound (body.withoutFailures (body.run s).trace) =
          ctx.finish m bound body := rfl
      simp only [ClassContext.compile, hbound, hfinal, hfinish]
      split <;> simp

/-- Every change of a table has one of the effects, so one that fails leaves the table as it was and any
other reaches one part of the variable it names, or adds a variable at the end.  Hence a compilation in
place goes as it does for the compiler, and comes to the same without the steps of its body that failed
and were caught. -/
theorem effects_local_and_failures_removable :
    (∀ (history : List Change) (c : Change),
        (IndexedTable.initial.run history).Effect c
          (IndexedTable.perform c (IndexedTable.initial.run history))) ∧
      ∀ (ctx : ClassContext) (m : Method) (body : Body) (sink : Diagnostics),
        let whole := ctx.compile m body sink
        ctx.compileInPlace m body sink = (whole.result, whole.sink) ∧
          (body.CatchesFailures whole.trace →
            let rest := ctx.compile m (body.withoutFailures whole.trace) sink
            rest.result = whole.result ∧ rest.sink = whole.sink) := by
  constructor
  · intro history c
    exact (IndexedTable.consistent_initial.run history).effect_perform c
  · intro ctx m body sink
    exact ⟨ClassContext.compileInPlace_eq ctx m body sink, ClassContext.compile_withoutFailures⟩

/-- A name declared with another type, and a use of a name that was never declared, leave nothing. -/
theorem refused_steps_left_out :
    let body : Body :=
      { steps := [⟨.change (.declare "x" .int .nowhere), false⟩,
          ⟨.change (.declare "x" .string .nowhere), true⟩,
          ⟨.change (.recordUse "y"), true⟩,
          ⟨.change (.recordUse "x"), false⟩] }
    let rest : Body :=
      { steps := [⟨.change (.declare "x" .int .nowhere), false⟩,
          ⟨.change (.recordUse "x"), false⟩] }
    let whole := ClassContext.compile { owner := ⟨"C"⟩ } { name := "f" } body {}
    body.CatchesFailures whole.trace ∧
      (ClassContext.compile { owner := ⟨"C"⟩ } { name := "f" } rest {}).result = whole.result := by
  intro body rest whole
  have hcaught : body.CatchesFailures whole.trace := by
    simp only [body, whole]
    decide
  exact ⟨hcaught, ((effects_local_and_failures_removable.2 _ _ body _).2 hcaught).1⟩

end NativeMethod
