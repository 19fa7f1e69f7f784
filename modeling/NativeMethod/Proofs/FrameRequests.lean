import NativeMethod.Proofs.CompiledMethods

/-!
# FrameRequests — requests for a managed frame leave no other trace

A body asks for a managed frame in an action of its own.  No other action looks at the requests, so
they can be moved about in a body and repeated; all that counts is whether there is one.

* `Body.final_runSteps_withoutRequests` — taking the requests out changes the requests and nothing
  else;
* `ClassContext.compile_of_sameButRequests` — so moving and repeating them leaves a compiled method
  as it was, but for the number of requests.
-/

namespace NativeMethod

namespace Body

/-- The state with other requests. -/
def State.withGrowth (s : State) (g : Growth) : State :=
  { s with method := { s.method with growth := g } }

@[simp]
theorem State.emitted_withGrowth (s : State) (g : Growth) :
    (s.withGrowth g).emitted = s.emitted := rfl

@[simp]
theorem State.table_withGrowth (s : State) (g : Growth) :
    (s.withGrowth g).method.table = s.method.table := rfl

theorem Action.perform_of_isRequest {a : Action} (request : a.isRequest = true) (s : State) :
    a.perform s = .ok (s.withGrowth s.method.growth.request) := by
  cases a with
  | requestGrowth => rfl
  | _ => cases request

/-- An action that is no request does not look at the requests. -/
theorem Action.perform_withGrowth {a : Action} (other : a.isRequest = false) (s : State)
    (g : Growth) : a.perform (s.withGrowth g) = (a.perform s).map (·.withGrowth g) := by
  cases a with
  | requestGrowth => cases other
  | change c =>
      have htable : (s.withGrowth g).method.table = s.method.table := rfl
      simp only [perform, htable]
      cases c.apply s.method.table <;> rfl
  | checkDeclarations =>
      have htable : (s.withGrowth g).method.table = s.method.table := rfl
      simp only [perform, htable]
      cases s.method.table.declarationBlock <;> rfl
  | _ => rfl

def withoutRequests (steps : List Step) : List Step := steps.filter (!·.action.isRequest)

theorem final_runSteps_withoutRequests (steps : List Step) (s : State) (g : Growth) :
    (runSteps (withoutRequests steps) (s.withGrowth g)).final =
      (runSteps steps s).final.map (·.withGrowth g) := by
  induction steps generalizing s with
  | nil => rfl
  | cons step steps ih =>
      cases hrequest : step.action.isRequest with
      | true =>
          -- the run without the request goes on as if the count had not changed
          have hperform := Action.perform_of_isRequest hrequest s
          have hdropped : withoutRequests (step :: steps) = withoutRequests steps := by
            simp [withoutRequests, hrequest]
          simp only [hdropped, runSteps, hperform]
          exact ih (s.withGrowth s.method.growth.request)
      | false =>
          have hperform := Action.perform_withGrowth hrequest s g
          have hkept : withoutRequests (step :: steps) = step :: withoutRequests steps := by
            simp [withoutRequests, hrequest]
          cases hresult : step.action.perform s with
          | ok next =>
              simp only [hkept, runSteps, hperform, hresult, Except.map]
              exact ih next
          | error e =>
              cases hcaught : step.isCaught with
              | true =>
                  simp only [hkept, runSteps, hperform, hresult, Except.map, hcaught, if_true]
                  exact ih s
              | false => simp [hkept, runSteps, hperform, hresult, Except.map, hcaught]

/-- Bodies see the table they start with, and not the requests made before them. -/
theorem final_run_of_table_eq (b : Body) {s s' : MethodState} (same : s.table = s'.table) :
    (b.run s).final.map (·.withGrowth {}) = (b.run s').final.map (·.withGrowth {}) := by
  have hleft := final_runSteps_withoutRequests b.steps { method := s } {}
  have hright := final_runSteps_withoutRequests b.steps { method := s' } {}
  have hstart : State.withGrowth { method := s } {} = State.withGrowth { method := s' } {} := by
    simp only [State.withGrowth, same]
  rw [hstart] at hleft
  exact hleft.symm.trans hright

/-- Some step asks for a managed frame. -/
def AsksForFrame (b : Body) : Prop := ∃ step ∈ b.steps, step.action.isRequest = true

/-- Two bodies differ at most in where and how often they ask for a managed frame. -/
structure SameButRequests (b b' : Body) : Prop where
  steps_eq : withoutRequests b.steps = withoutRequests b'.steps
  last_eq : b.last = b'.last
  asks_iff : b.AsksForFrame ↔ b'.AsksForFrame

theorem SameButRequests.final_run {b b' : Body} (h : b.SameButRequests b') {s : MethodState}
    {t : State} (ran : (b.run s).final = .ok t) :
    ∃ g, (b'.run s).final = .ok (t.withGrowth g) := by
  have hleft := final_runSteps_withoutRequests b.steps { method := s } s.growth
  have hright := final_runSteps_withoutRequests b'.steps { method := s } s.growth
  have hsame : (b'.run s).final.map (·.withGrowth s.growth) = .ok (t.withGrowth s.growth) := by
    rw [h.steps_eq] at hleft
    calc
      (b'.run s).final.map (·.withGrowth s.growth)
          = (b.run s).final.map (·.withGrowth s.growth) := hright.symm.trans hleft
      _ = .ok (t.withGrowth s.growth) := by
            rw [ran]
            rfl
  -- the two states agree in everything that the requests were taken out of
  rcases Outcome.map_eq_ok_iff.1 hsame with ⟨t', hran, hstate⟩
  refine ⟨t'.method.growth, hran.trans (congrArg Except.ok ?_)⟩
  calc
    t' = (t'.withGrowth s.growth).withGrowth t'.method.growth := rfl
    _ = (t.withGrowth s.growth).withGrowth t'.method.growth := by rw [hstate]
    _ = t.withGrowth t'.method.growth := rfl

end Body

namespace ClassContext

variable {ctx : ClassContext} {m : Method} {body body' : Body} {sink : Diagnostics}
  {c : CompiledMethod}

/-- What the phases behind the body do depends on the requests in nothing but the requests. -/
theorem finish_of_sameButRequests (h : body.SameButRequests body') {bound : BoundParameters}
    {s : Body.State} (finished : ctx.finish m bound body s = .ok c) (g : Growth) :
    ∃ g', ctx.finish m bound body' (s.withGrowth g) = .ok { c with growth := g' } := by
  rcases finish_eq_ok finished with ⟨lines, seeds, block, hlines, hseeds, hblock, rfl⟩
  refine ⟨g.requestTimes (seeds.countP (·.code.allocates)), ?_⟩
  have hend : closeBody m body' (s.withGrowth g).emitted = .ok lines := by
    have hfalls : body'.fallsThrough = body.fallsThrough := by
      simp only [Body.fallsThrough, h.last_eq]
    rw [← hlines]
    simp only [closeBody, hfalls]
    rfl
  have htable : (s.withGrowth g).method.table = s.method.table := rfl
  have hseeded := Outcome.mapM_eq_ok_iff.2 hseeds
  simp only [finish, hend, htable, hseeded, hblock]
  rfl

/-- Moving and repeating the requests of a body leaves the compiled method as it was, but for the
number of requests. -/
theorem compile_of_sameButRequests (h : body.SameButRequests body')
    (compiled : (ctx.compile m body sink).result = .ok c) :
    ∃ g, (ctx.compile m body' sink).result = .ok { c with growth := g } ∧
      (ctx.compile m body' sink).sink = (ctx.compile m body sink).sink := by
  rcases compile_eq_ok_iff.1 compiled with ⟨bound, s, t, hbound, hrun, hfinish⟩
  rcases h.final_run hrun with ⟨g, hrun'⟩
  rcases finish_of_sameButRequests h hfinish g with ⟨g', hfinish'⟩
  have hcompiled : (ctx.compile m body' sink).result = .ok { c with growth := g' } :=
    compile_eq_ok_iff.2 ⟨bound, s, _, hbound, hrun', hfinish'⟩
  have hsink := sink_of_result_eq_ok compiled
  have hsink' := sink_of_result_eq_ok hcompiled
  exact ⟨g', hcompiled, hsink'.trans hsink.symm⟩

end ClassContext
end NativeMethod
