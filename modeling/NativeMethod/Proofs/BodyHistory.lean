import NativeMethod.Method.Body
import NativeMethod.Proofs.TableHistory

/-!
# BodyHistory — what a body leaves behind

A body works on three things: the symbol table, the lines emitted so far and the requests for a
managed frame.  Each action touches them in a way that does not depend on what is there:

* `Action.changes`, `Action.lines`, `Action.isRequest` — what an action does to each of the three;
* `Action.perform_cases` — an action does that, or it fails and has nothing to do;
* `runSteps_eq_ok` — the state behind a body that succeeds.
-/

namespace NativeMethod
namespace Body

open SymbolTable (Change)

/-! ## One action -/

namespace Action

def changes : Action → List Change
  | change c => [c]
  | _ => []

def lines : Action → List Fragment
  | emit indent code => [.code (indent + 1) code]
  | blank => [.blank]
  | leave indent form => [.site (indent + 1) (.leave form)]
  | restore indent => [.site (indent + 1) .restore]
  | throw indent exception =>
      [.code (indent + 1) ("zephir_throw_exception_debug(" ++ exception ++ ", \"\", 0);"),
        .site (indent + 1) .restore,
        .code (indent + 1) "return;"]
  | _ => []

def isRequest : Action → Bool
  | requestGrowth => true
  | _ => false

/-- The state behind an action, whether it failed or not. -/
def after (a : Action) (s : State) : State :=
  { method :=
      { table := s.method.table.run a.changes
        growth := s.method.growth.requestTimes a.isRequest.toNat }
    emitted := s.emitted ++ a.lines }

theorem perform_cases (a : Action) (s : State) :
    a.perform s = .ok (a.after s) ∨ ∃ e, a.perform s = .error e ∧ a.after s = s := by
  have hsame : s.emitted ++ [] = s.emitted := List.append_nil _
  -- only a change of the table, a check of the declarations and a failure can fail
  cases a with
  | change c =>
      cases hresult : c.apply s.method.table with
      | ok t =>
          left
          simp [perform, after, changes, lines, isRequest, hresult, Except.map, SymbolTable.run,
            Change.applyOrKeep, Growth.requestTimes, Nat.repeat]
      | error e =>
          right
          refine ⟨e, ?_, ?_⟩
          · simp [perform, hresult, Except.map]
          · simp [after, changes, lines, isRequest, hresult, SymbolTable.run, Change.applyOrKeep,
              Growth.requestTimes, Nat.repeat]
  | checkDeclarations =>
      have hafter : after .checkDeclarations s = s := by
        simp [after, changes, lines, isRequest, SymbolTable.run, Growth.requestTimes, Nat.repeat]
      rw [hafter]
      cases hresult : s.method.table.declarationBlock with
      | ok block => exact .inl (by simp [perform, hresult, Except.map])
      | error e => exact .inr ⟨e, by simp [perform, hresult, Except.map], rfl⟩
  | fail e =>
      right
      refine ⟨e, rfl, ?_⟩
      simp [after, changes, lines, isRequest, SymbolTable.run, Growth.requestTimes, Nat.repeat]
  | _ =>
      left
      simp [perform, after, changes, lines, isRequest, State.emit, SymbolTable.run,
        Growth.requestTimes, Nat.repeat]

end Action

/-! ## Whole bodies -/

/-- The changes of the table that the steps of a body ask for, in order. -/
def changes (steps : List Step) : List Change := steps.flatMap (·.action.changes)

/-- The lines that the steps of a body emit, in order. -/
def lines (steps : List Step) : List Fragment := steps.flatMap (·.action.lines)

/-- How often the steps of a body ask for a managed frame. -/
def requests (steps : List Step) : Nat := steps.countP (·.action.isRequest)

/-- The state behind all steps, those that failed included. -/
def after (steps : List Step) (s : State) : State :=
  { method :=
      { table := s.method.table.run (changes steps)
        growth := s.method.growth.requestTimes (requests steps) }
    emitted := s.emitted ++ lines steps }

theorem after_cons (step : Step) (steps : List Step) (s : State) :
    after (step :: steps) s = after steps (step.action.after s) := by
  have hcount : requests (step :: steps) = step.action.isRequest.toNat + requests steps := by
    unfold requests
    cases hrequest : step.action.isRequest <;> simp [hrequest, Nat.add_comm]
  simp [after, Action.after, changes, lines, hcount, SymbolTable.run_append,
    Growth.requestTimes_add]

/-- A body that succeeds has taken all of its steps, so its outcome can be read off them. -/
theorem runSteps_eq_ok {steps : List Step} {s s' : State}
    (h : (runSteps steps s).final = .ok s') : s' = after steps s := by
  induction steps generalizing s with
  | nil =>
      cases h
      simp [after, changes, lines, requests, SymbolTable.run, Growth.requestTimes, Nat.repeat]
  | cons step steps ih =>
      rw [after_cons]
      rcases step.action.perform_cases s with hok | ⟨e, herror, hkept⟩
      · simp only [runSteps, hok] at h
        exact ih h
      -- a step that failed was caught, as the body went on
      · rw [hkept]
        simp only [runSteps, herror] at h
        split at h
        · exact ih h
        · cases h

end Body
end NativeMethod
