import NativeMethod.Proofs.Prologue.Tests

/-!
# Execution — running generated code at a call

Lines are executed one after the other as structured C.  A block whose condition fails is skipped up to
its own end or to its other branch, and a return ends the execution.  The tests look at the arguments
as they were fetched: a plain statement only writes to variables of the parameter that it is for, these
are tested before, and no other parameter has them (`Binds.nodup_backing`).

* `execute` — the execution, with the plain statements it comes across;
* `RunsThrough`, `Leaves`, `Skipped` — what a piece of code does wherever it stands;
* `Straight` — code without conditionals, which passes with all of its statements.
-/

namespace NativeMethod

/-- How an execution ends. -/
inductive Exit where
  | finished
  | left (form : ReturnForm)
  /-- A condition has no value, or a block has no end. -/
  | stuck
  deriving DecidableEq

structure Execution where
  statements : List String
  exit : Exit
  deriving DecidableEq

/-- The execution with statements before it. -/
def Execution.after (e : Execution) (statements : List String) : Execution :=
  { e with statements := statements ++ e.statements }

inductive Mode where
  | running
  /-- Lines are passed over, inside so many blocks of the one that is skipped. -/
  | skipping (depth : Nat)

def execute (call : Call) : Mode → List Line → Execution
  | .running, [] => ⟨[], .finished⟩
  | .skipping _, [] => ⟨[], .stuck⟩
  | .running, line :: rest =>
    match line with
    | .missing name =>
      match call.argument name with
      | none => execute call .running rest
      | some _ => execute call (.skipping 0) rest
    | .refused condition =>
      match call.holds? condition with
      | some true => execute call .running rest
      | some false => execute call (.skipping 0) rest
      | none => ⟨[], .stuck⟩
    -- the branch that ran is at its end, and the other one is passed over
    | .otherwise => execute call (.skipping 0) rest
    | .openBlock => execute call .running rest
    | .closeBlock => execute call .running rest
    | .leave form => ⟨[], .left form⟩
    | .plain statement => (execute call .running rest).after [statement]
  | .skipping depth, line :: rest =>
    match line, depth with
    | .missing _, depth => execute call (.skipping (depth + 1)) rest
    | .refused _, depth => execute call (.skipping (depth + 1)) rest
    | .openBlock, depth => execute call (.skipping (depth + 1)) rest
    | .otherwise, 0 => execute call .running rest
    | .otherwise, depth + 1 => execute call (.skipping (depth + 1)) rest
    | .closeBlock, 0 => execute call .running rest
    | .closeBlock, depth + 1 => execute call (.skipping depth) rest
    | .leave _, depth => execute call (.skipping depth) rest
    | .plain _, depth => execute call (.skipping depth) rest

/-! ## Pieces of code -/

/-- The code runs to its end with the given statements. -/
def RunsThrough (call : Call) (code : List Line) (statements : List String) : Prop :=
  ∀ rest, execute call .running (code ++ rest) = (execute call .running rest).after statements

/-- The code returns after the given statements. -/
def Leaves (call : Call) (code : List Line) (statements : List String) (form : ReturnForm) : Prop :=
  ∀ rest, execute call .running (code ++ rest) = ⟨statements, .left form⟩

/-- The code has as many ends of blocks as it has beginnings, so it is skipped as a whole. -/
def Skipped (code : List Line) : Prop :=
  ∀ call depth rest,
    execute call (.skipping depth) (code ++ rest) = execute call (.skipping depth) rest

section Pieces

variable {call : Call} {code code' : List Line} {statements statements' : List String}
  {form : ReturnForm}

theorem RunsThrough.nil : RunsThrough call [] [] := by
  intro rest
  rfl

theorem RunsThrough.append (h : RunsThrough call code statements)
    (h' : RunsThrough call code' statements') :
    RunsThrough call (code ++ code') (statements ++ statements') := by
  intro rest
  calc
    execute call .running (code ++ code' ++ rest)
        = execute call .running (code ++ (code' ++ rest)) := by rw [List.append_assoc]
    _ = (execute call .running (code' ++ rest)).after statements := h _
    _ = ((execute call .running rest).after statements').after statements := by rw [h' rest]
    _ = (execute call .running rest).after (statements ++ statements') := by
          simp [Execution.after]

theorem RunsThrough.leaves (h : RunsThrough call code statements)
    (h' : Leaves call code' statements' form) :
    Leaves call (code ++ code') (statements ++ statements') form := by
  intro rest
  calc
    execute call .running (code ++ code' ++ rest)
        = execute call .running (code ++ (code' ++ rest)) := by rw [List.append_assoc]
    _ = (execute call .running (code' ++ rest)).after statements := h _
    _ = ⟨statements ++ statements', .left form⟩ := by
          rw [h' rest]
          rfl

theorem Leaves.append (h : Leaves call code statements form) (code' : List Line) :
    Leaves call (code ++ code') statements form := by
  intro rest
  rw [List.append_assoc, h]

theorem RunsThrough.execute_eq (h : RunsThrough call code statements) :
    execute call .running code = ⟨statements, .finished⟩ := by
  have hwhole := h []
  simpa [execute, Execution.after] using hwhole

theorem Leaves.execute_eq (h : Leaves call code statements form) :
    execute call .running code = ⟨statements, .left form⟩ := by
  have hwhole := h []
  simpa using hwhole

theorem Skipped.nil : Skipped [] := by
  intro call depth rest
  rfl

theorem Skipped.append (h : Skipped code) (h' : Skipped code') : Skipped (code ++ code') := by
  intro call depth rest
  rw [List.append_assoc, h, h']

theorem RunsThrough.plain (statement : String) : RunsThrough call [.plain statement] [statement] := by
  intro rest
  rfl

theorem Skipped.plain (statement : String) : Skipped [.plain statement] := by
  intro call depth rest
  rfl

theorem RunsThrough.flatMap {α : Type} {xs : List α} {f : α → List Line} {g : α → List String}
    (h : ∀ x ∈ xs, RunsThrough call (f x) (g x)) :
    RunsThrough call (xs.flatMap f) (xs.flatMap g) := by
  induction xs with
  | nil => exact RunsThrough.nil
  | cons x xs ih =>
      have hfirst := h x List.mem_cons_self
      have hrest := ih fun y hy => h y (List.mem_cons_of_mem x hy)
      simpa only [List.flatMap_cons] using hfirst.append hrest

theorem Skipped.flatMap {α : Type} {xs : List α} {f : α → List Line}
    (h : ∀ x ∈ xs, Skipped (f x)) : Skipped (xs.flatMap f) := by
  induction xs with
  | nil => exact Skipped.nil
  | cons x xs ih =>
      have hfirst := h x List.mem_cons_self
      have hrest := ih fun y hy => h y (List.mem_cons_of_mem x hy)
      simpa only [List.flatMap_cons] using hfirst.append hrest

end Pieces

/-! ## Conditionals -/

/-- One branch for a missing argument and maybe another one for an argument that is there. -/
def Line.conditional (name : String) (missing : List Line) (supplied : Option (List Line)) :
    List Line :=
  .missing name :: (missing ++ ((supplied.map (.otherwise :: ·)).getD [] ++ [.closeBlock]))

section Conditionals

variable {call : Call} {name : String} {missing : List Line} {supplied : Option (List Line)}
  {statements : List String} {form : ReturnForm}

/-- The branch for an argument that is there is passed over after the other one. -/
theorem execute_running_branch (call : Call) (balanced : Skipped (supplied.getD []))
    (rest : List Line) :
    execute call .running ((supplied.map (.otherwise :: ·)).getD [] ++ .closeBlock :: rest) =
      execute call .running rest := by
  cases supplied with
  | none => rfl
  | some code => exact balanced call 0 (.closeBlock :: rest)

/-- The branch for an argument that is there runs when the other one was passed over. -/
theorem execute_skipping_branch (supplied : Option (List Line)) (rest : List Line) :
    execute call (.skipping 0) ((supplied.map (.otherwise :: ·)).getD [] ++ .closeBlock :: rest) =
      execute call .running (supplied.getD [] ++ .closeBlock :: rest) := by
  cases supplied with
  | none => rfl
  | some code => rfl

theorem RunsThrough.conditional_of_missing (h : RunsThrough call missing statements)
    (absent : call.argument name = none) (balanced : Skipped (supplied.getD [])) :
    RunsThrough call (Line.conditional name missing supplied) statements := by
  intro rest
  have hbranch := execute_running_branch call balanced rest
  have hrun := h ((supplied.map (.otherwise :: ·)).getD [] ++ .closeBlock :: rest)
  rw [hbranch] at hrun
  simpa only [Line.conditional, List.cons_append, List.append_assoc, List.nil_append, execute,
    absent] using hrun

theorem RunsThrough.conditional_of_supplied {p : Probe}
    (h : RunsThrough call (supplied.getD []) statements) (present : call.argument name = some p)
    (balanced : Skipped missing) :
    RunsThrough call (Line.conditional name missing supplied) statements := by
  intro rest
  have hskip := balanced call 0 ((supplied.map (.otherwise :: ·)).getD [] ++ .closeBlock :: rest)
  have hrun := h (.closeBlock :: rest)
  rw [execute_skipping_branch, hrun] at hskip
  simpa only [Line.conditional, List.cons_append, List.append_assoc, List.nil_append, execute,
    present] using hskip

theorem Leaves.conditional_of_supplied {p : Probe}
    (h : Leaves call (supplied.getD []) statements form) (present : call.argument name = some p)
    (balanced : Skipped missing) :
    Leaves call (Line.conditional name missing supplied) statements form := by
  intro rest
  have hskip := balanced call 0 ((supplied.map (.otherwise :: ·)).getD [] ++ .closeBlock :: rest)
  rw [execute_skipping_branch, h] at hskip
  simpa only [Line.conditional, List.cons_append, List.append_assoc, List.nil_append, execute,
    present] using hskip

end Conditionals

/-! ## Code without conditionals -/

/-- Plain statements and blocks of their own. -/
inductive Straight : List Line → Prop where
  | nil : Straight []
  | plain (statement : String) : Straight [.plain statement]
  | block {code : List Line} : Straight code → Straight (.openBlock :: (code ++ [.closeBlock]))
  | append {code code' : List Line} : Straight code → Straight code' → Straight (code ++ code')

def Line.statement? : Line → Option String
  | plain statement => some statement
  | _ => none

/-- The plain statements of some code. -/
def Line.statements (code : List Line) : List String := code.filterMap statement?

theorem Line.statements_map_plain (statements : List String) :
    Line.statements (statements.map plain) = statements := by
  have hplain : statement? ∘ plain = some := rfl
  rw [Line.statements, List.filterMap_map, hplain, List.filterMap_some]

namespace Straight

theorem map_plain (statements : List String) : Straight (statements.map Line.plain) := by
  induction statements with
  | nil => exact .nil
  | cons statement statements ih => exact (Straight.plain statement).append ih

theorem runsThrough {code : List Line} (h : Straight code) (call : Call) :
    RunsThrough call code (Line.statements code) := by
  induction h with
  | nil => exact RunsThrough.nil
  | plain statement => exact RunsThrough.plain statement
  | @block code _ ih =>
      intro rest
      -- braces are no statements, and nothing is tested at them
      have hstatements : Line.statements (.openBlock :: (code ++ [.closeBlock])) =
          Line.statements code := by
        have hopen : Line.statement? .openBlock = none := rfl
        have hclose : Line.statement? .closeBlock = none := rfl
        simp only [Line.statements, List.filterMap_cons_none hopen, List.filterMap_append,
          List.filterMap_cons_none hclose, List.filterMap_nil, List.append_nil]
      have hinner := ih (.closeBlock :: rest)
      simpa only [hstatements, List.cons_append, List.append_assoc, List.nil_append, execute] using
        hinner
  | append _ _ ih ih' =>
      rw [Line.statements, List.filterMap_append]
      exact ih.append ih'

theorem skipped {code : List Line} (h : Straight code) : Skipped code := by
  induction h with
  | nil => exact Skipped.nil
  | plain statement => exact Skipped.plain statement
  | @block code _ ih =>
      intro call depth rest
      -- the block is passed over one level deeper
      have hinner := ih call (depth + 1) (.closeBlock :: rest)
      simpa only [List.cons_append, List.append_assoc, List.nil_append, execute] using hinner
  | append _ _ ih ih' => exact ih.append ih'

end Straight
end NativeMethod
