import Mathlib.Data.List.Nodup
import NativeMethod.Proofs.Statements

/-!
# ScopedExecution — executing the lines that build a value

An abstract machine for the statements that build boxed values.  It keeps a value for each variable,
in scopes as the blocks of C open and close them.  A variable that holds its value inline has to be
given by its address, and any other by its name.  What a rendered scalar denotes is a parameter.

* `Scopes` — the variables of the function and of the blocks that are open;
* `Statement.exec`, `execAll` — the machine, which stops at a statement that makes no sense;
* `Executes` — executions of which every statement meets a condition where it is executed.
-/

namespace NativeMethod

/-! ## Values and scopes -/

/-- A boxed value with scalars of some kind. -/
inductive Value (ν : Type) where
  | scalar (x : ν)
  | array (items : List (Value ν))

/-- A variable, and the value in it if there is one. -/
structure Cell (ν : Type) where
  isInline : Bool
  content : Option (Value ν) := none

abbrev Scope (ν : Type) := List (String × Cell ν)

/-- The variables of a function, and those of the blocks that are open in it, the innermost first. -/
inductive Scopes (ν : Type) where
  | function (locals : Scope ν)
  | block (locals : Scope ν) (outer : Scopes ν)

variable {ν : Type}

/-- Gives the variable of a name a content. -/
def Scope.assign (x : String) (content : Option (Value ν)) : Scope ν → Scope ν
  | [] => []
  | (y, c) :: rest =>
    if x = y then (y, { c with content }) :: rest else (y, c) :: assign x content rest

namespace Scopes

/-- The variable that a name means, which is that of the innermost scope that has one. -/
def find? : Scopes ν → String → Option (Cell ν)
  | function locals, x => locals.lookup x
  | block locals outer, x => (locals.lookup x).or (outer.find? x)

/-- Gives the variable that a name means a content. -/
def assign (x : String) (content : Option (Value ν)) : Scopes ν → Scopes ν
  | function locals => function (Scope.assign x content locals)
  | block locals outer =>
    if (locals.lookup x).isSome then block (Scope.assign x content locals) outer
    else block locals (assign x content outer)

/-- Declares a boxed value in the innermost scope, which must not have the name yet. -/
def declare? (x : String) : Scopes ν → Option (Scopes ν)
  | function locals =>
    if (locals.lookup x).isSome then none else some (function ((x, { isInline := true }) :: locals))
  | block locals outer =>
    if (locals.lookup x).isSome then none else some (block ((x, { isInline := true }) :: locals) outer)

/-- Closes the innermost block. -/
def close? : Scopes ν → Option (Scopes ν)
  | function _ => none
  | block _ outer => some outer

/-- The names that the open blocks declare. -/
def temporaries : Scopes ν → List String
  | function _ => []
  | block locals outer => locals.map (·.1) ++ outer.temporaries

/-- The value of a variable that is given the way it is stored. -/
def value? (s : Scopes ν) (o : Operand) : Option (Value ν) :=
  (s.find? o.name).bind fun c => if c.isInline = o.isAddress then c.content else none

end Scopes

/-! ## The machine -/

/-- The operand that a text is. -/
def Operand.ofText (text : String) : Operand :=
  match text.toList with
  | '&' :: name => ⟨String.ofList name, true⟩
  | _ => ⟨text, false⟩

/-- The array with one more element. -/
def Value.push? (element : Value ν) : Value ν → Option (Value ν)
  | .array items => some (.array (items ++ [element]))
  | .scalar _ => none

namespace Statement

/-- The variables that a statement is about. -/
def operands : Statement → List Operand
  | call function target argument? =>
    if function = "add_next_index_zval" then target :: argument?.toList.map .ofText else [target]
  | _ => []

/-- What a call makes of the content of its target.  A variable that was just allocated has none. -/
def result? (denote : String → Option String → ν) (s : Scopes ν) (function : String)
    (argument? : Option String) (content : Option (Value ν)) : Option (Option (Value ν)) :=
  if function = "ZEPHIR_INIT_VAR" then some none
  else if function = "array_init" ∨ function = "zephir_create_array" then some (some (.array []))
  else if function = "add_next_index_zval" then
    (argument?.bind fun a => s.value? (.ofText a)).bind fun element =>
      (content.bind element.push?).map some
  else if "add_next_index_".toList.isPrefixOf function.toList then
    (content.bind (Value.scalar (denote function argument?)).push?).map some
  else if "ZVAL_".toList.isPrefixOf function.toList then
    some (some (.scalar (denote function argument?)))
  else none

/-- Executes one statement.  There is nothing to do for one that makes no sense. -/
def exec (denote : String → Option String → ν) : Statement → Scopes ν → Option (Scopes ν)
  | openBlock, s => some (.block [] s)
  | closeBlock, s => s.close?
  | declare x, s => s.declare? x
  | call function target argument?, s =>
    (s.find? target.name).bind fun c =>
      if c.isInline = target.isAddress then
        (result? denote s function argument? c.content).map fun content =>
          s.assign target.name content
      else none

def execAll (denote : String → Option String → ν) : List Statement → Scopes ν → Option (Scopes ν)
  | [], s => some s
  | st :: rest, s => (exec denote st s).bind (execAll denote rest)

end Statement

/-! ## Contents of scopes -/

namespace Scope

variable {x y : String} {content content' : Option (Value ν)} {locals : Scope ν} {c : Cell ν}

theorem lookup_assign :
    (assign x content locals).lookup y =
      if x = y then (locals.lookup y).map fun c => { c with content } else locals.lookup y := by
  induction locals with
  | nil => simp [assign]
  | cons entry rest ih =>
      rcases entry with ⟨z, c⟩
      by_cases hz : x = z
      · subst hz
        by_cases hy : x = y
        · subst hy
          simp [assign]
        · have hne : (y == x) = false := by simpa using Ne.symm hy
          simp [assign, List.lookup_cons, hne, hy]
      · by_cases hy : y = z
        · subst hy
          simp [assign, hz]
        · have hne : (y == z) = false := by simpa using hy
          simp [assign, hz, List.lookup_cons, hne, ih]

theorem assign_assign : assign x content' (assign x content locals) = assign x content' locals := by
  induction locals with
  | nil => rfl
  | cons entry rest ih =>
      by_cases hx : x = entry.1 <;> simp [assign, hx] at ih ⊢
      exact ih

theorem assign_of_lookup (found : locals.lookup x = some c) : assign x c.content locals = locals := by
  induction locals with
  | nil => rfl
  | cons entry rest ih =>
      rcases entry with ⟨z, d⟩
      by_cases hx : x = z
      · subst hx
        have hd : d = c := by simpa using found
        simp [assign, hd]
      · have hne : (x == z) = false := by simpa using hx
        have hrest : rest.lookup x = some c := by simpa [List.lookup_cons, hne] using found
        simp [assign, hx, ih hrest]

theorem names_assign : (assign x content locals).map (·.1) = locals.map (·.1) := by
  induction locals with
  | nil => rfl
  | cons entry rest ih => by_cases hx : x = entry.1 <;> simp [assign, hx, ih]

end Scope

namespace Scopes

variable {x y : String} {content content' : Option (Value ν)} {s : Scopes ν} {c : Cell ν}

theorem find?_assign :
    (s.assign x content).find? y =
      if x = y then (s.find? y).map fun c => { c with content } else s.find? y := by
  induction s with
  | function locals => exact Scope.lookup_assign
  | block locals outer ih =>
      cases hx : locals.lookup x with
      | some c =>
          simp only [assign, hx, Option.isSome_some, if_true, find?, Scope.lookup_assign]
          by_cases hy : x = y
          · subst hy
            simp [hx]
          · simp [hy]
      | none =>
          -- the scope does not have the name, so what is assigned stands further out
          have hassign : (block locals outer).assign x content =
              block locals (outer.assign x content) := by
            simp [assign, hx]
          simp only [hassign, find?, ih]
          by_cases hy : x = y
          · subst hy
            simp [hx]
          · simp [hy]

theorem assign_assign : (s.assign x content).assign x content' = s.assign x content' := by
  induction s with
  | function locals => simp [assign, Scope.assign_assign]
  | block locals outer ih =>
      by_cases hx : (locals.lookup x).isSome
      · simp [assign, hx, Scope.lookup_assign, Scope.assign_assign]
      · simp [assign, hx, ih]

theorem assign_of_find? (found : s.find? x = some c) : s.assign x c.content = s := by
  induction s with
  | function locals => exact congrArg function (Scope.assign_of_lookup found)
  | block locals outer ih =>
      cases hx : locals.lookup x with
      | some d =>
          have hd : d = c := by simpa [find?, hx] using found
          simp [assign, hx, ← hd, Scope.assign_of_lookup hx]
      | none =>
          have houter : outer.find? x = some c := by simpa [find?, hx] using found
          simp [assign, hx, ih houter]

theorem temporaries_assign : (s.assign x content).temporaries = s.temporaries := by
  induction s with
  | function locals => rfl
  | block locals outer ih =>
      simp only [assign]
      split <;> simp [temporaries, Scope.names_assign, ih]

end Scopes

/-! ## Executions -/

/-- The statements can be executed one after the other, and each meets the condition where it is. -/
inductive Executes (denote : String → Option String → ν) (P : Scopes ν → Statement → Prop) :
    List Statement → Scopes ν → Scopes ν → Prop where
  | done (s : Scopes ν) : Executes denote P [] s s
  | step {st : Statement} {rest : List Statement} {s t u : Scopes ν} :
      P s st → st.exec denote s = some t → Executes denote P rest t u →
        Executes denote P (st :: rest) s u

namespace Executes

variable {denote : String → Option String → ν} {P : Scopes ν → Statement → Prop}
  {sts sts' : List Statement} {st : Statement} {s t u : Scopes ν}

theorem single (meets : P s st) (result : st.exec denote s = some t) :
    Executes denote P [st] s t :=
  .step meets result (.done t)

theorem append (first : Executes denote P sts s t) (second : Executes denote P sts' t u) :
    Executes denote P (sts ++ sts') s u := by
  induction first with
  | done s => exact second
  | step hmeets hresult _ ih => exact .step hmeets hresult (ih second)

theorem execAll_eq (h : Executes denote P sts s t) : Statement.execAll denote sts s = some t := by
  induction h with
  | done s => rfl
  | step _ hresult _ ih => simpa [Statement.execAll, hresult] using ih

/-- What is executed up to a statement leaves the scopes in which it meets the condition. -/
theorem meets_of_eq {before after : List Statement} (h : Executes denote P sts s t)
    (split : sts = before ++ st :: after) :
    ∃ u, Statement.execAll denote before s = some u ∧ P u st := by
  induction h generalizing before with
  | done s => simp at split
  | @step st' rest s' t' u' hmeets hresult _ ih =>
      cases before with
      | nil =>
          cases split
          exact ⟨s', rfl, hmeets⟩
      | cons first before =>
          obtain ⟨rfl, hrest⟩ := List.cons.inj split
          obtain ⟨u, hu, hP⟩ := ih hrest
          exact ⟨u, by simpa [Statement.execAll, hresult] using hu, hP⟩

end Executes

end NativeMethod
