import NativeMethod.Proofs.CompiledMethods
import NativeMethod.Proofs.DeclaredVariables

/-!
# NullInitializers — optional parameters that start as null

The code for an optional parameter tests the variable that was fetched, so a call without the
argument must find null in it.  Binding asks for that null, but the variable is declared from the
table that the body leaves behind, and a body may change its mind about the variable:

* `Change.init?`, `Change.hidesPointer` — the two ways to lose the null;
* `KeepsNull` — a history that does not lose it;
* `startsNull_iff_keepsNull` — the declared initialiser is there for exactly those bodies.
-/

namespace NativeMethod

open SymbolTable (Change)

/-! ## Histories of one pointer -/

namespace SymbolTable.Change

/-- What a change says about how its variable starts. -/
def init? : Change → Option InitState
  | markInitialized _ => some .initialized
  | setInit _ state => some state
  | _ => none

/-- After the change no pointer is declared for its variable. -/
def hidesPointer : Change → Bool
  | addFlags _ flags => flags.isLocalOnly || flags.isImplicit
  | _ => false

theorem init_onVariable (c : Change) (v : Variable) :
    (c.onVariable v).init = c.init?.getD v.init := by
  cases c with
  | constrain y k =>
      simp only [onVariable, Variable.addConstraint]
      split_ifs <;> rfl
  | _ => rfl

end SymbolTable.Change

/-- The variable is declared, and not as a value stored inline. -/
def Variable.isDeclaredPointer (v : Variable) : Bool := !v.isLocalOnly && !v.isImplicit

theorem SymbolTable.Change.isDeclaredPointer_onVariable (c : Change) (v : Variable) :
    (c.onVariable v).isDeclaredPointer = (v.isDeclaredPointer && !c.hidesPointer) := by
  have hhides : c.hidesPointer = (c.flags.isLocalOnly || c.flags.isImplicit) := by
    cases c <;> rfl
  simp only [Variable.isDeclaredPointer, Variable.isLocalOnly, Variable.isImplicit,
    flags_onVariable, Flags.union, hhides, Bool.not_or]
  ac_rfl

theorem type_foldl_onVariable (history : List Change) (v : Variable) :
    (history.foldl (fun v c => c.onVariable v) v).type = v.type :=
  SymbolTable.foldl_onVariable_keeps Change.type_onVariable history v

/-- The last change that says how the variable starts decides. -/
theorem init_foldl_onVariable (history : List Change) (v : Variable) :
    (history.foldl (fun v c => c.onVariable v) v).init =
      (history.filterMap Change.init?).getLast?.getD v.init := by
  induction history generalizing v with
  | nil => rfl
  | cons c rest ih =>
      have hstep := Change.init_onVariable c v
      have hrest := ih (c.onVariable v)
      rw [List.foldl_cons, hrest, hstep]
      -- the head only counts if nothing behind it says how the variable starts
      cases hinit : c.init? with
      | none => simp [hinit]
      | some state => simp [hinit, List.getLast?_cons]

/-- A pointer that is hidden once stays hidden. -/
theorem isDeclaredPointer_foldl_onVariable (history : List Change) (v : Variable) :
    (history.foldl (fun v c => c.onVariable v) v).isDeclaredPointer =
      (v.isDeclaredPointer && history.all (!·.hidesPointer)) := by
  induction history generalizing v with
  | nil => simp
  | cons c rest ih =>
      have hstep := Change.isDeclaredPointer_onVariable c v
      have hrest := ih (c.onVariable v)
      rw [List.foldl_cons, hrest, hstep, List.all_cons, Bool.and_assoc]

/-- No change hides the pointer of a name, and the last one that says how it starts, if there is
one, says null. -/
structure KeepsNull (history : List Change) (name : String) : Prop where
  declared : ∀ c ∈ history, c.name = name → c.hidesPointer = false
  last : ∀ state, ((history.filter (·.name = name)).filterMap Change.init?).getLast? = some state →
    state = .mustInitNull

theorem keepsNull_iff {history : List Change} {name : String} {v : Variable}
    (declared : v.isDeclaredPointer = true) (init : v.init = .mustInitNull) :
    KeepsNull history name ↔
      let w := (history.filter (·.name = name)).foldl (fun v c => c.onVariable v) v
      w.isDeclaredPointer = true ∧ w.init = .mustInitNull := by
  have hpointer := isDeclaredPointer_foldl_onVariable (history.filter (·.name = name)) v
  have hinit := init_foldl_onVariable (history.filter (·.name = name)) v
  have hlast (o : Option InitState) :
      o.getD .mustInitNull = .mustInitNull ↔ ∀ state, o = some state → state = .mustInitNull := by
    cases o <;> simp
  simp only [hpointer, hinit, declared, init, hlast]
  constructor
  · intro h
    refine ⟨?_, h.last⟩
    simpa [imp_iff_not_or] using h.declared
  · rintro ⟨hdeclared, hlast⟩
    refine ⟨?_, hlast⟩
    simpa [imp_iff_not_or] using hdeclared

/-! ## Declared initialisers -/

/-- The method declares a pointer of a name that starts as null. -/
def CompiledMethod.StartsNull (c : CompiledMethod) (name : String) : Prop :=
  ∃ g ∈ c.declarations.groups, .code 1 g.text ∈ c.fragments ∧
    ∃ d ∈ g.declarators, d.name = name ∧ 0 < d.indirection ∧
      d.text = String.ofList (List.replicate d.indirection '*') ++ name ++ " = NULL"

namespace Declarator

theorem text_of_nullPointer {d : Declarator} (h : d.initial = some .nullPointer) :
    d.text = String.ofList (List.replicate d.indirection '*') ++ d.name ++ " = NULL" := by
  have htext : " = " ++ Initializer.nullPointer.text = " = NULL" := rfl
  simp only [text, h, String.append_assoc, htext]

theorem initial_ne_none_of_text {d : Declarator}
    (h : d.text = String.ofList (List.replicate d.indirection '*') ++ d.name ++ " = NULL") :
    d.initial ≠ none := by
  intro hnone
  have hlength := congrArg String.length h
  simp [text, hnone] at hlength

end Declarator

/-- A boxed variable is declared as a pointer that starts as null if it says so itself, unless it is
stored inline. -/
theorem Variable.declarator_startsNull_iff {v : Variable} {d : Declarator}
    (boxed : v.type.isBoxed = true) (h : v.declarator = .ok d) :
    (0 < d.indirection ∧
        d.text = String.ofList (List.replicate d.indirection '*') ++ v.name ++ " = NULL") ↔
      v.isLocalOnly = false ∧ v.init = .mustInitNull := by
  have hname := name_of_declarator h
  rw [declarator_of_isBoxed boxed] at h
  rw [← hname]
  cases hlocal : v.isLocalOnly with
  | true =>
      rw [hlocal] at h
      cases h
      simp
  | false =>
      rw [hlocal] at h
      cases h
      constructor
      · rintro ⟨_, htext⟩
        have hinitial := Declarator.initial_ne_none_of_text htext
        exact ⟨rfl, by simpa using hinitial⟩
      · rintro ⟨_, hinit⟩
        refine ⟨by cases v.isDoublePointer <;> simp, ?_⟩
        exact Declarator.text_of_nullPointer (by simp [hinit])

namespace CompiledMethod

/-- A boxed variable starts as null in the declarations exactly when the table says so and a
pointer is declared for it. -/
theorem startsNull_iff {c : CompiledMethod} {name : String} {v : Variable}
    (declared : c.table.declarationBlock = .ok c.declarations)
    (distinct : c.table.NamesDistinct) (boxed : v.type.isBoxed = true)
    (known : c.table.find? name = some v) :
    c.StartsNull name ↔ v.isDeclaredPointer = true ∧ v.init = .mustInitNull := by
  rcases SymbolTable.mem_of_find?_eq_some known with ⟨hv, rfl⟩
  constructor
  · rintro ⟨g, hg, _, d, hd, hname, hnull⟩
    rcases (mem_declarators_iff declared).1 ⟨g, hg, hd⟩ with ⟨w, hw, hok⟩
    -- names are distinct, so the declarator is the one of the variable
    have hwv : w = v := by
      have hwname : w.name = v.name := (Variable.name_of_declarator hok).symm.trans hname
      exact List.inj_on_of_nodup_map distinct (List.mem_of_mem_filter hw) hv hwname
    subst hwv
    have himplicit : w.isImplicit = false := by
      simpa using (List.mem_filter.1 hw).2
    rcases (Variable.declarator_startsNull_iff boxed hok).1 hnull with ⟨hlocal, hinit⟩
    exact ⟨by simp [Variable.isDeclaredPointer, hlocal, himplicit], hinit⟩
  · rintro ⟨hpointer, hinit⟩
    have hflags : v.isLocalOnly = false ∧ v.isImplicit = false := by
      simpa [Variable.isDeclaredPointer] using hpointer
    have hdeclarable : v ∈ c.table.declarable := by
      simp [SymbolTable.declarable, hv, hflags.2]
    have hok := Variable.declarator_of_isBoxed boxed
    have hnull := (Variable.declarator_startsNull_iff boxed hok).2 ⟨hflags.1, hinit⟩
    rcases (mem_declarators_iff declared).2 ⟨v, hdeclarable, hok⟩ with ⟨g, hg, hd⟩
    exact ⟨g, hg, mem_fragments_of_mem_groups hg, _, hd, Variable.name_of_declarator hok, hnull⟩

end CompiledMethod

/-- The variable that an optional parameter is fetched into starts as null in the declarations
exactly when the body leaves it so. -/
theorem startsNull_iff_keepsNull {ctx : ClassContext} {m : Method} {body : Body}
    {sink : Diagnostics} {c : CompiledMethod} {p : Parameter}
    (compiled : (ctx.compile m body sink).result = .ok c) (declared : p ∈ m.parameters)
    (optional : p.isOptional = true) :
    c.StartsNull p.fetchedName ↔ KeepsNull (Body.changes body.steps) p.fetchedName := by
  rcases ClassContext.exists_phases compiled with ⟨s, h⟩
  have htype : p.checkType = .ok () := by
    rcases h.binds.exists_bound declared with ⟨b, hb, rfl⟩
    exact (h.binds.follows b hb).type_ok
  have hstart : s.table.find? p.fetchedName = some p.fetched := by
    simpa only [← p.name_fetched] using h.binds.find?_backing declared p.fetched_mem_backing
  have hpointer : p.fetched.isDeclaredPointer = true := by
    simp [Variable.isDeclaredPointer, p.isLocalOnly_fetched, p.isImplicit_fetched]
  have hinit : p.fetched.init = .mustInitNull := Parameter.init_fetched_of_isOptional optional
  -- what the body leaves of the variable
  have hfinal := SymbolTable.find?_run h.namesDistinct_start (Body.changes body.steps) hstart
  rw [← h.table_eq] at hfinal
  have hboxed : (((Body.changes body.steps).filter (·.name = p.fetchedName)).foldl
      (fun v c => c.onVariable v) p.fetched).type.isBoxed = true := by
    simpa only [type_foldl_onVariable] using Parameter.isBoxed_fetched htype
  simpa only [keepsNull_iff hpointer hinit] using
    CompiledMethod.startsNull_iff h.declarations_ok h.namesDistinct hboxed hfinal

/-- A body that marks the parameter as having a value and then takes that back. -/
theorem startsNull_of_setInit_after_markInitialized :
    ∃ c : CompiledMethod,
      (ClassContext.compile { owner := ⟨"C"⟩ }
        { name := "f", parameters := [{ name := "a", default := some .null }] }
        { steps := [⟨.change (.markInitialized "a"), false⟩,
          ⟨.change (.setInit "a" .mustInitNull), false⟩] } {}).result = .ok c ∧
        c.StartsNull "a" := by
  have hkept : KeepsNull [.markInitialized "a", .setInit "a" .mustInitNull] "a" :=
    ⟨by decide, by decide⟩
  rcases hresult : (ClassContext.compile { owner := ⟨"C"⟩ }
      { name := "f", parameters := [{ name := "a", default := some .null }] }
      { steps := [⟨.change (.markInitialized "a"), false⟩,
        ⟨.change (.setInit "a" .mustInitNull), false⟩] } {}).result with _ | c
  · cases hresult
  · exact ⟨c, rfl, (startsNull_iff_keepsNull hresult List.mem_cons_self rfl).2 hkept⟩

/-- A body that marks the parameter as having a value. -/
theorem not_startsNull_of_markInitialized :
    ∃ c : CompiledMethod,
      (ClassContext.compile { owner := ⟨"C"⟩ }
        { name := "f", parameters := [{ name := "a", default := some .null }] }
        { steps := [⟨.change (.markInitialized "a"), false⟩] } {}).result = .ok c ∧
        ¬ c.StartsNull "a" := by
  refine ⟨_, rfl, ?_⟩
  rintro ⟨g, hg, _, d, hd, _, _, hnull⟩
  cases hg with
  | head =>
      cases hd with
      | head => exact Declarator.initial_ne_none_of_text hnull rfl
      | tail _ hd => cases hd
  | tail _ hg => cases hg

end NativeMethod
