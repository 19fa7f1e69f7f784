import Mathlib.Data.List.Nodup
import Mathlib.Tactic.SplitIfs
import NativeMethod.SymbolTable.Change

/-!
# TableHistory — one variable through the changes of its table

Whatever a history of changes does, names stay distinct and a declared name stays declared.  What
becomes of its variable depends on the changes of that name alone:

* `Change.onVariable`, `Change.onEntry` — what a change does to the variable it names, and to a name
  that may have none yet;
* `entry_run`, `find?_run` — the variable of a name after a history;
* `exists_change_of_run` — what is new about an entry was brought about by a change of its name: a
  name by a declaration, an implicit variable by a flag, a default by being given one.
-/

namespace NativeMethod
namespace SymbolTable

/-- No name is declared twice. -/
def NamesDistinct (t : SymbolTable) : Prop :=
  (t.variables.map (·.name)).Nodup

theorem namesDistinct_initial : initial.NamesDistinct := by
  unfold NamesDistinct
  decide

theorem find?_eq_some_of_mem {t : SymbolTable} {v : Variable} (distinct : t.NamesDistinct)
    (h : v ∈ t.variables) : t.find? v.name = some v := by
  have hsome : (t.find? v.name).isSome := by
    rw [find?, List.find?_isSome]
    exact ⟨v, h, by simp⟩
  obtain ⟨w, hw⟩ := Option.isSome_iff_exists.1 hsome
  have hname : w.name = v.name := by
    simpa using List.find?_some hw
  have hmem : w ∈ t.variables := List.mem_of_find?_eq_some hw
  rw [hw, List.inj_on_of_nodup_map distinct hmem h hname]

theorem mem_of_find?_eq_some {t : SymbolTable} {x : String} {v : Variable}
    (h : t.find? x = some v) : v ∈ t.variables ∧ v.name = x := by
  refine ⟨List.mem_of_find?_eq_some h, ?_⟩
  simpa using List.find?_some h

theorem find?_eq_none_iff {t : SymbolTable} {x : String} :
    t.find? x = none ↔ x ∉ t.variables.map (·.name) := by
  simp [find?]

theorem NamesDistinct.append {t : SymbolTable} {vs : List Variable} (distinct : t.NamesDistinct)
    (inner : (vs.map (·.name)).Nodup) (fresh : ∀ v ∈ vs, t.find? v.name = none) :
    (t.append vs).NamesDistinct := by
  unfold NamesDistinct SymbolTable.append
  rw [List.map_append, List.nodup_append']
  refine ⟨distinct, inner, ?_⟩
  intro x hx hy
  obtain ⟨v, hv, rfl⟩ := List.mem_map.1 hy
  exact find?_eq_none_iff.1 (fresh v hv) hx

/-! ## Modifying the variable of a name -/

theorem find?_modify {t : SymbolTable} {x y : String} {f : Variable → Variable}
    (keepsName : ∀ v, (f v).name = v.name) :
    (t.modify y f).find? x = (t.find? x).map fun v => if y = x then f v else v := by
  rcases t with ⟨vs⟩
  -- names are kept, so the search stops at the same place
  have hcomp : ((·.name == x) ∘ fun v : Variable => if v.name == y then f v else v) =
      (·.name == x) := by
    funext v
    simp only [Function.comp_apply]
    split <;> simp [keepsName]
  simp only [find?, modify, List.find?_map, hcomp]
  cases hfound : vs.find? (·.name == x) with
  | none => rfl
  | some v =>
      have hname : v.name = x := by
        simpa using List.find?_some hfound
      subst hname
      by_cases hy : y = v.name
      · simp [hy]
      · simp [hy, Ne.symm hy]

theorem NamesDistinct.modify {t : SymbolTable} {y : String} {f : Variable → Variable}
    (distinct : t.NamesDistinct) (keepsName : ∀ v, (f v).name = v.name) :
    (t.modify y f).NamesDistinct := by
  unfold NamesDistinct
  rw [names_modify t y keepsName]
  exact distinct

/-- Only the variable found under a name is modified. -/
theorem modify_congr {t : SymbolTable} {y : String} {w : Variable} {f g : Variable → Variable}
    (distinct : t.NamesDistinct) (known : t.find? y = some w) (same : f w = g w) :
    t.modify y f = t.modify y g := by
  obtain ⟨hw, hname⟩ := mem_of_find?_eq_some known
  refine congrArg SymbolTable.mk (List.map_congr_left ?_)
  intro v hv
  by_cases hy : v.name = y
  · have hvw : v = w := List.inj_on_of_nodup_map distinct hv hw (hy.trans hname.symm)
    simp [hvw, same]
  · simp [hy]

theorem modify_id (t : SymbolTable) (y : String) : (t.modify y fun v => v) = t := by
  rcases t with ⟨vs⟩
  simp [modify]

theorem modify_of_find?_eq_none {t : SymbolTable} {y : String} (f : Variable → Variable)
    (unknown : t.find? y = none) : t.modify y f = t := by
  rcases t with ⟨vs⟩
  refine congrArg SymbolTable.mk ((List.map_congr_left ?_).trans (List.map_id vs))
  intro v hv
  have hy : v.name ≠ y := by
    rintro rfl
    exact find?_eq_none_iff.1 unknown (List.mem_map_of_mem hv)
  simp [hy]

theorem append_nil (t : SymbolTable) : t.append [] = t := by
  simp [SymbolTable.append]

/-! ## What a change can do -/

namespace Change

/-- What a change does to the variable it names. -/
def onVariable : Change → Variable → Variable
  | declare _ _ _, v => v
  | markExternal _, v => v.addFlags { isExternal := true }
  | markInitialized _, v => { v with init := .initialized }
  | recordUse _, v => { v with uses := v.uses + 1 }
  | setSeed _ value, v => { v with seed := some value }
  | constrain _ c, v => if v.type = .object then v.addConstraint c else v
  | addFlags _ flags, v => v.addFlags flags
  | setInit _ state, v => { v with init := state }

/-- The variables that a change adds if it finds its name unknown. -/
def fresh : Change → List Variable
  | declare name type span => [{ name, type, span }]
  | _ => []

/-- What a change makes of the entry of its name, which may not be there yet. -/
def onEntry (c : Change) : Option Variable → Option Variable
  | some v => some (c.onVariable v)
  | none => c.fresh.head?

/-- The flags that a change adds to its variable. -/
def flags : Change → Flags
  | markExternal _ => { isExternal := true }
  | addFlags _ flags => flags
  | _ => {}

theorem name_onVariable (c : Change) (v : Variable) : (c.onVariable v).name = v.name := by
  cases c with
  | constrain y k =>
      simp only [onVariable, Variable.addConstraint]
      split_ifs <;> rfl
  | _ => rfl

theorem type_onVariable (c : Change) (v : Variable) : (c.onVariable v).type = v.type := by
  cases c with
  | constrain y k =>
      simp only [onVariable, Variable.addConstraint]
      split_ifs <;> rfl
  | _ => rfl

theorem span_onVariable (c : Change) (v : Variable) : (c.onVariable v).span = v.span := by
  cases c with
  | constrain y k =>
      simp only [onVariable, Variable.addConstraint]
      split_ifs <;> rfl
  | _ => rfl

theorem flags_onVariable (c : Change) (v : Variable) :
    (c.onVariable v).flags = v.flags.union c.flags := by
  have hnone : v.flags.union {} = v.flags := by
    simp [Flags.union]
  cases c with
  | markExternal y => rfl
  | addFlags y flags => rfl
  | constrain y k =>
      simp only [onVariable, flags, hnone, Variable.addConstraint]
      split_ifs <;> rfl
  | _ => exact hnone.symm

theorem name_of_mem_fresh {c : Change} {v : Variable} (h : v ∈ c.fresh) : v.name = c.name := by
  cases c <;> simp_all [fresh, name]

/-- A change of a declared name reaches the variable of that name and nothing else.  One that
fails there would have done nothing. -/
theorem applyOrKeep_of_known {t : SymbolTable} {c : Change} {w : Variable}
    (distinct : t.NamesDistinct) (known : t.find? c.name = some w) :
    c.applyOrKeep t = t.modify c.name c.onVariable := by
  cases c with
  | declare y type span =>
      -- a name that is taken is not declared again, whatever its type
      have hkept : (declare y type span).applyOrKeep t = t := by
        have hknown : t.find? y = some w := known
        simp only [applyOrKeep, apply, SymbolTable.declare, hknown]
        by_cases htype : w.type = type <;> simp [htype]
      rw [hkept]
      exact (modify_id t y).symm
  | constrain y k =>
      have hknown : t.find? y = some w := known
      simp only [applyOrKeep, apply, SymbolTable.constrain, require, hknown, name]
      -- only objects take constraints; elsewhere the change fails and the table stays
      by_cases htype : w.type = .object
      · have hsame : w.addConstraint k = (constrain y k).onVariable w := by
          simp [onVariable, htype]
        simp only [htype, if_true]
        exact modify_congr (f := (·.addConstraint k)) distinct hknown hsame
      · have hsame : (constrain y k).onVariable w = w := by
          simp [onVariable, htype]
        simp only [htype, if_false]
        exact ((modify_congr (g := fun v => v) distinct hknown hsame).trans (modify_id t y)).symm
  | addFlags y flags => rfl
  | setInit y state => rfl
  | _ =>
      simp only [name] at known
      simp [applyOrKeep, apply, SymbolTable.markExternal, SymbolTable.markInitialized,
        SymbolTable.recordUse, SymbolTable.setSeed, update, require, known, Except.map, name]
      rfl

theorem applyOrKeep_of_unknown {t : SymbolTable} {c : Change} (unknown : t.find? c.name = none) :
    c.applyOrKeep t = t.append c.fresh := by
  cases c with
  | declare y type span =>
      have hunknown : t.find? y = none := unknown
      simp [applyOrKeep, apply, SymbolTable.declare, hunknown, fresh]
  | addFlags y flags =>
      exact (modify_of_find?_eq_none _ unknown).trans (append_nil t).symm
  | setInit y state =>
      exact (modify_of_find?_eq_none _ unknown).trans (append_nil t).symm
  | _ =>
      simp only [name] at unknown
      simp [applyOrKeep, apply, SymbolTable.markExternal, SymbolTable.markInitialized,
        SymbolTable.recordUse, SymbolTable.setSeed, SymbolTable.constrain, update, require,
        unknown, Except.map, fresh, append_nil]

theorem namesDistinct_applyOrKeep {t : SymbolTable} (distinct : t.NamesDistinct) (c : Change) :
    (c.applyOrKeep t).NamesDistinct := by
  cases hfound : t.find? c.name with
  | some w =>
      simpa only [applyOrKeep_of_known distinct hfound] using distinct.modify c.name_onVariable
  | none =>
      rw [applyOrKeep_of_unknown hfound]
      apply distinct.append
      · cases c <;> simp [fresh]
      · intro v hv
        rw [name_of_mem_fresh hv, hfound]

/-- Only a change of a name reaches the entry of that name. -/
theorem find?_applyOrKeep {t : SymbolTable} (distinct : t.NamesDistinct) (c : Change)
    (x : String) :
    (c.applyOrKeep t).find? x = if c.name = x then c.onEntry (t.find? x) else t.find? x := by
  cases hfound : t.find? c.name with
  | some w =>
      rw [applyOrKeep_of_known distinct hfound, find?_modify c.name_onVariable]
      by_cases hname : c.name = x
      · subst hname
        simp [hfound, onEntry]
      · simp [hname]
  | none =>
      rw [applyOrKeep_of_unknown hfound, find?_append]
      by_cases hname : c.name = x
      · subst hname
        rw [hfound]
        cases c <;> simp [onEntry, fresh, name]
      · -- what the change adds has another name and stands behind
        have hother : c.fresh.find? (·.name == x) = none := by
          rw [List.find?_eq_none]
          intro v hv
          simp [name_of_mem_fresh hv, hname]
        simp [hname, hother]

end Change

/-! ## Histories -/

theorem run_append (t : SymbolTable) (first second : List Change) :
    t.run (first ++ second) = (t.run first).run second :=
  List.foldl_append

theorem namesDistinct_run {t : SymbolTable} (distinct : t.NamesDistinct)
    (history : List Change) : (t.run history).NamesDistinct := by
  induction history generalizing t with
  | nil => exact distinct
  | cons c rest ih => exact ih (Change.namesDistinct_applyOrKeep distinct c)

/-- The entry of a name after a history is made by the changes of that name, one after the other. -/
theorem entry_run {t : SymbolTable} (distinct : t.NamesDistinct) (history : List Change)
    (x : String) :
    (t.run history).find? x =
      (history.filter (·.name = x)).foldl (fun o c => c.onEntry o) (t.find? x) := by
  induction history generalizing t with
  | nil => rfl
  | cons c rest ih =>
      have hstep := Change.find?_applyOrKeep distinct c x
      have hrest := ih (Change.namesDistinct_applyOrKeep distinct c)
      rw [hstep] at hrest
      by_cases hname : c.name = x
      · simpa [run, hname] using hrest
      · simpa [run, hname] using hrest

theorem foldl_onEntry_some (history : List Change) (v : Variable) :
    history.foldl (fun o c => c.onEntry o) (some v) =
      some (history.foldl (fun v c => c.onVariable v) v) := by
  induction history generalizing v with
  | nil => rfl
  | cons c rest ih => exact ih (c.onVariable v)

/-- What no change touches of a variable, no history touches. -/
theorem foldl_onVariable_keeps {β : Type} {f : Variable → β}
    (keeps : ∀ (c : Change) (v : Variable), f (c.onVariable v) = f v) (history : List Change)
    (v : Variable) : f (history.foldl (fun v c => c.onVariable v) v) = f v := by
  induction history generalizing v with
  | nil => rfl
  | cons c rest ih => exact (ih (c.onVariable v)).trans (keeps c v)

/-- What a history leaves of a variable that is declared when it begins. -/
theorem find?_run {t : SymbolTable} {x : String} {v : Variable} (distinct : t.NamesDistinct)
    (history : List Change) (known : t.find? x = some v) :
    (t.run history).find? x =
      some ((history.filter (·.name = x)).foldl (fun v c => c.onVariable v) v) := by
  rw [entry_run distinct history x, known, foldl_onEntry_some]

/-! ## Where entries come from -/

/-- What is true of an entry behind a history was true before, or a change of its name made it so. -/
theorem exists_change_of_run (P : Option Variable → Prop) {t : SymbolTable} {x : String}
    (distinct : t.NamesDistinct) {history : List Change} (left : P ((t.run history).find? x)) :
    P (t.find? x) ∨ ∃ c ∈ history, c.name = x ∧ ∃ o, ¬ P o ∧ P (c.onEntry o) := by
  have hfold (changes : List Change) (o : Option Variable)
      (h : P (changes.foldl (fun o c => c.onEntry o) o)) :
      P o ∨ ∃ c ∈ changes, ∃ o, ¬ P o ∧ P (c.onEntry o) := by
    induction changes generalizing o with
    | nil => exact .inl h
    | cons c rest ih =>
        rcases ih (c.onEntry o) h with hstep | ⟨d, hd, hmade⟩
        · by_cases ho : P o
          · exact .inl ho
          · exact .inr ⟨c, List.mem_cons_self, o, ho, hstep⟩
        · exact .inr ⟨d, List.mem_cons_of_mem c hd, hmade⟩
  rw [entry_run distinct] at left
  rcases hfold _ _ left with hbefore | ⟨c, hc, hmade⟩
  · exact .inl hbefore
  · rcases List.mem_filter.1 hc with ⟨hmem, hname⟩
    exact .inr ⟨c, hmem, of_decide_eq_true hname, hmade⟩

/-- A name that is new behind a history was declared by it. -/
theorem exists_declare_of_find?_run {t : SymbolTable} {x : String} {v : Variable}
    (distinct : t.NamesDistinct) {history : List Change} (unknown : t.find? x = none)
    (known : (t.run history).find? x = some v) :
    ∃ type span, Change.declare x type span ∈ history := by
  have hsome : ((t.run history).find? x).isSome = true := by
    rw [known]
    rfl
  rcases exists_change_of_run (fun o => o.isSome = true) distinct hsome with
    hbefore | ⟨c, hc, rfl, o, hnone, hadded⟩
  · rw [unknown] at hbefore
    cases hbefore
  · have ho : o = none := by simpa using hnone
    subst ho
    cases c with
    | declare y type span => exact ⟨type, span, hc⟩
    | _ => cases hadded

/-- A variable is implicit behind a history if it was so before or a change made it so. -/
theorem isImplicit_of_find?_run {t : SymbolTable} {x : String} {v : Variable}
    (distinct : t.NamesDistinct) {history : List Change}
    (known : (t.run history).find? x = some v) (implicit : v.isImplicit = true) :
    (∃ w, t.find? x = some w ∧ w.isImplicit = true) ∨
      ∃ flags, Change.addFlags x flags ∈ history ∧ flags.isImplicit = true := by
  have hleft : ∃ w, (t.run history).find? x = some w ∧ w.isImplicit = true := ⟨v, known, implicit⟩
  rcases exists_change_of_run (fun o => ∃ w, o = some w ∧ w.isImplicit = true) distinct hleft with
    hbefore | ⟨c, hc, rfl, o, hvisible, w, hw, himplicit⟩
  · exact .inl hbefore
  · cases o with
    | none =>
        -- a variable that is just declared has no flags
        cases c with
        | declare y type span =>
            cases hw
            cases himplicit
        | _ => cases hw
    | some u =>
        cases hw
        have hunion : u.isImplicit = true ∨ c.flags.isImplicit = true := by
          simpa [Variable.isImplicit, Change.flags_onVariable, Flags.union] using himplicit
        rcases hunion with hu | hflags
        · exact absurd ⟨u, rfl, hu⟩ hvisible
        · cases c with
          | addFlags y flags => exact .inr ⟨flags, hc, hflags⟩
          | _ => cases hflags

/-- The default behind a history is that of before, or one that the variable was given. -/
theorem setSeed_mem_of_find?_run {t : SymbolTable} {x : String} {v : Variable} {l : Literal}
    (distinct : t.NamesDistinct) {history : List Change}
    (known : (t.run history).find? x = some v) (seed : v.seed = some l) :
    (∃ w, t.find? x = some w ∧ w.seed = some l) ∨ Change.setSeed x l ∈ history := by
  have hleft : ∃ w, (t.run history).find? x = some w ∧ w.seed = some l := ⟨v, known, seed⟩
  rcases exists_change_of_run (fun o => ∃ w, o = some w ∧ w.seed = some l) distinct hleft with
    hbefore | ⟨c, hc, rfl, o, hbare, w, hw, hseed⟩
  · exact .inl hbefore
  · cases o with
    | none =>
        -- a variable that is just declared has no default
        cases c with
        | declare y type span =>
            cases hw
            cases hseed
        | _ => cases hw
    | some u =>
        cases hw
        cases c with
        | setSeed y value =>
            cases hseed
            exact .inr hc
        | constrain y k =>
            have hsame : ((Change.constrain y k).onVariable u).seed = u.seed := by
              simp only [Change.onVariable, Variable.addConstraint]
              split_ifs <;> rfl
            exact absurd ⟨u, rfl, hsame ▸ hseed⟩ hbare
        | _ => exact absurd ⟨u, rfl, hseed⟩ hbare

/-- A variable has a default behind a history if it had one before or was given one. -/
theorem exists_setSeed_of_find?_run {t : SymbolTable} {x : String} {v : Variable}
    (distinct : t.NamesDistinct) {history : List Change}
    (known : (t.run history).find? x = some v) (seeded : v.seed.isSome = true) :
    (∃ w, t.find? x = some w ∧ w.seed.isSome = true) ∨
      ∃ value, Change.setSeed x value ∈ history := by
  obtain ⟨l, hl⟩ := Option.isSome_iff_exists.1 seeded
  rcases setSeed_mem_of_find?_run distinct known hl with ⟨w, hw, hseed⟩ | hmem
  · exact .inl ⟨w, hw, by simp [hseed]⟩
  · exact .inr ⟨l, hmem⟩

/-- A variable that is implicit stays so. -/
theorem isImplicit_run {t : SymbolTable} {x : String} {v w : Variable} (distinct : t.NamesDistinct)
    {history : List Change} (known : t.find? x = some w) (implicit : w.isImplicit = true)
    (left : (t.run history).find? x = some v) : v.isImplicit = true := by
  have hfold (changes : List Change) (u : Variable) (hu : u.isImplicit = true) :
      (changes.foldl (fun v c => c.onVariable v) u).isImplicit = true := by
    induction changes generalizing u with
    | nil => exact hu
    | cons c rest ih =>
        apply ih (c.onVariable u)
        have hflags : u.flags.isImplicit = true := hu
        simp [Variable.isImplicit, Change.flags_onVariable, Flags.union, hflags]
  rw [find?_run distinct history known] at left
  rw [← Option.some.inj left]
  exact hfold _ w implicit

end SymbolTable
end NativeMethod
