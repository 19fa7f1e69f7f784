import NativeMethod.Proofs.IndexedTables

/-!
# TableInvariants — what holds of a stored table throughout

Nobody takes anything away from a table: variables stay where they are, with their names, types and
flags, and classes are only ever added to their constraints.

* `IndexedTable.KeptBy` — a table has all that an earlier one had;
* `firstOfEachClass`, `constraints_of_mem_run` — the constraints of a variable are the classes that
  were added to it, each the first time;
* `indexedTable_invariant` — all that holds of a table behind every history.
-/

namespace NativeMethod

open SymbolTable (Change)

/-! ## What is kept -/

namespace Flags

/-- All flags of the first set are in the second. -/
def Subset (f g : Flags) : Prop := f.union g = g

theorem union_assoc (f g h : Flags) : (f.union g).union h = f.union (g.union h) := by
  simp [union, Bool.or_assoc]

theorem Subset.refl (f : Flags) : f.Subset f := by
  simp [Subset, union]

theorem Subset.trans {f g h : Flags} (first : f.Subset g) (second : g.Subset h) : f.Subset h :=
  calc
    f.union h = f.union (g.union h) := congrArg f.union second.symm
    _ = (f.union g).union h := (union_assoc f g h).symm
    _ = g.union h := congrArg (Flags.union · h) first
    _ = h := second

theorem subset_union (f g : Flags) : f.Subset (f.union g) := by
  simp [Subset, union]

end Flags

namespace Row

/-- What a row keeps for good. -/
structure KeptBy (r r' : Row) : Prop where
  name : r'.content.name = r.content.name
  type : r'.content.type = r.content.type
  span : r'.content.span = r.content.span
  flags : r.content.flags.Subset r'.content.flags

theorem KeptBy.refl (r : Row) : r.KeptBy r := ⟨rfl, rfl, rfl, .refl _⟩

theorem KeptBy.trans {r r' r'' : Row} (first : r.KeptBy r') (second : r'.KeptBy r'') :
    r.KeptBy r'' where
  name := second.name.trans first.name
  type := second.type.trans first.type
  span := second.span.trans first.span
  flags := first.flags.trans second.flags

end Row

theorem SymbolTable.Change.keptBy_onRow {r : Row} (consistent : r.Consistent) (c : Change) :
    r.KeptBy (c.onRow r) where
  name := name_onRow consistent c
  type := by rw [content_onRow consistent, type_onVariable]
  span := by rw [content_onRow consistent, span_onVariable]
  flags := by
    rw [content_onRow consistent, flags_onVariable]
    exact Flags.subset_union _ _

namespace IndexedTable

variable {t : IndexedTable}

/-- Every row of the first table stands in the second, at its place and with all it keeps. -/
def KeptBy (t t' : IndexedTable) : Prop :=
  ∀ (i : Nat) (r : Row), t.rows[i]? = some r → ∃ r', t'.rows[i]? = some r' ∧ r.KeptBy r'

theorem KeptBy.refl (t : IndexedTable) : t.KeptBy t := by
  intro i r hr
  exact ⟨r, hr, .refl r⟩

theorem KeptBy.trans {t t' t'' : IndexedTable} (first : t.KeptBy t') (second : t'.KeptBy t'') :
    t.KeptBy t'' := by
  intro i r hr
  obtain ⟨r', hr', hfirst⟩ := first i r hr
  obtain ⟨r'', hr'', hsecond⟩ := second i r' hr'
  exact ⟨r'', hr'', hfirst.trans hsecond⟩

theorem keptBy_push (t : IndexedTable) (v : Variable) : t.KeptBy (t.push v) := by
  intro i r hr
  have hlt : i < t.rows.length := (List.getElem?_eq_some_iff.1 hr).1
  refine ⟨r, ?_, .refl r⟩
  simpa [push, List.getElem?_append_left hlt] using hr

theorem Consistent.keptBy_perform (consistent : t.Consistent) (c : Change) :
    t.KeptBy (IndexedTable.perform c t).2 := by
  cases hposition : t.position? c.name with
  | some i =>
      obtain ⟨s, hs, -⟩ := consistent.exists_row hposition
      rw [perform_of_known hposition hs]
      intro j r hr
      have hconsistent := consistent.rows_consistent r (List.mem_of_getElem? hr)
      -- the row of the name is changed, and every other one is still the same
      refine ⟨if i = j then c.onRow r else r, ?_, ?_⟩
      · simp [getElem?_rows_modifyAt, hr]
      · split
        · exact Change.keptBy_onRow hconsistent c
        · exact .refl r
  | none =>
      rw [perform_of_unknown hposition]
      cases c with
      | declare y type span => exact keptBy_push t _
      | _ => exact .refl t

theorem Consistent.keptBy_run (consistent : t.Consistent) (history : List Change) :
    t.KeptBy (t.run history) := by
  induction history generalizing t with
  | nil => exact .refl t
  | cons c rest ih => exact (consistent.keptBy_perform c).trans (ih (consistent.perform c))

/-! ## Class constraints -/

/-- The class that a change adds to the variable of a name, if the change succeeds. -/
def addedClass (x : String) (t : IndexedTable) : Change → List ClassName
  | .constrain y c => if y = x && (t.constrain y c).1.isOk then [c] else []
  | _ => []

/-- The classes that a history adds with success to the variable of a name, in their order. -/
def addedClasses (x : String) (t : IndexedTable) : List Change → List ClassName
  | [] => []
  | c :: rest => t.addedClass x c ++ (perform c t).2.addedClasses x rest

/-- The classes of a list without those that have the fingerprint of an earlier one. -/
def firstOfEachClass : List ClassName → List ClassName
  | [] => []
  | c :: cs => c :: (firstOfEachClass cs).filter (fun d => !c.sameClass d)

/-- The classes with one more behind them, unless its fingerprint is there already. -/
def withClass (cs : List ClassName) (k : ClassName) : List ClassName :=
  if cs.any (·.sameClass k) then cs else cs ++ [k]

theorem firstOfEachClass_concat (cs : List ClassName) (k : ClassName) :
    firstOfEachClass (cs ++ [k]) = withClass (firstOfEachClass cs) k := by
  induction cs with
  | nil => rfl
  | cons c rest ih =>
      simp only [List.cons_append, firstOfEachClass, ih, withClass]
      by_cases hrest : (firstOfEachClass rest).any (·.sameClass k)
      · -- `k` goes for the sake of a class further back, or of the head if that one went too
        have hany : (c :: (firstOfEachClass rest).filter (fun d => !c.sameClass d)).any
            (·.sameClass k) = true := by
          obtain ⟨d, hd, hdk⟩ := List.any_eq_true.1 hrest
          by_cases hcd : c.sameClass d = true
          · have hck : c.sameClass k = true := by
              simp_all [ClassName.sameClass]
            simp [hck]
          · exact List.any_eq_true.2 ⟨d, by simp [hd, hcd], hdk⟩
        simp [hrest, hany]
      · by_cases hck : c.sameClass k = true
        · simp [hrest, hck]
        · have hfilter : ((firstOfEachClass rest).filter (fun d => !c.sameClass d)).any
              (·.sameClass k) = false := by
            simp_all
          simp [hrest, hck, hfilter]

theorem foldl_withClass (cs added : List ClassName) :
    added.foldl withClass (firstOfEachClass cs) = firstOfEachClass (cs ++ added) := by
  induction added generalizing cs with
  | nil => simp
  | cons k rest ih => simpa [← firstOfEachClass_concat] using ih (cs ++ [k])

/-- The constraints stored for a name, of which an unknown name has none. -/
def constraintsOf (t : IndexedTable) (x : String) : List ClassName :=
  ((t.toTable.find? x).map (·.constraints)).getD []

theorem Consistent.constraintsOf_perform (consistent : t.Consistent) (x : String) (c : Change) :
    (IndexedTable.perform c t).2.constraintsOf x =
      (t.addedClass x c).foldl withClass (t.constraintsOf x) := by
  have hentry := Change.find?_applyOrKeep consistent.namesDistinct_toTable c x
  have houtcome := consistent.outcome_perform c
  simp only [constraintsOf, consistent.toTable_perform, hentry]
  cases c with
  | constrain y k =>
      by_cases hname : y = x
      · subst hname
        simp only [IndexedTable.perform, Change.apply, SymbolTable.constrain,
          SymbolTable.require] at houtcome
        simp only [Change.name, addedClass, houtcome]
        -- only a declared object takes the class, and only then it counts as added
        cases t.toTable.find? y with
        | none => rfl
        | some v =>
            by_cases htype : v.type = .object
            · have hadded : (v.addConstraint k).constraints = withClass v.constraints k := by
                simp [Variable.addConstraint, withClass, apply_ite]
              simpa [htype, Change.onEntry, Change.onVariable, Except.map, Except.isOk,
                Except.toBool] using hadded
            · simp [htype, Change.onEntry, Change.onVariable, Except.map, Except.isOk, Except.toBool]
      · simp [Change.name, hname, addedClass]
  | _ =>
      simp only [addedClass, List.foldl_nil]
      split
      · cases t.toTable.find? x <;> rfl
      · rfl

theorem Consistent.constraintsOf_run (consistent : t.Consistent) (x : String)
    (history : List Change) :
    (t.run history).constraintsOf x =
      (t.addedClasses x history).foldl withClass (t.constraintsOf x) := by
  induction history generalizing t with
  | nil => rfl
  | cons c rest ih =>
      have hrest := ih (consistent.perform c)
      rw [consistent.constraintsOf_perform x c, ← List.foldl_append] at hrest
      exact hrest

theorem constraintsOf_initial (x : String) : initial.constraintsOf x = [] := by
  have hbare : ∀ v ∈ initial.toTable.variables, v.constraints = [] := by decide
  cases hfind : initial.toTable.find? x with
  | none => simp [constraintsOf, hfind]
  | some v => simpa [constraintsOf, hfind] using hbare v (List.mem_of_find?_eq_some hfind)

/-- The constraints of a row behind a history are the classes added to it, each the first time. -/
theorem constraints_of_mem_run {history : List Change} {r : Row}
    (mem : r ∈ (initial.run history).rows) :
    r.content.constraints =
      firstOfEachClass (initial.addedClasses r.content.name history) := by
  have hconsistent := consistent_initial.run history
  have hfind : (initial.run history).toTable.find? r.content.name = some r.content :=
    SymbolTable.find?_eq_some_of_mem hconsistent.namesDistinct_toTable (List.mem_map_of_mem mem)
  have hrun := consistent_initial.constraintsOf_run r.content.name history
  rw [constraintsOf_initial] at hrun
  calc
    r.content.constraints = (initial.run history).constraintsOf r.content.name := by
      simp [constraintsOf, hfind]
    _ = (initial.addedClasses r.content.name history).foldl withClass (firstOfEachClass []) := hrun
    _ = firstOfEachClass (initial.addedClasses r.content.name history) := foldl_withClass [] _

/-! ## The implicit variables -/

/-- An implicit variable of the first table is one of the second, under its name and type. -/
theorem KeptBy.exists_implicit {t t' : IndexedTable} (kept : t.KeptBy t') (i : Nat) {r : Row}
    (row : t.rows[i]? = some r) (implicit : r.content.isImplicit = true) :
    ∃ r', t'.rows[i]? = some r' ∧ r'.content.name = r.content.name ∧
      r'.content.type = r.content.type ∧ r'.content.isImplicit = true := by
  obtain ⟨r', hr', hkept⟩ := kept i r row
  refine ⟨r', hr', hkept.name, hkept.type, ?_⟩
  have hflags : (r.content.flags.union r'.content.flags).isImplicit = true := by
    have himplicit : r.content.flags.isImplicit = true := implicit
    simp [Flags.union, himplicit]
  rw [hkept.flags] at hflags
  exact hflags

end IndexedTable

/-- Whatever changes are made, failing ones included: the names of the table are distinct, and the
index leads from exactly the names to their positions; the receiver and the return slot stand first; no
later change loses, moves or renames a variable or alters its type, its span or the flags it has; and
only objects have class constraints, namely the classes added to them with success, each once. -/
theorem indexedTable_invariant (history : List Change) :
    let t := IndexedTable.initial.run history
    (t.toTable = SymbolTable.initial.run history ∧
        ∀ c, (IndexedTable.perform c t).1 = (c.apply t.toTable).map fun _ => ()) ∧
      t.names.Nodup ∧
      (∀ x i, t.position? x = some i ↔ t.names[i]? = some x) ∧
      (∃ r, t.rows[0]? = some r ∧ r.content.name = "this" ∧ r.content.type = .object ∧
        r.content.isImplicit = true) ∧
      (∃ r, t.rows[1]? = some r ∧ r.content.name = "return_value" ∧ r.content.type = .generic ∧
        r.content.isImplicit = true) ∧
      (∀ later, t.KeptBy (t.run later)) ∧
      ∀ r ∈ t.rows, r.Consistent ∧
        r.content.constraints = IndexedTable.firstOfEachClass
          (IndexedTable.initial.addedClasses r.content.name history) := by
  have hconsistent := IndexedTable.consistent_initial.run history
  have hkept := IndexedTable.consistent_initial.keptBy_run history
  refine ⟨⟨?_, hconsistent.outcome_perform⟩, hconsistent.names_nodup, hconsistent.index_exact,
    hkept.exists_implicit 0 rfl rfl, hkept.exists_implicit 1 rfl rfl, hconsistent.keptBy_run, ?_⟩
  · exact IndexedTable.consistent_initial.toTable_run history
  · intro r hr
    exact ⟨hconsistent.rows_consistent r hr, IndexedTable.constraints_of_mem_run hr⟩

end NativeMethod
