import NativeMethod.Proofs.TableHistory
import NativeMethod.SymbolTable.Indexed

/-!
# IndexedTables — the parts of a stored table agree

A stored table keeps its variables, the index of their names and the fingerprints of their class
constraints apart.  Every change, failing or not, leaves the parts in agreement:

* `IndexedTable.Consistent` — the index leads from exactly the declared names to their rows, only
  objects have class constraints, and the fingerprints are those of the constraints;
* `perform_of_known`, `perform_of_unknown` — all that a change can do to such a table: it updates the
  row of its name, or it finds the name unknown and at most stores a fresh row at the end;
* `outcome_perform`, `toTable_perform` — a change of the stored table comes to what it does for the
  compiler;
* `Consistent.run`, `toTable_run` — so does every history, and the parts agree behind it.
-/

namespace NativeMethod

open SymbolTable (Change)

/-! ## Rows -/

namespace Row

/-- The fingerprints of a row are those of its constraints, and only an object has any. -/
structure Consistent (r : Row) : Prop where
  fingerprints_exact : ∀ h, h ∈ r.fingerprints ↔ ∃ c ∈ r.content.constraints, c.fingerprint = h
  object_of_constrained : r.content.constraints ≠ [] → r.content.type = .object

/-- A row without constraints needs no fingerprints. -/
theorem consistent_of_unconstrained (v : Variable) (h : v.constraints = []) :
    Consistent { content := v } where
  fingerprints_exact := by simp [h]
  object_of_constrained := fun hne => absurd h hne

/-- The fingerprints answer whether a class is there. -/
theorem Consistent.contains_fingerprint {r : Row} (consistent : r.Consistent) (c : ClassName) :
    r.fingerprints.contains c.fingerprint = r.content.constraints.any (·.sameClass c) := by
  rw [Bool.eq_iff_iff]
  simp [consistent.fingerprints_exact, ClassName.sameClass]

theorem Consistent.content_constrain {r : Row} (consistent : r.Consistent) (c : ClassName) :
    (r.constrain c).content = r.content.addConstraint c := by
  simp only [constrain, Variable.addConstraint, consistent.contains_fingerprint]
  split <;> rfl

theorem Consistent.constrain {r : Row} (consistent : r.Consistent) (c : ClassName)
    (object : r.content.type = .object) : (r.constrain c).Consistent := by
  unfold Row.constrain
  split
  · exact consistent
  · constructor
    · intro h
      simp [consistent.fingerprints_exact, or_and_right, exists_or, or_comm, eq_comm]
    · intro _
      exact object

/-- What changes neither type nor constraints leaves a row consistent. -/
theorem Consistent.mapContent {r : Row} (consistent : r.Consistent) {f : Variable → Variable}
    (type : (f r.content).type = r.content.type)
    (constraints : (f r.content).constraints = r.content.constraints) :
    (r.mapContent f).Consistent where
  fingerprints_exact h := by
    simpa [Row.mapContent, constraints] using consistent.fingerprints_exact h
  object_of_constrained := by
    simpa [Row.mapContent, constraints, type] using consistent.object_of_constrained

end Row

/-- What a change does to the row it names. -/
def SymbolTable.Change.onRow : Change → Row → Row
  | .constrain _ k, r => if r.content.type = .object then r.constrain k else r
  | c, r => r.mapContent c.onVariable

namespace SymbolTable.Change

theorem consistent_onRow {r : Row} (consistent : r.Consistent) (c : Change) :
    (c.onRow r).Consistent := by
  cases c with
  | constrain y k =>
      simp only [onRow]
      split_ifs with object
      · exact consistent.constrain k object
      · exact consistent
  | _ => exact consistent.mapContent rfl rfl

/-- On a consistent row, the stored variable becomes what the change makes of it. -/
theorem content_onRow {r : Row} (consistent : r.Consistent) (c : Change) :
    (c.onRow r).content = c.onVariable r.content := by
  cases c with
  | constrain y k =>
      simp only [onRow, onVariable]
      split_ifs
      · exact consistent.content_constrain k
      · rfl
  | _ => rfl

theorem name_onRow {r : Row} (consistent : r.Consistent) (c : Change) :
    (c.onRow r).content.name = r.content.name := by
  rw [content_onRow consistent, name_onVariable]

end SymbolTable.Change

/-! ## Tables -/

namespace IndexedTable

def names (t : IndexedTable) : List String := t.rows.map (·.content.name)

/-- The parts of a stored table agree. -/
structure Consistent (t : IndexedTable) : Prop where
  /-- The index leads from a name to where it stands, and knows no other names. -/
  index_exact : ∀ x i, t.position? x = some i ↔ t.names[i]? = some x
  rows_consistent : ∀ r ∈ t.rows, r.Consistent

variable {t : IndexedTable}

theorem Consistent.names_nodup (consistent : t.Consistent) : t.names.Nodup := by
  rw [List.nodup_iff_getElem?_ne_getElem?]
  intro i j hij hj heq
  -- the index has one position for a name
  have hpos : t.position? t.names[j] = some j :=
    (consistent.index_exact _ _).2 (List.getElem?_eq_getElem hj)
  have hother : t.position? t.names[j] = some i :=
    (consistent.index_exact _ _).2 (heq.trans (List.getElem?_eq_getElem hj))
  have hsame : j = i := Option.some.inj (hpos.symm.trans hother)
  omega

theorem Consistent.position?_eq_none (consistent : t.Consistent) {x : String} :
    t.position? x = none ↔ x ∉ t.names := by
  constructor
  · intro hnone hmem
    obtain ⟨i, hi⟩ := List.mem_iff_getElem?.1 hmem
    rw [(consistent.index_exact x i).2 hi] at hnone
    cases hnone
  · intro hfresh
    rw [Option.eq_none_iff_forall_ne_some]
    intro i hi
    exact hfresh (List.mem_of_getElem? ((consistent.index_exact x i).1 hi))

/-- A name in the index has its row. -/
theorem Consistent.exists_row (consistent : t.Consistent) {x : String} {i : Nat}
    (position : t.position? x = some i) :
    ∃ r, t.rows[i]? = some r ∧ r.content.name = x := by
  have hname : t.names[i]? = some x := (consistent.index_exact x i).1 position
  simpa [names] using hname

theorem consistent_nil : Consistent { rows := [], index := [] } where
  index_exact := by simp [position?, names]
  rows_consistent := by simp

theorem getElem?_concat_eq_some_iff {α : Type} {l : List α} {a b : α} {i : Nat} :
    (l ++ [a])[i]? = some b ↔ l[i]? = some b ∨ (i = l.length ∧ a = b) := by
  rw [List.getElem?_append]
  by_cases hi : i < l.length
  · simp [hi, Nat.ne_of_lt hi]
  · simp only [hi, if_false, List.getElem?_singleton, List.getElem?_eq_none (Nat.le_of_not_lt hi)]
    split <;> simp <;> omega

theorem position?_push (t : IndexedTable) (v : Variable) (x : String) :
    (t.push v).position? x = if x = v.name then some t.rows.length else t.position? x := by
  by_cases hx : x = v.name
  · simp [position?, IndexedTable.push, hx]
  · have hne : (x == v.name) = false := by simpa using hx
    simp [position?, IndexedTable.push, List.lookup_cons, hx, hne]

theorem names_push (t : IndexedTable) (v : Variable) : (t.push v).names = t.names ++ [v.name] := by
  simp [names, IndexedTable.push]

theorem Consistent.push (consistent : t.Consistent) {v : Variable}
    (fresh : t.position? v.name = none) (unconstrained : v.constraints = []) :
    (t.push v).Consistent where
  index_exact x i := by
    have hlength : t.names.length = t.rows.length := by simp [names]
    rw [position?_push, names_push, getElem?_concat_eq_some_iff, hlength]
    by_cases hx : x = v.name
    · -- a fresh name stands nowhere else
      have hother : t.names[i]? ≠ some v.name := fun h =>
        consistent.position?_eq_none.1 fresh (List.mem_of_getElem? h)
      simp [hx, hother, eq_comm]
    · simp [hx, Ne.symm hx, consistent.index_exact]
  rows_consistent r hr := by
    rcases List.mem_append.1 hr with hold | hadded
    · exact consistent.rows_consistent r hold
    · rw [List.mem_singleton.1 hadded]
      exact Row.consistent_of_unconstrained v unconstrained

theorem getElem?_rows_modifyAt (t : IndexedTable) (i j : Nat) (f : Row → Row) :
    (t.modifyAt i f).rows[j]? = (t.rows[j]?).map fun r => if i = j then f r else r := by
  simp [IndexedTable.modifyAt, List.getElem?_modify]

theorem names_modifyAt (t : IndexedTable) (i : Nat) {f : Row → Row}
    (name : ∀ r ∈ t.rows, (f r).content.name = r.content.name) :
    (t.modifyAt i f).names = t.names := by
  apply List.ext_getElem?
  intro j
  simp only [names, List.getElem?_map, getElem?_rows_modifyAt]
  cases hrow : t.rows[j]? with
  | none => rfl
  | some r =>
      have hname := name r (List.mem_of_getElem? hrow)
      by_cases hij : i = j <;> simp [hij, hname]

theorem mem_rows_modifyAt {i : Nat} {f : Row → Row} {r : Row} (h : r ∈ (t.modifyAt i f).rows) :
    ∃ s ∈ t.rows, r = s ∨ r = f s := by
  obtain ⟨j, hj⟩ := List.mem_iff_getElem?.1 h
  rw [getElem?_rows_modifyAt, Option.map_eq_some_iff] at hj
  obtain ⟨s, hs, rfl⟩ := hj
  refine ⟨s, List.mem_of_getElem? hs, ?_⟩
  split
  · exact .inr rfl
  · exact .inl rfl

theorem Consistent.modifyAt (consistent : t.Consistent) (i : Nat) (c : Change) :
    (t.modifyAt i c.onRow).Consistent where
  index_exact x j := by
    have hnames : (t.modifyAt i c.onRow).names = t.names := names_modifyAt t i fun r hr =>
      Change.name_onRow (consistent.rows_consistent r hr) c
    rw [hnames]
    exact consistent.index_exact x j
  rows_consistent r hr := by
    obtain ⟨s, hs, rfl | rfl⟩ := mem_rows_modifyAt hr
    · exact consistent.rows_consistent r hs
    · exact Change.consistent_onRow (consistent.rows_consistent s hs) c

theorem consistent_initial : initial.Consistent := by
  have hreceiver := consistent_nil.push (v := SymbolTable.receiver) rfl rfl
  exact hreceiver.push (v := SymbolTable.returnSlot) (by decide) rfl

/-! ## What a change can do -/

/-- Only the row at the position is modified. -/
theorem modifyAt_eq_set {i : Nat} {r : Row} (row : t.rows[i]? = some r) (f : Row → Row) :
    t.modifyAt i f = { t with rows := t.rows.set i (f r) } := by
  refine congrArg (IndexedTable.mk · t.index) (List.ext_getElem? fun j => ?_)
  obtain ⟨hbound, hrow⟩ := List.getElem?_eq_some_iff.1 row
  rw [List.getElem?_modify, List.getElem?_set]
  by_cases hij : i = j
  · subst hij
    simp [hbound, hrow]
  · simp [hij]

theorem modifyAt_congr {i : Nat} {f g : Row → Row} {r : Row} (row : t.rows[i]? = some r)
    (same : f r = g r) : t.modifyAt i f = t.modifyAt i g := by
  rw [modifyAt_eq_set row, modifyAt_eq_set row, same]

theorem modifyAt_of_fixed {i : Nat} {f : Row → Row} {r : Row} (row : t.rows[i]? = some r)
    (fixed : f r = r) : t.modifyAt i f = t :=
  calc
    t.modifyAt i f = t.modifyAt i id := modifyAt_congr row fixed
    _ = t := congrArg (IndexedTable.mk · t.index) (List.modify_id i t.rows)

theorem row?_of_position {x : String} {i : Nat} {r : Row} (position : t.position? x = some i)
    (row : t.rows[i]? = some r) : t.row? x = some r := by
  simp [row?, position, row]

/-- A change of a declared name updates the row of that name.  One that fails there would have done
nothing. -/
theorem perform_of_known {c : Change} {i : Nat} {r : Row} (position : t.position? c.name = some i)
    (row : t.rows[i]? = some r) : (perform c t).2 = t.modifyAt i c.onRow := by
  have hrow : t.row? c.name = some r := row?_of_position position row
  cases c with
  | declare y type span =>
      have hkept : (perform (.declare y type span) t).2 = t := by
        simp only [Change.name] at hrow
        simp only [perform, declare, hrow]
        split <;> rfl
      rw [hkept]
      exact (modifyAt_of_fixed row rfl).symm
  | constrain y k =>
      simp only [Change.name] at hrow position
      simp only [perform, constrain, hrow, update, position]
      -- only objects take constraints; elsewhere the change fails and the table stays
      by_cases htype : r.content.type = .object
      · have hsame : r.constrain k = (Change.constrain y k).onRow r := by
          simp [Change.onRow, htype]
        simpa only [htype, if_true] using modifyAt_congr (f := (·.constrain k)) row hsame
      · have hfixed : (Change.constrain y k).onRow r = r := by
          simp [Change.onRow, htype]
        simpa only [htype, if_false] using (modifyAt_of_fixed row hfixed).symm
  | _ =>
      simp only [Change.name] at position
      simp only [perform, update, updateIfKnown, position]
      rfl

theorem perform_of_unknown {c : Change} (unknown : t.position? c.name = none) :
    (perform c t).2 = c.fresh.foldl push t := by
  have hrow : t.row? c.name = none := by
    simp [row?, unknown]
  cases c with
  | declare y type span =>
      simp only [Change.name] at hrow
      simp [perform, declare, hrow, Change.fresh]
  | constrain y k =>
      simp only [Change.name] at hrow
      simp [perform, constrain, hrow, Change.fresh]
  | _ =>
      simp only [Change.name] at unknown
      simp [perform, update, updateIfKnown, unknown, Change.fresh]

theorem Consistent.perform (consistent : t.Consistent) (c : Change) :
    (perform c t).2.Consistent := by
  cases hposition : t.position? c.name with
  | some i =>
      obtain ⟨r, hrow, -⟩ := consistent.exists_row hposition
      rw [perform_of_known hposition hrow]
      exact consistent.modifyAt i c
  | none =>
      rw [perform_of_unknown hposition]
      cases c with
      | declare y type span => exact consistent.push hposition rfl
      | _ => exact consistent

/-! ## The table of the compiler -/

theorem Consistent.namesDistinct_toTable (consistent : t.Consistent) :
    t.toTable.NamesDistinct := by
  have hnames : t.toTable.variables.map (·.name) = t.names := by
    simp [toTable, names]
  unfold SymbolTable.NamesDistinct
  rw [hnames]
  exact consistent.names_nodup

/-- Looking a name up in the index finds what a search through the variables finds. -/
theorem Consistent.find?_toTable (consistent : t.Consistent) (x : String) :
    t.toTable.find? x = (t.row? x).map (·.content) := by
  cases hposition : t.position? x with
  | some i =>
      obtain ⟨r, hrow, rfl⟩ := consistent.exists_row hposition
      have hmem : r.content ∈ t.toTable.variables := List.mem_map_of_mem (List.mem_of_getElem? hrow)
      rw [row?_of_position hposition hrow]
      exact SymbolTable.find?_eq_some_of_mem consistent.namesDistinct_toTable hmem
  | none =>
      have hunknown : t.toTable.find? x = none := by
        rw [SymbolTable.find?_eq_none_iff]
        simpa [toTable, names] using consistent.position?_eq_none.1 hposition
      simp [hunknown, row?, hposition]

theorem Consistent.outcome_update (consistent : t.Consistent) (x : String) (f : Row → Row)
    (g : Variable → Variable) :
    (t.update x f).1 = (t.toTable.update x g).map fun _ => () := by
  have hfind := consistent.find?_toTable x
  cases hposition : t.position? x with
  | some i =>
      obtain ⟨r, hrow, -⟩ := consistent.exists_row hposition
      rw [row?_of_position hposition hrow] at hfind
      simp [update, hposition, SymbolTable.update, SymbolTable.require, hfind, Except.map]
  | none =>
      have hrow : t.row? x = none := by
        simp [row?, hposition]
      rw [hrow] at hfind
      simp [update, hposition, SymbolTable.update, SymbolTable.require, hfind, Except.map]

theorem outcome_updateIfKnown (t : IndexedTable) (x : String) (f : Row → Row) :
    (t.updateIfKnown x f).1 = .ok () := by
  unfold updateIfKnown
  split <;> rfl

/-- A change of a stored table succeeds or fails as it does for the compiler. -/
theorem Consistent.outcome_perform (consistent : t.Consistent) (c : Change) :
    (IndexedTable.perform c t).1 = (c.apply t.toTable).map fun _ => () := by
  cases c with
  | declare y type span =>
      simp only [IndexedTable.perform, declare, Change.apply, SymbolTable.declare,
        consistent.find?_toTable]
      cases t.row? y with
      | none => rfl
      | some r => by_cases htype : r.content.type = type <;> simp [htype, Except.map]
  | constrain y k =>
      simp only [IndexedTable.perform, constrain, Change.apply, SymbolTable.constrain,
        SymbolTable.require, consistent.find?_toTable]
      cases hrow : t.row? y with
      | none => rfl
      | some r =>
          -- a row was found, so the index knows its position
          have hposition : (t.position? y).isSome := by
            cases hnone : t.position? y with
            | none => simp [row?, hnone] at hrow
            | some i => rfl
          obtain ⟨i, hi⟩ := Option.isSome_iff_exists.1 hposition
          by_cases htype : r.content.type = .object
          · simp [htype, Except.map, update, hi]
          · simp [htype, Except.map, notAnObject]
  | addFlags y flags => exact outcome_updateIfKnown t y _
  | setInit y state => exact outcome_updateIfKnown t y _
  | _ => exact consistent.outcome_update _ _ _

theorem Consistent.toTable_modifyAt (consistent : t.Consistent) {c : Change} {i : Nat}
    (position : t.position? c.name = some i) :
    (t.modifyAt i c.onRow).toTable = t.toTable.modify c.name c.onVariable := by
  refine congrArg SymbolTable.mk (List.ext_getElem? fun j => ?_)
  simp only [toTable, List.getElem?_map, getElem?_rows_modifyAt]
  cases hrow : t.rows[j]? with
  | none => rfl
  | some r =>
      have hcontent := Change.content_onRow (consistent.rows_consistent r (List.mem_of_getElem? hrow)) c
      -- the row stands at the position of the name exactly if it has the name
      have hname : i = j ↔ r.content.name = c.name := by
        constructor
        · rintro rfl
          simpa [names, hrow] using (consistent.index_exact c.name i).1 position
        · intro hsame
          have hj : t.position? c.name = some j := by
            rw [consistent.index_exact]
            simp [names, hrow, hsame]
          exact Option.some.inj (position.symm.trans hj)
      by_cases hij : i = j
      · simp [hij, hname.1 hij, hcontent]
      · have hne : r.content.name ≠ c.name := fun h => hij (hname.2 h)
        simp [hij, hne]

/-- A change leaves the table that the compiler goes on with. -/
theorem Consistent.toTable_perform (consistent : t.Consistent) (c : Change) :
    (IndexedTable.perform c t).2.toTable = c.applyOrKeep t.toTable := by
  have hfind := consistent.find?_toTable c.name
  cases hposition : t.position? c.name with
  | some i =>
      obtain ⟨r, hrow, -⟩ := consistent.exists_row hposition
      rw [row?_of_position hposition hrow] at hfind
      rw [perform_of_known hposition hrow, consistent.toTable_modifyAt hposition,
        Change.applyOrKeep_of_known consistent.namesDistinct_toTable hfind]
  | none =>
      have hunknown : t.toTable.find? c.name = none := by
        simpa [row?, hposition] using hfind
      rw [perform_of_unknown hposition, Change.applyOrKeep_of_unknown hunknown]
      cases c <;> simp [Change.fresh, toTable, IndexedTable.push, SymbolTable.append]

/-! ## Whole runs -/

theorem Consistent.run (consistent : t.Consistent) (history : List Change) :
    (t.run history).Consistent := by
  induction history generalizing t with
  | nil => exact consistent
  | cons c rest ih => exact ih (consistent.perform c)

theorem Consistent.toTable_run (consistent : t.Consistent) (history : List Change) :
    (t.run history).toTable = t.toTable.run history := by
  induction history generalizing t with
  | nil => rfl
  | cons c rest ih =>
      calc
        ((IndexedTable.perform c t).2.run rest).toTable
            = (IndexedTable.perform c t).2.toTable.run rest := ih (consistent.perform c)
        _ = (c.applyOrKeep t.toTable).run rest := by rw [consistent.toTable_perform c]

end IndexedTable

end NativeMethod
