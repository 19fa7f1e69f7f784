import NativeMethod.Proofs.IndexedTables

/-!
# LocalChanges — how far a change of a stored table reaches

A change is about one variable and, unless it declares one, about one part of it.  Whatever it comes
to, the rest of the table stays:

* `Row.AgreesBeside` — two rows differ in one part at most;
* `Change.Refusal` — the reasons for a change to fail;
* `IndexedTable.Effect` — all that a change may do to a stored table, and with which outcome;
* `IndexedTable.Consistent.effect_perform` — a change does nothing else.
-/

namespace NativeMethod

open SymbolTable (Change)

/-! ## Parts of a variable -/

/-- The parts of a variable that can change. -/
inductive VariablePart where
  | flags
  | init
  | uses
  | seed
  | constraints

/-- The part of a variable that a change is about, unless it declares the variable. -/
def SymbolTable.Change.part? : Change → Option VariablePart
  | .declare _ _ _ => none
  | .markExternal _ | .addFlags _ _ => some .flags
  | .markInitialized _ | .setInit _ _ => some .init
  | .recordUse _ => some .uses
  | .setSeed _ _ => some .seed
  | .constrain _ _ => some .constraints

/-- Beside one part, the rows are equal.  The fingerprints belong to the constraints. -/
structure Row.AgreesBeside (part : VariablePart) (r r' : Row) : Prop where
  name : r'.content.name = r.content.name
  type : r'.content.type = r.content.type
  span : r'.content.span = r.content.span
  flags : part ≠ .flags → r'.content.flags = r.content.flags
  init : part ≠ .init → r'.content.init = r.content.init
  uses : part ≠ .uses → r'.content.uses = r.content.uses
  seed : part ≠ .seed → r'.content.seed = r.content.seed
  constraints : part ≠ .constraints →
    r'.content.constraints = r.content.constraints ∧ r'.fingerprints = r.fingerprints

namespace SymbolTable.Change

theorem agreesBeside_onRow {c : Change} {part : VariablePart} (about : c.part? = some part)
    (r : Row) : r.AgreesBeside part (c.onRow r) := by
  cases c with
  | declare y type span => cases about
  | constrain y k =>
      cases about
      simp only [onRow, Row.constrain]
      constructor <;> split_ifs <;> simp
  | _ =>
      cases about
      constructor <;> simp [onRow, Row.mapContent, onVariable, Variable.addFlags]

/-- A change that passes over names without a variable. -/
def IsLenient : Change → Prop
  | addFlags _ _ | setInit _ _ => True
  | _ => False

/-- Why a change of a stored table fails. -/
inductive Refusal (t : IndexedTable) : Change → CompileError → Prop where
  | undeclared {c : Change} {part : VariablePart} :
      t.position? c.name = none → c.part? = some part → ¬ c.IsLenient →
        Refusal t c (undeclared c.name)
  | typeConflict {x : String} {type : StorageType} {span : Span} {r : Row} :
      t.row? x = some r → r.content.type ≠ type →
        Refusal t (.declare x type span) (.typeConflict x r.content.type type span)
  | notAnObject {x : String} {k : ClassName} {r : Row} :
      t.row? x = some r → r.content.type ≠ .object →
        Refusal t (.constrain x k) (IndexedTable.notAnObject x r.content.type k)

end SymbolTable.Change

/-! ## Effects -/

namespace IndexedTable

/-- What a change may come to.  Only the last two effects touch the table. -/
inductive Effect (t : IndexedTable) : Change → Outcome → Prop where
  | refused {c : Change} {e : CompileError} : c.Refusal t e → Effect t c (.error e, t)
  | redeclared {x : String} {type : StorageType} {span : Span} {r : Row} :
      t.row? x = some r → r.content.type = type → Effect t (.declare x type span) (.ok (), t)
  | passedOver {c : Change} : t.position? c.name = none → c.IsLenient → Effect t c (.ok (), t)
  /-- One part of one row changes, and the row stays where it is. -/
  | changed {c : Change} {part : VariablePart} {i : Nat} {r : Row} :
      t.position? c.name = some i → t.rows[i]? = some r → r.content.name = c.name →
        c.part? = some part → r.AgreesBeside part (c.onRow r) →
          (c.onRow r).content = c.onVariable r.content →
            Effect t c (.ok (), { t with rows := t.rows.set i (c.onRow r) })
  /-- A row is added at the end, and its name to the index. -/
  | stored {x : String} {type : StorageType} {span : Span} :
      t.position? x = none →
        Effect t (.declare x type span)
          (.ok (), { rows := t.rows ++ [{ content := { name := x, type, span } }]
                     index := (x, t.rows.length) :: t.index })

variable {t : IndexedTable}

/-- A change that succeeds on a declared name, and does not declare it, changes one part of its row. -/
theorem Consistent.effect_changed (consistent : t.Consistent) {c : Change} {part : VariablePart}
    {i : Nat} (position : t.position? c.name = some i) (about : c.part? = some part)
    (succeeds : (IndexedTable.perform c t).1 = .ok ()) : t.Effect c (IndexedTable.perform c t) := by
  obtain ⟨r, hrow, hname⟩ := consistent.exists_row position
  have hconsistent := consistent.rows_consistent r (List.mem_of_getElem? hrow)
  have hperform : IndexedTable.perform c t =
      (.ok (), { t with rows := t.rows.set i (c.onRow r) }) := by
    rw [← modifyAt_eq_set hrow, ← perform_of_known position hrow, ← succeeds]
  rw [hperform]
  exact .changed position hrow hname about (Change.agreesBeside_onRow about r)
    (Change.content_onRow hconsistent c)

theorem Consistent.effect_of_known (consistent : t.Consistent) {c : Change} {i : Nat}
    (position : t.position? c.name = some i) : t.Effect c (IndexedTable.perform c t) := by
  obtain ⟨r, hrow, _⟩ := consistent.exists_row position
  have hfound : t.row? c.name = some r := row?_of_position position hrow
  cases c with
  | declare x type span =>
      simp only [Change.name] at hfound
      -- the name is taken, so all that counts is whether the types agree
      by_cases htype : r.content.type = type
      · have hkept : IndexedTable.perform (.declare x type span) t = (.ok (), t) := by
          simp [IndexedTable.perform, declare, hfound, htype]
        simpa only [hkept] using Effect.redeclared hfound htype
      · have hrefused : IndexedTable.perform (.declare x type span) t =
            (.error (.typeConflict x r.content.type type span), t) := by
          simp [IndexedTable.perform, declare, hfound, htype]
        simpa only [hrefused] using Effect.refused (.typeConflict hfound htype)
  | constrain x k =>
      simp only [Change.name] at hfound
      by_cases htype : r.content.type = .object
      · apply consistent.effect_changed position rfl
        simp only [Change.name] at position
        simp [IndexedTable.perform, constrain, hfound, htype, update, position]
      · have hrefused : IndexedTable.perform (.constrain x k) t =
            (.error (notAnObject x r.content.type k), t) := by
          simp [IndexedTable.perform, constrain, hfound, htype]
        simpa only [hrefused] using Effect.refused (.notAnObject hfound htype)
  | _ =>
      apply consistent.effect_changed position rfl
      simp only [Change.name] at position
      simp [IndexedTable.perform, update, updateIfKnown, position]

theorem effect_of_unknown {c : Change} (unknown : t.position? c.name = none) :
    t.Effect c (perform c t) := by
  have hrow : t.row? c.name = none := by
    simp [row?, unknown]
  have hrefused {part : VariablePart} (about : c.part? = some part) (strict : ¬ c.IsLenient)
      (fails : perform c t = (.error (SymbolTable.undeclared c.name), t)) :
      t.Effect c (perform c t) := by
    simpa only [fails] using Effect.refused (.undeclared unknown about strict)
  -- a declaration stores the name, the lenient changes pass it over, and the others are refused
  cases c with
  | declare x type span =>
      simp only [Change.name] at hrow
      have hstored : perform (.declare x type span) t =
          (.ok (), t.push { name := x, type, span }) := by
        simp [perform, declare, hrow]
      rw [hstored]
      exact .stored unknown
  | addFlags x flags =>
      have hkept : perform (.addFlags x flags) t = (.ok (), t) := by
        simp only [Change.name] at unknown
        simp [perform, updateIfKnown, unknown]
      simpa only [hkept] using Effect.passedOver unknown trivial
  | setInit x state =>
      have hkept : perform (.setInit x state) t = (.ok (), t) := by
        simp only [Change.name] at unknown
        simp [perform, updateIfKnown, unknown]
      simpa only [hkept] using Effect.passedOver unknown trivial
  | constrain x k =>
      apply hrefused rfl id
      simp only [Change.name] at hrow
      simp [perform, constrain, hrow, Change.name]
  | _ =>
      apply hrefused rfl id
      simp only [Change.name] at unknown
      simp [perform, update, unknown, Change.name]

/-- A change of a table whose parts agree has one of the effects. -/
theorem Consistent.effect_perform (consistent : t.Consistent) (c : Change) :
    t.Effect c (IndexedTable.perform c t) := by
  cases hposition : t.position? c.name with
  | some i => exact consistent.effect_of_known hposition
  | none => exact effect_of_unknown hposition

/-- A change that fails leaves the table as it was. -/
theorem Effect.eq_of_error {c : Change} {e : CompileError} {left : IndexedTable}
    (effect : t.Effect c (.error e, left)) : left = t := by
  cases effect
  rfl

end IndexedTable

end NativeMethod
