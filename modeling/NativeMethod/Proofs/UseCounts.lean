import Mathlib.Algebra.Group.Nat.Defs
import NativeMethod.Proofs.TableInvariants
import NativeMethod.SymbolTable.Unused

/-!
# UseCounts — how often a variable was used

Each use of a variable that is recorded with success adds one to its count, and nothing else touches the
count.  The count has 32 bits, so what is stored is the number of uses modulo `2 ^ 32`, and a variable
is taken for unused whenever that number is a multiple of `2 ^ 32`:

* `IndexedTable.use` — records a use and gives the new count;
* `IndexedTable.recordedUses` — the uses of a name that a history records with success;
* `Consistent.usesOf_perform`, `Consistent.usesOf_run` — what one change adds to a count, and what a
  history adds;
* `Variable.finding`, `SymbolTable.finding_mem_unusedReports_iff` — what is reported about a variable;
* `reported_iff_dvd_recordedUses` — the count of a variable, and when the variable is reported.
-/

namespace NativeMethod

open SymbolTable (Change)

namespace IndexedTable

variable {t : IndexedTable} {x : String}

/-! ## Recording uses -/

/-- Records a use of a declared name, and gives the count behind it. -/
def use (t : IndexedTable) (x : String) : Except CompileError UInt32 × IndexedTable :=
  match t.row? x with
  | some r => (.ok (r.content.uses + 1), (perform (.recordUse x) t).2)
  | none => (.error (SymbolTable.undeclared x), t)

/-- Recording a use is the change of that kind, with the count as its result. -/
theorem Consistent.use_eq_perform (consistent : t.Consistent) (x : String) :
    (t.use x).2 = (IndexedTable.perform (.recordUse x) t).2 ∧
      (t.use x).1.map (fun _ => ()) = (IndexedTable.perform (.recordUse x) t).1 := by
  cases hposition : t.position? x with
  | some i =>
      obtain ⟨r, hrow, -⟩ := consistent.exists_row hposition
      have hfound : t.row? x = some r := row?_of_position hposition hrow
      simp [use, hfound, IndexedTable.perform, update, hposition, Except.map]
  | none =>
      have hunknown : t.row? x = none := by
        simp [row?, hposition]
      simp [use, hunknown, IndexedTable.perform, update, hposition, Except.map]

/-- The use of a name that a change records, if the change succeeds. -/
def recordedUse (x : String) (t : IndexedTable) : Change → Nat
  | .recordUse y => if y = x && (perform (.recordUse y) t).1.isOk then 1 else 0
  | _ => 0

/-- The uses of a name that a history records with success. -/
def recordedUses (x : String) (t : IndexedTable) : List Change → Nat
  | [] => 0
  | c :: rest => t.recordedUse x c + (perform c t).2.recordedUses x rest

/-! ## Counts -/

/-- The count stored for a name, of which an unknown name has none. -/
def usesOf (t : IndexedTable) (x : String) : UInt32 :=
  ((t.toTable.find? x).map (·.uses)).getD 0

/-- A change adds to the count of a name the use that it records. -/
theorem Consistent.usesOf_perform (consistent : t.Consistent) (x : String) (c : Change) :
    (IndexedTable.perform c t).2.usesOf x = t.usesOf x + UInt32.ofNat (t.recordedUse x c) := by
  have hentry := Change.find?_applyOrKeep consistent.namesDistinct_toTable c x
  simp only [usesOf, consistent.toTable_perform, hentry]
  cases c with
  | recordUse y =>
      have houtcome := consistent.outcome_perform (.recordUse y)
      by_cases hname : y = x
      · subst hname
        simp only [Change.apply, SymbolTable.recordUse, SymbolTable.update,
          SymbolTable.require] at houtcome
        -- a use is recorded exactly if the name is declared
        cases hfind : t.toTable.find? y with
        | none =>
            simp [hfind, recordedUse, houtcome, Except.map, Except.isOk, Except.toBool, Change.name,
              Change.onEntry, Change.fresh]
        | some v =>
            simp [hfind, recordedUse, houtcome, Except.map, Except.isOk, Except.toBool, Change.name,
              Change.onEntry, Change.onVariable]
      · simp [Change.name, hname, recordedUse]
  | declare y type span =>
      by_cases hname : y = x
      · -- a new variable is unused, and a known one is not touched
        cases t.toTable.find? x <;>
          simp [Change.name, hname, recordedUse, Change.onEntry, Change.onVariable, Change.fresh]
      · simp [Change.name, hname, recordedUse]
  | constrain y k =>
      have hkept (v : Variable) : ((Change.constrain y k).onVariable v).uses = v.uses := by
        simp only [Change.onVariable, Variable.addConstraint]
        split_ifs <;> rfl
      simp only [recordedUse]
      split
      · cases t.toTable.find? x <;> simp [Change.onEntry, Change.fresh, hkept]
      · simp
  | _ =>
      simp only [recordedUse]
      split
      · cases t.toTable.find? x <;>
          simp [Change.onEntry, Change.onVariable, Change.fresh, Variable.addFlags]
      · simp

/-- A history adds to the count of a name the uses that it records. -/
theorem Consistent.usesOf_run (consistent : t.Consistent) (x : String) (history : List Change) :
    (t.run history).usesOf x = t.usesOf x + UInt32.ofNat (t.recordedUses x history) := by
  induction history generalizing t with
  | nil => simp [IndexedTable.run, recordedUses]
  | cons c rest ih =>
      calc
        (t.run (c :: rest)).usesOf x
            = (IndexedTable.perform c t).2.usesOf x +
                UInt32.ofNat ((IndexedTable.perform c t).2.recordedUses x rest) :=
              ih (consistent.perform c)
        _ = t.usesOf x + UInt32.ofNat (t.recordedUses x (c :: rest)) := by
              rw [consistent.usesOf_perform, recordedUses, UInt32.ofNat_add, UInt32.add_assoc]

theorem usesOf_initial (x : String) : initial.usesOf x = 0 := by
  have hunused : ∀ v ∈ initial.toTable.variables, v.uses = 0 := by decide
  cases hfind : initial.toTable.find? x with
  | none => simp [usesOf, hfind]
  | some v => simpa [usesOf, hfind] using hunused v (List.mem_of_find?_eq_some hfind)

/-- The count of a row is what the history recorded for its name, as far as 32 bits go. -/
theorem uses_of_mem_run {history : List Change} {r : Row} (mem : r ∈ (initial.run history).rows) :
    r.content.uses = UInt32.ofNat (initial.recordedUses r.content.name history) := by
  have hconsistent := consistent_initial.run history
  have hfind : (initial.run history).toTable.find? r.content.name = some r.content :=
    SymbolTable.find?_eq_some_of_mem hconsistent.namesDistinct_toTable (List.mem_map_of_mem mem)
  have hrun := consistent_initial.usesOf_run r.content.name history
  rw [usesOf_initial, UInt32.zero_add] at hrun
  calc
    r.content.uses = (initial.run history).usesOf r.content.name := by
      simp [usesOf, hfind]
    _ = UInt32.ofNat (initial.recordedUses r.content.name history) := hrun

end IndexedTable

/-! ## Findings -/

namespace Variable

/-- The finding about a variable that nobody uses: a note on a parameter, a warning about a local. -/
def finding (v : Variable) (method : String) : Diagnostic :=
  if v.isExternal then
    ⟨.info, "parameter '" ++ v.name ++ "' is never used in " ++ method, v.span⟩
  else ⟨.warning, "variable '" ++ v.name ++ "' declared but not used in " ++ method, v.span⟩

theorem uses_eq_zero_iff {v : Variable} {n : Nat} (stored : v.uses.toNat = n % 2 ^ 32) :
    v.uses = 0 ↔ 2 ^ 32 ∣ n :=
  calc
    v.uses = 0 ↔ v.uses.toNat = 0 := by rw [← UInt32.toNat_inj, UInt32.toNat_zero]
    _ ↔ 2 ^ 32 ∣ n := by rw [stored, Nat.dvd_iff_mod_eq_zero]

theorem name_eq_of_finding_eq {v w : Variable} {method : String}
    (h : v.finding method = w.finding method) : v.name = w.name := by
  have htext := congrArg (·.message.toList) h
  have hseverity := congrArg (·.severity) h
  -- the severity tells which of the two texts it is, and the name stands between fixed words
  by_cases hv : v.isExternal <;> by_cases hw : w.isExternal <;> simp_all [finding]

theorem finding_of_isDead {v : Variable} (h : v.isDead) (method : String) :
    v.finding method =
      ⟨.warning, "variable '" ++ v.name ++ "' declared but not used in " ++ method, v.span⟩ := by
  simp_all [isDead, finding]

theorem finding_of_isUnusedParameter {v : Variable} (h : v.isUnusedParameter) (method : String) :
    v.finding method =
      ⟨.info, "parameter '" ++ v.name ++ "' is never used in " ++ method, v.span⟩ := by
  simp_all [isUnusedParameter, finding]

end Variable

namespace SymbolTable

theorem unusedReports_eq (t : SymbolTable) (method : String) :
    t.unusedReports method =
      t.deadVariables.map (·.finding method) ++ t.unusedParameters.map (·.finding method) := by
  unfold unusedReports
  congr 1 <;> apply List.map_congr_left <;> intro v hv
  · exact (Variable.finding_of_isDead (List.mem_filter.1 hv).2 method).symm
  · exact (Variable.finding_of_isUnusedParameter (List.mem_filter.1 hv).2 method).symm

/-- A variable has its finding in the report exactly if it is one of those reported. -/
theorem finding_mem_unusedReports_iff {t : SymbolTable} (distinct : t.NamesDistinct) {v : Variable}
    (mem : v ∈ t.variables) (method : String) :
    v.finding method ∈ t.unusedReports method ↔ v ∈ t.deadVariables ∨ v ∈ t.unusedParameters := by
  have hsame (w : Variable) (hw : w ∈ t.variables) (h : w.finding method = v.finding method) :
      w = v :=
    List.inj_on_of_nodup_map distinct hw mem (Variable.name_eq_of_finding_eq h)
  simp only [unusedReports_eq, List.mem_append, List.mem_map]
  constructor
  · -- the finding names its variable, so it cannot be that of another one
    rintro (⟨w, hw, h⟩ | ⟨w, hw, h⟩)
    · exact .inl (hsame w (List.mem_of_mem_filter hw) h ▸ hw)
    · exact .inr (hsame w (List.mem_of_mem_filter hw) h ▸ hw)
  · rintro (hv | hv)
    · exact .inl ⟨v, hv, rfl⟩
    · exact .inr ⟨v, hv, rfl⟩

end SymbolTable

/-! ## Unused variables -/

namespace IndexedTable

/-- A table counts `n` uses of a variable, as far as its counter goes. -/
structure Counts (t : IndexedTable) (v : Variable) (n : Nat) : Prop where
  stored : v.uses.toNat = n % 2 ^ 32
  /-- Recording one more use is a change of the table, and gives the next count. -/
  returned : (t.use v.name).1.map (·.toNat) = .ok ((n + 1) % 2 ^ 32) ∧
    (t.use v.name).2 = (IndexedTable.perform (.recordUse v.name) t).2
  /-- A local is dead if its counter stands at zero. -/
  dead : v ∈ t.toTable.deadVariables ↔ 2 ^ 32 ∣ n ∧ !v.isExternal ∧ !v.isImplicit
  /-- So is a parameter unused, unless it is a slot. -/
  unused : v ∈ t.toTable.unusedParameters ↔
    2 ^ 32 ∣ n ∧ v.isExternal ∧ !v.isImplicit ∧ !v.isParamSlot
  reported : ∀ method, v.finding method ∈ t.toTable.unusedReports method ↔
    v ∈ t.toTable.deadVariables ∨ v ∈ t.toTable.unusedParameters

end IndexedTable

open IndexedTable in
/-- Behind every history, failing changes included, the count of a variable is the number of uses that
were recorded for its name with success, modulo `2 ^ 32`, and recording one more gives the next count.
The variable is among the dead ones, among the unused parameters and in the report only where that
number is a multiple of `2 ^ 32`. -/
theorem reported_iff_dvd_recordedUses (history : List Change) {r : Row}
    (mem : r ∈ (initial.run history).rows) :
    (initial.run history).Counts r.content
      (initial.recordedUses r.content.name history) := by
  have hconsistent := consistent_initial.run history
  have hvariable : r.content ∈ (initial.run history).toTable.variables := List.mem_map_of_mem mem
  have hstored : r.content.uses.toNat =
      initial.recordedUses r.content.name history % 2 ^ 32 := by
    rw [uses_of_mem_run mem, UInt32.toNat_ofNat']
  have hzero := Variable.uses_eq_zero_iff hstored
  constructor
  · exact hstored
  · have hfind := hconsistent.find?_toTable r.content.name
    rw [SymbolTable.find?_eq_some_of_mem hconsistent.namesDistinct_toTable hvariable] at hfind
    obtain ⟨s, hs, hcontent⟩ := Option.map_eq_some_iff.1 hfind.symm
    refine ⟨?_, (hconsistent.use_eq_perform r.content.name).1⟩
    simp [use, hs, hcontent, Except.map, hstored]
  · simp [SymbolTable.deadVariables, Variable.isDead, hvariable, hzero, and_assoc]
  · simp [SymbolTable.unusedParameters, Variable.isUnusedParameter, hvariable, hzero, and_assoc]
  · intro method
    exact SymbolTable.finding_mem_unusedReports_iff hconsistent.namesDistinct_toTable hvariable method

open IndexedTable in
/-- Two uses among declarations, flags and changes that fail. -/
theorem counts_two_of_used_twice :
    let history : List Change :=
      [.recordUse "n", .declare "n" .int .nowhere, .recordUse "n",
        .declare "n" .int .nowhere, .declare "n" .double .nowhere, .recordUse "n",
        .markExternal "n", .addFlags "n" { isLocalOnly := true }]
    ∃ r ∈ (initial.run history).rows, r.content.name = "n" ∧
      initial.recordedUses r.content.name history = 2 ∧ (initial.run history).Counts r.content 2 := by
  intro history
  have hlength : 2 < (initial.run history).rows.length := by decide
  have hmem : (initial.run history).rows[2] ∈ (initial.run history).rows := List.getElem_mem hlength
  exact ⟨_, hmem, rfl, rfl, reported_iff_dvd_recordedUses history hmem⟩

namespace IndexedTable

variable {t : IndexedTable} {x : String}

/-- All uses of a declared name are recorded, however many there are. -/
theorem Consistent.recordedUses_replicate (consistent : t.Consistent)
    (known : (t.toTable.find? x).isSome) (n : Nat) :
    t.recordedUses x (List.replicate n (.recordUse x)) = n := by
  induction n generalizing t with
  | zero => rfl
  | succ n ih =>
      have houtcome := consistent.outcome_perform (.recordUse x)
      obtain ⟨v, hv⟩ := Option.isSome_iff_exists.1 known
      have hrest := ih (consistent.perform (.recordUse x)) (by
        rw [consistent.toTable_perform, Change.find?_applyOrKeep consistent.namesDistinct_toTable]
        simp [hv, Change.name, Change.onEntry])
      simp only [Change.apply, SymbolTable.recordUse, SymbolTable.update, SymbolTable.require, hv]
        at houtcome
      simp [List.replicate_succ, recordedUses, recordedUse, houtcome, hrest, Except.map, Except.isOk,
        Except.toBool, Nat.add_comm]

end IndexedTable

theorem SymbolTable.find?_run_replicate {t : SymbolTable} {x : String} {v : Variable}
    (distinct : t.NamesDistinct) (known : t.find? x = some v) (n : Nat) :
    (t.run (List.replicate n (.recordUse x))).find? x =
      some { v with uses := v.uses + UInt32.ofNat n } := by
  induction n generalizing t v with
  | zero => simpa [run] using known
  | succ n ih =>
      have hstep := Change.find?_applyOrKeep distinct (.recordUse x) x
      simp only [known, Change.name, if_true, Change.onEntry, Change.onVariable] at hstep
      calc
        (t.run (List.replicate (n + 1) (.recordUse x))).find? x
            = (((Change.recordUse x).applyOrKeep t).run (List.replicate n (.recordUse x))).find? x :=
              rfl
        _ = some { v with uses := v.uses + 1 + UInt32.ofNat n } :=
              ih (Change.namesDistinct_applyOrKeep distinct _) hstep
        _ = some { v with uses := v.uses + UInt32.ofNat (n + 1) } := by
              rw [UInt32.ofNat_add, UInt32.add_assoc, UInt32.add_comm 1]
              rfl

open IndexedTable in
/-- A local whose uses bring its counter back to zero is reported, however many they are. -/
theorem reported_of_ofNat_eq_zero {n : Nat} (wrapped : UInt32.ofNat n = 0) :
    let history := .declare "x" .int .nowhere :: List.replicate n (Change.recordUse "x")
    let t := initial.run history
    initial.recordedUses "x" history = n ∧
      ∃ v ∈ t.toTable.variables, v.name = "x" ∧ v ∈ t.toTable.deadVariables ∧
        ∀ method, v.finding method ∈ t.toTable.unusedReports method := by
  intro history t
  let declared := (perform (.declare "x" .int .nowhere) initial).2
  have hdeclared : declared.Consistent := consistent_initial.perform _
  have hfind : declared.toTable.find? "x" = some { name := "x", type := .int } := rfl
  have huses : initial.recordedUses "x" history = n :=
    calc
      initial.recordedUses "x" history
          = 0 + declared.recordedUses "x" (List.replicate n (.recordUse "x")) := rfl
      _ = n := by rw [Nat.zero_add, hdeclared.recordedUses_replicate (by simp [hfind])]
  -- only the count has changed, and it has come back to where it was
  have hlast : t.toTable.find? "x" = some { name := "x", type := .int } := by
    have hrun := SymbolTable.find?_run_replicate hdeclared.namesDistinct_toTable hfind n
    rw [← hdeclared.toTable_run, wrapped] at hrun
    exact hrun
  have hconsistent : t.Consistent := consistent_initial.run history
  obtain ⟨hmem, -⟩ := SymbolTable.mem_of_find?_eq_some hlast
  have hdead : { name := "x", type := .int } ∈ t.toTable.deadVariables :=
    List.mem_filter.2 ⟨hmem, rfl⟩
  refine ⟨huses, _, hmem, rfl, hdead, fun method => ?_⟩
  rw [SymbolTable.finding_mem_unusedReports_iff hconsistent.namesDistinct_toTable hmem]
  exact .inl hdead

open IndexedTable in
/-- Behind `2 ^ 32` recorded uses the counter stands at zero again, and a variable that was used all
that often is reported as one that was not. -/
theorem reported_of_wrapped_count :
    let history := .declare "x" .int .nowhere :: List.replicate (2 ^ 32) (Change.recordUse "x")
    let t := initial.run history
    initial.recordedUses "x" history = 2 ^ 32 ∧
      ∃ v ∈ t.toTable.variables, v.name = "x" ∧ v ∈ t.toTable.deadVariables ∧
        ∀ method, v.finding method ∈ t.toTable.unusedReports method :=
  reported_of_ofNat_eq_zero rfl

end NativeMethod
