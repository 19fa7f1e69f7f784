import NativeMethod.DeclarationBlock
import NativeMethod.Proofs.Outcomes
import NativeMethod.Proofs.TableHistory

/-!
# DeclaredVariables — the declarators of a block and the variables behind them

A declaration block is put together in two steps: the variables are grouped by type, and each gets a
declarator.  Nothing is lost or made up on the way:

* `SymbolTable.mem_groups_iff` — the groups are the types with variables;
* `mem_declarators_iff` — the declarators of a block are those of the declarable variables;
* `mem_names_iff`, `nodup_names` — they declare the names of these variables, each of them once.
-/

namespace NativeMethod

namespace StorageType

theorem mem_all (t : StorageType) : t ∈ all := by
  cases t <;> decide

theorem pairwise_ordinal_all : all.Pairwise fun t t' => t.ordinal < t'.ordinal := by
  decide

end StorageType

/-! ## Declarators -/

namespace Variable

theorem name_of_declarator {v : Variable} {d : Declarator} (h : v.declarator = .ok d) :
    d.name = v.name := by
  unfold declarator at h
  split at h
  · cases h
    rfl
  · split at h
    · cases h
      rfl
    · rcases Outcome.map_eq_ok_iff.1 h with ⟨i, _, hd⟩
      rw [← hd]

/-- A boxed value in the local itself has nothing to be initialised with, and a pointer to one is
null or nothing. -/
theorem declarator_of_isBoxed {v : Variable} (boxed : v.type.isBoxed = true) :
    v.declarator = .ok
      (if v.isLocalOnly then ⟨v.name, 0, none⟩
      else ⟨v.name, if v.isDoublePointer then 2 else 1,
        if v.init = .mustInitNull then some .nullPointer else none⟩) := by
  have hcache : v.type ≠ .callCache := by
    intro h
    rw [h] at boxed
    cases boxed
  cases hinline : v.isLocalOnly <;>
    simp [declarator, isInlineBoxed, pointerInitializer?, boxed, hinline, hcache]

end Variable

/-! ## Groups -/

namespace SymbolTable

theorem mem_groups_iff {t : SymbolTable} {type : StorageType} {vs : List Variable} :
    (type, vs) ∈ t.groups ↔ vs = t.declarable.filter (·.type == type) ∧ vs ≠ [] := by
  unfold groups
  rw [List.mem_filterMap]
  constructor
  · rintro ⟨type', _, h⟩
    rcases hown : t.declarable.filter (·.type == type') with _ | ⟨w, ws⟩
    · rw [hown] at h
      cases h
    · rw [hown] at h
      cases h
      exact ⟨hown.symm, List.cons_ne_nil w ws⟩
  · rintro ⟨hvs, hne⟩
    refine ⟨type, type.mem_all, ?_⟩
    rw [← hvs]
    cases vs with
    | nil => exact absurd rfl hne
    | cons w ws => rfl

/-- The groups stand in the order of their types. -/
theorem pairwise_ordinal_groups (t : SymbolTable) :
    t.groups.Pairwise fun g g' => g.1.ordinal < g'.1.ordinal := by
  unfold groups
  rw [List.pairwise_filterMap]
  refine StorageType.pairwise_ordinal_all.imp ?_
  intro type type' hlt g hg g' hg'
  split at hg
  · cases hg
  · cases hg
    split at hg'
    · cases hg'
    · cases hg'
      exact hlt

/-- No type has two groups. -/
theorem pairwise_groups (t : SymbolTable) : t.groups.Pairwise fun g g' => g.1 ≠ g'.1 := by
  refine t.pairwise_ordinal_groups.imp ?_
  intro g g' hlt hsame
  exact Nat.ne_of_lt hlt (congrArg StorageType.ordinal hsame)

/-- The variables of a group have its type. -/
theorem type_of_mem_group {t : SymbolTable} {g : StorageType × List Variable} (hg : g ∈ t.groups)
    {v : Variable} (hv : v ∈ g.2) : v.type = g.1 := by
  obtain ⟨type, members⟩ := g
  rw [(mem_groups_iff.1 hg).1] at hv
  simpa using (List.mem_filter.1 hv).2

/-- A variable is declarable exactly when it stands in the group of its type. -/
theorem mem_declarable_iff {t : SymbolTable} {v : Variable} :
    v ∈ t.declarable ↔ ∃ g ∈ t.groups, v ∈ g.2 := by
  constructor
  · intro hv
    have hown : v ∈ t.declarable.filter (·.type == v.type) := by
      simp [hv]
    exact ⟨(v.type, _), mem_groups_iff.2 ⟨rfl, List.ne_nil_of_mem hown⟩, hown⟩
  · rintro ⟨⟨type, vs⟩, hg, hv⟩
    rcases mem_groups_iff.1 hg with ⟨hvs, _⟩
    rw [hvs] at hv
    exact List.mem_of_mem_filter hv

end SymbolTable

/-! ## Blocks -/

theorem DeclarationGroup.ofVariables_eq_ok {type : StorageType} {vs : List Variable}
    {g : DeclarationGroup} (h : ofVariables type vs = .ok g) :
    g.type = type ∧ type.cType? = some g.cType ∧
      List.Forall₂ (fun v d => v.declarator = .ok d) vs g.declarators := by
  unfold ofVariables at h
  split at h
  · rename_i cType hcType
    rcases Outcome.map_eq_ok_iff.1 h with ⟨ds, hds, hg⟩
    rw [← hg]
    exact ⟨rfl, hcType, Outcome.mapM_eq_ok_iff.1 hds⟩
  · cases h

/-- A block has one group of declarators for each group of variables. -/
theorem SymbolTable.declarationBlock_eq_ok {t : SymbolTable} {b : DeclarationBlock}
    (h : t.declarationBlock = .ok b) :
    List.Forall₂ (fun vs g => DeclarationGroup.ofVariables vs.1 vs.2 = .ok g) t.groups b.groups := by
  unfold declarationBlock at h
  rcases Outcome.map_eq_ok_iff.1 h with ⟨gs, hgs, hb⟩
  simpa only [← hb] using Outcome.mapM_eq_ok_iff.1 hgs

/-- Every declarable variable has its declarator in the group of its type. -/
theorem exists_declarator {t : SymbolTable} {b : DeclarationBlock}
    (h : t.declarationBlock = .ok b) {v : Variable} (hv : v ∈ t.declarable) :
    ∃ g ∈ b.groups, g.type = v.type ∧ ∃ d ∈ g.declarators, v.declarator = .ok d := by
  have hown : v ∈ t.declarable.filter (·.type == v.type) := by
    simp [hv]
  have hgroup : (v.type, t.declarable.filter (·.type == v.type)) ∈ t.groups :=
    SymbolTable.mem_groups_iff.2 ⟨rfl, List.ne_nil_of_mem hown⟩
  rcases Outcome.exists_result (SymbolTable.declarationBlock_eq_ok h) hgroup with ⟨g, hg, hof⟩
  rcases DeclarationGroup.ofVariables_eq_ok hof with ⟨htype, _, hdeclarators⟩
  rcases Outcome.exists_result hdeclarators hown with ⟨d, hd, hok⟩
  exact ⟨g, hg, htype, d, hd, hok⟩

/-- The declarators of a block are those of the declarable variables. -/
theorem mem_declarators_iff {t : SymbolTable} {b : DeclarationBlock}
    (h : t.declarationBlock = .ok b) {d : Declarator} :
    (∃ g ∈ b.groups, d ∈ g.declarators) ↔ ∃ v ∈ t.declarable, v.declarator = .ok d := by
  have hgroups := SymbolTable.declarationBlock_eq_ok h
  constructor
  · rintro ⟨g, hg, hd⟩
    rcases Outcome.exists_source hgroups hg with ⟨vs, hvs, hof⟩
    rcases DeclarationGroup.ofVariables_eq_ok hof with ⟨_, _, hdeclarators⟩
    rcases Outcome.exists_source hdeclarators hd with ⟨v, hv, hok⟩
    exact ⟨v, SymbolTable.mem_declarable_iff.2 ⟨vs, hvs, hv⟩, hok⟩
  · rintro ⟨v, hv, hok⟩
    rcases exists_declarator h hv with ⟨g, hg, _, d', hd', hok'⟩
    -- a variable has one declarator
    rw [hok] at hok'
    cases hok'
    exact ⟨g, hg, hd'⟩

/-! ## Declared names -/

/-- The identifiers that the declarators of a block declare, in order. -/
def DeclarationBlock.names (b : DeclarationBlock) : List String :=
  b.groups.flatMap fun g => g.declarators.map (·.name)

theorem mem_names_iff {t : SymbolTable} {b : DeclarationBlock} (h : t.declarationBlock = .ok b)
    {x : String} : x ∈ b.names ↔ ∃ v ∈ t.declarable, v.name = x := by
  constructor
  · intro hx
    rcases List.mem_flatMap.1 hx with ⟨g, hg, hname⟩
    rcases List.mem_map.1 hname with ⟨d, hd, rfl⟩
    rcases (mem_declarators_iff h).1 ⟨g, hg, hd⟩ with ⟨v, hv, hok⟩
    exact ⟨v, hv, (Variable.name_of_declarator hok).symm⟩
  · rintro ⟨v, hv, rfl⟩
    rcases exists_declarator h hv with ⟨g, hg, _, d, hd, hok⟩
    exact List.mem_flatMap.2 ⟨g, hg, List.mem_map.2 ⟨d, hd, Variable.name_of_declarator hok⟩⟩

/-- The names of a block are those of the groups, in order. -/
theorem names_eq {t : SymbolTable} {b : DeclarationBlock} (h : t.declarationBlock = .ok b) :
    b.names = t.groups.flatMap fun g => g.2.map (·.name) := by
  have hmap : (t.groups.map fun g => g.2.map (·.name)) =
      b.groups.map fun g => g.declarators.map (·.name) := by
    refine Outcome.map_eq_map (SymbolTable.declarationBlock_eq_ok h) ?_
    intro vs g hof
    rcases DeclarationGroup.ofVariables_eq_ok hof with ⟨_, _, hdeclarators⟩
    exact Outcome.map_eq_map hdeclarators fun v d hok => (Variable.name_of_declarator hok).symm
  calc
    b.names = (b.groups.map fun g => g.declarators.map (·.name)).flatten := List.flatMap_def
    _ = (t.groups.map fun g => g.2.map (·.name)).flatten := by rw [hmap]
    _ = t.groups.flatMap fun g => g.2.map (·.name) := List.flatMap_def.symm

/-- A block declares no name twice if the table has no name twice. -/
theorem nodup_names {t : SymbolTable} {b : DeclarationBlock} (h : t.declarationBlock = .ok b)
    (distinct : t.NamesDistinct) : b.names.Nodup := by
  have hdeclarable : (t.declarable.map (·.name)).Nodup :=
    distinct.sublist (List.filter_sublist.map _)
  rw [names_eq h, List.nodup_flatMap]
  constructor
  · rintro ⟨type, vs⟩ hg
    rcases SymbolTable.mem_groups_iff.1 hg with ⟨rfl, _⟩
    exact hdeclarable.sublist (List.filter_sublist.map _)
  · refine (t.pairwise_groups).imp_of_mem ?_
    rintro ⟨type, vs⟩ ⟨type', vs'⟩ hg hg' hne x hx hx'
    rcases SymbolTable.mem_groups_iff.1 hg with ⟨rfl, _⟩
    rcases SymbolTable.mem_groups_iff.1 hg' with ⟨rfl, _⟩
    rcases List.mem_map.1 hx with ⟨v, hv, rfl⟩
    rcases List.mem_map.1 hx' with ⟨w, hw, hname⟩
    rcases List.mem_filter.1 hv with ⟨hv, htype⟩
    rcases List.mem_filter.1 hw with ⟨hw, htype'⟩
    -- a name has one variable, and that has one type
    have hwv : w = v := List.inj_on_of_nodup_map hdeclarable hw hv hname
    subst hwv
    exact hne ((eq_of_beq htype).symm.trans (eq_of_beq htype'))

end NativeMethod
