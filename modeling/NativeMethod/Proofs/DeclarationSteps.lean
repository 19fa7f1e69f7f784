import NativeMethod.Proofs.DeclaredVariables

/-!
# DeclarationSteps — a declaration block written one piece at a time

The declarations of a table can be written in one pass.  The variables are handed out to groups by a
search for the group of their type, the groups are sorted, and the statements are written group by group
and declarator by declarator; the first type without storage and the first default that does not fit end
the pass:

* `addToGroups`, `SymbolTable.collected`, `SymbolTable.sortedGroups` — the groups;
* `addToGroups_groupsOf` — a variable goes behind those of its type and moves no other;
* `SymbolTable.sortedGroups_eq` — behind the last variable, the sorted groups are those of the table;
* `writeMembers`, `writeGroups`, `SymbolTable.writeDeclarations` — the statements;
* `SymbolTable.writeDeclarations_eq` — they are those of the declaration block, and the pass ends early
  exactly where there is none.
-/

namespace NativeMethod

/-- The variables of one type. -/
abbrev TypeGroup := StorageType × List Variable

/-! ## Groups -/

/-- Puts a variable behind those of its type, or into a group of its own at the end. -/
def addToGroups (v : Variable) : List TypeGroup → List TypeGroup
  | [] => [(v.type, [v])]
  | (type, members) :: rest =>
    if type = v.type then (type, members ++ [v]) :: rest
    else (type, members) :: addToGroups v rest

namespace SymbolTable

/-- The groups of the declarable variables, each type where its first variable stands. -/
def collected (t : SymbolTable) : List TypeGroup :=
  t.declarable.foldl (fun groups v => addToGroups v groups) []

def sortedGroups (t : SymbolTable) : List TypeGroup :=
  t.collected.mergeSort fun g g' => g.1.ordinal ≤ g'.1.ordinal

end SymbolTable

/-- The groups of some types among some variables. -/
def groupsOf (types : List StorageType) (vs : List Variable) : List TypeGroup :=
  types.map fun type => (type, vs.filter (·.type == type))

/-- The types are those of the variables, each of them once. -/
structure TypesOf (vs : List Variable) (types : List StorageType) : Prop where
  nodup : types.Nodup
  mem_iff : ∀ type, type ∈ types ↔ ∃ v ∈ vs, v.type = type

theorem groupsOf_cons (type : StorageType) (types : List StorageType) (vs : List Variable) :
    groupsOf (type :: types) vs = (type, vs.filter (·.type == type)) :: groupsOf types vs := rfl

theorem groupsOf_concat_of_not_mem {types : List StorageType} {v : Variable}
    (absent : v.type ∉ types) (vs : List Variable) :
    groupsOf types (vs ++ [v]) = groupsOf types vs := by
  apply List.map_congr_left
  intro type htype
  have hother : v.type ≠ type := fun h => absent (h ▸ htype)
  simp [hother]

/-- The groups of all types but that of a variable stay as they are when the variable comes. -/
theorem addToGroups_groupsOf {types : List StorageType} (nodup : types.Nodup) (v : Variable)
    (vs : List Variable) :
    addToGroups v (groupsOf types vs) =
      if v.type ∈ types then groupsOf types (vs ++ [v])
      else groupsOf types vs ++ [(v.type, [v])] := by
  induction types with
  | nil => rfl
  | cons type rest ih =>
      rw [List.nodup_cons] at nodup
      by_cases htype : type = v.type
      · -- the variable has found its group, and there is no second one
        have hrest : groupsOf rest (vs ++ [v]) = groupsOf rest vs :=
          groupsOf_concat_of_not_mem (htype ▸ nodup.1) vs
        rw [groupsOf_cons, addToGroups, if_pos htype, if_pos (by simp [htype]), groupsOf_cons, hrest]
        simp [htype]
      · -- the search goes on, and the group in front stays as it is
        have hother : v.type ≠ type := Ne.symm htype
        have hkept : (vs ++ [v]).filter (·.type == type) = vs.filter (·.type == type) := by
          simp [hother]
        rw [groupsOf_cons, addToGroups, if_neg htype, ih nodup.2]
        by_cases hmem : v.type ∈ rest
        · simp [hmem, groupsOf_cons, hkept]
        · simp [hmem, hother]

/-- One more variable keeps the groups complete. -/
theorem TypesOf.exists_addToGroups {vs : List Variable} {types : List StorageType}
    (h : TypesOf vs types) (v : Variable) :
    ∃ types', TypesOf (vs ++ [v]) types' ∧
      addToGroups v (groupsOf types vs) = groupsOf types' (vs ++ [v]) := by
  have hadded := addToGroups_groupsOf h.nodup v vs
  by_cases hmem : v.type ∈ types
  -- the types stay, or the new one comes behind them
  · refine ⟨types, ⟨h.nodup, fun type => ?_⟩, by simpa [hmem] using hadded⟩
    have hown : v.type = type → ∃ w ∈ vs, w.type = type := fun htype =>
      (h.mem_iff type).1 (htype ▸ hmem)
    simpa [h.mem_iff, or_and_right, exists_or] using hown
  · refine ⟨types ++ [v.type], ⟨?_, fun type => ?_⟩, ?_⟩
    · rw [List.nodup_append']
      exact ⟨h.nodup, List.nodup_singleton _, by simpa using hmem⟩
    · simp [h.mem_iff, or_and_right, exists_or, eq_comm]
    · -- none of the earlier variables has the new type
      have hnone : vs.filter (·.type == v.type) = [] := by
        rw [List.filter_eq_nil_iff]
        intro w hw htype
        exact hmem ((h.mem_iff v.type).2 ⟨w, hw, by simpa using htype⟩)
      have hold : groupsOf types (vs ++ [v]) = groupsOf types vs := groupsOf_concat_of_not_mem hmem vs
      have hnew : groupsOf [v.type] (vs ++ [v]) = [(v.type, [v])] := by
        simp [groupsOf, hnone]
      calc
        addToGroups v (groupsOf types vs) = groupsOf types vs ++ [(v.type, [v])] := by
          simpa [hmem] using hadded
        _ = groupsOf types (vs ++ [v]) ++ groupsOf [v.type] (vs ++ [v]) := by rw [hold, hnew]
        _ = groupsOf (types ++ [v.type]) (vs ++ [v]) := List.map_append.symm

theorem TypesOf.exists_foldl {vs : List Variable} {types : List StorageType} (h : TypesOf vs types)
    (more : List Variable) :
    ∃ types', TypesOf (vs ++ more) types' ∧
      more.foldl (fun groups v => addToGroups v groups) (groupsOf types vs) =
        groupsOf types' (vs ++ more) := by
  induction more generalizing vs types with
  | nil => exact ⟨types, by simpa using h, by simp⟩
  | cons v more ih =>
      obtain ⟨types', htypes', hadded⟩ := h.exists_addToGroups v
      obtain ⟨types'', htypes'', hfold⟩ := ih htypes'
      rw [List.append_assoc, List.singleton_append] at htypes'' hfold
      refine ⟨types'', htypes'', ?_⟩
      rw [List.foldl_cons, hadded, hfold]

namespace SymbolTable

variable (t : SymbolTable)

theorem exists_collected_eq :
    ∃ types, TypesOf t.declarable types ∧ t.collected = groupsOf types t.declarable := by
  have hnone : TypesOf [] [] := ⟨List.nodup_nil, by simp⟩
  simpa [collected, groupsOf] using hnone.exists_foldl t.declarable

/-- Collecting the variables and taking the types one after the other give the same groups. -/
theorem collected_perm_groups : t.collected.Perm t.groups := by
  obtain ⟨types, htypes, heq⟩ := t.exists_collected_eq
  have hnodup : t.collected.Nodup := by
    rw [heq]
    exact htypes.nodup.map fun type type' h => congrArg (·.1) h
  have hordered : t.groups.Nodup := t.pairwise_groups.imp fun hne h => hne (congrArg (·.1) h)
  -- neither list has a group twice, so it is enough that they have the same ones
  rw [List.perm_ext_iff_of_nodup hnodup hordered]
  rintro ⟨type, members⟩
  have hfilter : (∃ v ∈ t.declarable, v.type = type) ↔ t.declarable.filter (·.type == type) ≠ [] := by
    simp [List.filter_eq_nil_iff]
  rw [mem_groups_iff, heq]
  constructor
  · intro hmem
    obtain ⟨type', htype', hgroup⟩ := List.mem_map.1 hmem
    cases hgroup
    exact ⟨rfl, hfilter.1 ((htypes.mem_iff type).1 htype')⟩
  · rintro ⟨rfl, hne⟩
    exact List.mem_map.2 ⟨type, (htypes.mem_iff type).2 (hfilter.2 hne), rfl⟩

/-- Sorted by their types, the collected groups are the groups of the table. -/
theorem sortedGroups_eq : t.sortedGroups = t.groups := by
  have hsorted : t.sortedGroups.Pairwise fun g g' => decide (g.1.ordinal ≤ g'.1.ordinal) = true :=
    List.pairwise_mergeSort (by simpa using fun _ _ _ => Nat.le_trans)
      (by simpa using fun _ _ => Nat.le_total _ _) t.collected
  have hperm : t.sortedGroups.Perm t.groups :=
    (List.mergeSort_perm _ _).trans t.collected_perm_groups
  have hgroups : t.groups.Pairwise fun g g' => decide (g.1.ordinal ≤ g'.1.ordinal) = true :=
    t.pairwise_ordinal_groups.imp fun hlt => decide_eq_true (Nat.le_of_lt hlt)
  refine hperm.eq_of_pairwise ?_ hsorted hgroups
  -- two groups of the same type are the same
  rintro ⟨type, members⟩ ⟨type', members'⟩ hmem hmem' hle hle'
  have hordinal : type.ordinal = type'.ordinal :=
    Nat.le_antisymm (of_decide_eq_true hle) (of_decide_eq_true hle')
  have htype : type = type' := by
    have hcode := congrArg StorageType.ofOrdinal? hordinal
    simpa [StorageType.ofOrdinal?_ordinal] using hcode
  subst htype
  rw [(mem_groups_iff.1 (hperm.mem_iff.1 hmem)).1, (mem_groups_iff.1 hmem').1]

end SymbolTable

/-! ## Statements -/

/-- The line for an inline value. -/
def Variable.undefinedLine (v : Variable) : String := "ZVAL_UNDEF(&" ++ v.name ++ ");"

/-- What a pass has written. -/
structure WrittenDeclarations where
  declarations : List String := []
  initializers : List String := []

/-- Writes the declarators of a group behind others, and the lines for inline values behind others.  The
first variable without a declarator ends it. -/
def writeMembers (type : StorageType) :
    List Variable → List String → List String → Except CompileError (List String × List String)
  | [], declarators, initializers => .ok (declarators, initializers)
  | v :: rest, declarators, initializers =>
    match v.declarator with
    | .error e => .error e
    | .ok d =>
      writeMembers type rest (declarators ++ [d.text])
        (if type.isBoxed && v.isLocalOnly then initializers ++ [v.undefinedLine] else initializers)

/-- Writes the statements of groups behind others.  The first type without storage ends it. -/
def writeGroups : List TypeGroup → WrittenDeclarations → Except CompileError WrittenDeclarations
  | [], w => .ok w
  | (type, members) :: rest, w =>
    match type.cType? with
    | none => .error (.undeclarable ((members.head?.map (·.name)).getD "") type)
    | some cType =>
      match writeMembers type members [] w.initializers with
      | .error e => .error e
      | .ok (declarators, initializers) =>
        writeGroups rest
          { declarations := w.declarations ++ [cType ++ " " ++ ", ".intercalate declarators ++ ";"]
            initializers }

/-- Writes the declarations of a table, group by group. -/
def SymbolTable.writeDeclarations (t : SymbolTable) : Except CompileError WrittenDeclarations :=
  writeGroups t.sortedGroups {}

/-- The members of a group add their declarators and lines to those in front of them. -/
theorem writeMembers_eq {type : StorageType} {members : List Variable}
    (typed : ∀ v ∈ members, v.type = type) (declarators initializers : List String) :
    writeMembers type members declarators initializers =
      (members.mapM Variable.declarator).map fun ds =>
        (declarators ++ ds.map Declarator.text,
          initializers ++ (members.filter (·.isInlineBoxed)).map Variable.undefinedLine) := by
  induction members generalizing declarators initializers with
  | nil => simp [writeMembers, pure, Except.pure, Except.map]
  | cons v rest ih =>
      have htype : v.type = type := typed v List.mem_cons_self
      have hrest := ih fun w hw => typed w (List.mem_cons_of_mem v hw)
      -- the line depends on the type of the group, which is that of the variable
      have hinline : v.isInlineBoxed = (type.isBoxed && v.isLocalOnly) := by
        rw [Variable.isInlineBoxed, htype]
      rw [writeMembers, List.mapM_cons]
      cases hdeclarator : v.declarator with
      | error e => rfl
      | ok d =>
          simp only [hrest]
          cases rest.mapM Variable.declarator with
          | error e => rfl
          | ok ds =>
              cases hboxed : (type.isBoxed && v.isLocalOnly) <;>
                simp [bind, Except.bind, pure, Except.pure, Except.map, hinline, hboxed]

theorem writeGroups_eq {groups : List TypeGroup}
    (typed : ∀ g ∈ groups, ∀ v ∈ g.2, v.type = g.1) (w : WrittenDeclarations) :
    writeGroups groups w =
      (groups.mapM fun g => DeclarationGroup.ofVariables g.1 g.2).map fun gs =>
        { declarations := w.declarations ++ gs.map DeclarationGroup.text
          initializers := w.initializers ++
            groups.flatMap fun g => (g.2.filter (·.isInlineBoxed)).map Variable.undefinedLine } := by
  induction groups generalizing w with
  | nil => simp [writeGroups, pure, Except.pure, Except.map]
  | cons g rest ih =>
      obtain ⟨type, members⟩ := g
      have hmembers := writeMembers_eq (typed _ List.mem_cons_self) [] w.initializers
      have hrest := ih fun g hg => typed g (List.mem_cons_of_mem _ hg)
      rw [writeGroups, List.mapM_cons]
      cases hstored : type.cType? with
      | none => simp [DeclarationGroup.ofVariables, hstored, bind, Except.bind, Except.map]
      | some cType =>
          have hof : DeclarationGroup.ofVariables type members =
              (members.mapM Variable.declarator).map fun ds => ⟨type, cType, ds⟩ := by
            simp only [DeclarationGroup.ofVariables, hstored]
          cases hdeclarators : members.mapM Variable.declarator with
          | error e =>
              -- the declarators written so far are lost with the pass
              rw [hdeclarators] at hmembers hof
              simp only [hmembers, hof]
              rfl
          | ok ds =>
              rw [hdeclarators] at hmembers hof
              simp only [hmembers, hof, Except.map, hrest]
              cases rest.mapM fun g => DeclarationGroup.ofVariables g.1 g.2 <;>
                simp [bind, Except.bind, pure, Except.pure, DeclarationGroup.text]

/-- A table is written with the statements and lines of its declaration block, and fails as the block
does. -/
theorem SymbolTable.writeDeclarations_eq (t : SymbolTable) :
    t.writeDeclarations = t.declarationBlock.map fun b => ⟨b.declarations, b.initializers⟩ := by
  have htyped : ∀ g ∈ t.groups, ∀ v ∈ g.2, v.type = g.1 := fun _ hg _ hv => type_of_mem_group hg hv
  rw [writeDeclarations, t.sortedGroups_eq, writeGroups_eq htyped, declarationBlock]
  cases t.groups.mapM fun g => DeclarationGroup.ofVariables g.1 g.2 with
  | error e => rfl
  | ok gs =>
      have hline : Variable.undefinedLine = fun v => "ZVAL_UNDEF(&" ++ v.name ++ ");" := rfl
      simp [Except.map, DeclarationBlock.declarations, DeclarationBlock.initializers,
        List.map_flatMap, hline, Function.comp_def]

end NativeMethod
