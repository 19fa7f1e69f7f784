import NativeMethod.Parameter.Binding
import NativeMethod.Proofs.Outcomes
import NativeMethod.Proofs.TableHistory

/-!
# BoundParameters — what a successful binding leaves behind

Binding goes through the parameters of a method one after the other.  When it succeeds,

* every parameter passed its checks, and the decisions about it are those the facts call for
  (`BoundParameter.Follows`);
* the table grew by the backing variables of all parameters, in order, under fresh names;
* the requests for a managed frame are those of the bound parameters.

`Binds` is the run as a relation; each law of a whole list is an induction on it.
-/

namespace NativeMethod

open SymbolTable (NamesDistinct)

/-! ## The checks of one parameter -/

namespace Parameter

theorem checkType_eq_ok_iff {p : Parameter} :
    p.checkType = .ok () ↔
      p.type.isInternal = false ∧ p.type ≠ .void ∧ p.type ≠ .unknown ∧
        (p.constraint.isSome → p.type = .object) := by
  unfold checkType
  cases hinternal : p.type.isInternal <;> by_cases hvoid : p.type = .void <;>
    by_cases hunknown : p.type = .unknown <;> by_cases hobject : p.type = .object <;>
    cases p.constraint.isSome <;> simp_all

theorem checkNames_eq_ok_iff {p : Parameter} {t : SymbolTable} :
    p.checkNames t = .ok () ↔ ∀ v ∈ p.backing, t.find? v.name = none := by
  have hfree (x : String) : t.contains x = false ↔ t.find? x = none := by
    rw [SymbolTable.contains_eq_isSome_find?]
    simp
  have hnone : (p.backing.map (·.name)).find? t.contains = none ↔
      ∀ v ∈ p.backing, t.find? v.name = none := by
    simp [hfree]
  rw [← hnone]
  unfold checkNames
  cases (p.backing.map (·.name)).find? t.contains <;> simp

theorem check_eq_ok_iff {p : Parameter} {t : SymbolTable} :
    p.check t = .ok () ↔
      p.checkType = .ok () ∧ p.checkDefault = .ok () ∧ p.checkNames t = .ok () := by
  unfold check
  constructor
  · intro h
    obtain ⟨_, htype, hrest⟩ := Outcome.bind_eq_ok_iff.1 h
    obtain ⟨_, hdefault, hnames⟩ := Outcome.bind_eq_ok_iff.1 hrest
    exact ⟨htype, hdefault, hnames⟩
  · rintro ⟨htype, hdefault, hnames⟩
    rw [htype, hdefault, hnames]
    rfl

/-- A slot has a longer name than its local. -/
theorem nodup_names_backing (p : Parameter) : (p.backing.map (·.name)).Nodup := by
  cases hslot : p.type.hasSlot with
  | false => simp [backing, slotVariable?, slotName?, hslot]
  | true =>
      have hne : p.name ≠ p.name ++ "_param" := by
        intro h
        have hlength := congrArg String.length h
        simp at hlength
      simpa [backing, slotVariable?, slotName?, localVariable, hslot] using hne

/-- A parameter that can be bound either has a slot or is boxed and taken as it comes. -/
theorem isPolymorphic_of_checkType {p : Parameter} (h : p.checkType = .ok ()) :
    p.type.isPolymorphic = !p.type.hasSlot := by
  obtain ⟨hinternal, hvoid, hunknown, _⟩ := checkType_eq_ok_iff.1 h
  refine StorageType.isPolymorphic_eq_not_hasSlot ?_ hinternal
  revert hvoid hunknown
  cases p.type <;> decide

/-! ## The variable that is fetched -/

/-- The variable that the argument is fetched into: the slot if there is one, else the local. -/
def fetched (p : Parameter) : Variable := p.slotVariable?.getD p.localVariable

theorem fetched_mem_backing (p : Parameter) : p.fetched ∈ p.backing := by
  unfold fetched backing
  cases p.slotVariable? with
  | none => exact List.mem_cons_self
  | some v => exact List.mem_cons_of_mem _ List.mem_cons_self

theorem name_fetched (p : Parameter) : p.fetched.name = p.fetchedName := by
  cases hslot : p.type.hasSlot <;>
    simp [fetched, fetchedName, slotVariable?, slotName?, localVariable, hslot]

theorem init_fetched_of_isOptional {p : Parameter} (optional : p.isOptional = true) :
    p.fetched.init = .mustInitNull := by
  cases hslot : p.type.hasSlot <;>
    simp [fetched, fetchedInit, slotVariable?, slotName?, localVariable, hslot, optional]

/-- Only locals that are converted into are stored inline, and nothing is fetched into those. -/
theorem isLocalOnly_fetched (p : Parameter) : p.fetched.isLocalOnly = false := by
  cases hslot : p.type.hasSlot with
  | false =>
      have htype : p.type ≠ .string ∧ p.type ≠ .array := by
        constructor <;> intro h <;> simp [h, StorageType.hasSlot] at hslot
      simp [fetched, slotVariable?, slotName?, localVariable, Variable.isLocalOnly, hslot, htype]
  | true => simp [fetched, slotVariable?, slotName?, Variable.isLocalOnly, hslot]

theorem isImplicit_fetched (p : Parameter) : p.fetched.isImplicit = false := by
  cases hslot : p.type.hasSlot <;>
    simp [fetched, slotVariable?, slotName?, localVariable, Variable.isImplicit, hslot]

theorem isBoxed_fetched {p : Parameter} (h : p.checkType = .ok ()) :
    p.fetched.type.isBoxed = true := by
  cases hslot : p.type.hasSlot with
  | false =>
      have hpolymorphic : p.type.isPolymorphic = true := by
        simp [isPolymorphic_of_checkType h, hslot]
      have hboxed : p.type.isBoxed = true := StorageType.isBoxed_of_isPolymorphic hpolymorphic
      simpa [fetched, slotVariable?, slotName?, localVariable, hslot] using hboxed
  | true =>
      have htype : p.fetched.type = .generic := by
        simp [fetched, slotVariable?, slotName?, hslot]
      rw [htype]
      rfl

end Parameter

/-! ## The decisions about one parameter -/

/-- The parameter can be bound, and what was decided about it is what the facts call for. -/
structure BoundParameter.Follows (b : BoundParameter) (facts : BindingFacts) : Prop where
  type_ok : b.parameter.checkType = .ok ()
  default_ok : b.parameter.checkDefault = .ok ()
  fallback_ok : b.parameter.fallback facts = .ok b.fallback
  isSeparated_eq :
    b.isSeparated = (b.parameter.type.isBoxed && (facts.estimate b.name).needsSeparation)
  inferred_eq : b.inferred = b.parameter.inferred? facts

namespace BoundParameter

variable {facts : BindingFacts} {b : BoundParameter}

/-- There is code for the case that an argument is missing exactly for optional parameters. -/
theorem Follows.isSome_fallback (h : b.Follows facts) :
    b.fallback.isSome = b.parameter.isOptional := by
  have hok := h.fallback_ok
  unfold Parameter.fallback at hok
  unfold Parameter.isOptional
  cases hdefault : b.parameter.default with
  | none =>
      rw [hdefault] at hok
      rw [← Except.ok.inj hok]
      rfl
  | some l =>
      rw [hdefault] at hok
      obtain ⟨i, _, hi⟩ := Outcome.map_eq_ok_iff.1 hok
      rw [← hi]
      rfl

/-- The code for a missing argument is that of the default. -/
theorem Follows.fallback_eq_some_iff (h : b.Follows facts) {i : Initialization} :
    b.fallback = some i ↔
      ∃ l, b.parameter.default = some l ∧
        b.parameter.localVariable.initialization facts.constants (facts.estimate b.name)
          b.parameter.span l = .ok i := by
  have hok := h.fallback_ok
  unfold Parameter.fallback at hok
  cases hdefault : b.parameter.default with
  | none =>
      rw [hdefault] at hok
      rw [← Except.ok.inj hok]
      simp
  | some l =>
      rw [hdefault] at hok
      rcases Outcome.map_eq_ok_iff.1 hok with ⟨j, hj, hfallback⟩
      -- a parameter has one default, and that has one code
      rw [← hfallback]
      constructor
      · intro hi
        cases hi
        exact ⟨l, rfl, hj⟩
      · rintro ⟨l', hl, hi⟩
        cases hl
        have hsame : Except.ok j = (Except.ok i : Except CompileError Initialization) :=
          hj.symm.trans hi
        cases hsame
        rfl

/-- A constrained parameter holds objects, so it has no slot. -/
theorem Follows.hasSlot_of_constraint (h : b.Follows facts)
    (constrained : b.parameter.constraint.isSome) : b.parameter.type.hasSlot = false := by
  obtain ⟨_, _, _, hobject⟩ := Parameter.checkType_eq_ok_iff.1 h.type_ok
  rw [hobject constrained]
  rfl

/-! ### The code of one parameter -/

theorem fragments_of_required (required : b.fallback = none) (indent : Nat) :
    b.fragments indent = b.suppliedFragments indent := by
  simp [fragments, required]

theorem fragments_of_optional {i : Initialization} (optional : b.fallback = some i)
    (indent : Nat) :
    b.fragments indent =
      .code indent ("if (!" ++ b.parameter.fetchedName ++ ") \x7b") ::
        (Fragment.codeLines (indent + 1) i.lines ++
          ((if (b.suppliedFragments (indent + 1)).isEmpty then []
            else .code indent "\x7d else \x7b" :: b.suppliedFragments (indent + 1)) ++
            [.code indent "\x7d"])) := by
  simp only [fragments, optional, List.append_assoc, List.cons_append, List.nil_append]

/-- Around the two branches of an optional parameter there are only a test and braces. -/
theorem filter_fragments_of_optional {i : Initialization} (optional : b.fallback = some i)
    (indent : Nat) {P : Fragment → Bool}
    (test : P (.code indent ("if (!" ++ b.parameter.fetchedName ++ ") \x7b")) = false)
    (middle : P (.code indent "\x7d else \x7b") = false) (last : P (.code indent "\x7d") = false) :
    (b.fragments indent).filter P =
      (Fragment.codeLines (indent + 1) i.lines).filter P ++
        (b.suppliedFragments (indent + 1)).filter P := by
  have hbranch : (if (b.suppliedFragments (indent + 1)).isEmpty then []
      else Fragment.code indent "\x7d else \x7b" :: b.suppliedFragments (indent + 1)).filter P =
        (b.suppliedFragments (indent + 1)).filter P := by
    cases b.suppliedFragments (indent + 1) with
    | nil => rfl
    | cons f fs => simp [middle]
  rw [fragments_of_optional optional, List.filter_cons_of_neg (by simp [test]), List.filter_append,
    List.filter_append, hbranch]
  simp [last]

end BoundParameter

theorem Parameter.bind_eq_ok {facts : BindingFacts} {p : Parameter} {b : BoundParameter}
    {s s' : MethodState} (h : p.bind facts s = (.ok b, s')) :
    b.parameter = p ∧ b.Follows facts ∧ p.checkNames s.table = .ok () ∧
      s' = ⟨s.table.append p.backing, s.growth.requestTimes b.requests⟩ := by
  unfold Parameter.bind at h
  split at h
  · cases h
  · rename_i hcheck
    obtain ⟨htype, hdefault, hnames⟩ := Parameter.check_eq_ok_iff.1 hcheck
    dsimp only at h
    split at h
    · cases h
    · rename_i hfallback
      cases h
      exact ⟨rfl, ⟨htype, hdefault, hfallback, rfl, rfl⟩, hnames, rfl⟩

/-! ## Whole lists -/

theorem bindParameters_cons_of_error {facts : BindingFacts} {p : Parameter} {s s' : MethodState}
    {e : CompileError} (h : p.bind facts s = (.error e, s')) (ps : List Parameter) :
    bindParameters facts (p :: ps) s = (.error e, s') := by
  simp only [bindParameters, h]

theorem bindParameters_cons_of_ok {facts : BindingFacts} {p : Parameter} {b : BoundParameter}
    {s s' : MethodState} (h : p.bind facts s = (.ok b, s')) (ps : List Parameter) :
    bindParameters facts (p :: ps) s =
      ((bindParameters facts ps s').1.map (b :: ·), (bindParameters facts ps s').2) := by
  simp only [bindParameters, h]

/-- Parameters are bound one after the other, each in the state the ones before it left. -/
inductive Binds (facts : BindingFacts) :
    List Parameter → MethodState → BoundParameters → MethodState → Prop where
  | nil (s : MethodState) : Binds facts [] s [] s
  | cons {p : Parameter} {ps : List Parameter} {b : BoundParameter} {bs : BoundParameters}
      {s s₁ s₂ : MethodState} :
      p.bind facts s = (.ok b, s₁) → Binds facts ps s₁ bs s₂ → Binds facts (p :: ps) s (b :: bs) s₂

theorem binds_of_bindParameters {facts : BindingFacts} {ps : List Parameter}
    {s s' : MethodState} {bs : BoundParameters} (h : bindParameters facts ps s = (.ok bs, s')) :
    Binds facts ps s bs s' := by
  induction ps generalizing s bs with
  | nil =>
      cases h
      exact .nil _
  | cons p ps ih =>
      unfold bindParameters at h
      split at h
      · cases h
      · rename_i b s₁ hbind
        dsimp only at h
        rcases hrest : bindParameters facts ps s₁ with ⟨result, s₂⟩
        rw [hrest] at h
        cases result with
        | error e => cases h
        | ok bs' =>
            cases h
            exact .cons hbind (ih hrest)

/-- How often binding the parameters asks for a managed frame. -/
def BoundParameters.requests : BoundParameters → Nat
  | [] => 0
  | b :: bs => b.requests + requests bs

namespace Binds

variable {facts : BindingFacts} {ps : List Parameter} {bs : BoundParameters} {s s' : MethodState}

theorem parameters_eq (h : Binds facts ps s bs s') : bs.map (·.parameter) = ps := by
  induction h with
  | nil s => rfl
  | cons hbind _ ih =>
      rw [List.map_cons, ih, (Parameter.bind_eq_ok hbind).1]

theorem mem_parameters (h : Binds facts ps s bs s') {b : BoundParameter} (hb : b ∈ bs) :
    b.parameter ∈ ps := by
  simpa only [← h.parameters_eq] using List.mem_map_of_mem hb

theorem exists_bound (h : Binds facts ps s bs s') {p : Parameter} (hp : p ∈ ps) :
    ∃ b ∈ bs, b.parameter = p := by
  rw [← h.parameters_eq] at hp
  exact List.mem_map.1 hp

theorem follows (h : Binds facts ps s bs s') : ∀ b ∈ bs, b.Follows facts := by
  induction h with
  | nil s =>
      intro b hb
      cases hb
  | cons hbind _ ih =>
      intro b hb
      rcases List.mem_cons.1 hb with rfl | hb
      · exact (Parameter.bind_eq_ok hbind).2.1
      · exact ih b hb

theorem table_eq (h : Binds facts ps s bs s') :
    s'.table = s.table.append (ps.flatMap Parameter.backing) := by
  induction h with
  | nil s => exact (SymbolTable.append_nil s.table).symm
  | @cons p ps _ _ s s₁ s₂ hbind _ ih =>
      have hstate := (Parameter.bind_eq_ok hbind).2.2.2
      calc
        s₂.table = s₁.table.append (ps.flatMap Parameter.backing) := ih
        _ = (s.table.append p.backing).append (ps.flatMap Parameter.backing) := by rw [hstate]
        _ = s.table.append ((p :: ps).flatMap Parameter.backing) := by simp [SymbolTable.append]

theorem growth_eq (h : Binds facts ps s bs s') :
    s'.growth = s.growth.requestTimes bs.requests := by
  induction h with
  | nil s => rfl
  | @cons _ _ b bs s s₁ s₂ hbind _ ih =>
      have hstate := (Parameter.bind_eq_ok hbind).2.2.2
      calc
        s₂.growth = s₁.growth.requestTimes bs.requests := ih
        _ = (s.growth.requestTimes b.requests).requestTimes bs.requests := by rw [hstate]
        _ = s.growth.requestTimes (b.requests + bs.requests) :=
              (Growth.requestTimes_add _ _ _).symm

/-- No backing variable was in the table that binding started with. -/
theorem fresh (h : Binds facts ps s bs s') :
    ∀ v ∈ ps.flatMap Parameter.backing, s.table.find? v.name = none := by
  induction h with
  | nil s =>
      intro v hv
      cases hv
  | cons hbind _ ih =>
      rcases Parameter.bind_eq_ok hbind with ⟨_, _, hnames, hstate⟩
      intro v hv
      rw [List.flatMap_cons] at hv
      rcases List.mem_append.1 hv with hown | hlater
      · exact Parameter.checkNames_eq_ok_iff.1 hnames v hown
      -- the later parameters are bound in a larger table, and are new even there
      · have hnone := ih v hlater
        rw [hstate, SymbolTable.find?_append, Option.or_eq_none_iff] at hnone
        exact hnone.1

/-- All backing variables have different names. -/
theorem nodup_backing (h : Binds facts ps s bs s') :
    ((ps.flatMap Parameter.backing).map (·.name)).Nodup := by
  induction h with
  | nil s => exact List.nodup_nil
  | @cons p _ _ _ _ _ _ hbind hrest ih =>
      rw [List.flatMap_cons, List.map_append, List.nodup_append']
      refine ⟨p.nodup_names_backing, ih, ?_⟩
      intro x hown hlater
      rcases List.mem_map.1 hlater with ⟨v, hv, rfl⟩
      -- the table that the later parameters start with has the variables of this one
      have hnone := hrest.fresh v hv
      rw [(Parameter.bind_eq_ok hbind).2.2.2, SymbolTable.find?_append,
        Option.or_eq_none_iff] at hnone
      rcases List.mem_map.1 hown with ⟨w, hw, hname⟩
      have hdiffer := List.find?_eq_none.1 hnone.2 w hw
      simp [hname] at hdiffer

theorem namesDistinct (h : Binds facts ps s bs s') (distinct : s.table.NamesDistinct) :
    s'.table.NamesDistinct := by
  simpa only [h.table_eq] using distinct.append h.nodup_backing h.fresh

/-- A backing variable is found in the table under its name. -/
theorem find?_backing (h : Binds facts ps s bs s') {p : Parameter} {v : Variable} (hp : p ∈ ps)
    (hv : v ∈ p.backing) : s'.table.find? v.name = some v := by
  have hmem : v ∈ ps.flatMap Parameter.backing := List.mem_flatMap.2 ⟨p, hp, hv⟩
  have hown : SymbolTable.find? ⟨ps.flatMap Parameter.backing⟩ v.name = some v :=
    SymbolTable.find?_eq_some_of_mem h.nodup_backing hmem
  rw [h.table_eq, SymbolTable.find?_append, h.fresh v hmem]
  exact hown

/-- Names of backing variables, one of each parameter, are different. -/
theorem nodup_map (h : Binds facts ps s bs s') {f : Parameter → String}
    (backs : ∀ p : Parameter, f p ∈ p.backing.map (·.name)) : (ps.map f).Nodup := by
  have hsub (qs : List Parameter) :
      (qs.map f).Sublist ((qs.flatMap Parameter.backing).map (·.name)) := by
    induction qs with
    | nil => exact List.Sublist.slnil
    | cons q qs ih =>
        rw [List.flatMap_cons, List.map_append, List.map_cons, ← List.singleton_append]
        exact (List.singleton_sublist.2 (backs q)).append ih
  exact h.nodup_backing.sublist (hsub ps)

/-- No two parameters are fetched into one variable. -/
theorem nodup_fetchedNames (h : Binds facts ps s bs s') : (ps.map (·.fetchedName)).Nodup :=
  h.nodup_map Parameter.fetchedName_mem_backing

/-- No two parameters have one name. -/
theorem nodup_names (h : Binds facts ps s bs s') : (ps.map (·.name)).Nodup :=
  h.nodup_map fun _ => List.mem_cons_self

end Binds
end NativeMethod
