import NativeMethod.Compilation
import NativeMethod.Proofs.BindingSteps
import NativeMethod.Proofs.Conversions

/-!
# WellFormedParameters — which lists of parameters can be bound

Binding ends at the first parameter that is not well formed, with the error for the first thing that is
wrong with it.  What is wrong depends on the parameter and on the names that are taken when its turn
comes: those of the table, and those of the variables behind the parameters in front of it.

* `Parameter.WellFormed`, `Parameter.Offends` — a parameter can be bound, or what is wrong with it;
* `WellFormedParameters`, `FirstOffence` — the same of a list, position by position;
* `bindParameters_firstOffence` — a list is bound if it is well formed, and the error is that of the
  first offence otherwise.  Binding operation by operation finds no other errors.
-/

namespace NativeMethod

/-- The names of the variables of a table, in declaration order. -/
def SymbolTable.names (t : SymbolTable) : List String := t.variables.map (·.name)

/-! ## One parameter -/

namespace Parameter

/-- The names behind a parameter: that of its local and then that of its slot. -/
def variableNames (p : Parameter) : List String := p.name :: p.slotName?.toList

/-- The type is one that a parameter can have. -/
def TypeAllowed (p : Parameter) : Prop :=
  p.type.isInternal = false ∧ p.type ≠ .void ∧ p.type ≠ .unknown

/-- A constraint stands on an object. -/
def ConstraintAllowed (p : Parameter) : Prop := p.constraint.isSome → p.type = .object

/-- A constraint has no default beside it but null. -/
def DefaultAllowed (p : Parameter) : Prop :=
  p.constraint.isSome → ∀ l, p.default = some l → l.isNull = true

def NamesFree (p : Parameter) (taken : List String) : Prop :=
  ∀ x ∈ p.variableNames, x ∉ taken

/-- The type can hold the default. -/
def DefaultFits (p : Parameter) : Prop := ∀ l, p.default = some l → l.fits p.type = true

/-- The parameter can be bound where the given names are taken. -/
structure WellFormed (p : Parameter) (taken : List String) : Prop where
  type_ok : p.TypeAllowed
  constraint_ok : p.ConstraintAllowed
  default_ok : p.DefaultAllowed
  names_free : p.NamesFree taken
  default_fits : p.DefaultFits

/-- Something is wrong with the parameter, and nothing that is looked at before.  The names are looked
at one by one, that of the local first. -/
inductive Offends (p : Parameter) (taken : List String) : CompileError → Prop where
  | type : ¬ p.TypeAllowed → Offends p taken (.unsupportedParameter p.name p.type p.span)
  | constraint :
      p.TypeAllowed → ¬ p.ConstraintAllowed →
        Offends p taken (.unsupportedParameter p.name p.type p.span)
  | constrainedDefault {c : ClassName} {l : Literal} :
      p.TypeAllowed → p.ConstraintAllowed → p.constraint = some c → p.default = some l →
        l.isNull = false → Offends p taken (.constrainedDefault p.name c.spelling p.span)
  | localName :
      p.TypeAllowed → p.ConstraintAllowed → p.DefaultAllowed → p.name ∈ taken →
        Offends p taken (.nameClash p.name p.name p.span)
  | slotName {slot : String} :
      p.TypeAllowed → p.ConstraintAllowed → p.DefaultAllowed → p.name ∉ taken →
        p.slotName? = some slot → slot ∈ taken →
          Offends p taken (.nameClash p.name slot p.span)
  | unfitDefault {l : Literal} :
      p.TypeAllowed → p.ConstraintAllowed → p.DefaultAllowed → p.NamesFree taken →
        p.default = some l → l.fits p.type = false →
          Offends p taken (.unsupportedDefault p.name p.type l.kind p.span)

variable {p : Parameter} {t : SymbolTable} {facts : BindingFacts} {e : CompileError}

theorem names_backing (p : Parameter) : p.backing.map (·.name) = p.variableNames := by
  cases hslot : p.slotName? <;>
    simp [backing, variableNames, localVariable, slotVariable?, hslot]

theorem names_append_backing (t : SymbolTable) (p : Parameter) :
    (t.append p.backing).names = t.names ++ p.variableNames := by
  simp [SymbolTable.names, SymbolTable.append, names_backing]

/-! ### The checks, one after the other -/

theorem checkType_eq_ok_iff_allowed :
    p.checkType = .ok () ↔ p.TypeAllowed ∧ p.ConstraintAllowed := by
  rw [checkType_eq_ok_iff, TypeAllowed, ConstraintAllowed, and_assoc, and_assoc]

theorem checkType_eq_error_iff :
    p.checkType = .error e ↔
      ¬ (p.TypeAllowed ∧ p.ConstraintAllowed) ∧ .unsupportedParameter p.name p.type p.span = e := by
  have hcases : p.checkType = .ok () ∨
      p.checkType = .error (.unsupportedParameter p.name p.type p.span) := by
    unfold checkType
    split_ifs <;> simp
  rw [← checkType_eq_ok_iff_allowed]
  rcases hcases with h | h <;> simp [h]

theorem checkDefault_eq_ok_iff : p.checkDefault = .ok () ↔ p.DefaultAllowed := by
  unfold checkDefault DefaultAllowed
  cases p.constraint with
  | none => simp
  | some c =>
      cases p.default with
      | none => simp
      | some l => cases hnull : l.isNull <;> simp [hnull]

theorem checkDefault_eq_error_iff :
    p.checkDefault = .error e ↔
      ∃ c l, p.constraint = some c ∧ p.default = some l ∧ l.isNull = false ∧
        .constrainedDefault p.name c.spelling p.span = e := by
  unfold checkDefault
  cases p.constraint with
  | none => simp
  | some c =>
      cases p.default with
      | none => simp
      | some l => cases hnull : l.isNull <;> simp [hnull]

theorem checkNames_eq_ok_iff_free : p.checkNames t = .ok () ↔ p.NamesFree t.names := by
  unfold NamesFree SymbolTable.names
  rw [checkNames_eq_ok_iff, ← names_backing]
  simp only [List.forall_mem_map, SymbolTable.find?_eq_none_iff]

theorem checkNames_eq_error_iff :
    p.checkNames t = .error e ↔
      (p.name ∈ t.names ∧ .nameClash p.name p.name p.span = e) ∨
        (p.name ∉ t.names ∧ ∃ slot, p.slotName? = some slot ∧ slot ∈ t.names ∧
          .nameClash p.name slot p.span = e) := by
  have hcontains (x : String) : t.contains x = decide (x ∈ t.names) := by
    rw [Bool.eq_iff_iff]
    simp [SymbolTable.contains, SymbolTable.names]
  unfold checkNames
  rw [names_backing, variableNames, List.find?_cons, hcontains]
  by_cases hlocal : p.name ∈ t.names
  · simp [hlocal]
  · cases p.slotName? with
    | none => simp [hlocal]
    | some slot => by_cases hslot : slot ∈ t.names <;> simp [hlocal, hcontains, hslot]

theorem exists_fallback_iff : (∃ i, p.fallback facts = .ok i) ↔ p.DefaultFits := by
  unfold fallback DefaultFits
  cases p.default with
  | none => simp
  | some l =>
      have hfits : (∃ i, p.localVariable.initialization facts.constants (facts.estimate p.name)
          p.span l = .ok i) ↔ l.fits p.type = true := Variable.exists_initialization_iff
      simp only [Outcome.exists_map_eq_ok_iff, Option.some.injEq, forall_eq', hfits]

theorem fallback_eq_error_iff :
    p.fallback facts = .error e ↔
      ∃ l, p.default = some l ∧ l.fits p.type = false ∧
        e = .unsupportedDefault p.name p.type l.kind p.span := by
  unfold fallback
  cases p.default with
  | none => simp
  | some l =>
      simp only [Outcome.map_eq_error_iff, Variable.initialization_eq_error_iff, Option.some.injEq,
        exists_eq_left']
      rfl

/-! ### All of them -/

/-- What comes of a parameter: its checks, and then its default. -/
theorem fst_bind (p : Parameter) (facts : BindingFacts) (s : MethodState) :
    (p.bind facts s).1 =
      p.check s.table >>= fun _ => (p.fallback facts).map fun fallback =>
        { parameter := p
          isSeparated := p.type.isBoxed && (facts.estimate p.name).needsSeparation
          fallback
          inferred := p.inferred? facts } := by
  unfold bind
  cases p.check s.table with
  | error e => rfl
  | ok _ => cases p.fallback facts <;> rfl

theorem exists_bind_iff (p : Parameter) (facts : BindingFacts) (s : MethodState) :
    (∃ b, (p.bind facts s).1 = .ok b) ↔ p.WellFormed s.table.names := by
  rw [fst_bind, Outcome.exists_check_then_eq_ok_iff, Outcome.exists_map_eq_ok_iff, check_eq_ok_iff,
    checkType_eq_ok_iff_allowed, checkDefault_eq_ok_iff, checkNames_eq_ok_iff_free,
    exists_fallback_iff]
  constructor
  · rintro ⟨⟨⟨htype, hconstraint⟩, hdefault, hfree⟩, hfits⟩
    exact ⟨htype, hconstraint, hdefault, hfree, hfits⟩
  · rintro ⟨htype, hconstraint, hdefault, hfree, hfits⟩
    exact ⟨⟨⟨htype, hconstraint⟩, hdefault, hfree⟩, hfits⟩

theorem check_eq_error_iff :
    p.check t = .error e ↔
      p.checkType = .error e ∨
        (p.checkType = .ok () ∧ p.checkDefault = .error e) ∨
          (p.checkType = .ok () ∧ p.checkDefault = .ok () ∧ p.checkNames t = .error e) := by
  rw [check, Outcome.check_then_eq_error_iff, Outcome.check_then_eq_error_iff, and_or_left]

theorem bind_eq_error_iff (p : Parameter) (facts : BindingFacts) (s : MethodState)
    (e : CompileError) : (p.bind facts s).1 = .error e ↔ p.Offends s.table.names e := by
  rw [fst_bind, Outcome.check_then_eq_error_iff, Outcome.map_eq_error_iff, check_eq_error_iff,
    check_eq_ok_iff, checkType_eq_error_iff, checkType_eq_ok_iff_allowed,
    checkDefault_eq_error_iff, checkDefault_eq_ok_iff, checkNames_eq_error_iff,
    checkNames_eq_ok_iff_free, fallback_eq_error_iff]
  -- one case for each check that may fail, in the order in which they are made
  constructor
  · rintro ((⟨hwrong, rfl⟩ | ⟨⟨htype, hconstraint⟩, c, l, hc, hl, hnull, rfl⟩ |
        ⟨⟨htype, hconstraint⟩, hdefault, ⟨hlocal, rfl⟩ | ⟨hfree, slot, hslot, htaken, rfl⟩⟩) |
      ⟨⟨⟨htype, hconstraint⟩, hdefault, hfree⟩, l, hl, hunfit, rfl⟩)
    · by_cases htype : p.TypeAllowed
      · exact .constraint htype fun hconstraint => hwrong ⟨htype, hconstraint⟩
      · exact .type htype
    · exact .constrainedDefault htype hconstraint hc hl hnull
    · exact .localName htype hconstraint hdefault hlocal
    · exact .slotName htype hconstraint hdefault hfree hslot htaken
    · exact .unfitDefault htype hconstraint hdefault hfree hl hunfit
  · intro h
    cases h with
    | type hwrong => exact .inl (.inl ⟨fun h => hwrong h.1, rfl⟩)
    | constraint _ hwrong => exact .inl (.inl ⟨fun h => hwrong h.2, rfl⟩)
    | constrainedDefault htype hconstraint hc hl hnull =>
        exact .inl (.inr (.inl ⟨⟨htype, hconstraint⟩, _, _, hc, hl, hnull, rfl⟩))
    | localName htype hconstraint hdefault hlocal =>
        exact .inl (.inr (.inr ⟨⟨htype, hconstraint⟩, hdefault, .inl ⟨hlocal, rfl⟩⟩))
    | slotName htype hconstraint hdefault hfree hslot htaken =>
        exact .inl (.inr (.inr ⟨⟨htype, hconstraint⟩, hdefault,
          .inr ⟨hfree, _, hslot, htaken, rfl⟩⟩))
    | unfitDefault htype hconstraint hdefault hfree hl hunfit =>
        exact .inr ⟨⟨⟨htype, hconstraint⟩, hdefault, hfree⟩, _, hl, hunfit, rfl⟩

/-- Every error is one of the source, at the place of the parameter. -/
theorem Offends.span?_eq {taken : List String} (h : p.Offends taken e) : e.span? = some p.span := by
  cases h <;> rfl

theorem Offends.isInternal_eq {taken : List String} (h : p.Offends taken e) :
    e.isInternal = false := by
  cases h <;> rfl

theorem Offends.ne_typeConflict {taken : List String} (h : p.Offends taken e) (name : String)
    (existing requested : StorageType) (span : Span) :
    e ≠ .typeConflict name existing requested span := by
  cases h <;> simp

/-- No complaint about a type is made behind the check of the type. -/
theorem Offends.checkType_eq {taken : List String} (h : p.Offends taken e) {name : String}
    {type : StorageType} {span : Span} (complaint : e = .unsupportedParameter name type span) :
    p.checkType = .error e := by
  cases h with
  | type hwrong => exact checkType_eq_error_iff.2 ⟨fun h => hwrong h.1, rfl⟩
  | constraint _ hwrong => exact checkType_eq_error_iff.2 ⟨fun h => hwrong h.2, rfl⟩
  | _ => cases complaint

end Parameter

/-! ## Lists of parameters -/

/-- Each parameter can be bound where the given names and those behind the parameters in front of it are
taken. -/
def WellFormedParameters (ps : List Parameter) (taken : List String) : Prop :=
  ∀ earlier p later, ps = earlier ++ p :: later →
    p.WellFormed (taken ++ earlier.flatMap Parameter.variableNames)

/-- Something is wrong with the parameter, and with no parameter in front of it. -/
def FirstOffence (ps : List Parameter) (taken : List String) (p : Parameter) (e : CompileError) :
    Prop :=
  ∃ earlier later, ps = earlier ++ p :: later ∧ WellFormedParameters earlier taken ∧
    p.Offends (taken ++ earlier.flatMap Parameter.variableNames) e

variable {p q : Parameter} {ps : List Parameter} {taken : List String} {e : CompileError}

theorem wellFormedParameters_nil : WellFormedParameters [] taken := by
  intro earlier q later hsplit
  cases List.append_eq_nil_iff.1 hsplit.symm |>.2

theorem wellFormedParameters_cons :
    WellFormedParameters (p :: ps) taken ↔
      p.WellFormed taken ∧ WellFormedParameters ps (taken ++ p.variableNames) := by
  constructor
  · intro h
    refine ⟨?_, ?_⟩
    · simpa using h [] p ps rfl
    · intro earlier q later hsplit
      have hq := h (p :: earlier) q later (by simp [hsplit])
      simpa using hq
  · intro h earlier q later hsplit
    rcases List.cons_eq_append_iff.1 hsplit with ⟨rfl, hhead⟩ | ⟨rest, rfl, hrest⟩
    · cases hhead
      simpa using h.1
    · simpa using h.2 rest q later hrest

theorem firstOffence_cons :
    FirstOffence (p :: ps) taken q e ↔
      (q = p ∧ p.Offends taken e) ∨
        (p.WellFormed taken ∧ FirstOffence ps (taken ++ p.variableNames) q e) := by
  constructor
  · rintro ⟨earlier, later, hsplit, hearlier, hq⟩
    rcases List.cons_eq_append_iff.1 hsplit with ⟨rfl, hhead⟩ | ⟨rest, rfl, hrest⟩
    · cases hhead
      left
      simpa using hq
    · obtain ⟨hp, hothers⟩ := wellFormedParameters_cons.1 hearlier
      right
      exact ⟨hp, rest, later, hrest, hothers, by simpa using hq⟩
  · rintro (⟨rfl, hp⟩ | ⟨hp, earlier, later, hsplit, hearlier, hq⟩)
    · exact ⟨[], ps, rfl, wellFormedParameters_nil, by simpa using hp⟩
    · exact ⟨p :: earlier, later, by simp [hsplit], wellFormedParameters_cons.2 ⟨hp, hearlier⟩,
        by simpa using hq⟩

theorem Parameter.names_of_bind {facts : BindingFacts} {b : BoundParameter} {s s' : MethodState}
    (h : p.bind facts s = (.ok b, s')) : s'.table.names = s.table.names ++ p.variableNames := by
  obtain ⟨_, _, _, rfl⟩ := Parameter.bind_eq_ok h
  exact Parameter.names_append_backing s.table p

theorem exists_bindParameters_iff (facts : BindingFacts) (ps : List Parameter) (s : MethodState) :
    (∃ bs, (bindParameters facts ps s).1 = .ok bs) ↔ WellFormedParameters ps s.table.names := by
  induction ps generalizing s with
  | nil => simp [bindParameters, wellFormedParameters_nil]
  | cons p ps ih =>
      have hhead := p.exists_bind_iff facts s
      rw [wellFormedParameters_cons, ← hhead]
      rcases hbind : p.bind facts s with ⟨e | b, s₁⟩
      · simp [bindParameters_cons_of_error hbind]
      · -- the names of the first parameter are taken for the others
        have hrest := ih s₁
        rw [Parameter.names_of_bind hbind] at hrest
        simp only [bindParameters_cons_of_ok hbind, Outcome.exists_map_eq_ok_iff, hrest,
          Except.ok.injEq, exists_eq', true_and]

theorem bindParameters_eq_error_iff (facts : BindingFacts) (ps : List Parameter) (s : MethodState)
    (e : CompileError) :
    (bindParameters facts ps s).1 = .error e ↔ ∃ p, FirstOffence ps s.table.names p e := by
  induction ps generalizing s with
  | nil => simp [bindParameters, FirstOffence]
  | cons p ps ih =>
      have hwell := p.exists_bind_iff facts s
      have hwrong := p.bind_eq_error_iff facts s e
      simp only [firstOffence_cons, ← hwell, ← hwrong, exists_or, exists_eq_left,
        exists_and_left]
      rcases hbind : p.bind facts s with ⟨e' | b, s₁⟩
      · simp [bindParameters_cons_of_error hbind]
      · have hrest := ih s₁
        rw [Parameter.names_of_bind hbind] at hrest
        simp [bindParameters_cons_of_ok hbind, Outcome.map_eq_error_iff, hrest]

/-- A list is bound exactly if it is well formed, and otherwise the error is that of the first offence:
one of the source, at the place of the parameter, and about its type only if the type or the constraint
is wrong.  Operation by operation the outcome is the same. -/
theorem bindParameters_firstOffence (facts : BindingFacts) (ps : List Parameter)
    (s : MethodState) :
    ((∃ bs, (bindParameters facts ps s).1 = .ok bs) ↔ WellFormedParameters ps s.table.names) ∧
      (∀ e, (bindParameters facts ps s).1 = .error e ↔
        ∃ p, FirstOffence ps s.table.names p e) ∧
      (∀ p e, FirstOffence ps s.table.names p e →
        e.span? = some p.span ∧ e.isInternal = false ∧
          (∀ name existing requested span, e ≠ .typeConflict name existing requested span) ∧
          ∀ name type span, e = .unsupportedParameter name type span →
            p.checkType = .error e) ∧
      ((ps.mapM (Parameter.bindInSteps facts)).run s).1 =
        (bindParameters facts ps s).1.map fun bs => bs.map fun b => (b, b.receipts) := by
  refine ⟨exists_bindParameters_iff facts ps s, bindParameters_eq_error_iff facts ps s, ?_, ?_⟩
  · rintro p e ⟨_, _, _, _, hp⟩
    refine ⟨hp.span?_eq, hp.isInternal_eq, hp.ne_typeConflict, ?_⟩
    intro name type span htype
    exact hp.checkType_eq htype
  · rw [run_mapM_bindInSteps]

/-- The slot of a parameter takes the name of the one behind it. -/
theorem nameClash_of_parameter_named_like_slot :
    (bindParameters (ClassContext.bindingFacts { owner := ⟨"C"⟩ })
        [{ name := "a", declaredType := some .int }, { name := "a_param" }] {}).1 =
      .error (.nameClash "a_param" "a_param" .nowhere) := by
  have hfirst := (bindParameters_firstOffence (ClassContext.bindingFacts { owner := ⟨"C"⟩ })
    [{ name := "a", declaredType := some .int }] {}).1.1 ⟨_, rfl⟩
  refine ((bindParameters_firstOffence _ _ _).2.1 _).2 ⟨_, [_], [], rfl, hfirst, ?_⟩
  exact .localName ⟨rfl, by decide, by decide⟩ (by simp [Parameter.ConstraintAllowed])
    (by simp [Parameter.DefaultAllowed]) (by decide)

end NativeMethod
