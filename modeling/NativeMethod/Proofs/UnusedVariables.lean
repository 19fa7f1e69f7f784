import NativeMethod.Proofs.CaughtFailures
import NativeMethod.Proofs.ErrorPlaces
import NativeMethod.Proofs.UseCounts

/-!
# UnusedVariables — one finding for every variable that nobody uses

Two filters with different tests share the unused variables among them, the locals and the parameters.
What neither takes are the implicit variables and the slots of parameters:

* `Variable.isReported` — the variables that are worth a finding if nobody uses them;
* `SymbolTable.ReportsUnused` — a report on a table: one finding for each of those, warnings first, each
  with the place of the first declaration;
* `bindParameters_table_eq_run` — binding leaves tables that a history of changes leaves as well;
* `unused_reported_once` — every table is reported on so, and right after binding there is one note for
  each parameter.
-/

namespace NativeMethod

open SymbolTable (Change)

/-! ## Variables worth a finding -/

namespace Variable

/-- Nobody uses the variable, and it is neither implicit nor the slot of a parameter. -/
def isReported (v : Variable) : Bool :=
  v.uses == 0 && !v.isImplicit && !(v.isExternal && v.isParamSlot)

/-- The locals and the parameters make up all of them. -/
theorem isReported_eq (v : Variable) : v.isReported = (v.isDead || v.isUnusedParameter) := by
  simp only [isReported, isDead, isUnusedParameter]
  cases v.isExternal <;> cases v.isImplicit <;> cases v.isParamSlot <;> simp

theorem isExternal_of_isDead {v : Variable} (h : v.isDead = true) : v.isExternal = false := by
  simp_all [isDead]

theorem isExternal_of_isUnusedParameter {v : Variable} (h : v.isUnusedParameter = true) :
    v.isExternal = true := by
  simp_all [isUnusedParameter]

theorem severity_finding (v : Variable) (method : String) :
    (v.finding method).severity = if v.isExternal then .info else .warning := by
  cases h : v.isExternal <;> simp [finding, h]

theorem span_finding (v : Variable) (method : String) : (v.finding method).span = v.span := by
  cases h : v.isExternal <;> simp [finding, h]

end Variable

/-! ## Reports -/

namespace SymbolTable

/-- The findings are those about the unused variables of a table that the history made. -/
structure ReportsUnused (t : SymbolTable) (history : List Change) (method : String)
    (report : List Diagnostic) : Prop where
  once : ∀ v ∈ t.variables, report.count (v.finding method) = if v.isReported then 1 else 0
  /-- Nothing else is reported, and the place is that of the first declaration. -/
  sources : ∀ d ∈ report, ∃ v ∈ t.variables, v.isReported = true ∧ d = v.finding method ∧
    ∃ type, DeclaresFirst history v.name type d.span
  warningsFirst : report.Pairwise fun d d' => d'.severity = .warning → d.severity = .warning
  /-- The findings of one severity stand in the order of the variables. -/
  ordered : ∀ severity, ∃ vs : List Variable, vs.Sublist t.variables ∧
    report.filter (·.severity == severity) = vs.map (·.finding method)

variable {t : SymbolTable}

/-- The variables that are reported, in the order of their findings. -/
def reported (t : SymbolTable) : List Variable := t.deadVariables ++ t.unusedParameters

theorem unusedReports_eq_map (t : SymbolTable) (method : String) :
    t.unusedReports method = t.reported.map (·.finding method) := by
  rw [unusedReports_eq, reported, List.map_append]

theorem mem_reported {v : Variable} : v ∈ t.reported ↔ v ∈ t.variables ∧ v.isReported = true := by
  simp [reported, deadVariables, unusedParameters, Variable.isReported_eq, and_or_left]

/-- No variable is among the locals and among the parameters. -/
theorem nodup_reported (distinct : t.NamesDistinct) : t.reported.Nodup := by
  have hvariables : t.variables.Nodup := List.Nodup.of_map _ distinct
  have happart : ∀ v ∈ t.deadVariables, v ∉ t.unusedParameters := by
    intro v hdead hparameter
    have hlocal := Variable.isExternal_of_isDead (List.mem_filter.1 hdead).2
    have hsupplied := Variable.isExternal_of_isUnusedParameter (List.mem_filter.1 hparameter).2
    cases hlocal.symm.trans hsupplied
  exact (hvariables.filter _).append (hvariables.filter _) happart

theorem nodup_unusedReports (distinct : t.NamesDistinct) (method : String) :
    (t.unusedReports method).Nodup := by
  rw [unusedReports_eq_map]
  refine List.Nodup.map_on ?_ (nodup_reported distinct)
  intro v hv w hw hfinding
  exact List.inj_on_of_nodup_map distinct (mem_reported.1 hv).1 (mem_reported.1 hw).1
    (Variable.name_eq_of_finding_eq hfinding)

theorem count_finding (distinct : t.NamesDistinct) {v : Variable} (hv : v ∈ t.variables)
    (method : String) :
    (t.unusedReports method).count (v.finding method) = if v.isReported then 1 else 0 := by
  have hmem : v.finding method ∈ t.unusedReports method ↔ v.isReported = true := by
    rw [finding_mem_unusedReports_iff distinct hv, ← List.mem_append]
    exact mem_reported.trans (and_iff_right hv)
  simp only [(nodup_unusedReports distinct method).count, hmem]

theorem severity_of_mem_deadVariables {v : Variable} (hv : v ∈ t.deadVariables)
    (method : String) : (v.finding method).severity = .warning := by
  simp [Variable.severity_finding, Variable.isExternal_of_isDead (List.mem_filter.1 hv).2]

theorem severity_of_mem_unusedParameters {v : Variable} (hv : v ∈ t.unusedParameters)
    (method : String) : (v.finding method).severity = .info := by
  simp [Variable.severity_finding,
    Variable.isExternal_of_isUnusedParameter (List.mem_filter.1 hv).2]

theorem pairwise_unusedReports (t : SymbolTable) (method : String) :
    (t.unusedReports method).Pairwise
      fun d d' => d'.severity = .warning → d.severity = .warning := by
  rw [unusedReports_eq, List.pairwise_append]
  refine ⟨?_, ?_, ?_⟩
  · refine List.pairwise_map.2 (List.pairwise_of_forall_mem_list ?_)
    intro v hv w _ _
    exact severity_of_mem_deadVariables hv method
  · refine List.pairwise_map.2 (List.pairwise_of_forall_mem_list ?_)
    intro v _ w hw hsevere
    cases (severity_of_mem_unusedParameters hw method).symm.trans hsevere
  · intro d hd d' _ _
    rcases List.mem_map.1 hd with ⟨v, hv, rfl⟩
    exact severity_of_mem_deadVariables hv method

/-- Of findings that have one severity, asking for a severity leaves all or none. -/
theorem filter_of_severity {report : List Diagnostic} {common : Severity}
    (h : ∀ d ∈ report, d.severity = common) (severity : Severity) :
    report.filter (·.severity == severity) = if common = severity then report else [] := by
  by_cases heq : common = severity
  · rw [if_pos heq]
    exact List.filter_eq_self.2 fun d hd => by simp [h d hd, heq]
  · rw [if_neg heq]
    exact List.filter_eq_nil_iff.2 fun d hd => by simp [h d hd, heq]

theorem filter_unusedReports (t : SymbolTable) (method : String) (severity : Severity) :
    (t.unusedReports method).filter (·.severity == severity) =
      match severity with
      | .warning => t.deadVariables.map (·.finding method)
      | .info => t.unusedParameters.map (·.finding method) := by
  have hlocals : ∀ d ∈ t.deadVariables.map (·.finding method), d.severity = .warning := by
    intro d hd
    rcases List.mem_map.1 hd with ⟨v, hv, rfl⟩
    exact severity_of_mem_deadVariables hv method
  have hparameters : ∀ d ∈ t.unusedParameters.map (·.finding method), d.severity = .info := by
    intro d hd
    rcases List.mem_map.1 hd with ⟨v, hv, rfl⟩
    exact severity_of_mem_unusedParameters hv method
  rw [unusedReports_eq, List.filter_append, filter_of_severity hlocals,
    filter_of_severity hparameters]
  cases severity with
  | warning => simp
  | info => simp

/-! ### Places -/

/-- A variable that is not implicit was declared by the history. -/
theorem declaresFirst_of_visible {history : List Change} {v : Variable}
    (hv : v ∈ (initial.run history).variables) (visible : v.isImplicit = false) :
    DeclaresFirst history v.name v.type v.span := by
  have hdistinct : (initial.run history).NamesDistinct :=
    namesDistinct_run namesDistinct_initial history
  have hleft := find?_eq_some_of_mem hdistinct hv
  refine declaresFirst_of_unknown namesDistinct_initial ?_ hleft
  cases hknown : initial.find? v.name with
  | none => rfl
  | some w =>
      -- what is there from the start is implicit for good
      have hall : ∀ u ∈ initial.variables, u.isImplicit = true := by decide
      have himplicit := hall w (mem_of_find?_eq_some hknown).1
      have hstays := isImplicit_run namesDistinct_initial hknown himplicit hleft
      cases visible.symm.trans hstays

/-- Every table that a history leaves is reported on as it should be. -/
theorem reportsUnused_run (history : List Change) (method : String) :
    (initial.run history).ReportsUnused history method
      ((initial.run history).unusedReports method) := by
  have hdistinct : (initial.run history).NamesDistinct :=
    namesDistinct_run namesDistinct_initial history
  constructor
  · intro v hv
    exact count_finding hdistinct hv method
  · intro d hd
    rw [unusedReports_eq_map] at hd
    rcases List.mem_map.1 hd with ⟨v, hv, rfl⟩
    rcases mem_reported.1 hv with ⟨hmem, hreported⟩
    have hvisible : v.isImplicit = false := by
      simp_all [Variable.isReported]
    have hfirst := declaresFirst_of_visible hmem hvisible
    exact ⟨v, hmem, hreported, rfl, v.type, by rwa [Variable.span_finding]⟩
  · exact pairwise_unusedReports _ method
  · intro severity
    cases severity with
    | warning => exact ⟨_, List.filter_sublist, filter_unusedReports _ method .warning⟩
    | info => exact ⟨_, List.filter_sublist, filter_unusedReports _ method .info⟩

end SymbolTable

/-! ## Bound parameters -/

/-- The note on a parameter that nobody uses. -/
def Parameter.unusedNote (p : Parameter) (method : String) : Diagnostic :=
  ⟨.info, "parameter '" ++ p.name ++ "' is never used in " ++ method, p.span⟩

/-- Binding a parameter leaves the table as it was, or declares what is behind the parameter. -/
theorem Parameter.bind_table_cases (p : Parameter) (facts : BindingFacts) (s : MethodState) :
    (∃ e, p.bind facts s = (.error e, s)) ∨
      (p.bind facts s).2.table = s.table.run p.declarations := by
  unfold Parameter.bind
  cases hcheck : p.check s.table with
  | error e => exact .inl ⟨e, rfl⟩
  | ok _ =>
      rcases Parameter.check_eq_ok_iff.1 hcheck with ⟨htype, _, hnames⟩
      have hrun := SymbolTable.run_of_applyAll (Parameter.applyAll_declarations htype hnames)
      right
      cases p.fallback facts <;> exact hrun.symm

/-- Whatever comes of binding, the table is that of a history: the parameters up to the one that failed
are declared, and that one with them if only its default was wrong. -/
theorem bindParameters_table_eq_run (facts : BindingFacts) (ps : List Parameter) (s : MethodState) :
    ∃ n, (bindParameters facts ps s).2.table =
      s.table.run ((ps.take n).flatMap Parameter.declarations) := by
  induction ps generalizing s with
  | nil => exact ⟨0, rfl⟩
  | cons p ps ih =>
      rcases hbind : p.bind facts s with ⟨e | b, s₁⟩
      · rw [bindParameters_cons_of_error hbind]
        rcases p.bind_table_cases facts s with ⟨e', hkept⟩ | hdeclared
        · cases hbind.symm.trans hkept
          exact ⟨0, rfl⟩
        · exact ⟨1, by simpa [hbind] using hdeclared⟩
      · rw [bindParameters_cons_of_ok hbind]
        rcases ih s₁ with ⟨n, hrest⟩
        rcases p.bind_table_cases facts s with ⟨e', hfailed⟩ | hdeclared
        · cases hbind.symm.trans hfailed
        · rw [hbind] at hdeclared
          refine ⟨n + 1, hrest.trans ?_⟩
          rw [hdeclared, ← SymbolTable.run_append]
          rfl

namespace Parameter

theorem filter_isDead_backing (p : Parameter) : p.backing.filter (·.isDead) = [] := by
  refine List.filter_eq_nil_iff.2 fun v hv => ?_
  simp [Variable.isDead, isExternal_of_mem_backing hv]

/-- Of the variables behind a parameter only the local counts as a parameter. -/
theorem filter_isUnusedParameter_backing (p : Parameter) :
    p.backing.filter (·.isUnusedParameter) = [p.localVariable] := by
  cases hslot : p.slotName? <;>
    simp [backing, slotVariable?, hslot, localVariable, Variable.isUnusedParameter,
      Variable.isExternal, Variable.isImplicit, Variable.isParamSlot]

theorem finding_localVariable (p : Parameter) (method : String) :
    p.localVariable.finding method = p.unusedNote method := rfl

end Parameter

namespace Binds

variable {facts : BindingFacts} {ps : List Parameter} {bs : BoundParameters} {s : MethodState}

/-- Right after binding a fresh table is reported on by one note for each parameter. -/
theorem unusedReports_eq (h : Binds facts ps {} bs s) (method : String) :
    s.table.unusedReports method = ps.map (·.unusedNote method) := by
  have hlocals : SymbolTable.initial.variables.filter (·.isDead) = [] := by decide
  have hparameters : SymbolTable.initial.variables.filter (·.isUnusedParameter) = [] := by decide
  have hdead : s.table.deadVariables = [] := by
    simp [h.table_eq, SymbolTable.deadVariables, SymbolTable.append, List.filter_flatMap, hlocals,
      Parameter.filter_isDead_backing]
  have hunused : s.table.unusedParameters = ps.map (·.localVariable) := by
    simp [h.table_eq, SymbolTable.unusedParameters, SymbolTable.append, List.filter_flatMap,
      hparameters, Parameter.filter_isUnusedParameter_backing, List.map_eq_flatMap]
  simp [SymbolTable.unusedReports_eq, hdead, hunused, Parameter.finding_localVariable]

theorem count_unusedNote (h : Binds facts ps {} bs s) {p : Parameter} (hp : p ∈ ps)
    (method : String) : (s.table.unusedReports method).count (p.unusedNote method) = 1 := by
  have hdistinct := h.namesDistinct SymbolTable.namesDistinct_initial
  have hfound := h.find?_backing hp (v := p.localVariable) List.mem_cons_self
  have hreported : p.localVariable.isReported = true := by
    simp [Parameter.localVariable, Variable.isReported, Variable.isImplicit, Variable.isExternal,
      Variable.isParamSlot]
  have hcount := SymbolTable.count_finding hdistinct (SymbolTable.mem_of_find?_eq_some hfound).1 method
  simpa [hreported, Parameter.finding_localVariable] using hcount

theorem slot_not_reported (h : Binds facts ps {} bs s) {p : Parameter} (hp : p ∈ ps)
    {slot : Variable} (hslot : p.slotVariable? = some slot) (method : String) :
    slot.finding method ∉ s.table.unusedReports method := by
  have hdistinct := h.namesDistinct SymbolTable.namesDistinct_initial
  have hbacking : slot ∈ p.backing := by
    simp [Parameter.backing, hslot]
  have hfound := h.find?_backing hp hbacking
  have hquiet : slot.isReported = false := by
    rcases Option.map_eq_some_iff.1 hslot with ⟨x, _, rfl⟩
    simp [Variable.isReported, Variable.isExternal, Variable.isParamSlot]
  have hcount := SymbolTable.count_finding hdistinct (SymbolTable.mem_of_find?_eq_some hfound).1 method
  exact List.count_eq_zero.1 (by simpa [hquiet] using hcount)

end Binds

/-! ## Compiled methods -/

/-- The table of a compiled method is made by declaring what is behind its parameters, and then by the
changes of its body. -/
theorem Phases.table_eq_run {ctx : ClassContext} {m : Method} {body : Body} {s : MethodState}
    {c : CompiledMethod} (h : Phases ctx m body s c) :
    c.table = SymbolTable.initial.run (m.declarations ++ Body.changes body.steps) := by
  have hstart : SymbolTable.initial.run m.declarations = s.table := h.binds.run_declarations
  rw [h.table_eq, SymbolTable.run_append, hstart]

/-- Whatever changes make a table, failing ones included, a report on it has one finding for each variable
that is unused, neither implicit nor the slot of a parameter, and none for any other: a warning about a
local and a note on a parameter, all warnings first, each part in the order of the variables, each at the
place of the first declaration.  Binding leads to no other tables; right after binding, a fresh table
gives one note for each parameter and nothing about slots.  A compiled method adds such a report to the
sink. -/
theorem unused_reported_once :
    (∀ history method, (SymbolTable.initial.run history).ReportsUnused history method
        ((SymbolTable.initial.run history).unusedReports method)) ∧
      (∀ facts ps history growth, ∃ n,
        (bindParameters facts ps ⟨SymbolTable.initial.run history, growth⟩).2.table =
          SymbolTable.initial.run (history ++ (ps.take n).flatMap Parameter.declarations)) ∧
      (∀ facts ps bs s, bindParameters facts ps {} = (.ok bs, s) → ∀ method,
        s.table.unusedReports method = ps.map (·.unusedNote method) ∧
          ∀ p ∈ ps, (s.table.unusedReports method).count (p.unusedNote method) = 1 ∧
            ∀ slot, p.slotVariable? = some slot →
              slot.finding method ∉ s.table.unusedReports method) ∧
      ∀ (ctx : ClassContext) (m : Method) (body : Body) (sink : Diagnostics) (c : CompiledMethod),
        (ctx.compile m body sink).result = .ok c → ctx.options.reportUnused = true →
          ∃ report, (ctx.compile m body sink).sink.entries = sink.entries ++ report ∧
            c.table.ReportsUnused (m.declarations ++ Body.changes body.steps) m.name report := by
  refine ⟨SymbolTable.reportsUnused_run, ?_, ?_, ?_⟩
  · intro facts ps history growth
    rcases bindParameters_table_eq_run facts ps ⟨SymbolTable.initial.run history, growth⟩ with
      ⟨n, htable⟩
    exact ⟨n, by rw [htable, SymbolTable.run_append]⟩
  · intro facts ps bs s hbound method
    have hbinds : Binds facts ps {} bs s := binds_of_bindParameters hbound
    refine ⟨hbinds.unusedReports_eq method, ?_⟩
    intro p hp
    refine ⟨hbinds.count_unusedNote hp method, ?_⟩
    intro slot hslot
    exact hbinds.slot_not_reported hp hslot method
  · intro ctx m body sink c hcompiled hwanted
    rcases ClassContext.exists_phases hcompiled with ⟨s, h⟩
    refine ⟨c.table.unusedReports m.name, ?_, ?_⟩
    · simp [ClassContext.sink_of_result_eq_ok hcompiled, Diagnostics.append, ClassContext.reports,
        hwanted, h.method_eq]
    · rw [h.table_eq_run]
      exact SymbolTable.reportsUnused_run _ _

/-- A parameter with a slot, one that the body uses, and a local that is declared twice. -/
theorem reported_of_slot_and_redeclared_local :
    let ctx : ClassContext := { owner := ⟨"C"⟩ }
    let m : Method :=
      { name := "f"
        parameters :=
          [{ name := "n", declaredType := some .int, span := ⟨1, 5, 1⟩ },
            { name := "a", default := some .null, span := ⟨1, 9, 1⟩ }] }
    let body : Body :=
      { steps :=
          [⟨.change (.declare "x" .generic ⟨2, 1, 1⟩), false⟩,
            ⟨.change (.declare "x" .generic ⟨7, 1, 1⟩), false⟩,
            ⟨.change (.recordUse "a"), false⟩] }
    (∃ bs s, bindParameters ctx.bindingFacts m.parameters {} = (.ok bs, s) ∧
        s.table.unusedReports "f" =
          [⟨.info, "parameter 'n' is never used in f", ⟨1, 5, 1⟩⟩,
            ⟨.info, "parameter 'a' is never used in f", ⟨1, 9, 1⟩⟩]) ∧
      ∃ c report, (ctx.compile m body {}).result = .ok c ∧
        c.table.ReportsUnused (m.declarations ++ Body.changes body.steps) "f" report ∧
          report =
            [⟨.warning, "variable 'x' declared but not used in f", ⟨2, 1, 1⟩⟩,
              ⟨.info, "parameter 'n' is never used in f", ⟨1, 5, 1⟩⟩] := by
  intro ctx m body
  rcases unused_reported_once with ⟨_, _, hbound, hcompiled⟩
  constructor
  · rcases hresult : bindParameters ctx.bindingFacts m.parameters {} with ⟨_ | bs, s⟩
    · cases hresult
    · exact ⟨bs, s, rfl, (hbound _ _ bs s hresult "f").1⟩
  · rcases hresult : (ctx.compile m body {}).result with _ | c
    · cases hresult
    · rcases hcompiled ctx m body {} c hresult rfl with ⟨report, hsink, hreports⟩
      exact ⟨c, report, rfl, hreports, hsink.symm⟩

end NativeMethod
