import NativeMethod.Proofs.WellFormedParameters

/-!
# BackingVariables — no two variables behind parameters are the same

A parameter takes one name or two, and the second is made from the first.  It may be what another
parameter is called, in front of it or behind it; then binding fails.  Where it succeeds,

* `BackedApart` — the names behind the parameters are new and differ from one another, and the table
  grew by their variables and nothing else;
* `FetchesEach` — the arguments are fetched in one call, each into a variable of its own;
* `SymbolTable.mem_names_run_initial` — no table loses the receiver or the return slot, so neither backs a
  parameter.
-/

namespace NativeMethod

/-- The variables behind the parameters stand at the end of the table, and no name of theirs was taken,
by the table or by one another. -/
structure BackedApart (ps : List Parameter) (t t' : SymbolTable) : Prop where
  nodup : (ps.flatMap Parameter.variableNames).Nodup
  fresh : ∀ x ∈ ps.flatMap Parameter.variableNames, x ∉ t.names
  names_eq : (ps.flatMap Parameter.backing).map (·.name) = ps.flatMap Parameter.variableNames
  variables_eq : t'.variables = t.variables ++ ps.flatMap Parameter.backing

/-- There is one call for all arguments if there are any.  It fills the slot of each parameter, or the
local where there is no slot, and none of them twice. -/
structure FetchesEach (ps : List Parameter) (site? : Option FrameSite) : Prop where
  none_iff : site? = none ↔ ps = []
  site_eq : ∀ site, site? = some site →
    site = .fetch (ps.countP (!·.isOptional)) (ps.countP (·.isOptional))
      (ps.map fun p => "&" ++ p.slotName?.getD p.name)
  nodup : (ps.map fun p => "&" ++ p.slotName?.getD p.name).Nodup

/-! ## Implicit variables stay -/

/-- The implicit variables are in every table that a history of changes leaves. -/
theorem SymbolTable.mem_names_run_initial (history : List Change) {x : String}
    (implicit : x ∈ initial.names) : x ∈ (initial.run history).names := by
  have hknown : initial.find? x ≠ none := by
    intro hnone
    exact find?_eq_none_iff.1 hnone implicit
  obtain ⟨v, hv⟩ := Option.ne_none_iff_exists'.1 hknown
  have hleft := find?_run namesDistinct_initial history hv
  by_contra hlost
  rw [find?_eq_none_iff.2 hlost] at hleft
  cases hleft

/-! ## Bound parameters -/

namespace Binds

variable {facts : BindingFacts} {ps : List Parameter} {bs : BoundParameters} {s s' : MethodState}

theorem backedApart (h : Binds facts ps s bs s') : BackedApart ps s.table s'.table := by
  have hnames : (ps.flatMap Parameter.backing).map (·.name) =
      ps.flatMap Parameter.variableNames := by
    simp only [List.map_flatMap, Parameter.names_backing]
  refine ⟨?_, ?_, hnames, congrArg SymbolTable.variables h.table_eq⟩
  · simpa only [hnames] using h.nodup_backing
  · intro x hx
    rw [← hnames] at hx
    obtain ⟨v, hv, rfl⟩ := List.mem_map.1 hx
    exact SymbolTable.find?_eq_none_iff.1 (h.fresh v hv)

theorem fetchesEach (h : Binds facts ps s bs s') : FetchesEach ps bs.fetch? := by
  have hempty : bs = [] ↔ ps = [] := by
    simp [← h.parameters_eq]
  refine ⟨?_, ?_, ?_⟩
  · simp [BoundParameters.fetch?, hempty]
  · intro site hsite
    unfold BoundParameters.fetch? at hsite
    split at hsite
    · cases hsite
    · simp [← h.parameters_eq, ← Option.some.inj hsite, BoundParameters.required,
        BoundParameters.optional, List.countP_map, Function.comp_def, Parameter.fetchedName]
  · have hapart := h.nodup_fetchedNames.map (f := ("&" ++ ·)) fun x y hxy => by simpa using hxy
    simpa only [List.map_map, Function.comp_def, Parameter.fetchedName] using hapart

end Binds

/-- The variables behind the parameters of a list that is bound are new and different from one another,
so none is the receiver or the return slot; the table grew by them in order, and the arguments are
fetched into them one by one. -/
theorem backing_never_aliases {facts : BindingFacts} {ps : List Parameter} {s s' : MethodState}
    {bs : BoundParameters} (bound : bindParameters facts ps s = (.ok bs, s')) :
    BackedApart ps s.table s'.table ∧
      (∀ history, s.table = SymbolTable.initial.run history →
        ∀ x ∈ ps.flatMap Parameter.variableNames, x ≠ "this" ∧ x ≠ "return_value") ∧
      FetchesEach ps bs.fetch? := by
  have hbinds : Binds facts ps s bs s' := binds_of_bindParameters bound
  have hapart : BackedApart ps s.table s'.table := hbinds.backedApart
  refine ⟨hapart, ?_, hbinds.fetchesEach⟩
  intro history hhistory x hx
  have hfresh : x ∉ (SymbolTable.initial.run history).names := by
    simpa only [← hhistory] using hapart.fresh x hx
  have hother (y : String) (hy : y ∈ SymbolTable.initial.names) : x ≠ y := by
    rintro rfl
    exact hfresh (SymbolTable.mem_names_run_initial history hy)
  exact ⟨hother "this" (by decide), hother "return_value" (by decide)⟩

/-- A slot and a parameter that is called almost like it. -/
theorem backedApart_of_slot_and_parameter :
    ∃ (bs : BoundParameters) (s' : MethodState),
      bindParameters (ClassContext.bindingFacts { owner := ⟨"C"⟩ })
          [{ name := "n", declaredType := some .int },
            { name := "n_params", default := some .null }] {} = (.ok bs, s') ∧
        s'.table.names = ["this", "return_value", "n", "n_param", "n_params"] ∧
        ∀ site, bs.fetch? = some site → site = .fetch 1 1 ["&n_param", "&n_params"] := by
  rcases hresult : bindParameters (ClassContext.bindingFacts { owner := ⟨"C"⟩ })
      [{ name := "n", declaredType := some .int }, { name := "n_params", default := some .null }]
      {} with ⟨_ | bs, s'⟩
  · cases hresult
  · obtain ⟨hapart, _, hfetches⟩ := backing_never_aliases hresult
    refine ⟨bs, s', rfl, ?_, hfetches.site_eq⟩
    rw [SymbolTable.names, hapart.variables_eq]
    rfl

end NativeMethod
