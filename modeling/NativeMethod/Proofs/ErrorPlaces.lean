import NativeMethod.Proofs.Failures

/-!
# ErrorPlaces — where the error of a compilation lies

A compilation that fails, and not because its body returned an error, fails for something that stands in
the source, and the error says where.  The one exception is a local that was declared with a type without
storage, which has no place because no source can ask for it.

* `Method.Declares` — where a variable of a method is declared first, and with which type;
* `Method.ErrorAt` — the reasons for a failure outside the body, each with its place;
* `declares_of_mem_table` — a variable keeps the type and the place of its first declaration, whatever the
  body does;
* `error_points_at_source` — the error of a compilation is that of one of the reasons, and is internal
  only for a local without storage.
-/

namespace NativeMethod

open SymbolTable (Change)

/-! ## First declarations -/

namespace SymbolTable

/-- The history declares the name here, and not before. -/
def DeclaresFirst (history : List Change) (x : String) (type : StorageType) (span : Span) : Prop :=
  ∃ before after, history = before ++ .declare x type span :: after ∧
    ∀ type' span', Change.declare x type' span' ∉ before

theorem DeclaresFirst.cons {history : List Change} {x : String} {type : StorageType} {span : Span}
    (h : DeclaresFirst history x type span) {c : Change}
    (other : ∀ type' span', Change.declare x type' span' ≠ c) :
    DeclaresFirst (c :: history) x type span := by
  rcases h with ⟨before, after, rfl, hbefore⟩
  refine ⟨c :: before, after, rfl, ?_⟩
  intro type' span' hmem
  rcases List.mem_cons.1 hmem with heq | hmem
  · exact other type' span' heq
  · exact hbefore type' span' hmem

/-- A variable that is there when a history begins keeps its type and its span. -/
theorem type_span_of_known {t : SymbolTable} {x : String} {v w : Variable}
    (distinct : t.NamesDistinct) {history : List Change} (known : t.find? x = some w)
    (left : (t.run history).find? x = some v) : v.type = w.type ∧ v.span = w.span := by
  rw [find?_run distinct history known] at left
  cases left
  exact ⟨foldl_onVariable_keeps Change.type_onVariable _ w,
    foldl_onVariable_keeps Change.span_onVariable _ w⟩

/-- A name that is new behind a history has the type and the span it was first declared with. -/
theorem declaresFirst_of_unknown {t : SymbolTable} {x : String} {v : Variable}
    (distinct : t.NamesDistinct) {history : List Change} (unknown : t.find? x = none)
    (left : (t.run history).find? x = some v) : DeclaresFirst history x v.type v.span := by
  induction history generalizing t with
  | nil =>
      have hnone : t.find? x = some v := left
      cases unknown.symm.trans hnone
  | cons c rest ih =>
      have hstep := Change.find?_applyOrKeep distinct c x
      have hdistinct := Change.namesDistinct_applyOrKeep distinct c
      have hleft : ((c.applyOrKeep t).run rest).find? x = some v := left
      rw [unknown] at hstep
      by_cases hdeclares : ∃ type span, c = .declare x type span
      · rcases hdeclares with ⟨type, span, rfl⟩
        have hnew : (Change.applyOrKeep t (.declare x type span)).find? x =
            some { name := x, type, span } := by
          simpa [Change.name, Change.onEntry, Change.fresh] using hstep
        rcases type_span_of_known hdistinct hnew hleft with ⟨htype, hspan⟩
        exact ⟨[], rest, by simp [htype, hspan], by simp⟩
      · have hother (type : StorageType) (span : Span) : Change.declare x type span ≠ c := by
          intro heq
          exact hdeclares ⟨type, span, heq.symm⟩
        -- only a declaration makes an entry where there is none
        have hnone : (c.applyOrKeep t).find? x = none := by
          cases c with
          | declare y type span =>
              have hname : y ≠ x := by
                rintro rfl
                exact hother type span rfl
              simpa [Change.name, hname] using hstep
          | _ => simpa [Change.onEntry, Change.fresh] using hstep
        exact (ih hdistinct hnone hleft).cons hother

end SymbolTable

/-! ## The variables of a method -/

/-- The names that are taken when a body begins: those of the implicit variables and those behind the
parameters. -/
def Method.takenNames (m : Method) : List String :=
  SymbolTable.initial.names ++ m.parameters.flatMap Parameter.variableNames

/-- The first declaration of a variable of a method: its type and its place.  The receiver and the return
slot stand nowhere, what is behind a parameter stands where the parameter does, and a local stands where
the body declares it first. -/
inductive Method.Declares (m : Method) (body : Body) : String → StorageType → Span → Prop where
  | receiver : Declares m body "this" .object .nowhere
  | returnSlot : Declares m body "return_value" .generic .nowhere
  | parameter {p : Parameter} : p ∈ m.parameters → Declares m body p.name p.type p.span
  | slot {p : Parameter} {x : String} :
      p ∈ m.parameters → p.slotName? = some x → Declares m body x .generic p.span
  | ownLocal {x : String} {type : StorageType} {span : Span} :
      x ∉ m.takenNames → SymbolTable.DeclaresFirst (Body.changes body.steps) x type span →
        Declares m body x type span

theorem Parameter.declares_of_mem_backing {m : Method} {p : Parameter} {v : Variable}
    (hp : p ∈ m.parameters) (hv : v ∈ p.backing) (body : Body) :
    m.Declares body v.name v.type v.span := by
  rcases List.mem_cons.1 hv with rfl | hslot
  · exact .parameter hp
  · rcases Option.map_eq_some_iff.1 (Option.mem_toList.1 hslot) with ⟨x, hx, rfl⟩
    exact .slot hp hx

/-- Two types have no storage. -/
theorem StorageType.cType?_eq_none_iff {type : StorageType} :
    type.cType? = none ↔ type = .void ∨ type = .unknown := by
  cases type <;> decide

namespace ClassContext

variable {ctx : ClassContext} {m : Method} {body : Body} {bound : BoundParameters}
  {s : MethodState} {t : Body.State} {e : CompileError}

theorem names_of_bindMethod (h : ctx.bindMethod m = .ok (bound, s)) :
    s.table.names = m.takenNames := by
  rw [table_of_bindMethod h]
  have hbacking : (m.parameters.flatMap Parameter.backing).map (·.name) =
      m.parameters.flatMap Parameter.variableNames := by
    simp only [List.map_flatMap, Parameter.names_backing]
  simp [SymbolTable.names, SymbolTable.append, Method.takenNames, hbacking]

/-- A variable that a body starts with is implicit or backs a parameter. -/
theorem implicit_or_backing_of_bindMethod (h : ctx.bindMethod m = .ok (bound, s)) {w : Variable}
    (hw : w ∈ s.table.variables) :
    w = SymbolTable.receiver ∨ w = SymbolTable.returnSlot ∨
      ∃ p ∈ m.parameters, w ∈ p.backing := by
  rw [table_of_bindMethod h] at hw
  simpa [SymbolTable.initial, SymbolTable.append, or_assoc] using hw

theorem declares_of_bindMethod (h : ctx.bindMethod m = .ok (bound, s)) {w : Variable}
    (hw : w ∈ s.table.variables) (body : Body) : m.Declares body w.name w.type w.span := by
  rcases implicit_or_backing_of_bindMethod h hw with rfl | rfl | ⟨p, hp, hbacking⟩
  · exact .receiver
  · exact .returnSlot
  · exact Parameter.declares_of_mem_backing hp hbacking body

/-- Nothing has a default before the body. -/
theorem seed_of_bindMethod (h : ctx.bindMethod m = .ok (bound, s)) {w : Variable}
    (hw : w ∈ s.table.variables) : w.seed = none := by
  rcases implicit_or_backing_of_bindMethod h hw with rfl | rfl | ⟨p, _, hbacking⟩
  · rfl
  · rfl
  · rcases List.mem_cons.1 hbacking with rfl | hslot
    · rfl
    · rcases Option.map_eq_some_iff.1 (Option.mem_toList.1 hslot) with ⟨x, _, rfl⟩
      rfl

/-- A parameter that was bound has a type with storage. -/
theorem typeAllowed_of_bindMethod (h : ctx.bindMethod m = .ok (bound, s)) {p : Parameter}
    (hp : p ∈ m.parameters) : p.TypeAllowed := by
  have hbinds := (bindMethod_eq_ok h).2
  rcases hbinds.exists_bound hp with ⟨b, hb, rfl⟩
  exact (Parameter.checkType_eq_ok_iff_allowed.1 (hbinds.follows b hb).type_ok).1

/-- The table behind a body is what its changes make of the table that binding leaves. -/
theorem Reaches.exists_start (h : ctx.Reaches m body bound t) :
    ∃ s, ctx.bindMethod m = .ok (bound, s) ∧ s.table.NamesDistinct ∧
      t.method.table = s.table.run (Body.changes body.steps) := by
  rcases h with ⟨s, hbound, hran⟩
  refine ⟨s, hbound, ?_, ?_⟩
  · exact (bindMethod_eq_ok hbound).2.namesDistinct SymbolTable.namesDistinct_initial
  · simpa [Body.after] using congrArg (·.method.table) (Body.runSteps_eq_ok hran)

theorem Reaches.find?_eq_some (h : ctx.Reaches m body bound t) {v : Variable}
    (hv : v ∈ t.method.table.variables) : t.method.table.find? v.name = some v := by
  rcases h.exists_start with ⟨s, _, hdistinct, htable⟩
  rw [htable] at hv ⊢
  exact SymbolTable.find?_eq_some_of_mem (SymbolTable.namesDistinct_run hdistinct _) hv

/-- Behind the body every variable has the type and the place of its first declaration. -/
theorem declares_of_mem_table (h : ctx.Reaches m body bound t) {v : Variable}
    (hv : v ∈ t.method.table.variables) : m.Declares body v.name v.type v.span := by
  have hleft := h.find?_eq_some hv
  rcases h.exists_start with ⟨s, hbound, hdistinct, htable⟩
  rw [htable] at hleft
  cases hknown : s.table.find? v.name with
  | some w =>
      rcases SymbolTable.mem_of_find?_eq_some hknown with ⟨hw, hname⟩
      rcases SymbolTable.type_span_of_known hdistinct hknown hleft with ⟨htype, hspan⟩
      have hdeclares := declares_of_bindMethod hbound hw body
      simpa only [hname, htype, hspan] using hdeclares
  | none =>
      have hfresh : v.name ∉ s.table.names := SymbolTable.find?_eq_none_iff.1 hknown
      have hnew : v.name ∉ m.takenNames := by
        simpa only [names_of_bindMethod hbound] using hfresh
      exact .ownLocal hnew (SymbolTable.declaresFirst_of_unknown hdistinct hknown hleft)

/-- Only the body gives a variable a default. -/
theorem setSeed_mem_of_mem_table (h : ctx.Reaches m body bound t) {v : Variable} {l : Literal}
    (hv : v ∈ t.method.table.variables) (seed : v.seed = some l) :
    Change.setSeed v.name l ∈ Body.changes body.steps := by
  have hleft := h.find?_eq_some hv
  rcases h.exists_start with ⟨s, hbound, hdistinct, htable⟩
  rw [htable] at hleft
  rcases SymbolTable.setSeed_mem_of_find?_run hdistinct hleft seed with ⟨w, hw, hseed⟩ | hmem
  · have hnone := seed_of_bindMethod hbound (SymbolTable.mem_of_find?_eq_some hw).1
    cases hnone.symm.trans hseed
  · exact hmem

/-- A variable without storage is a local that the body declared. -/
theorem ownLocal_of_cType?_eq_none (h : ctx.Reaches m body bound t) {x : String}
    {type : StorageType} {span : Span} (declared : m.Declares body x type span)
    (unstored : type.cType? = none) :
    x ∉ m.takenNames ∧ SymbolTable.DeclaresFirst (Body.changes body.steps) x type span := by
  rcases h.exists_start with ⟨s, hbound, _, _⟩
  cases declared with
  | receiver => cases unstored
  | returnSlot => cases unstored
  | parameter hp =>
      have hallowed := typeAllowed_of_bindMethod hbound hp
      rcases StorageType.cType?_eq_none_iff.1 unstored with hvoid | hunknown
      · exact absurd hvoid hallowed.2.1
      · exact absurd hunknown hallowed.2.2
  | slot _ _ => cases unstored
  | ownLocal hnew hfirst => exact ⟨hnew, hfirst⟩

end ClassContext

/-! ## Variables that cannot be declared -/

/-- A block of declarations fails for a variable without storage, or for one whose default does not
fit. -/
theorem SymbolTable.declarationBlock_eq_error_cases {t : SymbolTable} {e : CompileError}
    (fails : t.declarationBlock = .error e) :
    ∃ v ∈ t.declarable,
      (v.type.cType? = none ∧ e = .undeclarable v.name v.type) ∨
        ∃ l, v.seed = some l ∧ l.fits v.type = false ∧
          e = .unsupportedDefault v.name v.type l.kind v.span := by
  unfold declarationBlock at fails
  rw [Outcome.map_eq_error_iff] at fails
  rcases Outcome.mapM_eq_error_iff.1 fails with ⟨earlier, ⟨type, vs⟩, later, hsplit, _, hgroup⟩
  have hmem : (type, vs) ∈ t.groups := by
    simp [hsplit]
  have hdeclarable (v : Variable) (hv : v ∈ vs) : v ∈ t.declarable :=
    mem_declarable_iff.2 ⟨_, hmem, hv⟩
  rcases mem_groups_iff.1 hmem with ⟨hvs, hne⟩
  cases hstored : type.cType? with
  | none =>
      -- the group is reported by its first variable
      rcases List.exists_cons_of_ne_nil hne with ⟨v, rest, rfl⟩
      have htype : v.type = type := by
        have hv : v ∈ t.declarable.filter (·.type == type) := hvs ▸ List.mem_cons_self
        simpa using (List.mem_filter.1 hv).2
      refine ⟨v, hdeclarable v List.mem_cons_self, .inl ⟨htype ▸ hstored, ?_⟩⟩
      simpa [DeclarationGroup.ofVariables, hstored, htype] using hgroup.symm
  | some cType =>
      rw [DeclarationGroup.ofVariables_eq_error_iff (by simp [hstored])] at hgroup
      rcases Outcome.mapM_eq_error_iff.1 hgroup with ⟨before, v, after, hmembers, _, hv⟩
      have hmember : v ∈ vs := by
        have hsame : vs = before ++ v :: after := hmembers
        simp [hsame]
      rcases Variable.declarator_eq_error_iff.1 hv with ⟨_, _, l, hseed, hunfit, herror⟩
      exact ⟨v, hdeclarable v hmember, .inr ⟨l, hseed, hunfit, herror.symm⟩⟩

/-! ## Places -/

/-- The reasons why a compilation fails outside its body, each with the place it is reported at. -/
inductive Method.ErrorAt (m : Method) (body : Body) : CompileError → Span → Prop where
  | modifiers {e : CompileError} : m.checkModifiers = .error e → ErrorAt m body e m.span
  | missingReturn :
      body.fallsThrough = true → m.owesValue = true →
        ErrorAt m body (.missingReturn m.name m.span) m.span
  | parameter {e : CompileError} {p : Parameter} :
      FirstOffence m.parameters SymbolTable.initial.names p e → ErrorAt m body e p.span
  | unfitDefault {x : String} {type : StorageType} {l : Literal} {span : Span} :
      m.Declares body x type span → Change.setSeed x l ∈ Body.changes body.steps →
        l.fits type = false → ErrorAt m body (.unsupportedDefault x type l.kind span) span

theorem Method.ErrorAt.span?_eq {m : Method} {body : Body} {e : CompileError} {span : Span}
    (h : m.ErrorAt body e span) : e.span? = some span := by
  cases h with
  | modifiers hrefused => exact Method.span?_of_checkModifiers hrefused
  | missingReturn _ _ => rfl
  | parameter hoffence =>
      rcases hoffence with ⟨_, _, _, _, hoffends⟩
      exact hoffends.span?_eq
  | unfitDefault _ _ _ => rfl

namespace ClassContext

variable {ctx : ClassContext} {m : Method} {body : Body} {bound : BoundParameters}
  {t : Body.State} {e : CompileError}

/-- The body ran, and returned the error. -/
def BodyReturns (ctx : ClassContext) (m : Method) (body : Body) (e : CompileError) : Prop :=
  ∃ bound s, ctx.bindMethod m = .ok (bound, s) ∧ (body.run s).final = .error e

theorem closeBody_eq_error_iff {lines : List Fragment} :
    closeBody m body lines = .error e ↔
      body.fallsThrough = true ∧ m.owesValue = true ∧ e = .missingReturn m.name m.span := by
  unfold closeBody
  cases body.fallsThrough <;> cases m.owesValue <;> simp [eq_comm]

theorem errorAt_of_unfit (h : ctx.Reaches m body bound t) {v : Variable} {l : Literal}
    (hv : v ∈ t.method.table.variables) (seed : v.seed = some l) (unfit : l.fits v.type = false) :
    m.ErrorAt body (.unsupportedDefault v.name v.type l.kind v.span) v.span :=
  .unfitDefault (declares_of_mem_table h hv) (setSeed_mem_of_mem_table h hv seed) unfit

/-- A failure that is not the body's own is reported at a place, or is about a local without storage. -/
theorem Failure.errorAt_or_undeclarable (h : ctx.Failure m body e)
    (own : ¬ ctx.BodyReturns m body e) :
    (∃ span, m.ErrorAt body e span) ∨
      ∃ x type span, x ∉ m.takenNames ∧
        SymbolTable.DeclaresFirst (Body.changes body.steps) x type span ∧ type.cType? = none ∧
          e = .undeclarable x type := by
  cases h with
  | modifiers hrefused => exact .inl ⟨m.span, .modifiers hrefused⟩
  | binding _ hrefused =>
      rcases (bindParameters_eq_error_iff _ _ _ _).1 hrefused with ⟨p, hoffence⟩
      exact .inl ⟨p.span, .parameter hoffence⟩
  | body hbound hfails => exact absurd ⟨_, _, hbound, hfails⟩ own
  | missingReturn _ hclose =>
      rcases closeBody_eq_error_iff.1 hclose with ⟨hfalls, howes, rfl⟩
      exact .inl ⟨m.span, .missingReturn hfalls howes⟩
  | @seeding _ t _ hreaches _ hseeds =>
      rcases Outcome.mapM_eq_error_iff.1 hseeds with ⟨_, ⟨v, l⟩, _, hsplit, _, hfails⟩
      have hseeded : (v, l) ∈ t.method.table.seeded := by
        simp [hsplit]
      rcases SymbolTable.mem_seeded_iff.1 hseeded with ⟨hv, _, _, hseed⟩
      rcases seed_eq_error_iff.1 hfails with ⟨hunfit, rfl⟩
      exact .inl ⟨v.span, errorAt_of_unfit hreaches hv hseed hunfit⟩
  | declarations hreaches _ _ hblock =>
      rcases SymbolTable.declarationBlock_eq_error_cases hblock with
        ⟨v, hv, ⟨hunstored, rfl⟩ | ⟨l, hseed, hunfit, rfl⟩⟩
      -- a type without storage cannot be that of a parameter or an implicit variable
      · have hmem := List.mem_of_mem_filter hv
        rcases ownLocal_of_cType?_eq_none hreaches (declares_of_mem_table hreaches hmem) hunstored
          with ⟨hnew, hfirst⟩
        exact .inr ⟨v.name, v.type, v.span, hnew, hfirst, hunstored, rfl⟩
      · exact .inl ⟨v.span, errorAt_of_unfit hreaches (List.mem_of_mem_filter hv) hseed hunfit⟩

end ClassContext

/-- An error that the body did not return is internal only for a local that the body declared without
storage, and then says so.  Every other error has a place: that of the method, of the parameter at fault, or
of the first declaration of the variable whose default does not fit. -/
theorem error_points_at_source (ctx : ClassContext) (m : Method) (body : Body) (sink : Diagnostics)
    (e : CompileError) (failed : (ctx.compile m body sink).result = .error e)
    (own : ¬ ctx.BodyReturns m body e) :
    (e.isInternal = true →
        e.span? = none ∧ ∃ x type span, (type = .void ∨ type = .unknown) ∧ x ∉ m.takenNames ∧
          SymbolTable.DeclaresFirst (Body.changes body.steps) x type span ∧
            e = .undeclarable x type) ∧
      (e.isInternal = false → ∃ span, e.span? = some span ∧ m.ErrorAt body e span) := by
  have hplace := CompileError.span?_eq_none_iff e
  rcases (ClassContext.compile_eq_error_iff.1 failed).errorAt_or_undeclarable own with
    ⟨span, hat⟩ | ⟨x, type, span, hnew, hfirst, hunstored, rfl⟩
  · have hspan := hat.span?_eq
    refine ⟨?_, fun _ => ⟨span, hspan, hat⟩⟩
    intro hinternal
    cases hspan.symm.trans (hplace.2 hinternal)
  · refine ⟨fun _ => ⟨rfl, x, type, span, ?_, hnew, hfirst, rfl⟩, ?_⟩
    · exact StorageType.cType?_eq_none_iff.1 hunstored
    · intro huser
      cases huser

/-- A default that does not fit is reported where its variable was declared first, and not where it was
declared again; a local without storage is reported without a place. -/
theorem error_at_first_declaration :
    (∃ span, (CompileError.unsupportedDefault "s" .string .int ⟨7, 5, 1⟩).span? = some span ∧
        Method.ErrorAt { name := "f", parameters := [{ name := "a", span := ⟨3, 1, 1⟩ }] }
          { steps := [⟨.change (.declare "s" .string ⟨7, 5, 1⟩), false⟩,
            ⟨.change (.declare "s" .string ⟨9, 5, 1⟩), false⟩,
            ⟨.change (.setSeed "s" (.int 5)), false⟩] }
          (.unsupportedDefault "s" .string .int ⟨7, 5, 1⟩) span) ∧
      ∃ x type span, (type = .void ∨ type = .unknown) ∧ x ∉ Method.takenNames { name := "f" } ∧
        SymbolTable.DeclaresFirst [.declare "v" .void ⟨7, 5, 1⟩] x type span ∧
          CompileError.undeclarable "v" .void = .undeclarable x type := by
  constructor
  · refine (error_points_at_source { owner := ⟨"C"⟩ } _ _ {} _ rfl ?_).2 rfl
    rintro ⟨bound, s, hbound, hfails⟩
    cases hbound
    cases hfails
  · have hvoid := error_points_at_source { owner := ⟨"C"⟩ } { name := "f" }
      { steps := [⟨.change (.declare "v" .void ⟨7, 5, 1⟩), false⟩] } {} (.undeclarable "v" .void) rfl
      (by
        rintro ⟨bound, s, hbound, hfails⟩
        cases hbound
        cases hfails)
    exact (hvoid.1 rfl).2

end NativeMethod
