import NativeMethod.Proofs.ErrorPlaces

/-!
# MissingReturns — methods that end without the value they owe

A body whose last statement neither returns nor throws runs off the end of its method, and that is an
error if the method owes a value.  The hints that a method declares can say in two ways that it owes none,
and only one of them counts:

* `ReturnHint.saysVoid` — the hint asks for no value, in one way or the other;
* `missingReturn_iff` — when a return is missed, and where that is not what the hints say.
-/

namespace NativeMethod

/-- The hint asks for no value: it is the hint that says so, or names the type without values. -/
def ReturnHint.saysVoid : ReturnHint → Bool
  | .type t => t == .void
  | .object _ => false
  | .nothing => true

/-- Some hint names a type with values. -/
def Method.DeclaresValue (m : Method) : Prop := ∃ hint ∈ m.returns, hint.saysVoid = false

/-- The last statement, if there is one, neither returns nor throws. -/
def Body.RunsOff (b : Body) : Prop := b.last ≠ some .returns ∧ b.last ≠ some .throws

theorem Body.fallsThrough_iff {b : Body} : b.fallsThrough = true ↔ b.RunsOff := by
  unfold fallsThrough RunsOff
  cases b.last with
  | none => simp
  | some last => cases last <;> simp

theorem Method.owesValue_iff {m : Method} :
    m.owesValue = true ↔ ∃ hint ∈ m.returns, hint ≠ .nothing := by
  simp [owesValue]

/-- Of the hints that ask for no value only one is passed over. -/
theorem Method.exists_ne_nothing_iff (m : Method) :
    (∃ hint ∈ m.returns, hint ≠ .nothing) ↔ m.DeclaresValue ∨ .type .void ∈ m.returns := by
  have hhint : ∀ hint : ReturnHint,
      hint ≠ .nothing ↔ hint.saysVoid = false ∨ hint = .type .void := by
    intro hint
    cases hint with
    | type t => by_cases h : t = .void <;> simp [ReturnHint.saysVoid, h]
    | object _ => simp [ReturnHint.saysVoid]
    | nothing => simp [ReturnHint.saysVoid]
  simp only [hhint, DeclaresValue, and_or_left, exists_or, exists_eq_right]

namespace ClassContext

variable {ctx : ClassContext} {m : Method} {body : Body} {sink : Diagnostics}
  {bound : BoundParameters} {t : Body.State}

/-- The compilation fails because a return is missing. -/
def MissesReturn (ctx : ClassContext) (m : Method) (body : Body) (sink : Diagnostics) : Prop :=
  ∃ name span, (ctx.compile m body sink).result = .error (.missingReturn name span)

/-- Of the phases behind a body that succeeds only the first one misses a return. -/
theorem Failure.eq_missingReturn_iff (reached : ctx.Reaches m body bound t) {name : String}
    {span : Span} :
    ctx.Failure m body (.missingReturn name span) ↔
      name = m.name ∧ span = m.span ∧ body.RunsOff ∧ ∃ hint ∈ m.returns, hint ≠ .nothing := by
  rw [← Body.fallsThrough_iff, ← Method.owesValue_iff]
  constructor
  · intro h
    rcases reached with ⟨s, hbound, hran⟩
    rcases bindMethod_eq_ok hbound with ⟨hmodifiers, _⟩
    -- the phases up to the body succeeded, and the last two have errors of their own
    cases h with
    | modifiers hrefused => cases hmodifiers.symm.trans hrefused
    | binding _ hrefused =>
        have hfails : ctx.bindMethod m = .error (.missingReturn name span) :=
          bindMethod_eq_error_iff.2 (.inr ⟨hmodifiers, hrefused⟩)
        cases hbound.symm.trans hfails
    | body hbound' hfails =>
        cases hbound.symm.trans hbound'
        cases hran.symm.trans hfails
    | missingReturn _ hclose =>
        rcases closeBody_eq_error_iff.1 hclose with ⟨hfalls, howes, herror⟩
        cases herror
        exact ⟨rfl, rfl, hfalls, howes⟩
    | seeding _ _ hseeds =>
        rcases Outcome.mapM_eq_error_iff.1 hseeds with ⟨_, _, _, _, _, hseed⟩
        cases (seed_eq_error_iff.1 hseed).2
    | declarations _ _ _ hblock =>
        rcases SymbolTable.declarationBlock_eq_error_cases hblock with
          ⟨_, _, ⟨_, herror⟩ | ⟨_, _, _, herror⟩⟩
        · cases herror
        · cases herror
  · intro h
    rcases h with ⟨rfl, rfl, hfalls, howes⟩
    exact .missingReturn reached (closeBody_eq_error_iff.2 ⟨hfalls, howes, rfl⟩)

end ClassContext

/-- Where the modifiers are valid, the parameters can be bound and the body succeeds, a compilation misses a
return exactly if the body runs off the end and some hint is not the one that asks for nothing, whatever
is wrong with defaults and declarations besides; the error names the method and its place.  That is where a
value is declared but for one case: a body that runs off the end of a method all of whose hints are void,
and which has the type without values among them. -/
theorem missingReturn_iff {ctx : ClassContext} {m : Method} {body : Body}
    {bound : BoundParameters} {t : Body.State} (reached : ctx.Reaches m body bound t)
    (sink : Diagnostics) :
    (∀ name span, (ctx.compile m body sink).result = .error (.missingReturn name span) ↔
        name = m.name ∧ span = m.span ∧ body.RunsOff ∧ ∃ hint ∈ m.returns, hint ≠ .nothing) ∧
      ((ctx.MissesReturn m body sink ↔ body.RunsOff ∧ m.DeclaresValue) ↔
        ¬ (body.RunsOff ∧ ¬ m.DeclaresValue ∧ .type .void ∈ m.returns)) := by
  have herror : ∀ name span,
      (ctx.compile m body sink).result = .error (.missingReturn name span) ↔
        name = m.name ∧ span = m.span ∧ body.RunsOff ∧ ∃ hint ∈ m.returns, hint ≠ .nothing :=
    fun _ _ => ClassContext.compile_eq_error_iff.trans (ClassContext.Failure.eq_missingReturn_iff reached)
  have hmisses : ctx.MissesReturn m body sink ↔
      body.RunsOff ∧ (m.DeclaresValue ∨ .type .void ∈ m.returns) := by
    constructor
    · intro h
      cases h with
      | intro name h =>
          cases h with
          | intro span h =>
              have howes := (herror name span).1 h
              exact ⟨howes.2.2.1, m.exists_ne_nothing_iff.1 howes.2.2.2⟩
    · intro h
      exact ⟨m.name, m.span, (herror _ _).2 ⟨rfl, rfl, h.1, m.exists_ne_nothing_iff.2 h.2⟩⟩
  refine ⟨herror, ?_⟩
  rw [hmisses]
  tauto

/-- The missing return is reported before the default that does not fit its variable, and before the local
without storage. -/
theorem missingReturn_before_later_errors :
    let ctx : ClassContext := { owner := ⟨"C"⟩ }
    let m : Method := { name := "f", returns := [.nothing, .type .int], span := ⟨4, 1, 1⟩ }
    let body : Body :=
      { steps :=
          [⟨.change (.declare "s" .string ⟨7, 5, 1⟩), false⟩,
            ⟨.change (.setSeed "s" (.int 5)), false⟩,
            ⟨.change (.declare "v" .void ⟨8, 5, 1⟩), false⟩] }
    (∃ bound t, ctx.Reaches m body bound t) ∧
      (ctx.compile m body {}).result = .error (.missingReturn "f" ⟨4, 1, 1⟩) := by
  intro ctx m body
  have hreaches : ∃ bound t, ctx.Reaches m body bound t := ⟨_, _, _, rfl, rfl⟩
  refine ⟨hreaches, ?_⟩
  rcases hreaches with ⟨bound, t, reached⟩
  refine ((missingReturn_iff reached {}).1 "f" ⟨4, 1, 1⟩).2 ⟨rfl, rfl, ?_, ?_⟩
  · exact ⟨by decide, by decide⟩
  · exact ⟨.type .int, by decide, by decide⟩

/-- A method whose only hint is the type without values misses a return, though its body may end as that
of a method without hints. -/
theorem missingReturn_of_void_type :
    let ctx : ClassContext := { owner := ⟨"C"⟩ }
    let m : Method := { name := "f", returns := [.type .void] }
    (∃ bound t, ctx.Reaches m {} bound t) ∧ (∀ hint ∈ m.returns, hint.saysVoid = true) ∧
      (ctx.compile m {} {}).result = .error (.missingReturn "f" .nowhere) := by
  intro ctx m
  exact ⟨⟨_, _, _, rfl, rfl⟩, by decide, rfl⟩

end NativeMethod
