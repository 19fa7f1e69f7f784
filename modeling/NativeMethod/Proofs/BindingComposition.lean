import NativeMethod.Proofs.WellFormedParameters

/-!
# BindingComposition — binding one list after another

Binding threads the state of the method through the parameters and collects what it emits.  Cutting a
list anywhere and binding the second part in the state that the first one left comes to the same thing,
also where it fails:

* `bindParameters_append` — results, errors and states of a list that is cut in two;
* `BindingSummary`, `BoundParameters.summary_append` — everything that is collected, and how two parts
  are put together;
* `Parameter.stateBehind` — what the parameter that fails leaves of the state;
* `bindParameters_compositional` — all of it, for binding at once and operation by operation.
-/

namespace NativeMethod

variable {facts : BindingFacts} {s s' : MethodState} {e : CompileError}

/-! ## What is collected -/

/-- The variables that a site fetches arguments into. -/
def FrameSite.arguments : FrameSite → List String
  | fetch _ _ arguments => arguments
  | _ => []

/-- Everything that binding a list of parameters collects. -/
structure BindingSummary where
  code : List Fragment
  separated : List String
  guards : List (String × Guard)
  inferred : List (String × StorageType)
  required : Nat
  optional : Nat
  /-- What the call that fetches the arguments fills. -/
  arguments : List String
  /-- How often a managed frame was asked for. -/
  requests : Nat

/-- Lists are put behind one another, and numbers are added. -/
def BindingSummary.append (a b : BindingSummary) : BindingSummary :=
  { code := a.code ++ b.code
    separated := a.separated ++ b.separated
    guards := a.guards ++ b.guards
    inferred := a.inferred ++ b.inferred
    required := a.required + b.required
    optional := a.optional + b.optional
    arguments := a.arguments ++ b.arguments
    requests := a.requests + b.requests }

namespace BoundParameters

variable (bs cs : BoundParameters)

def summary : BindingSummary :=
  { code := bs.fragments
    separated := bs.separated
    guards := bs.guards
    inferred := bs.inferred
    required := bs.required
    optional := bs.optional
    arguments := bs.fetch?.toList.flatMap FrameSite.arguments
    requests := bs.requests }

/-- Each parameter is fetched into one variable, also where there is none to be fetched. -/
theorem arguments_fetch? :
    bs.fetch?.toList.flatMap FrameSite.arguments =
      bs.map ("&" ++ ·.parameter.fetchedName) := by
  cases bs <;> simp [fetch?, FrameSite.arguments]

theorem requests_append : requests (bs ++ cs) = bs.requests + cs.requests := by
  induction bs with
  | nil => exact (Nat.zero_add _).symm
  | cons b bs ih =>
      calc
        requests (b :: bs ++ cs) = b.requests + requests (bs ++ cs) := rfl
        _ = b.requests + (requests bs + cs.requests) := by rw [ih]
        _ = requests (b :: bs) + cs.requests := (Nat.add_assoc _ _ _).symm

theorem summary_append : summary (bs ++ cs) = bs.summary.append cs.summary := by
  simp [summary, BindingSummary.append, fragments, separated, guards, inferred, required, optional,
    arguments_fetch?, requests_append]

end BoundParameters

/-! ## A list that is cut in two -/

theorem bindParameters_append (ps qs : List Parameter) (s : MethodState) :
    bindParameters facts (ps ++ qs) s =
      match bindParameters facts ps s with
      | (.error e, s₁) => (.error e, s₁)
      | (.ok bs, s₁) =>
        match bindParameters facts qs s₁ with
        | (.error e, s₂) => (.error e, s₂)
        | (.ok cs, s₂) => (.ok (bs ++ cs), s₂) := by
  induction ps generalizing s with
  | nil =>
      rcases hqs : bindParameters facts qs s with ⟨e | cs, s₂⟩ <;>
        simp [bindParameters, hqs]
  | cons p ps ih =>
      simp only [List.cons_append, bindParameters]
      rcases p.bind facts s with ⟨e | b, s₁⟩
      · rfl
      · simp only [ih s₁]
        rcases bindParameters facts ps s₁ with ⟨e | bs, s₂⟩
        · rfl
        · simp only [Except.map]
          rcases bindParameters facts qs s₂ with ⟨e | cs, s₃⟩ <;> rfl

/-! ## The parameter that fails -/

def CompileError.isUnsupportedDefault : CompileError → Bool
  | unsupportedDefault _ _ _ _ => true
  | _ => false

namespace Parameter

variable {p : Parameter}

/-- What a parameter that fails leaves of the state.  Its variables are declared before its default
turns out not to fit; every other failure comes before that, and none asks for a managed frame. -/
def stateBehind (p : Parameter) (e : CompileError) (s : MethodState) : MethodState :=
  if e.isUnsupportedDefault then { s with table := s.table.append p.backing } else s

theorem isUnsupportedDefault_of_check {t : SymbolTable} (h : p.check t = .error e) :
    e.isUnsupportedDefault = false := by
  rcases check_eq_error_iff.1 h with htype | ⟨_, hdefault⟩ | ⟨_, _, hnames⟩
  · obtain ⟨_, rfl⟩ := checkType_eq_error_iff.1 htype
    rfl
  · obtain ⟨c, l, _, _, _, rfl⟩ := checkDefault_eq_error_iff.1 hdefault
    rfl
  · rcases checkNames_eq_error_iff.1 hnames with ⟨_, rfl⟩ | ⟨_, slot, _, _, rfl⟩ <;> rfl

theorem isUnsupportedDefault_of_fallback (h : p.fallback facts = .error e) :
    e.isUnsupportedDefault = true := by
  obtain ⟨l, _, _, rfl⟩ := fallback_eq_error_iff.1 h
  rfl

theorem state_of_bind_eq_error (h : p.bind facts s = (.error e, s')) : s' = p.stateBehind e s := by
  unfold bind at h
  split at h
  · rename_i hcheck
    cases h
    simp [stateBehind, isUnsupportedDefault_of_check hcheck]
  · dsimp only at h
    split at h
    · rename_i hfallback
      cases h
      simp [stateBehind, isUnsupportedDefault_of_fallback hfallback]
    · cases h

end Parameter

/-- A list fails where one of its parameters fails in the state that those in front of it left. -/
theorem bindParameters_eq_error_iff_split {ps : List Parameter} :
    bindParameters facts ps s = (.error e, s') ↔
      ∃ earlier p later bs s₁, ps = earlier ++ p :: later ∧
        bindParameters facts earlier s = (.ok bs, s₁) ∧ (p.bind facts s₁).1 = .error e ∧
          s' = p.stateBehind e s₁ := by
  constructor
  · intro h
    -- the parameters in front of the failing one bind, each in the state that is left to it
    induction ps generalizing s with
    | nil => cases h
    | cons p ps ih =>
        rcases hbind : p.bind facts s with ⟨e₁ | b, s₁⟩
        · rw [bindParameters_cons_of_error hbind] at h
          cases h
          refine ⟨[], p, ps, [], s, rfl, rfl, ?_, Parameter.state_of_bind_eq_error hbind⟩
          rw [hbind]
        · rw [bindParameters_cons_of_ok hbind] at h
          have hrest : bindParameters facts ps s₁ = (.error e, s') := by
            obtain ⟨hresult, hstate⟩ := Prod.mk.inj h
            exact Prod.ext (Outcome.map_eq_error_iff.1 hresult) hstate
          rcases ih hrest with ⟨earlier, q, later, bs, s₂, rfl, hearlier, hq, hstate⟩
          refine ⟨p :: earlier, q, later, b :: bs, s₂, rfl, ?_, hq, hstate⟩
          rw [bindParameters_cons_of_ok hbind, hearlier]
          rfl
  · rintro ⟨earlier, p, later, bs, s₁, rfl, hearlier, hp, rfl⟩
    have hbind : p.bind facts s₁ = (.error e, (p.bind facts s₁).2) := Prod.ext hp rfl
    simp only [bindParameters_append, hearlier, bindParameters_cons_of_error hbind]
    rw [Parameter.state_of_bind_eq_error hbind]

/-! ## Every list -/

/-- Binding a list that is cut in two is binding its parts one after the other.  What is collected is put
together part by part, table and requests follow from it, and where a parameter fails the state is that
behind the ones in front of it, with its variables if its default does not fit.  The operations of the
parameters, taken one by one, leave the same states. -/
theorem bindParameters_compositional (facts : BindingFacts) (s : MethodState) :
    (∀ ps qs, bindParameters facts (ps ++ qs) s =
      match bindParameters facts ps s with
      | (.error e, s₁) => (.error e, s₁)
      | (.ok bs, s₁) =>
        match bindParameters facts qs s₁ with
        | (.error e, s₂) => (.error e, s₂)
        | (.ok cs, s₂) => (.ok (bs ++ cs), s₂)) ∧
      (∀ bs cs : BoundParameters,
        BoundParameters.summary (bs ++ cs) = bs.summary.append cs.summary) ∧
      (∀ ps (bs : BoundParameters) s', bindParameters facts ps s = (.ok bs, s') →
        s'.table = s.table.append (ps.flatMap Parameter.backing) ∧
          s'.growth = s.growth.requestTimes bs.summary.requests) ∧
      (∀ ps e s', bindParameters facts ps s = (.error e, s') ↔
        ∃ earlier p later bs s₁, ps = earlier ++ p :: later ∧
          bindParameters facts earlier s = (.ok bs, s₁) ∧ (p.bind facts s₁).1 = .error e ∧
            s' = p.stateBehind e s₁) ∧
      ∀ ps, ((ps.mapM (Parameter.bindInSteps facts)).run s).2 =
        (bindParameters facts ps s).2 := by
  refine ⟨fun ps qs => bindParameters_append ps qs s, BoundParameters.summary_append, ?_,
    fun _ _ _ => bindParameters_eq_error_iff_split, ?_⟩
  · intro ps bs s' h
    have hbinds : Binds facts ps s bs s' := binds_of_bindParameters h
    exact ⟨hbinds.table_eq, hbinds.growth_eq⟩
  · intro ps
    rw [run_mapM_bindInSteps]

/-- A default that does not fit, behind a parameter that is bound. -/
theorem names_behind_unfit_default :
    (bindParameters (ClassContext.bindingFacts { owner := ⟨"C"⟩ })
        [{ name := "b" }, { name := "a", declaredType := some .int, default := some (.string "x") }]
        {}).2.table.names = ["this", "return_value", "b", "a", "a_param"] := by
  have hfails := ((bindParameters_compositional (ClassContext.bindingFacts { owner := ⟨"C"⟩ })
    {}).2.2.2.1 _ _ _).2 ⟨[{ name := "b" }],
      { name := "a", declaredType := some .int, default := some (.string "x") }, [], _, _, rfl, rfl,
      rfl, rfl⟩
  exact (congrArg (·.2.table.names) hfails).trans rfl

end NativeMethod
