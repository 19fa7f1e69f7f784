import NativeMethod.Proofs.ManagedFrame
import NativeMethod.Proofs.OwnValues

/-!
# Separation — storage of one's own, and storage that is shared

An estimate of the mutations of a variable is asked twice.  A parameter that is written through is
separated from the storage of its caller; a default of a variable that is not may be one of the values
the runtime holds once.  The two must not meet:

* `separates` — a line separates a value, apart from its indentation;
* `BoundParameter.LaidOut` — where the separation of a parameter stands in its code;
* `Initialization.Unshared` — the code for a default makes a value and assigns nothing;
* `separation_excludes_sharing` — exactly the separated parameters have a separation, each has one, and
  neither their defaults nor those of other variables written through are shared.
-/

namespace NativeMethod

/-! ## Lines that separate -/

/-- The line separates a value, apart from its indentation. -/
def separates (line : String) : Bool :=
  callee? (String.ofList (line.toList.dropWhile (· == '\t'))) == some "ZEPHIR_SEPARATE_PARAM"

def Fragment.separates (f : Fragment) : Bool :=
  match f.content with
  | .code t => NativeMethod.separates t
  | _ => false

/-- An assignment separates nothing, unless what it assigns is no variable. -/
theorem separates_assignment (name value : String) :
    separates (name ++ " = " ++ value) = separates name := by
  have htext : (name ++ " = " ++ value).toList = name.toList ++ ' ' :: '=' :: ' ' :: value.toList := by
    simp
  cases hdrop : name.toList.dropWhile (· == '\t') with
  | nil => simp [separates, htext, List.dropWhile_append, hdrop, callee?, isIdentifierChar]
  | cons x xs =>
      have hline : String.ofList ((name ++ " = " ++ value).toList.dropWhile (· == '\t')) =
          String.ofList (x :: xs) ++ " = " ++ value := by
        rw [← String.toList_inj]
        simp [htext, List.dropWhile_append, hdrop]
      simp only [separates, hline, hdrop, callee?_assignment]

theorem separates_of_calls {function text : String} (named : IsIdentifier function)
    (h : Calls function text) : separates text = (function == "ZEPHIR_SEPARATE_PARAM") := by
  rcases h with ⟨rest, rfl⟩
  have htext : (function ++ "(" ++ rest).toList = function.toList ++ '(' :: rest.toList := by
    simp
  have hline : String.ofList ((function ++ "(" ++ rest).toList.dropWhile (· == '\t')) =
      function ++ "(" ++ rest := by
    rw [htext, named.dropWhile_tab, ← htext, String.ofList_toList]
  rw [separates, hline, callee?_call named]
  simp

theorem BuildLine.separates_eq_false {name text : String} (h : BuildLine name text) :
    separates text = false := by
  have hother : ∀ function ∈ builders, (function == "ZEPHIR_SEPARATE_PARAM") = false := by
    decide
  cases h with
  | call function hmem hcalls =>
      rw [separates_of_calls (isIdentifier_of_mem_builders function hmem) hcalls]
      exact hother function hmem
  | openBlock => decide
  | closeBlock => decide
  | temporary depth => simp [separates, callee?, isIdentifierChar]

/-- A default separates nothing, as long as the name of its variable does not. -/
theorem Initialization.separates_eq_false {v : Variable} {constants : SharedConstants} {e : Estimate}
    {l : Literal} {i : Initialization} (h : v.initialization? constants e l = some i)
    (plain : separates v.name = false) {t : String} (ht : t ∈ i.lines) : separates t = false := by
  rcases Variable.initialization?_cases h with ⟨value, hlines, _⟩ | hbuilds
  · rw [hlines] at ht
    rw [List.mem_singleton.1 ht, String.append_assoc, separates_assignment, plain]
  · rcases hbuilds.buildLine ht with ⟨depth, text, rfl, hline⟩
    simpa only [separates, Command.dropWhile_tab_indented] using hline.separates_eq_false

/-! ## Parameters -/

/-- Of the boxed types only strings and arrays are converted. -/
theorem StorageType.hasSlot_iff_of_isBoxed {t : StorageType} (boxed : t.isBoxed = true) :
    t.hasSlot = true ↔ t = .string ∨ t = .array := by
  revert boxed
  cases t <;> decide

namespace Parameter

/-- The parameter is boxed and written through. -/
def needsSeparation (p : Parameter) (facts : BindingFacts) : Bool :=
  p.type.isBoxed && (facts.estimate p.name).needsSeparation

/-- The separation of a boxed parameter: of the converted local for strings and arrays, and of the
argument that was received for all others. -/
def separationLine (p : Parameter) : String :=
  "ZEPHIR_SEPARATE_PARAM(" ++
    (if p.type = .string ∨ p.type = .array then "&" ++ p.name else p.fetchedName) ++ ");"

end Parameter

namespace BoundParameter

variable {facts : BindingFacts} {b : BoundParameter}

theorem Follows.isSeparated_iff (h : b.Follows facts) :
    b.isSeparated = b.parameter.needsSeparation facts :=
  h.isSeparated_eq

theorem separationTarget_text (boxed : b.parameter.type.isBoxed = true) :
    "ZEPHIR_SEPARATE_PARAM(" ++ b.separationTarget.text ++ ");" = b.parameter.separationLine := by
  have hslot := StorageType.hasSlot_iff_of_isBoxed boxed
  unfold separationTarget Parameter.separationLine
  by_cases htype : b.parameter.type = .string ∨ b.parameter.type = .array
  · -- what is converted is stored in the local itself, so its address is taken
    have hlocal : b.parameter.localVariable.isLocalOnly = true := by
      simpa [Parameter.localVariable, Variable.isLocalOnly] using htype
    rw [if_pos (hslot.2 htype), if_pos htype, Variable.operand, hlocal]
    rfl
  · rw [if_neg (mt hslot.1 htype), if_neg htype]
    rfl

/-- Where a separation stands: behind the guard and the conversion of a supplied argument, and never
where the argument is missing. -/
structure LaidOut (b : BoundParameter) (facts : BindingFacts) : Prop where
  supplied : ∀ indent, b.suppliedFragments indent =
    b.guards.flatMap (Guard.fragments indent) ++
      (b.conversion?.toList.map fun c => .code indent (c.text b.name b.parameter.fetchedName)) ++
      (if b.parameter.needsSeparation facts then [.code indent b.parameter.separationLine] else [])
  required : b.fallback = none → b.fragments 1 = b.suppliedFragments 1
  optional : ∀ i, b.fallback = some i → b.fragments 1 =
    .code 1 ("if (!" ++ b.parameter.fetchedName ++ ") \x7b") ::
      (Fragment.codeLines 2 i.lines ++
        ((if (b.suppliedFragments 2).isEmpty then []
          else .code 1 "\x7d else \x7b" :: b.suppliedFragments 2) ++ [.code 1 "\x7d"]))

theorem Follows.laidOut (h : b.Follows facts) : b.LaidOut facts := by
  refine ⟨?_, fun required => fragments_of_required required 1,
    fun i optional => fragments_of_optional optional 1⟩
  intro indent
  -- the receipts are guards, a conversion and a separation, each of which has its own fragments
  have hguards : (b.guard?.toList.map Receipt.check).flatMap (Receipt.fragments indent) =
      b.guards.flatMap (Guard.fragments indent) := by
    rw [h.guards_eq, List.flatMap_map]
    rfl
  have hconversion :
      (b.conversion?.toList.map (Receipt.convert · b.name b.parameter.fetchedName)).flatMap
          (Receipt.fragments indent) =
        b.conversion?.toList.map fun c =>
          .code indent (c.text b.name b.parameter.fetchedName) := by
    cases b.conversion? <;> rfl
  have hseparation :
      (if b.isSeparated then [Receipt.separate b.separationTarget] else []).flatMap
          (Receipt.fragments indent) =
        if b.parameter.needsSeparation facts then [.code indent b.parameter.separationLine]
        else [] := by
    rw [h.isSeparated_iff]
    cases hneeds : b.parameter.needsSeparation facts with
    | false => rfl
    | true =>
        -- a parameter that is separated is boxed, and its target is then the parameter itself
        rw [← separationTarget_text (Bool.and_eq_true_iff.1 hneeds).1]
        rfl
  rw [suppliedFragments, h.receipts_eq, List.flatMap_append, List.flatMap_append, hguards,
    hconversion, hseparation, List.append_assoc]

/-! ### Counting separations -/

theorem separates_of_mem_guard {g : Guard} {indent : Nat} {f : Fragment}
    (hf : f ∈ g.fragments indent) : f.separates = false := by
  rcases Guard.mem_fragments_cases hf with rfl | rfl | rfl | rfl
  · simp [Fragment.separates, Fragment.code, separates, callee?, isIdentifierChar]
  · have hcalls : Calls "zephir_throw_exception_string" g.raiseLine := ⟨_, g.raiseLine_eq⟩
    exact separates_of_calls Guard.isIdentifier_thrower hcalls
  · rfl
  · rfl

theorem separates_conversion {c : Conversion} (h : b.conversion? = some c)
    (plain : separates b.name = false) (slot : String) :
    separates (c.text b.name slot) = false := by
  rcases Conversion.text_cases (conversion?_eq_some h) b.name slot with
    ⟨_, value, htext⟩ | ⟨_, function, hwriter, rest, htext⟩
  · rw [htext, separates_assignment, plain]
  · have hother : ∀ function ∈ Conversion.writers,
        (function == "ZEPHIR_SEPARATE_PARAM") = false := by
      decide
    rw [separates_of_calls (Conversion.isIdentifier_of_mem_writers function hwriter) ⟨rest, htext⟩]
    exact hother function hwriter

theorem separates_separationLine (p : Parameter) : separates p.separationLine = true := by
  have hcalls : Calls "ZEPHIR_SEPARATE_PARAM" p.separationLine := Calls.separation _
  exact separates_of_calls (by decide) hcalls

theorem Follows.filter_suppliedFragments (h : b.Follows facts) (plain : separates b.name = false)
    (indent : Nat) :
    (b.suppliedFragments indent).filter Fragment.separates =
      if b.parameter.needsSeparation facts then [.code indent b.parameter.separationLine]
      else [] := by
  have hguards : (b.guards.flatMap (Guard.fragments indent)).filter Fragment.separates = [] := by
    rw [List.filter_eq_nil_iff]
    intro f hf
    rcases List.mem_flatMap.1 hf with ⟨g, _, hfg⟩
    simp [separates_of_mem_guard hfg]
  have hconversion : (b.conversion?.toList.map fun c =>
      Fragment.code indent (c.text b.name b.parameter.fetchedName)).filter Fragment.separates =
        [] := by
    rw [List.filter_eq_nil_iff]
    intro f hf
    rcases List.mem_map.1 hf with ⟨c, hc, rfl⟩
    simp [Fragment.separates, Fragment.code,
      separates_conversion (Option.mem_toList.1 hc) plain b.parameter.fetchedName]
  rw [h.laidOut.supplied, List.filter_append, List.filter_append, hguards, hconversion]
  cases b.parameter.needsSeparation facts with
  | false => rfl
  | true => simp [Fragment.separates, Fragment.code, separates_separationLine]

theorem Follows.filter_fragments (h : b.Follows facts) (plain : separates b.name = false) :
    (b.fragments 1).filter Fragment.separates =
      if b.parameter.needsSeparation facts then
        [.code (if b.parameter.isOptional then 2 else 1) b.parameter.separationLine]
      else [] := by
  rw [← h.isSome_fallback]
  cases hfallback : b.fallback with
  | none => rw [h.laidOut.required hfallback, h.filter_suppliedFragments plain]; rfl
  | some i =>
      rcases h.fallback_eq_some_iff.1 hfallback with ⟨l, _, hi⟩
      -- where the argument is missing there are only the lines of the default
      have hdefault : (Fragment.codeLines 2 i.lines).filter Fragment.separates = [] := by
        rw [List.filter_eq_nil_iff]
        intro f hf
        rcases List.mem_map.1 hf with ⟨t, ht, rfl⟩
        have hline := Initialization.separates_eq_false
          (Variable.initialization_eq_ok_iff.1 hi) plain ht
        simp [Fragment.separates, Fragment.code, hline]
      have htest : (Fragment.code 1 ("if (!" ++ b.parameter.fetchedName ++ ") \x7b")).separates =
          false := by
        simp [Fragment.separates, Fragment.code, separates, callee?, isIdentifierChar]
      rw [filter_fragments_of_optional hfallback 1 htest rfl rfl, hdefault,
        h.filter_suppliedFragments plain]
      rfl

end BoundParameter

/-! ## Lists of parameters -/

namespace Binds

variable {facts : BindingFacts} {ps : List Parameter} {bs : BoundParameters} {s s' : MethodState}

theorem separated_eq (h : Binds facts ps s bs s') :
    bs.separated = (ps.filter (·.needsSeparation facts)).map (·.name) := by
  have hdecided : bs.filter (·.isSeparated) = bs.filter (·.parameter.needsSeparation facts) :=
    List.filter_congr fun b hb => (h.follows b hb).isSeparated_iff
  calc
    bs.separated = (bs.filter (·.parameter.needsSeparation facts)).map (·.name) := by
      rw [BoundParameters.separated, hdecided]
    _ = ((bs.map (·.parameter)).filter (·.needsSeparation facts)).map (·.name) := by
      rw [List.filter_map, List.map_map]
      rfl
    _ = (ps.filter (·.needsSeparation facts)).map (·.name) := by rw [h.parameters_eq]

theorem mem_separated_iff (h : Binds facts ps s bs s') {p : Parameter} (hp : p ∈ ps) :
    p.name ∈ bs.separated ↔ p.needsSeparation facts = true := by
  rw [h.separated_eq]
  constructor
  · intro hname
    rcases List.mem_map.1 hname with ⟨q, hq, hqp⟩
    rcases List.mem_filter.1 hq with ⟨hq, hneeds⟩
    -- no other parameter has the name
    have hsame : q = p := List.inj_on_of_nodup_map h.nodup_names hq hp hqp
    exact hsame ▸ hneeds
  · intro hneeds
    exact List.mem_map.2 ⟨p, List.mem_filter.2 ⟨hp, hneeds⟩, rfl⟩

theorem filter_fragments (h : Binds facts ps s bs s')
    (plain : ∀ p ∈ ps, separates p.name = false) :
    bs.fragments.filter Fragment.separates =
      (ps.filter (·.needsSeparation facts)).map fun p =>
        .code (if p.isOptional then 2 else 1) p.separationLine := by
  have hlist (cs : List BoundParameter)
      (hcs : ∀ b ∈ cs, b.Follows facts ∧ separates b.name = false) :
      (cs.flatMap (BoundParameter.fragments 1)).filter Fragment.separates =
        ((cs.map (·.parameter)).filter (·.needsSeparation facts)).map fun p =>
          .code (if p.isOptional then 2 else 1) p.separationLine := by
    induction cs with
    | nil => rfl
    | cons b cs ih =>
        rcases hcs b List.mem_cons_self with ⟨hfollows, hplain⟩
        have hrest := ih fun b hb => hcs b (List.mem_cons_of_mem _ hb)
        rw [List.flatMap_cons, List.filter_append, hfollows.filter_fragments hplain, hrest]
        cases hneeds : b.parameter.needsSeparation facts <;> simp [hneeds]
  have hbound := hlist bs fun b hb => ⟨h.follows b hb, plain _ (h.mem_parameters hb)⟩
  rwa [h.parameters_eq] at hbound

end Binds

/-! ## Shared values -/

/-- The code makes a value of the variable's own and assigns no variable. -/
structure Initialization.Unshared (i : Initialization) (name : String) : Prop where
  built : ∃ target commands, i = .build target commands
  unassigned : IsIdentifier name → ∀ t ∈ i.lines, assignee? t = none

theorem Variable.Builds.unshared {v : Variable} {i : Initialization} (h : v.Builds i) :
    i.Unshared v.name := by
  refine ⟨?_, fun named t ht => h.assignee?_eq_none named ht⟩
  cases h with
  | scalar value => exact ⟨_, _, rfl⟩
  | emptyString => exact ⟨_, _, rfl⟩
  | emptyArray => exact ⟨_, _, rfl⟩
  | array items => exact ⟨_, _, rfl⟩

theorem BoundParameter.Follows.unshared {facts : BindingFacts} {b : BoundParameter}
    (h : b.Follows facts) (needs : b.parameter.needsSeparation facts = true) {i : Initialization}
    (hi : b.fallback = some i) : i.Unshared b.name := by
  rcases h.fallback_eq_some_iff.1 hi with ⟨l, _, hok⟩
  rcases Bool.and_eq_true_iff.1 needs with ⟨hboxed, hneeds⟩
  have hbuilds : b.parameter.localVariable.Builds i :=
    Variable.builds_of_needsSeparation hboxed hneeds (Variable.initialization_eq_ok_iff.1 hok)
  exact hbuilds.unshared

theorem ClassContext.unshared_of_seeded {ctx : ClassContext} {t : SymbolTable} {v : Variable}
    {l : Literal} {seed : Seed} (seeded : (v, l) ∈ t.seeded) (h : ctx.seed v l = .ok seed)
    (needs : (ctx.bindingFacts.estimate v.name).needsSeparation = true) :
    seed.code.Unshared v.name := by
  rcases SymbolTable.mem_seeded_iff.1 seeded with ⟨_, hboxed, _, _⟩
  have hok := (ClassContext.seed_eq_ok_iff.1 h).2
  exact (Variable.builds_of_needsSeparation hboxed needs
    (Variable.initialization_eq_ok_iff.1 hok)).unshared

/-- The separated parameters are those that are boxed and written through.  Each has one separation,
behind its guard and its conversion, and no other line separates anything.  Where such a parameter is
missing it is given a value of its own, and so is every other variable that is written through and
initialised at the head. -/
theorem separation_excludes_sharing {facts : BindingFacts} {ps : List Parameter}
    {bs : BoundParameters} {s s' : MethodState}
    (bound : bindParameters facts ps s = (.ok bs, s')) :
    bs.separated = (ps.filter (·.needsSeparation facts)).map (·.name) ∧
      (∀ p ∈ ps, p.name ∈ bs.separated ↔
        p.type.isBoxed = true ∧ (facts.estimate p.name).needsSeparation = true) ∧
      (∀ b ∈ bs, b.LaidOut facts) ∧
      ((∀ p ∈ ps, separates p.name = false) →
        bs.fragments.filter Fragment.separates =
          (ps.filter (·.needsSeparation facts)).map fun p =>
            .code (if p.isOptional then 2 else 1) p.separationLine) ∧
      (∀ b ∈ bs, b.name ∈ bs.separated → ∀ i, b.fallback = some i → i.Unshared b.name) ∧
      ∀ (ctx : ClassContext) (t : SymbolTable) (v : Variable) (l : Literal) (seed : Seed),
        (v, l) ∈ t.seeded → ctx.seed v l = .ok seed →
          (ctx.bindingFacts.estimate v.name).needsSeparation = true →
            seed.code.Unshared v.name := by
  have h := binds_of_bindParameters bound
  refine ⟨h.separated_eq, ?_, fun b hb => (h.follows b hb).laidOut, h.filter_fragments, ?_, ?_⟩
  · intro p hp
    rw [h.mem_separated_iff hp, Parameter.needsSeparation, Bool.and_eq_true]
  · intro b hb hname i hi
    have hneeds := (h.mem_separated_iff (h.mem_parameters hb)).1 hname
    exact (h.follows b hb).unshared hneeds hi
  · intro ctx t v l seed seeded hseed needs
    exact ClassContext.unshared_of_seeded seeded hseed needs

/-- Two optional parameters that are written through, a string and one of any type, and a required
one that is not boxed. -/
theorem separation_of_two_optional :
    ∃ (bs : BoundParameters) (s' : MethodState),
      bindParameters ⟨fun _ => .written true, fun _ => none, .standard⟩
        [{ name := "s", declaredType := some .string, default := some .null },
          { name := "v", default := some (.bool true) },
          { name := "n", declaredType := some .int }] {} = (.ok bs, s') ∧
        bs.fragments.filter Fragment.separates =
          [.code 2 "ZEPHIR_SEPARATE_PARAM(&s);", .code 2 "ZEPHIR_SEPARATE_PARAM(v);"] := by
  rcases hresult : bindParameters ⟨fun _ => .written true, fun _ => none, .standard⟩
      [{ name := "s", declaredType := some .string, default := some .null },
        { name := "v", default := some (.bool true) },
        { name := "n", declaredType := some .int }] {} with ⟨_ | bs, s'⟩
  · cases hresult
  · have hfragments := (separation_excludes_sharing hresult).2.2.2.1 (by decide)
    exact ⟨bs, s', rfl, hfragments.trans (by decide)⟩

end NativeMethod
