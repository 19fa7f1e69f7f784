import NativeMethod.Proofs.FunctionScope
import NativeMethod.Proofs.ManagedFrame

/-!
# SeededVariables — variables that are initialised at the head of a method

A body may give any variable of the table a default.  Those that are boxed and that no caller supplies
are initialised at the head of the method, while the declarations leave out the implicit ones.  The two
choices differ, and they do so for what is boxed, supplied by no caller and implicit:

* `Phases.exists_default` — an initialised variable got its default from the body;
* `seeded_declared_iff` — it is declared exactly if it is not implicit.
-/

namespace NativeMethod

open SymbolTable (Change)

theorem Parameter.of_mem_backing {p : Parameter} {v : Variable} (h : v ∈ p.backing) :
    v.seed = none ∧ v.isImplicit = false := by
  rcases List.mem_cons.1 h with rfl | hslot
  · exact ⟨rfl, rfl⟩
  · rcases Option.map_eq_some_iff.1 (Option.mem_toList.1 hslot) with ⟨x, _, rfl⟩
    exact ⟨rfl, rfl⟩

namespace Phases

variable {ctx : ClassContext} {m : Method} {body : Body} {s : MethodState} {c : CompiledMethod}

theorem mem_seeded_of_mem_seeds (h : Phases ctx m body s c) {seed : Seed} (hseed : seed ∈ c.seeds) :
    ∃ l, (seed.target, l) ∈ c.table.seeded := by
  rcases Outcome.exists_source h.seeds_ok hseed with ⟨⟨v, l⟩, hvl, hok⟩
  rw [(ClassContext.seed_eq_ok_iff.1 hok).1]
  exact ⟨l, hvl⟩

/-- No variable has a default before the body gives it one. -/
theorem exists_default (h : Phases ctx m body s c) {v : Variable} (hv : v ∈ c.table.variables)
    (seeded : v.seed.isSome = true) :
    ∃ value, Change.setSeed v.name value ∈ Body.changes body.steps := by
  rcases SymbolTable.exists_setSeed_of_find?_run h.namesDistinct_start (h.find?_run hv) seeded with
    ⟨w, hw, hdefault⟩ | hset
  · rcases h.implicit_or_backing (SymbolTable.mem_of_find?_eq_some hw).1 with
      rfl | rfl | ⟨p, _, hbacking⟩
    · cases hdefault
    · cases hdefault
    · simp [(Parameter.of_mem_backing hbacking).1] at hdefault
  · exact hset

/-- Only the receiver and the return slot are implicit before the body makes others so. -/
theorem implicit_cases (h : Phases ctx m body s c) {v : Variable} (hv : v ∈ c.table.variables)
    (implicit : v.isImplicit = true) :
    v.name = "this" ∨ v.name = "return_value" ∨
      ∃ flags, Change.addFlags v.name flags ∈ Body.changes body.steps ∧
        flags.isImplicit = true := by
  rcases SymbolTable.isImplicit_of_find?_run h.namesDistinct_start (h.find?_run hv) implicit with
    ⟨w, hw, hbefore⟩ | hflagged
  · rcases SymbolTable.mem_of_find?_eq_some hw with ⟨hmem, hname⟩
    rcases h.implicit_or_backing hmem with rfl | rfl | ⟨p, _, hbacking⟩
    · exact .inl hname.symm
    · exact .inr (.inl hname.symm)
    · simp [(Parameter.of_mem_backing hbacking).2] at hbefore
  · exact .inr (.inr hflagged)

/-- A variable of the table is declared exactly if it is not implicit. -/
theorem declares_iff (h : Phases ctx m body s c) {v : Variable} (hv : v ∈ c.table.variables) :
    c.Declares v.name ↔ v.isImplicit = false := by
  rw [CompiledMethod.declares_iff, mem_names_iff h.declarations_ok]
  constructor
  · rintro ⟨w, hw, hname⟩
    rcases List.mem_filter.1 hw with ⟨hmem, hvisible⟩
    have hwv : w = v := List.inj_on_of_nodup_map h.namesDistinct hmem hv hname
    subst hwv
    simpa using hvisible
  · intro hvisible
    exact ⟨v, List.mem_filter.2 ⟨hv, by simp [hvisible]⟩, rfl⟩

end Phases

/-- Every variable that is initialised at the head has its default from the body.  It is declared
exactly if it is not implicit; and then it is the receiver, the return slot or a variable that the body
made implicit. -/
theorem seeded_declared_iff {ctx : ClassContext} {m : Method} {body : Body} {sink : Diagnostics}
    {c : CompiledMethod} (compiled : (ctx.compile m body sink).result = .ok c) :
    ∀ seed ∈ c.seeds,
      (∃ value, Change.setSeed seed.target.name value ∈ Body.changes body.steps) ∧
      (c.Declares seed.target.name ↔ seed.target.isImplicit = false) ∧
      (seed.target.isImplicit = true →
        seed.target.name = "this" ∨ seed.target.name = "return_value" ∨
          ∃ flags, Change.addFlags seed.target.name flags ∈ Body.changes body.steps ∧
            flags.isImplicit = true) := by
  rcases ClassContext.exists_phases compiled with ⟨s, h⟩
  intro seed hseed
  rcases h.mem_seeded_of_mem_seeds hseed with ⟨l, hl⟩
  rcases SymbolTable.mem_seeded_iff.1 hl with ⟨hv, _, _, hdefault⟩
  have hsome : seed.target.seed.isSome = true := by simp [hdefault]
  exact ⟨h.exists_default hv hsome, h.declares_iff hv, h.implicit_cases hv⟩

/-- A local that is declared and initialised. -/
theorem declares_of_seeded_local :
    ∃ c : CompiledMethod,
      (ClassContext.compile { owner := ⟨"C"⟩ } { name := "f" }
        { steps := [⟨.change (.declare "x" .generic .nowhere), false⟩,
          ⟨.change (.setSeed "x" .null), false⟩] } {}).result = .ok c ∧
        (c.seeds.map (·.target.name)) = ["x"] ∧ c.Declares "x" := by
  rcases hresult : (ClassContext.compile { owner := ⟨"C"⟩ } { name := "f" }
      { steps := [⟨.change (.declare "x" .generic .nowhere), false⟩,
        ⟨.change (.setSeed "x" .null), false⟩] } {}).result with _ | c
  · cases hresult
  · have hseeded := seeded_declared_iff hresult
    cases hresult
    refine ⟨_, rfl, rfl, ?_⟩
    exact ((hseeded _ List.mem_cons_self).2.1).2 rfl

/-- The receiver is initialised if the body gives it a default, and it is never declared. -/
theorem not_declares_of_seeded_receiver :
    ∃ c : CompiledMethod,
      (ClassContext.compile { owner := ⟨"C"⟩ } { name := "f" }
        { steps := [⟨.change (.setSeed "this" .null), false⟩] } {}).result = .ok c ∧
        (c.seeds.map (·.target.name)) = ["this"] ∧ ¬ c.Declares "this" := by
  refine ⟨_, rfl, rfl, ?_⟩
  rintro ⟨g, hg, _⟩
  cases hg

end NativeMethod
