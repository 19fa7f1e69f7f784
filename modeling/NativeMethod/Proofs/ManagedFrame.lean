import NativeMethod.Proofs.Allocation
import NativeMethod.Proofs.FrameRequests

/-!
# ManagedFrame — when a method runs in a managed frame

The decision is made from requests that come from many places: the body, the conversions and
separations of parameters, their defaults, and the variables that are initialised at the head.

* `NeedsFrame` — the reasons for a managed frame, read off the declaration, the body and the table;
* `managedFrame_exact` — a method has a managed frame exactly for one of them, so without a frame no
  line of the head allocates, and where the body asked does not matter.
-/

namespace NativeMethod

/-- A reason for a managed frame.  The table is the one that the body leaves behind. -/
inductive NeedsFrame (ctx : ClassContext) (m : Method) (body : Body) (t : SymbolTable) : Prop where
  | requested : body.AsksForFrame → NeedsFrame ctx m body t
  | copied {p : Parameter} :
      p ∈ m.parameters → p.type = .string ∨ p.type = .array → NeedsFrame ctx m body t
  | separated {p : Parameter} :
      p ∈ m.parameters → p.type.isBoxed = true →
        (ctx.bindingFacts.estimate p.name).needsSeparation = true → NeedsFrame ctx m body t
  | defaulted {p : Parameter} {l : Literal} {i : Initialization} :
      p ∈ m.parameters → p.default = some l →
        p.localVariable.initialization ctx.constants (ctx.bindingFacts.estimate p.name) p.span l =
          .ok i → i.allocates = true → NeedsFrame ctx m body t
  | seeded {v : Variable} {l : Literal} {i : Initialization} :
      v ∈ t.variables → v.type.isBoxed = true → v.isExternal = false → v.seed = some l →
        v.initialization ctx.constants (ctx.bindingFacts.estimate v.name) v.span l = .ok i →
          i.allocates = true → NeedsFrame ctx m body t

/-! ## The sources of requests -/

/-- A bound parameter asks for a frame if it is copied, if it is separated or if its default is
built. -/
theorem BoundParameter.Follows.requests_ne_zero_iff {facts : BindingFacts} {b : BoundParameter}
    (h : b.Follows facts) :
    b.requests ≠ 0 ↔
      (b.parameter.type = .string ∨ b.parameter.type = .array) ∨
        (b.parameter.type.isBoxed = true ∧ (facts.estimate b.name).needsSeparation = true) ∨
          ∃ l i, b.parameter.default = some l ∧
            b.parameter.localVariable.initialization facts.constants (facts.estimate b.name)
              b.parameter.span l = .ok i ∧ i.allocates = true := by
  have hseparated : b.isSeparated = true ↔
      b.parameter.type.isBoxed = true ∧ (facts.estimate b.name).needsSeparation = true := by
    rw [h.isSeparated_eq, Bool.and_eq_true]
  have hreceipts := h.exists_allocating_receipt_iff
  rw [hseparated] at hreceipts
  rw [BoundParameter.requests_ne_zero_iff, hreceipts]
  constructor
  · rintro (⟨i, hi, hallocates⟩ | htype | hneeds)
    · rcases h.fallback_eq_some_iff.1 hi with ⟨l, hl, hok⟩
      exact .inr (.inr ⟨l, i, hl, hok, hallocates⟩)
    · exact .inl htype
    · exact .inr (.inl hneeds)
  · rintro (htype | hneeds | ⟨l, i, hl, hok, hallocates⟩)
    · exact .inr (.inl htype)
    · exact .inr (.inr hneeds)
    · exact .inl ⟨i, h.fallback_eq_some_iff.2 ⟨l, hl, hok⟩, hallocates⟩

theorem BoundParameters.requests_ne_zero_iff (bs : BoundParameters) :
    bs.requests ≠ 0 ↔ ∃ b ∈ bs, b.requests ≠ 0 := by
  induction bs with
  | nil => simp [requests]
  | cons b bs ih =>
      have hsum : requests (b :: bs) ≠ 0 ↔ b.requests ≠ 0 ∨ requests bs ≠ 0 := by
        simp only [requests]
        omega
      rw [hsum, ih]
      simp

theorem Body.requests_ne_zero_iff (b : Body) : requests b.steps ≠ 0 ↔ b.AsksForFrame := by
  rw [Nat.ne_zero_iff_zero_lt, requests, List.countP_pos_iff]
  rfl

theorem SymbolTable.mem_seeded_iff {t : SymbolTable} {v : Variable} {l : Literal} :
    (v, l) ∈ t.seeded ↔
      v ∈ t.variables ∧ v.type.isBoxed = true ∧ v.isExternal = false ∧ v.seed = some l := by
  simp only [seeded, List.mem_filterMap, List.mem_filter]
  constructor
  · rintro ⟨w, ⟨hw, hboxed⟩, hseed⟩
    rcases Option.map_eq_some_iff.1 hseed with ⟨l', hl', heq⟩
    cases heq
    have hflags : v.type.isBoxed = true ∧ v.isExternal = false := by simpa using hboxed
    exact ⟨hw, hflags.1, hflags.2, hl'⟩
  · rintro ⟨hv, hboxed, hexternal, hseed⟩
    exact ⟨v, ⟨hv, by simp [hboxed, hexternal]⟩, by simp [hseed]⟩

theorem ClassContext.seed_eq_ok_iff {ctx : ClassContext} {v : Variable} {l : Literal} {s : Seed} :
    ctx.seed v l = .ok s ↔
      s.target = v ∧
        v.initialization ctx.constants (ctx.bindingFacts.estimate v.name) v.span l = .ok s.code := by
  unfold seed
  rw [Outcome.map_eq_ok_iff]
  constructor
  · rintro ⟨i, hi, rfl⟩
    exact ⟨rfl, hi⟩
  · rintro ⟨rfl, hi⟩
    exact ⟨s.code, hi, rfl⟩

/-! ## The decision -/

namespace Phases

variable {ctx : ClassContext} {m : Method} {body : Body} {s : MethodState} {c : CompiledMethod}

theorem isManaged_iff (h : Phases ctx m body s c) :
    c.isManaged = true ↔
      body.AsksForFrame ∨ (∃ b ∈ c.bound, b.requests ≠ 0) ∨
        ∃ seed ∈ c.seeds, seed.code.allocates = true := by
  -- the requests of all phases add up, and one is enough
  have hrequested : c.isManaged =
      (c.bound.requests != 0 || Body.requests body.steps != 0 ||
        c.seeds.countP (·.code.allocates) != 0) := by
    have hgrowth : c.isManaged = c.growth.isRequested := rfl
    rw [hgrowth, h.growth_eq, h.binds.growth_eq]
    simp only [Growth.isRequested_requestTimes]
    rfl
  have hseeds : c.seeds.countP (·.code.allocates) ≠ 0 ↔
      ∃ seed ∈ c.seeds, seed.code.allocates = true := by
    rw [Nat.ne_zero_iff_zero_lt, List.countP_pos_iff]
  rw [hrequested, ← body.requests_ne_zero_iff, ← c.bound.requests_ne_zero_iff, ← hseeds]
  simp only [Bool.or_eq_true, bne_iff_ne]
  tauto

/-- The initialised variables are those that the table seeds. -/
theorem exists_seed_iff (h : Phases ctx m body s c) :
    (∃ seed ∈ c.seeds, seed.code.allocates = true) ↔
      ∃ v l i, (v, l) ∈ c.table.seeded ∧
        v.initialization ctx.constants (ctx.bindingFacts.estimate v.name) v.span l = .ok i ∧
          i.allocates = true := by
  constructor
  · rintro ⟨seed, hseed, hallocates⟩
    rcases Outcome.exists_source h.seeds_ok hseed with ⟨⟨v, l⟩, hvl, hok⟩
    exact ⟨v, l, seed.code, hvl, (ClassContext.seed_eq_ok_iff.1 hok).2, hallocates⟩
  · rintro ⟨v, l, i, hvl, hi, hallocates⟩
    rcases Outcome.exists_result h.seeds_ok hvl with ⟨seed, hseed, hok⟩
    have hcode : Except.ok i = (Except.ok seed.code : Except CompileError Initialization) :=
      hi.symm.trans (ClassContext.seed_eq_ok_iff.1 hok).2
    cases hcode
    exact ⟨seed, hseed, hallocates⟩

theorem needsFrame (h : Phases ctx m body s c) (managed : c.isManaged = true) :
    NeedsFrame ctx m body c.table := by
  rcases h.isManaged_iff.1 managed with hasks | ⟨b, hb, hrequests⟩ | hseed
  · exact .requested hasks
  · have hp := h.binds.mem_parameters hb
    rcases (h.binds.follows b hb).requests_ne_zero_iff.1 hrequests with
      htype | ⟨hboxed, hneeds⟩ | ⟨l, i, hl, hi, hallocates⟩
    · exact .copied hp htype
    · exact .separated hp hboxed hneeds
    · exact .defaulted hp hl hi hallocates
  · rcases h.exists_seed_iff.1 hseed with ⟨v, l, i, hvl, hi, hallocates⟩
    rcases SymbolTable.mem_seeded_iff.1 hvl with ⟨hv, hboxed, hexternal, hseed⟩
    exact .seeded hv hboxed hexternal hseed hi hallocates

theorem isManaged_of_needsFrame (h : Phases ctx m body s c) (reason : NeedsFrame ctx m body c.table) :
    c.isManaged = true := by
  -- a reason that comes from a parameter is one for what the parameter was bound to
  have hparameter {p : Parameter} (hp : p ∈ m.parameters)
      (hreason : ∀ b ∈ c.bound, b.parameter = p → b.requests ≠ 0) : c.isManaged = true := by
    rcases h.binds.exists_bound hp with ⟨b, hb, hparameter⟩
    exact h.isManaged_iff.2 (.inr (.inl ⟨b, hb, hreason b hb hparameter⟩))
  cases reason with
  | requested hasks => exact h.isManaged_iff.2 (.inl hasks)
  | copied hp htype =>
      apply hparameter hp
      intro b hb hname
      subst hname
      exact (h.binds.follows b hb).requests_ne_zero_iff.2 (.inl htype)
  | separated hp hboxed hneeds =>
      apply hparameter hp
      intro b hb hname
      subst hname
      exact (h.binds.follows b hb).requests_ne_zero_iff.2 (.inr (.inl ⟨hboxed, hneeds⟩))
  | defaulted hp hl hi hallocates =>
      apply hparameter hp
      intro b hb hname
      subst hname
      exact (h.binds.follows b hb).requests_ne_zero_iff.2 (.inr (.inr ⟨_, _, hl, hi, hallocates⟩))
  | seeded hv hboxed hexternal hseed hi hallocates =>
      have hvl := SymbolTable.mem_seeded_iff.2 ⟨hv, hboxed, hexternal, hseed⟩
      exact h.isManaged_iff.2 (.inr (.inr (h.exists_seed_iff.2 ⟨_, _, _, hvl, hi, hallocates⟩)))

theorem isManaged_iff_needsFrame (h : Phases ctx m body s c) :
    c.isManaged = true ↔ NeedsFrame ctx m body c.table :=
  ⟨h.needsFrame, h.isManaged_of_needsFrame⟩

/-! ## The lines at the head of a method -/

/-- Every parameter has a variable of its name in the table, whatever the body did. -/
theorem exists_variable (h : Phases ctx m body s c) {b : BoundParameter} (hb : b ∈ c.bound) :
    ∃ v ∈ c.table.variables, v.name = b.name := by
  -- it was declared when the parameter was bound, and no change takes it away
  have hlocal : b.parameter.localVariable ∈ b.parameter.backing := List.mem_cons_self
  have hstart := h.binds.find?_backing (h.binds.mem_parameters hb) hlocal
  have hfinal := SymbolTable.find?_run h.namesDistinct_start (Body.changes body.steps) hstart
  rw [← h.table_eq] at hfinal
  rcases SymbolTable.mem_of_find?_eq_some hfinal with ⟨hv, hname⟩
  exact ⟨_, hv, hname⟩

/-- The lines of the parameters and of the initialised variables need a frame exactly when one of
them allocates. -/
theorem isManaged_iff_lines (h : Phases ctx m body s c)
    (named : ∀ v ∈ c.table.variables, IsIdentifier v.name) :
    c.isManaged = true ↔
      body.AsksForFrame ∨ ∃ f ∈ c.bound.fragments ++ c.seedFragments, f.allocates = true := by
  have hbound : (∃ f ∈ c.bound.fragments, f.allocates = true) ↔
      ∃ b ∈ c.bound, b.requests ≠ 0 := by
    apply Fragment.exists_allocates_flatMap_iff
    intro b hb
    have hname : IsIdentifier b.name := by
      rcases h.exists_variable hb with ⟨v, hv, hname⟩
      simpa only [← hname] using named v hv
    exact (h.binds.follows b hb).exists_fragment_iff hname 1
  have hseeds : (∃ f ∈ c.seedFragments, f.allocates = true) ↔
      ∃ seed ∈ c.seeds, seed.code.allocates = true := by
    apply Fragment.exists_allocates_flatMap_iff
    intro seed hseed
    rcases Outcome.exists_source h.seeds_ok hseed with ⟨⟨v, l⟩, hvl, hok⟩
    rcases SymbolTable.mem_seeded_iff.1 hvl with ⟨hv, _⟩
    exact Fragment.exists_allocates_codeLines_iff.trans
      (Initialization.exists_line_iff (ClassContext.seed_eq_ok_iff.1 hok).2 (named v hv))
  rw [h.isManaged_iff, ← hbound, ← hseeds]
  simp only [List.mem_append, or_and_right, exists_or]

end Phases

/-- Nothing that is done at the head of the method allocates. -/
structure CompiledMethod.HeadIsPlain (c : CompiledMethod) : Prop where
  receipts : ∀ b ∈ c.bound, ∀ r ∈ b.receipts, r.allocates = false
  defaults : ∀ b ∈ c.bound, ∀ i, b.fallback = some i → i.allocates = false
  seeds : ∀ seed ∈ c.seeds, seed.code.allocates = false

theorem Phases.headIsPlain {ctx : ClassContext} {m : Method} {body : Body} {s : MethodState}
    {c : CompiledMethod} (h : Phases ctx m body s c) (unmanaged : c.isManaged = false) :
    c.HeadIsPlain := by
  -- one thing that allocates would be a reason
  have hnone := mt h.isManaged_iff.2 (by simp [unmanaged])
  have hbound {b : BoundParameter} (hb : b ∈ c.bound) :
      ¬ ((∃ i, b.fallback = some i ∧ i.allocates = true) ∨
        ∃ r ∈ b.receipts, r.allocates = true) := by
    intro hsome
    exact hnone (.inr (.inl ⟨b, hb, BoundParameter.requests_ne_zero_iff.2 hsome⟩))
  refine ⟨?_, ?_, ?_⟩
  · intro b hb r hr
    by_contra hallocates
    exact hbound hb (.inr ⟨r, hr, by simpa using hallocates⟩)
  · intro b hb i hi
    by_contra hallocates
    exact hbound hb (.inl ⟨i, hi, by simpa using hallocates⟩)
  · intro seed hseed
    by_contra hallocates
    exact hnone (.inr (.inr ⟨seed, hseed, by simpa using hallocates⟩))

/-- Bodies that both ask for a frame or both do not give the same reasons. -/
theorem NeedsFrame.congr_body {ctx : ClassContext} {m : Method} {body body' : Body}
    {t : SymbolTable} (asks : body.AsksForFrame → body'.AsksForFrame)
    (h : NeedsFrame ctx m body t) : NeedsFrame ctx m body' t := by
  cases h with
  | requested hasks => exact .requested (asks hasks)
  | copied hp htype => exact .copied hp htype
  | separated hp hboxed hneeds => exact .separated hp hboxed hneeds
  | defaulted hp hl hi hallocates => exact .defaulted hp hl hi hallocates
  | seeded hv hboxed hexternal hseed hi hallocates =>
      exact .seeded hv hboxed hexternal hseed hi hallocates

/-- Moving and repeating the requests of a body changes neither the decision nor the code. -/
theorem ClassContext.code_of_sameButRequests {ctx : ClassContext} {m : Method}
    {body body' : Body} {sink : Diagnostics} {c : CompiledMethod}
    (compiled : (ctx.compile m body sink).result = .ok c) (same : body.SameButRequests body') :
    ∃ c', (ctx.compile m body' sink).result = .ok c' ∧ c' = { c with growth := c'.growth } ∧
      c'.resolved = c.resolved ∧
      (ctx.compile m body' sink).sink = (ctx.compile m body sink).sink := by
  rcases compile_of_sameButRequests same compiled with ⟨g, hcompiled, hsink⟩
  rcases exists_phases compiled with ⟨s, h⟩
  rcases exists_phases hcompiled with ⟨s', h'⟩
  refine ⟨_, hcompiled, rfl, ?_, hsink⟩
  -- the table is the same, so are the reasons, and so is what all sites follow
  have hreasons : NeedsFrame ctx m body' c.table ↔ NeedsFrame ctx m body c.table :=
    ⟨.congr_body same.asks_iff.2, .congr_body same.asks_iff.1⟩
  have hmanaged : g.isRequested = c.growth.isRequested := by
    rw [Bool.eq_iff_iff]
    exact h'.isManaged_iff_needsFrame.trans (hreasons.trans h.isManaged_iff_needsFrame.symm)
  simp only [CompiledMethod.resolved, Growth.resolve, hmanaged]
  rfl

/-- A method runs in a managed frame exactly if there is a reason.  Without a frame nothing at its
head allocates, and lines of variables with proper names allocate exactly as the decisions say.  All
sites follow one decision, and nothing depends on where and how often the body asked. -/
theorem managedFrame_exact {ctx : ClassContext} {m : Method} {body : Body} {sink : Diagnostics}
    {c : CompiledMethod} (compiled : (ctx.compile m body sink).result = .ok c) :
    (c.isManaged = true ↔ NeedsFrame ctx m body c.table) ∧
      (c.isManaged = false → c.HeadIsPlain) ∧
      ((∀ v ∈ c.table.variables, IsIdentifier v.name) →
        (c.isManaged = true ↔
          body.AsksForFrame ∨ ∃ f ∈ c.bound.fragments ++ c.seedFragments, f.allocates = true)) ∧
      c.code = Fragment.render c.isManaged c.fragments ∧
      ∀ body', body.SameButRequests body' →
        ∃ c', (ctx.compile m body' sink).result = .ok c' ∧ c' = { c with growth := c'.growth } ∧
          c'.resolved = c.resolved ∧
          (ctx.compile m body' sink).sink = (ctx.compile m body sink).sink := by
  rcases ClassContext.exists_phases compiled with ⟨s, h⟩
  exact ⟨h.isManaged_iff_needsFrame, h.headIsPlain, h.isManaged_iff_lines, c.code_eq_render,
    fun body' same => ClassContext.code_of_sameButRequests compiled same⟩

/-- A method without parameters whose body asks for a frame behind its first line. -/
theorem managedFrame_of_late_request :
    ∃ c : CompiledMethod,
      (ClassContext.compile { owner := ⟨"C"⟩ } { name := "f" }
        { steps := [⟨.emit 0 "x = 1;", false⟩, ⟨.requestGrowth, false⟩] } {}).result = .ok c ∧
        c.isManaged = true := by
  rcases hresult : (ClassContext.compile { owner := ⟨"C"⟩ } { name := "f" }
      { steps := [⟨.emit 0 "x = 1;", false⟩, ⟨.requestGrowth, false⟩] } {}).result with _ | c
  · cases hresult
  · refine ⟨c, rfl, (managedFrame_exact hresult).1.2 (.requested ?_)⟩
    exact ⟨⟨.requestGrowth, false⟩, by simp, rfl⟩

end NativeMethod
