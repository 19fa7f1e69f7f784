import NativeMethod.Proofs.Contexts

/-!
# LineOrder — the lines of a method, and where it is left

Five parts of a compilation emit lines, and not in the order in which the lines stand in the method:
defaults of variables are looked at behind the body and stand in front of it.

* `GuardBlocks` — code that leaves a method inside the blocks of given guards and nowhere else;
* `CompiledMethod.InOrder` — the order of all lines: the frame is entered once and first, arguments are
  fetched, everything is bound before the body begins, and every way out is a frame site;
* `lines_inOrder` — the lines of every compiled method stand in that order.

What the body emits as plain code is taken as it is.  Nothing is said here about its text.
-/

namespace NativeMethod

open Fragment (sites)

/-! ## Blocks of guards -/

/-- The lines contain the block of each guard in order, and no frame site in between. -/
inductive GuardBlocks : List Guard → List Fragment → Prop where
  | plain {fs : List Fragment} : sites fs = [] → GuardBlocks [] fs
  | block {g : Guard} {gs : List Guard} {fs rest : List Fragment} (indent : Nat) :
      sites fs = [] → GuardBlocks gs rest →
        GuardBlocks (g :: gs)
          (fs ++
            (.code indent ("if (UNEXPECTED(" ++ g.rejection.text ++ ")) \x7b") ::
              .code (indent + 1) g.raiseLine ::
              .site (indent + 1) (.leave .null) ::
              .code indent "\x7d" :: rest))

namespace GuardBlocks

variable {gs hs : List Guard} {fs ks : List Fragment}

/-- Every block leaves the method once. -/
theorem sites_eq (h : GuardBlocks gs fs) : sites fs = gs.map fun _ => .leave .null := by
  induction h with
  | plain hplain => exact hplain
  | @block g gs fs rest indent hplain _ ih =>
      have hblock : sites (g.fragments indent ++ rest) = .leave .null :: sites rest := by
        simp only [Fragment.sites_append, Guard.sites_fragments, List.singleton_append]
      calc
        sites (fs ++ (g.fragments indent ++ rest))
            = sites fs ++ sites (g.fragments indent ++ rest) := Fragment.sites_append _ _
        _ = .leave .null :: sites rest := by simp only [hplain, hblock, List.nil_append]
        _ = (g :: gs).map fun _ => .leave .null := by simp only [ih, List.map_cons]

theorem prepend (hplain : sites ks = []) (h : GuardBlocks gs fs) : GuardBlocks gs (ks ++ fs) := by
  have hboth {ls : List Fragment} (hls : sites ls = []) : sites (ks ++ ls) = [] := by
    simp only [Fragment.sites_append, hplain, hls, List.append_nil]
  cases h with
  | plain hfs => exact .plain (hboth hfs)
  | block indent hfs hrest =>
      -- the new lines join those in front of the first block
      simpa only [List.append_assoc] using GuardBlocks.block indent (hboth hfs) hrest

theorem append (h : GuardBlocks gs fs) (h' : GuardBlocks hs ks) :
    GuardBlocks (gs ++ hs) (fs ++ ks) := by
  induction h with
  | plain hplain => exact h'.prepend hplain
  | block indent hplain _ ih =>
      simpa only [List.append_assoc, List.cons_append] using GuardBlocks.block indent hplain ih

theorem append_plain (h : GuardBlocks gs fs) (hplain : sites ks = []) : GuardBlocks gs (fs ++ ks) := by
  simpa only [List.append_nil] using h.append (.plain hplain)

/-- The checks of guards, one behind the other. -/
theorem of_guards (gs : List Guard) (indent : Nat) :
    GuardBlocks gs (gs.flatMap (Guard.fragments indent)) := by
  induction gs with
  | nil => exact .plain rfl
  | cons g gs ih =>
      have hnothing : sites ([] : List Fragment) = [] := rfl
      exact .block indent hnothing ih

end GuardBlocks

/-! ## Parameters -/

namespace BoundParameter

variable {facts : BindingFacts} {b : BoundParameter}

/-- Of what is done to a supplied argument only its guards leave the method. -/
theorem Follows.guardBlocks_supplied (h : b.Follows facts) (indent : Nat) :
    GuardBlocks b.guards (b.suppliedFragments indent) := by
  have hconversion : sites (b.conversion?.toList.map fun c =>
      Fragment.code indent (c.text b.name b.parameter.fetchedName)) = [] := by
    cases b.conversion? <;> rfl
  have hseparation : sites (if b.parameter.needsSeparation facts then
      [Fragment.code indent b.parameter.separationLine] else []) = [] := by
    cases b.parameter.needsSeparation facts <;> rfl
  simpa only [h.laidOut.supplied] using
    ((GuardBlocks.of_guards b.guards indent).append_plain hconversion).append_plain hseparation

theorem Follows.guardBlocks (h : b.Follows facts) : GuardBlocks b.guards (b.fragments 1) := by
  cases hfallback : b.fallback with
  | none => simpa only [h.laidOut.required hfallback] using h.guardBlocks_supplied 1
  | some i =>
      have hsupplied := h.guardBlocks_supplied 2
      have hbranch : GuardBlocks b.guards
          (if (b.suppliedFragments 2).isEmpty then []
            else .code 1 "\x7d else \x7b" :: b.suppliedFragments 2) := by
        have helse : sites [Fragment.code 1 "\x7d else \x7b"] = [] := rfl
        cases hlines : b.suppliedFragments 2 with
        | nil => simpa [hlines] using hsupplied
        | cons f fs => simpa [hlines] using hsupplied.prepend helse
      -- the test, the default and the closing brace are plain code around the branch
      have htest : sites [Fragment.code 1 ("if (!" ++ b.parameter.fetchedName ++ ") \x7b")] = [] := rfl
      have hdefault : sites (Fragment.codeLines 2 i.lines) = [] := Fragment.sites_codeLines 2 i.lines
      have hlast : sites [Fragment.code 1 "\x7d"] = [] := rfl
      simpa only [h.laidOut.optional i hfallback, List.singleton_append] using
        ((hbranch.append_plain hlast).prepend hdefault).prepend htest

/-- A separated parameter has its separation among its lines, one level deeper if it has a default. -/
theorem Follows.separation_mem (h : b.Follows facts) (separated : b.isSeparated = true) :
    .code (if b.parameter.isOptional then 2 else 1) b.parameter.separationLine ∈ b.fragments 1 := by
  have hneeds : b.parameter.needsSeparation facts = true := h.isSeparated_iff.symm.trans separated
  have hsupplied (indent : Nat) :
      .code indent b.parameter.separationLine ∈ b.suppliedFragments indent := by
    simp [h.laidOut.supplied, hneeds]
  rw [← h.isSome_fallback]
  cases hfallback : b.fallback with
  | none =>
      rw [h.laidOut.required hfallback]
      exact hsupplied 1
  | some i =>
      -- with a separation in it the second branch is not left out
      have hnonempty : (b.suppliedFragments 2).isEmpty = false := by
        simpa only [List.isEmpty_eq_false_iff] using List.ne_nil_of_mem (hsupplied 2)
      simp [h.laidOut.optional i hfallback, hnonempty, hsupplied 2]

end BoundParameter

theorem Binds.guardBlocks {facts : BindingFacts} {ps : List Parameter} {bs : BoundParameters}
    {s s' : MethodState} (h : Binds facts ps s bs s') :
    GuardBlocks (bs.guards.map (·.2)) bs.fragments := by
  induction h with
  | nil s => exact .plain rfl
  | @cons _ _ b bs _ _ _ hbind _ ih =>
      have hfirst : GuardBlocks b.guards (b.fragments 1) :=
        (Parameter.bind_eq_ok hbind).2.1.guardBlocks
      have hguards : (BoundParameters.guards (b :: bs)).map (·.2) =
          b.guards ++ (BoundParameters.guards bs).map (·.2) := by
        simp [BoundParameters.guards, Function.comp_def]
      simpa only [hguards, BoundParameters.fragments, List.flatMap_cons] using hfirst.append ih

/-! ## Bodies -/

/-- The arguments are fetched. -/
def FrameSite.isFetch : FrameSite → Bool
  | fetch _ _ _ => true
  | _ => false

/-- The method is left, or the frame is on the way out. -/
def FrameSite.isExit : FrameSite → Bool
  | restore | leave _ => true
  | _ => false

/-- An action can leave the frame or the method, and neither enter the frame nor fetch arguments. -/
theorem Body.Action.isExit_of_mem_sites {a : Body.Action} {site : FrameSite} :
    site ∈ sites a.lines → site.isExit = true := by
  intro h
  cases a with
  | leave indent form =>
      have hsite : site = .leave form := List.mem_singleton.1 h
      simp [hsite, FrameSite.isExit]
  | restore indent =>
      have hsite : site = .restore := List.mem_singleton.1 h
      simp [hsite, FrameSite.isExit]
  | throw indent exception =>
      have hsite : site = .restore := List.mem_singleton.1 h
      simp [hsite, FrameSite.isExit]
  | _ => cases h

theorem Body.isExit_of_mem_sites {steps : List Body.Step} {site : FrameSite} :
    site ∈ sites (Body.lines steps) → site.isExit = true := by
  intro h
  have hsteps : site ∈ steps.flatMap fun step => sites step.action.lines := by
    simpa only [Body.lines, sites, List.filterMap_flatMap] using h
  rcases List.mem_flatMap.1 hsteps with ⟨step, _, hsite⟩
  exact Body.Action.isExit_of_mem_sites hsite

/-- The lines of a throw stand together, with the frame left in between. -/
theorem Body.lines_of_throw {steps earlier later : List Body.Step} {indent : Nat}
    {exception : String} {isCaught : Bool}
    (split : steps = earlier ++ ⟨.throw indent exception, isCaught⟩ :: later) :
    Body.lines steps =
      Body.lines earlier ++
        .code (indent + 1) ("zephir_throw_exception_debug(" ++ exception ++ ", \"\", 0);") ::
        .site (indent + 1) .restore ::
        .code (indent + 1) "return;" :: Body.lines later := by
  simp [Body.lines, split, Body.Action.lines]

/-! ## Methods -/

namespace CompiledMethod

/-- The lines in front of the frame: the head of the function and the declarations. -/
def openingFragments (c : CompiledMethod) : List Fragment :=
  .code 0 ("PHP_METHOD(" ++ c.owner.cPrefix ++ ", " ++ c.method.name ++ ") \x7b") ::
    c.declarationFragments

/-- The lines of a method in their order.  `emitted` are those of the body. -/
structure InOrder (c : CompiledMethod) (m : Method) (body : Body) (emitted : List Fragment) :
    Prop where
  /-- Between the lines of the body and the closing brace the frame is restored once more, exactly if
  the body falls through. -/
  fragments_eq : c.fragments =
    c.openingFragments ++
      (.site 1 .acquire :: c.bound.fetch?.toList.map (.site 1)) ++
      (c.seedFragments ++ c.bound.fragments) ++
      (emitted ++ if body.fallsThrough then [.site 1 .restore] else []) ++
      [.code 0 "\x7d"]
  /-- Nothing in front of the frame depends on it, so entering it is the first frame site. -/
  opening_plain : sites c.openingFragments = []
  acquire_once : (sites c.fragments).count .acquire = 1
  fetch_once :
    (sites c.fragments).countP (·.isFetch) = if m.parameters.isEmpty then 0 else 1
  fetch?_eq : c.bound.fetch? =
    if m.parameters.isEmpty then none
    else some (.fetch m.requiredCount m.optionalCount (m.parameters.map fun p => "&" ++ p.fetchedName))
  seeds_plain : sites c.seedFragments = []
  guardBlocks : GuardBlocks (c.bound.guards.map (·.2)) c.bound.fragments
  returns : sites c.bound.fragments = c.bound.guards.map fun _ => .leave .null
  separations : ∀ b ∈ c.bound, b.isSeparated = true →
    .code (if b.parameter.isOptional then 2 else 1) b.parameter.separationLine ∈ c.bound.fragments
  emitted_eq : emitted = body.steps.flatMap (·.action.lines)
  exits : ∀ site ∈ sites emitted, site.isExit = true
  throws : ∀ earlier indent exception isCaught later,
    body.steps = earlier ++ ⟨.throw indent exception, isCaught⟩ :: later →
      emitted =
        Body.lines earlier ++
          .code (indent + 1) ("zephir_throw_exception_debug(" ++ exception ++ ", \"\", 0);") ::
          .site (indent + 1) .restore ::
          .code (indent + 1) "return;" :: Body.lines later

theorem sites_openingFragments (c : CompiledMethod) : sites c.openingFragments = [] :=
  c.sites_declarationFragments

theorem sites_seedFragments (c : CompiledMethod) : sites c.seedFragments = [] := by
  have hseed (seed : Seed) : sites (Fragment.codeLines 1 seed.code.lines) = [] :=
    Fragment.sites_codeLines 1 seed.code.lines
  calc
    sites c.seedFragments
        = c.seeds.flatMap fun seed => sites (Fragment.codeLines 1 seed.code.lines) :=
          List.filterMap_flatMap
    _ = [] := by simp [hseed]

end CompiledMethod

namespace Phases

variable {ctx : ClassContext} {m : Method} {body : Body} {s : MethodState} {c : CompiledMethod}

/-- The body stands behind everything that is bound, and its end in front of the closing brace. -/
theorem fragments_eq_body (h : Phases ctx m body s c) :
    c.fragments =
      c.openingFragments ++
        (.site 1 .acquire :: c.bound.fetch?.toList.map (.site 1)) ++
        (c.seedFragments ++ c.bound.fragments) ++
        (Body.lines body.steps ++ if body.fallsThrough then [.site 1 .restore] else []) ++
        [.code 0 "\x7d"] := by
  have hbody : c.body =
      Body.lines body.steps ++ if body.fallsThrough then [.site 1 .restore] else [] := by
    have hclosed := h.body_ok
    cases hfalls : body.fallsThrough with
    | false => simpa [ClassContext.closeBody, hfalls, eq_comm] using hclosed
    | true =>
        -- a body that falls through compiles only where no value is owed
        cases howes : m.owesValue with
        | true => simp [ClassContext.closeBody, hfalls, howes] at hclosed
        | false => simpa [ClassContext.closeBody, hfalls, howes, eq_comm] using hclosed
  simp only [CompiledMethod.fragments, CompiledMethod.openingFragments, hbody, List.append_assoc,
    List.cons_append, List.nil_append]

/-- Behind the frame and the call that fetches arguments, a method has no frame sites but ways out. -/
theorem exists_exits (h : Phases ctx m body s c) :
    ∃ exits, sites c.fragments = .acquire :: (c.bound.fetch?.toList ++ exits) ∧
      ∀ site ∈ exits, site.isExit = true := by
  have hfetch : sites (c.bound.fetch?.toList.map (.site 1)) = c.bound.fetch?.toList := by
    cases c.bound.fetch? <;> rfl
  -- behind the frame and the call only guards, the body and its end have sites
  have hguards := h.binds.guardBlocks.sites_eq
  refine ⟨(c.bound.guards.map (·.2)).map (fun _ => .leave .null) ++
    (sites (Body.lines body.steps) ++ if body.fallsThrough then [.restore] else []), ?_, ?_⟩
  · have hrestore : sites (if body.fallsThrough then [.site 1 .restore] else []) =
        if body.fallsThrough then [.restore] else [] := by
      cases body.fallsThrough <;> rfl
    have hacquire (fs : List Fragment) : sites (.site 1 .acquire :: fs) = .acquire :: sites fs := rfl
    have hbrace : sites [.code 0 "\x7d"] = [] := rfl
    simp only [h.fragments_eq_body, Fragment.sites_append, c.sites_openingFragments,
      c.sites_seedFragments, hacquire, hfetch, hguards, hrestore, hbrace, List.nil_append,
      List.append_nil, List.cons_append, List.append_assoc]
  · intro site hsite
    rcases List.mem_append.1 hsite with hguard | hbody
    · rcases List.mem_map.1 hguard with ⟨_, _, rfl⟩
      rfl
    · rcases List.mem_append.1 hbody with hemitted | hrestore
      · exact Body.isExit_of_mem_sites hemitted
      · obtain ⟨_, rfl⟩ : body.fallsThrough = true ∧ site = .restore := by simpa using hrestore
        rfl

theorem acquire_once (h : Phases ctx m body s c) : (sites c.fragments).count .acquire = 1 := by
  rcases h.exists_exits with ⟨exits, hsites, hexits⟩
  have hfetch : c.bound.fetch?.toList.count .acquire = 0 := by
    rw [h.binds.fetch?_eq]
    cases m.parameters.isEmpty <;> rfl
  have hnone : exits.count .acquire = 0 := by
    refine List.count_eq_zero.2 ?_
    intro hmem
    cases hexits _ hmem
  simp only [hsites, List.count_cons_self, List.count_append, hfetch, hnone]

theorem fetch_once (h : Phases ctx m body s c) :
    (sites c.fragments).countP (·.isFetch) = if m.parameters.isEmpty then 0 else 1 := by
  rcases h.exists_exits with ⟨exits, hsites, hexits⟩
  have hnone : exits.countP (·.isFetch) = 0 := by
    refine List.countP_eq_zero.2 ?_
    intro site hsite hfetch
    have hexit := hexits site hsite
    cases site with
    | fetch required optional arguments => cases hexit
    | _ => cases hfetch
  have hcall : c.bound.fetch?.toList.countP (·.isFetch) = if m.parameters.isEmpty then 0 else 1 := by
    rw [h.binds.fetch?_eq]
    cases m.parameters.isEmpty <;> rfl
  have hacquire : FrameSite.acquire.isFetch = false := rfl
  simp [hsites, hacquire, hcall, hnone]

theorem inOrder (h : Phases ctx m body s c) : c.InOrder m body (Body.lines body.steps) where
  fragments_eq := h.fragments_eq_body
  opening_plain := c.sites_openingFragments
  acquire_once := h.acquire_once
  fetch_once := h.fetch_once
  fetch?_eq := h.binds.fetch?_eq
  seeds_plain := c.sites_seedFragments
  guardBlocks := h.binds.guardBlocks
  returns := by
    simpa only [List.map_map, Function.comp_def] using h.binds.guardBlocks.sites_eq
  separations := by
    intro b hb separated
    exact List.mem_flatMap.2 ⟨b, hb, (h.binds.follows b hb).separation_mem separated⟩
  emitted_eq := rfl
  exits := fun _ hsite => Body.isExit_of_mem_sites hsite
  throws := fun _ _ _ _ _ split => Body.lines_of_throw split

end Phases

/-- In every compiled method the frame is entered once and before everything that depends on it, then the
arguments are fetched, then variables are initialised and parameters bound, and only then comes the
body with its lines in the order in which they were emitted.  Every guard leaves inside its block, every
throw restores the frame in front of its return, and the frame is restored last where the body falls
through. -/
theorem lines_inOrder {ctx : ClassContext} {m : Method} {body : Body} {sink : Diagnostics}
    {c : CompiledMethod} (compiled : (ctx.compile m body sink).result = .ok c) :
    ∃ t, ctx.Reaches m body c.bound t ∧ c.InOrder m body t.emitted := by
  rcases ClassContext.exists_phases compiled with ⟨s, h⟩
  rcases ClassContext.exists_reaches compiled with ⟨t, hreaches, _, hemitted⟩
  exact ⟨t, hreaches, hemitted ▸ h.inOrder⟩

/-- A strict parameter, a boxed local with a default, and a body that throws in a branch and falls through:
behind the declarations come the frame, the arguments, the local, the parameter and the body. -/
theorem inOrder_of_guard_and_throw :
    let m : Method :=
      { name := "f", parameters := [{ name := "a", declaredType := some .long, isStrict := true }] }
    let body : Body :=
      { steps :=
          [⟨.change (.declare "n" .generic .nowhere), false⟩, ⟨.change (.setSeed "n" (.int 1)), false⟩,
            ⟨.emit 0 "if (a) \x7b", false⟩, ⟨.throw 1 "e", false⟩, ⟨.emit 0 "\x7d", false⟩]
        last := some .other }
    ∃ (c : CompiledMethod) (t : Body.State),
      (ClassContext.compile { owner := ⟨"C"⟩ } m body {}).result = .ok c ∧ c.InOrder m body t.emitted ∧
      c.fragments = c.openingFragments ++
        [.site 1 .acquire, .site 1 (.fetch 1 0 ["&a_param"]),
          .code 1 "ZEPHIR_INIT_VAR(n);", .code 1 "ZVAL_LONG(n, 1);",
          .code 1 "if (UNEXPECTED(Z_TYPE_P(a_param) != IS_LONG)) \x7b",
          .code 2 ("zephir_throw_exception_string(spl_ce_InvalidArgumentException, " ++
            "SL(\"Parameter 'a' must be of the type long\"));"),
          .site 2 (.leave .null), .code 1 "\x7d", .code 1 "a = Z_LVAL_P(a_param);",
          .code 1 "if (a) \x7b", .code 2 "zephir_throw_exception_debug(e, \"\", 0);", .site 2 .restore,
          .code 2 "return;", .code 1 "\x7d", .site 1 .restore, .code 0 "\x7d"] := by
  intro m body
  rcases hresult : (ClassContext.compile { owner := ⟨"C"⟩ } m body {}).result with _ | c
  · cases hresult
  · obtain ⟨t, _, horder⟩ := lines_inOrder hresult
    cases hresult
    exact ⟨_, t, rfl, horder, rfl⟩

end NativeMethod
