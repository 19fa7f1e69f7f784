import NativeMethod.Compilation
import NativeMethod.Proofs.BoundParameters

/-!
# FetchedArguments — which parameters a call may leave unfilled

The fetch at the head of a method is told how many arguments are required and how many more are
allowed, and where to put them.  It fills the variables from left to right and leaves those behind
the last argument as they were.  A variable that is left alone must not be read before it is tested:

* `FrameSite.Admits`, `FrameSite.unfilled` — the numbers of arguments that a fetch lets through, and
  what it leaves alone for each of them;
* `BoundParameter.Omittable` — the parameter may be left out;
* `BoundParameters.ReadsOnlyFilled` — every parameter that some call leaves unfilled is omittable.

The counts are those of the two kinds of parameters, wherever the parameters stand.  So what is left
alone is omittable precisely when the optional parameters stand last.
-/

namespace NativeMethod

/-! ## What a fetch fills -/

namespace FrameSite

/-- The fetch lets a call with so many arguments through. -/
def Admits (site : FrameSite) (k : Nat) : Prop :=
  match site with
  | fetch required optional _ => required ≤ k ∧ k ≤ required + optional
  | _ => False

/-- The destinations that a fetch of so many arguments leaves as they were. -/
def unfilled (site : FrameSite) (k : Nat) : List String :=
  match site with
  | fetch _ _ arguments => arguments.drop k
  | _ => []

end FrameSite

/-! ## Parameters that may be left out -/

/-- The parameter may be left out: its variable starts as null in the table, and its lines test the
variable and give the local its default when there is nothing in it. -/
structure BoundParameter.Omittable (b : BoundParameter) (t : SymbolTable) : Prop where
  optional : b.parameter.isOptional = true
  startsNull : ∃ v, t.find? b.parameter.fetchedName = some v ∧ v.init = .mustInitNull
  tested : ∃ i supplied, b.fallback = some i ∧
    b.fragments 1 =
      Fragment.code 1 ("if (!" ++ b.parameter.fetchedName ++ ") \x7b") ::
        (Fragment.codeLines 2 i.lines ++ supplied)

/-- Every parameter that an admitted call leaves unfilled may be left out. -/
def BoundParameters.ReadsOnlyFilled (bs : BoundParameters) (t : SymbolTable) : Prop :=
  ∀ site, bs.fetch? = some site → ∀ k, site.Admits k →
    ∀ b ∈ bs, "&" ++ b.parameter.fetchedName ∈ site.unfilled k → b.Omittable t

/-- No required parameter stands behind an optional one. -/
def OptionalsLast (ps : List Parameter) : Prop :=
  ps.Pairwise fun p q => p.isOptional = true → q.isOptional = true

theorem Binds.omittable {facts : BindingFacts} {ps : List Parameter} {bs : BoundParameters}
    {s s' : MethodState} (h : Binds facts ps s bs s') {b : BoundParameter} (hb : b ∈ bs)
    (optional : b.parameter.isOptional = true) : b.Omittable s'.table := by
  refine ⟨optional, ?_, ?_⟩
  · have hfetched := h.find?_backing (h.mem_parameters hb) b.parameter.fetched_mem_backing
    rw [b.parameter.name_fetched] at hfetched
    exact ⟨b.parameter.fetched, hfetched, b.parameter.init_fetched_of_isOptional optional⟩
  · have hsome : b.fallback.isSome := by
      rw [(h.follows b hb).isSome_fallback, optional]
    rcases Option.isSome_iff_exists.1 hsome with ⟨i, hi⟩
    exact ⟨i, _, hi, BoundParameter.fragments_of_optional hi 1⟩

/-! ## Counts and positions -/

theorem exists_mem_drop_of_lt_countP {α : Type} {f : α → Bool} {l : List α} {k : Nat}
    (h : k < l.countP f) : ∃ x ∈ l.drop k, f x = true := by
  have hsplit : (l.take k).countP f + (l.drop k).countP f = l.countP f := by
    rw [← List.countP_append, List.take_append_drop]
  have htake : (l.take k).countP f ≤ k :=
    Nat.le_trans List.countP_le_length (List.length_take_le k l)
  have hpos : 0 < (l.drop k).countP f := by omega
  exact List.countP_pos_iff.1 hpos

/-- The elements that fail a test all stand before those that pass it exactly when none is left
behind as many elements as fail. -/
theorem pairwise_iff_forall_mem_drop {α : Type} (f : α → Bool) (l : List α) :
    l.Pairwise (fun a b => f a = true → f b = true) ↔
      ∀ x ∈ l.drop (l.countP (!f ·)), f x = true := by
  induction l with
  | nil => simp
  | cons a l ih =>
      cases ha : f a with
      | false =>
          have hcount : (a :: l).countP (!f ·) = l.countP (!f ·) + 1 := by
            simp [ha]
          rw [hcount, List.drop_succ_cons, ← ih, List.pairwise_cons]
          simp [ha]
      | true =>
          have hcount : (a :: l).countP (!f ·) = l.countP (!f ·) := by
            simp [ha]
          rw [hcount, List.pairwise_cons]
          constructor
          · rintro ⟨hall, _⟩ x hx
            rcases List.mem_cons.1 (List.mem_of_mem_drop hx) with rfl | hx
            · exact ha
            · exact hall x hx ha
          · intro hdrop
            -- the head passes, so it takes a place that an element that fails would need
            have hzero : l.countP (!f ·) = 0 := by
              rcases hk : l.countP (!f ·) with _ | k
              · rfl
              · have hlt : k < l.countP (!f ·) := by omega
                rcases exists_mem_drop_of_lt_countP hlt with ⟨x, hx, hfails⟩
                rw [hk, List.drop_succ_cons] at hdrop
                rw [hdrop x hx] at hfails
                cases hfails
            have hall : ∀ x ∈ l, f x = true := by
              intro x hx
              refine hdrop x ?_
              rw [hzero, List.drop_zero]
              exact List.mem_cons_of_mem a hx
            refine ⟨fun x hx _ => hall x hx, ?_⟩
            exact List.pairwise_of_forall_mem_list fun _ _ y hy _ => hall y hy

/-! ## Every call -/

namespace Binds

variable {facts : BindingFacts} {ps : List Parameter} {bs : BoundParameters} {s s' : MethodState}

/-- The parameters that a call leaves unfilled are those behind its arguments. -/
theorem mem_unfilled_iff (h : Binds facts ps s bs s') {b : BoundParameter} (hb : b ∈ bs)
    (required optional k : Nat) :
    "&" ++ b.parameter.fetchedName ∈
        (FrameSite.fetch required optional (bs.map ("&" ++ ·.parameter.fetchedName))).unfilled k ↔
      b ∈ bs.drop k := by
  have hnodup : (bs.map (·.parameter.fetchedName)).Nodup := by
    have hnames := h.nodup_fetchedNames
    rw [← h.parameters_eq, List.map_map] at hnames
    exact hnames
  simp only [FrameSite.unfilled, ← List.map_drop]
  constructor
  · intro hmem
    rcases List.mem_map.1 hmem with ⟨b', hb', hname⟩
    -- no two parameters are fetched into one variable
    have hsame : b'.parameter.fetchedName = b.parameter.fetchedName := by
      simpa using hname
    simpa only [← List.inj_on_of_nodup_map hnodup (List.mem_of_mem_drop hb') hb hsame] using hb'
  · intro hmem
    exact List.mem_map.2 ⟨b, hmem, rfl⟩

theorem optionalsLast_iff (h : Binds facts ps s bs s') :
    OptionalsLast ps ↔ ∀ b ∈ bs.drop bs.required, b.parameter.isOptional = true := by
  unfold OptionalsLast
  rw [← h.parameters_eq, List.pairwise_map]
  exact pairwise_iff_forall_mem_drop (·.parameter.isOptional) bs

end Binds

/-- Every optional parameter may be left out, wherever it stands.  No call leaves another one
unfilled exactly when the optional parameters stand last. -/
theorem readsOnlyFilled_iff_optionalsLast {facts : BindingFacts} {ps : List Parameter}
    {bs : BoundParameters} {s s' : MethodState}
    (bound : bindParameters facts ps s = (.ok bs, s')) :
    (∀ b ∈ bs, b.parameter.isOptional = true → b.Omittable s'.table) ∧
      (bs.ReadsOnlyFilled s'.table ↔ OptionalsLast ps) := by
  have h : Binds facts ps s bs s' := binds_of_bindParameters bound
  refine ⟨fun b hb optional => h.omittable hb optional, ?_⟩
  rw [h.optionalsLast_iff]
  constructor
  · intro hfilled b hdrop
    -- a call with just enough arguments leaves the most unfilled
    have hb : b ∈ bs := List.mem_of_mem_drop hdrop
    have hne : bs.isEmpty = false := by
      cases bs with
      | nil => cases hb
      | cons _ _ => rfl
    have hfetch : bs.fetch? =
        some (.fetch bs.required bs.optional (bs.map ("&" ++ ·.parameter.fetchedName))) := by
      simp [BoundParameters.fetch?, hne]
    have hunfilled := (h.mem_unfilled_iff hb bs.required bs.optional bs.required).2 hdrop
    exact (hfilled _ hfetch bs.required ⟨Nat.le_refl _, Nat.le_add_right _ _⟩ b hb
      hunfilled).optional
  · intro hlast site hfetch k hadmits b hb hunfilled
    have hsite : site =
        .fetch bs.required bs.optional (bs.map ("&" ++ ·.parameter.fetchedName)) := by
      unfold BoundParameters.fetch? at hfetch
      split at hfetch
      · cases hfetch
      · exact (Option.some.inj hfetch).symm
    subst hsite
    -- a call has at least the required arguments, so it leaves no more than their number does
    have hdrop : b ∈ bs.drop k := (h.mem_unfilled_iff hb _ _ k).1 hunfilled
    exact h.omittable hb (hlast b (List.drop_subset_drop_left bs hadmits.1 hdrop))

/-- A required parameter and an optional one behind it. -/
theorem readsOnlyFilled_of_required_then_optional :
    ∃ (bs : BoundParameters) (s' : MethodState),
      bindParameters (ClassContext.bindingFacts { owner := ⟨"C"⟩ })
          [{ name := "a" }, { name := "b", default := some .null }] {} = (.ok bs, s') ∧
        bs.ReadsOnlyFilled s'.table := by
  have hlast : OptionalsLast [{ name := "a" }, { name := "b", default := some .null }] := by
    simp [OptionalsLast, Parameter.isOptional]
  rcases hresult : bindParameters (ClassContext.bindingFacts { owner := ⟨"C"⟩ })
    [{ name := "a" }, { name := "b", default := some .null }] {} with ⟨_ | bs, s'⟩
  · cases hresult
  · exact ⟨bs, s', rfl, (readsOnlyFilled_iff_optionalsLast hresult).2.2 hlast⟩

/-- With the optional parameter in front, a call with one argument fills it and leaves the required
one alone. -/
theorem not_readsOnlyFilled_of_optional_then_required :
    ∃ (bs : BoundParameters) (s' : MethodState),
      bindParameters (ClassContext.bindingFacts { owner := ⟨"C"⟩ })
          [{ name := "a", default := some .null }, { name := "b" }] {} = (.ok bs, s') ∧
        ¬ bs.ReadsOnlyFilled s'.table := by
  refine ⟨_, _, rfl, ?_⟩
  intro hfilled
  have homittable := hfilled _ rfl 1 ⟨by decide, by decide⟩ _ (List.mem_cons_of_mem _ (.head _))
    (by decide)
  cases homittable.optional

end NativeMethod
