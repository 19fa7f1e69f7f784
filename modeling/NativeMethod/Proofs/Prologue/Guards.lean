import NativeMethod.Proofs.Prologue.Parameters

/-!
# Guards — the code that receives parameters enforces them, and nothing else

At a call the code runs to its end if all guards accept the arguments that are there.  Else it leaves
at the first parameter whose guard refuses, with the message of that guard; what was executed before is
what the parameters in front of it are received with.
-/

namespace NativeMethod

/-- The parameter has a guard: it is constrained, or strict with a slot. -/
def Parameter.isGuarded (p : Parameter) : Bool :=
  p.constraint.isSome || (p.isStrict && p.type.hasSlot)

namespace BoundParameter

variable {facts : BindingFacts} {b : BoundParameter}

theorem Follows.length_guards (h : b.Follows facts) :
    b.guards.length = b.parameter.isGuarded.toNat := by
  have hguarded : b.guard?.isSome = b.parameter.isGuarded := b.isSome_guard?
  rw [h.guards_eq, ← hguarded]
  cases b.guard? <;> rfl

end BoundParameter

namespace BoundParameters

/-- What the code that receives the parameters does at a call. -/
def run (bs : BoundParameters) (call : Call) : Execution :=
  execute call .running (Fragment.lines bs.fragments)

/-- What is executed for parameters whose guards accept. -/
def statements (bs : BoundParameters) (call : Call) : List String := bs.flatMap (·.statements call)

variable {bs : BoundParameters} {call : Call}

theorem exists_first_refusing (h : ¬ ∀ b ∈ bs, b.Admits call) :
    ∃ earlier b later, bs = earlier ++ b :: later ∧ (∀ a ∈ earlier, a.Admits call) ∧
      ¬ b.Admits call := by
  induction bs with
  | nil =>
      refine absurd ?_ h
      intro b hb
      cases hb
  | cons b bs ih =>
      by_cases hadmits : b.Admits call
      · have hrest : ¬ ∀ a ∈ bs, a.Admits call := by
          intro hall
          exact h (List.forall_mem_cons.2 ⟨hadmits, hall⟩)
        rcases ih hrest with ⟨earlier, a, later, rfl, hearlier, ha⟩
        exact ⟨b :: earlier, a, later, rfl, List.forall_mem_cons.2 ⟨hadmits, hearlier⟩, ha⟩
      · refine ⟨[], b, bs, rfl, ?_, hadmits⟩
        intro a ha
        cases ha

end BoundParameters

namespace Binds

variable {facts : BindingFacts} {ps : List Parameter} {bs : BoundParameters} {s s' : MethodState}
  {call : Call}

/-- The code of parameters whose guards accept runs to its end. -/
theorem runsThrough (h : Binds facts ps s bs s') (named : ∀ p ∈ ps, IsIdentifier p.name)
    (supplied : ∀ p ∈ ps, call.Supplies p) {admitted : BoundParameters} (among : admitted ⊆ bs)
    (admits : ∀ b ∈ admitted, b.Admits call) :
    RunsThrough call (Fragment.lines admitted.fragments) (admitted.statements call) := by
  have hlines : Fragment.lines admitted.fragments =
      admitted.flatMap fun b => Fragment.lines (b.fragments 1) :=
    Fragment.lines_flatMap _ _
  rw [hlines]
  apply RunsThrough.flatMap
  intro b hb
  exact (h.follows b (among hb)).runsThrough (named _ (h.mem_parameters (among hb)))
    (supplied _ (h.mem_parameters (among hb))) (admits b hb) 1

/-- The code is left at the first parameter whose guard refuses. -/
theorem run_of_refused (h : Binds facts ps s bs s') (named : ∀ p ∈ ps, IsIdentifier p.name)
    (supplied : ∀ p ∈ ps, call.Supplies p) {earlier later : BoundParameters} {b : BoundParameter}
    (split : bs = earlier ++ b :: later) (admits : ∀ a ∈ earlier, a.Admits call) {g : Guard}
    (hg : g ∈ b.guards) {p : Probe} (present : call.argument b.parameter.fetchedName = some p)
    (refuses : g.accepts p = false) :
    bs.run call = ⟨earlier.statements call ++ [g.raiseLine], .left .null⟩ := by
  have hb : b ∈ bs := by simp [split]
  have hearlier : earlier ⊆ bs := by simp [split]
  have hguard : b.guard? = some g := by simpa [(h.follows b hb).guards_eq] using hg
  have hleaves := (h.follows b hb).leaves (named _ (h.mem_parameters hb))
    (supplied _ (h.mem_parameters hb)) hguard present refuses 1
  have hcode : Fragment.lines bs.fragments =
      Fragment.lines earlier.fragments ++
        (Fragment.lines (b.fragments 1) ++ Fragment.lines (BoundParameters.fragments later)) := by
    simp only [split, BoundParameters.fragments, List.flatMap_append, List.flatMap_cons,
      Fragment.lines_append]
  rw [BoundParameters.run, hcode]
  -- the code of later parameters is not reached
  exact ((h.runsThrough named supplied hearlier admits).leaves (hleaves.append _)).execute_eq

theorem names_guards (h : Binds facts ps s bs s') :
    bs.guards.map (·.1) = (ps.filter Parameter.isGuarded).map (·.name) := by
  induction h with
  | nil s => rfl
  | @cons p ps b bs s s₁ s₂ hbind _ ih =>
      rcases Parameter.bind_eq_ok hbind with ⟨rfl, hfollows, _⟩
      have hlength := hfollows.length_guards
      have hown : (b.guards.map fun g => (b.name, g)).map (·.1) =
          List.replicate b.guards.length b.name := by
        simp [Function.comp_def]
      rw [BoundParameters.guards, List.flatMap_cons, List.map_append, hown, hlength]
      cases hguarded : b.parameter.isGuarded with
      | false => simpa [hguarded, BoundParameters.guards] using ih
      | true => simpa [hguarded, BoundParameters.guards, BoundParameter.name] using ih

end Binds

/-- The code that receives the parameters runs to its end exactly if all guards accept the arguments
that are there, and else it throws the error of the first guard that does not.  No more is executed then
than for the parameters in front of it.  Each guarded parameter has one guard. -/
theorem guards_enforced {facts : BindingFacts} {ps : List Parameter} {bs : BoundParameters}
    {s s' : MethodState} {call : Call} (bound : bindParameters facts ps s = (.ok bs, s'))
    (named : ∀ p ∈ ps, IsIdentifier p.name) (supplied : ∀ p ∈ ps, call.Supplies p) :
    ((bs.run call).exit = .finished ↔ ∀ b ∈ bs, b.Admits call) ∧
      ((¬ ∀ b ∈ bs, b.Admits call) →
        ∃ earlier b later g p, bs = earlier ++ b :: later ∧ (∀ a ∈ earlier, a.Admits call) ∧
          g ∈ b.guards ∧ call.argument b.parameter.fetchedName = some p ∧ g.accepts p = false ∧
          bs.run call =
            ⟨BoundParameters.statements earlier call ++
              ["zephir_throw_exception_string(spl_ce_InvalidArgumentException, SL(" ++
                Quoted.string g.error.message ++ "));"], .left .null⟩) ∧
      (∀ b ∈ bs, b.guards.length = b.parameter.isGuarded.toNat) ∧
      bs.guards.map (·.1) = (ps.filter Parameter.isGuarded).map (·.name) := by
  have h : Binds facts ps s bs s' := binds_of_bindParameters bound
  have hrefused : (¬ ∀ b ∈ bs, b.Admits call) →
      ∃ earlier b later g p, bs = earlier ++ b :: later ∧ (∀ a ∈ earlier, a.Admits call) ∧
        g ∈ b.guards ∧ call.argument b.parameter.fetchedName = some p ∧ g.accepts p = false ∧
        bs.run call = ⟨BoundParameters.statements earlier call ++ [g.raiseLine], .left .null⟩ := by
    intro hrefuses
    rcases BoundParameters.exists_first_refusing hrefuses with
      ⟨earlier, b, later, hsplit, hearlier, hb⟩
    simp only [BoundParameter.Admits, not_forall, Bool.not_eq_true] at hb
    rcases hb with ⟨g, hg, p, hpresent, hrefuse⟩
    exact ⟨earlier, b, later, g, p, hsplit, hearlier, hg, hpresent, hrefuse,
      h.run_of_refused named supplied hsplit hearlier hg hpresent hrefuse⟩
  refine ⟨⟨?_, ?_⟩, hrefused, ?_, h.names_guards⟩
  · intro hfinished
    -- an execution that left did not finish
    by_contra hrefuses
    rcases hrefused hrefuses with ⟨_, _, _, _, _, _, _, _, _, _, hrun⟩
    rw [hrun] at hfinished
    cases hfinished
  · intro hadmits
    have hrun : bs.run call = ⟨bs.statements call, .finished⟩ :=
      (h.runsThrough named supplied (List.Subset.refl bs) hadmits).execute_eq
    rw [hrun]
  · intro b hb
    exact (h.follows b hb).length_guards

/-- An optional object that is missing is let pass, and a text where a number is asked for is not. -/
theorem guards_enforced_of_missing_then_text :
    ∃ (bs : BoundParameters) (s' : MethodState),
      bindParameters ⟨fun _ => .written false, fun _ => none, .standard⟩
          [{ name := "o", constraint := some ⟨"Foo"⟩, default := some .null },
            { name := "n", declaredType := some .int, isStrict := true }] {} = (.ok bs, s') ∧
        (bs.run ⟨fun x => if x = "n_param" then some .string else none,
          fun _ _ p => p.isInstanceOf ⟨"Foo"⟩⟩).exit ≠ .finished := by
  have hbound : ∃ (bs : BoundParameters) (s' : MethodState),
      bindParameters ⟨fun _ => .written false, fun _ => none, .standard⟩
          [{ name := "o", constraint := some ⟨"Foo"⟩, default := some .null },
            { name := "n", declaredType := some .int, isStrict := true }] {} = (.ok bs, s') ∧
        ∃ b ∈ bs, b.parameter.fetchedName = "n_param" ∧
          ⟨"n", "n_param", .tag .int .long⟩ ∈ b.guards :=
    ⟨_, _, rfl, _, .tail _ (.head _), rfl, by decide⟩
  rcases hbound with ⟨bs, s', hbound, b, hb, hname, hguard⟩
  refine ⟨bs, s', hbound, ?_⟩
  -- running to the end would mean that the strict number took a text
  intro hfinished
  have hadmits := (guards_enforced hbound ?_ ?_).1.1 hfinished
  · have haccepts := hadmits b hb _ hguard .string (by simp [hname])
    cases haccepts
  · intro p hp
    rcases List.mem_pair.1 hp with rfl | rfl
    · exact ⟨by simp [isIdentifierChar], 'o', by simp, rfl⟩
    · exact ⟨by simp [isIdentifierChar], 'n', by simp, rfl⟩
  · intro p hp
    rcases List.mem_pair.1 hp with rfl | rfl
    · refine ⟨fun required => ?_, fun c probe constrained => ?_⟩
      · cases required
      · cases constrained
        rfl
    · refine ⟨fun _ => rfl, fun c probe constrained => ?_⟩
      cases constrained

end NativeMethod
