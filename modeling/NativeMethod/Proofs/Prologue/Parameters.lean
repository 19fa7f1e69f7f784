import NativeMethod.Proofs.Prologue.Defaults
import NativeMethod.Proofs.Receipts

/-!
# Parameters — what the code of one parameter does at a call

The code of a parameter is left at its guard or runs to its end, and which of the two happens only
depends on the argument of that parameter.

* `Call.Supplies` — the calls that are considered;
* `BoundParameter.Admits` — the guard has nothing against the argument, if there are both;
* `Follows.runsThrough`, `Follows.leaves` — the two ways that the code can go.
-/

namespace NativeMethod

/-- The call has an argument for the parameter if it is required, and an argument is taken for an
instance of the class that the parameter is constrained to exactly if it is one. -/
structure Call.Supplies (call : Call) (p : Parameter) : Prop where
  required : p.isOptional = false → (call.argument p.fetchedName).isSome = true
  instances : ∀ c probe, p.constraint = some c →
    call.isInstance p.fetchedName c.entrySymbol probe = probe.isInstanceOf c

/-! ## Receipts -/

namespace Guard

variable {call : Call} {g : Guard}

theorem lines_fragments (indent : Nat) (g : Guard) :
    Fragment.lines (g.fragments indent) =
      [.refused g.rejection.text, .plain g.raiseLine, .leave .null, .closeBlock] := by
  have htest := Line.read_refused g.rejection.text
  -- the name of the thrower shows that the line is no conditional, whatever the message
  have hraise : Line.read g.raiseLine = .plain g.raiseLine := by
    simpa only [g.raiseLine_eq] using Line.read_call isIdentifier_thrower _
  have hclose : Line.read "\x7d" = .closeBlock := rfl
  have hlines : Fragment.lines (g.fragments indent) =
      [Line.read ("if (UNEXPECTED(" ++ g.rejection.text ++ ")) \x7b"), Line.read g.raiseLine,
        .leave .null, Line.read "\x7d"] := rfl
  rw [hlines, htest, hraise, hclose]

theorem runsThrough (holds : call.holds? g.rejection.text = some false) (indent : Nat) :
    RunsThrough call (Fragment.lines (g.fragments indent)) [] := by
  intro rest
  rw [lines_fragments]
  simp only [List.cons_append, List.nil_append, execute, holds]
  rfl

theorem leaves (holds : call.holds? g.rejection.text = some true) (indent : Nat) :
    Leaves call (Fragment.lines (g.fragments indent)) [g.raiseLine] .null := by
  intro rest
  rw [lines_fragments]
  simp only [List.cons_append, List.nil_append, execute, holds]
  rfl

theorem skipped (indent : Nat) (g : Guard) : Skipped (Fragment.lines (g.fragments indent)) := by
  intro call depth rest
  rw [lines_fragments]
  simp only [List.cons_append, List.nil_append, execute]

end Guard

namespace Receipt

/-- The statements that a receipt ends in if it lets the argument pass. -/
def statements : Receipt → List String
  | check _ => []
  | convert conversion name slot => [conversion.text name slot]
  | separate target => ["ZEPHIR_SEPARATE_PARAM(" ++ target.text ++ ");"]

theorem lines_separate (indent : Nat) (target : Operand) :
    Fragment.lines ((separate target).fragments indent) =
      (separate target).statements.map Line.plain := by
  have hread : Line.read ("ZEPHIR_SEPARATE_PARAM(" ++ target.text ++ ");") =
      .plain ("ZEPHIR_SEPARATE_PARAM(" ++ target.text ++ ");") :=
    Line.read_calls (by decide) (Calls.separation target.text)
  have hlines : Fragment.lines ((separate target).fragments indent) =
      [Line.read ("ZEPHIR_SEPARATE_PARAM(" ++ target.text ++ ");")] := rfl
  rw [hlines, hread]
  rfl

theorem lines_convert {t : StorageType} {c : Conversion} {name : String}
    (named : IsIdentifier name)
    (converts : t.strictConversion? = some c ∨ t.looseConversion? = some c) (indent : Nat)
    (slot : String) :
    Fragment.lines ((convert c name slot).fragments indent) =
      (convert c name slot).statements.map Line.plain := by
  have hread : Line.read (c.text name slot) = .plain (c.text name slot) := by
    rcases Conversion.text_cases converts name slot with
      ⟨_, value, htext⟩ | ⟨_, function, hfunction, rest, htext⟩
    · simpa only [htext] using Line.read_assignment named value
    · simpa only [htext] using
        Line.read_call (Conversion.isIdentifier_of_mem_writers function hfunction) rest
  have hlines : Fragment.lines ((convert c name slot).fragments indent) =
      [Line.read (c.text name slot)] := rfl
  rw [hlines, hread]
  rfl

end Receipt

namespace BoundParameter

variable {facts : BindingFacts} {b : BoundParameter} {call : Call}

/-- Behind the guard there are plain statements only. -/
theorem Follows.receipt_cases (h : b.Follows facts) (named : IsIdentifier b.name) {r : Receipt}
    (hr : r ∈ b.receipts) :
    (∃ g, b.guard? = some g ∧ r = .check g) ∨
      ∀ indent, Fragment.lines (r.fragments indent) = r.statements.map Line.plain := by
  rcases h.mem_receipts_iff.1 hr with ⟨g, hg, rfl⟩ | ⟨c, hc, rfl⟩ | ⟨_, rfl⟩
  · exact .inl ⟨g, hg, rfl⟩
  · right
    intro indent
    exact Receipt.lines_convert named (conversion?_eq_some hc) indent _
  · right
    intro indent
    exact Receipt.lines_separate indent _

theorem Follows.skipped_supplied (h : b.Follows facts) (named : IsIdentifier b.name)
    (indent : Nat) : Skipped (Fragment.lines (b.suppliedFragments indent)) := by
  have hlines : Fragment.lines (b.suppliedFragments indent) =
      b.receipts.flatMap fun r => Fragment.lines (r.fragments indent) :=
    Fragment.lines_flatMap _ _
  rw [hlines]
  apply Skipped.flatMap
  intro r hr
  rcases h.receipt_cases named hr with ⟨g, _, rfl⟩ | hplain
  · exact g.skipped indent
  · simpa only [hplain indent] using (Straight.map_plain _).skipped

/-! ## Arguments -/

/-- If the call has an argument for the parameter, the guard accepts it. -/
def Admits (b : BoundParameter) (call : Call) : Prop :=
  ∀ g ∈ b.guards, ∀ p, call.argument b.parameter.fetchedName = some p → g.accepts p = true

/-- The condition of the guard says whether the argument is refused. -/
theorem holds?_guard (named : IsIdentifier b.name) (supplies : call.Supplies b.parameter)
    {g : Guard} (hg : b.guard? = some g) {p : Probe}
    (present : call.argument b.parameter.fetchedName = some p) :
    call.holds? g.rejection.text = some (!g.accepts p) := by
  have hsubject := subject_of_guard? hg
  refine Guard.holds?_rejection ?_ ?_ ?_
  · simpa only [hsubject] using IsIdentifier.fetchedName named
  · simpa only [hsubject] using present
  · intro c orNull hrequirement
    simpa only [hsubject] using supplies.instances c p (constraint_of_guard? hg hrequirement)

theorem Follows.runsThrough_supplied (h : b.Follows facts) (named : IsIdentifier b.name)
    (supplies : call.Supplies b.parameter) (admits : b.Admits call) {p : Probe}
    (present : call.argument b.parameter.fetchedName = some p) (indent : Nat) :
    RunsThrough call (Fragment.lines (b.suppliedFragments indent))
      (b.receipts.flatMap Receipt.statements) := by
  have hlines : Fragment.lines (b.suppliedFragments indent) =
      b.receipts.flatMap fun r => Fragment.lines (r.fragments indent) :=
    Fragment.lines_flatMap _ _
  rw [hlines]
  apply RunsThrough.flatMap
  intro r hr
  rcases h.receipt_cases named hr with ⟨g, hg, rfl⟩ | hplain
  · have haccepts : g.accepts p = true := by
      refine admits g ?_ p present
      simp [h.guards_eq, hg]
    have hholds := holds?_guard named supplies hg present
    rw [haccepts] at hholds
    exact g.runsThrough hholds indent
  · have hstraight := (Straight.map_plain r.statements).runsThrough call
    rw [Line.statements_map_plain] at hstraight
    simpa only [hplain indent] using hstraight

theorem Follows.leaves_supplied (h : b.Follows facts) (named : IsIdentifier b.name)
    (supplies : call.Supplies b.parameter) {g : Guard} (hg : b.guard? = some g) {p : Probe}
    (present : call.argument b.parameter.fetchedName = some p) (refuses : g.accepts p = false)
    (indent : Nat) :
    Leaves call (Fragment.lines (b.suppliedFragments indent)) [g.raiseLine] .null := by
  have hholds := holds?_guard named supplies hg present
  rw [refuses] at hholds
  have hguard := g.leaves hholds indent
  -- the guard comes before everything else that is done to the argument
  rcases h.receipts_eq_cons hg with ⟨rest, hreceipts⟩
  have hfragments : b.suppliedFragments indent =
      g.fragments indent ++ rest.flatMap (Receipt.fragments indent) := by
    rw [suppliedFragments, hreceipts]
    rfl
  rw [hfragments, Fragment.lines_append]
  exact hguard.append _

/-! ## Parameters -/

/-- The code of an optional parameter is a conditional. -/
theorem lines_of_fallback {i : Initialization} (optional : b.fallback = some i) (indent : Nat) :
    ∃ supplied : Option (List Line),
      supplied.getD [] = Fragment.lines (b.suppliedFragments (indent + 1)) ∧
        Fragment.lines (b.fragments indent) =
          Line.conditional b.parameter.fetchedName (i.lines.map Line.read) supplied := by
  have hclose : Line.read "\x7d" = .closeBlock := rfl
  have helse : Line.read "\x7d else \x7b" = .otherwise := rfl
  rw [fragments_of_optional optional, Fragment.lines_cons_code, Line.read_missing, Fragment.lines_append,
    Fragment.lines_codeLines, Fragment.lines_append, Fragment.lines_cons_code, hclose]
  cases b.suppliedFragments (indent + 1) with
  -- with nothing to do for an argument that is there, there is no other branch
  | nil => exact ⟨none, rfl, rfl⟩
  | cons f fs =>
      have hbranch : Fragment.lines (.code indent "\x7d else \x7b" :: f :: fs) =
          .otherwise :: Fragment.lines (f :: fs) := by
        rw [Fragment.lines_cons_code, helse]
      refine ⟨some (Fragment.lines (f :: fs)), rfl, ?_⟩
      rw [List.isEmpty_cons, if_neg Bool.false_ne_true, hbranch]
      rfl

theorem Follows.straight_fallback (h : b.Follows facts) (named : IsIdentifier b.name)
    {i : Initialization} (optional : b.fallback = some i) : Straight (i.lines.map Line.read) := by
  rcases h.fallback_eq_some_iff.1 optional with ⟨l, _, hi⟩
  exact Variable.straight_of_initialization named hi

/-- What is executed for the parameter if its guard accepts: the default for a missing argument, else
the conversion and the separation. -/
def statements (b : BoundParameter) (call : Call) : List String :=
  match call.argument b.parameter.fetchedName, b.fallback with
  | none, some i => Line.statements (i.lines.map Line.read)
  | _, _ => b.receipts.flatMap Receipt.statements

theorem Follows.runsThrough (h : b.Follows facts) (named : IsIdentifier b.name)
    (supplies : call.Supplies b.parameter) (admits : b.Admits call) (indent : Nat) :
    RunsThrough call (Fragment.lines (b.fragments indent)) (b.statements call) := by
  cases hargument : call.argument b.parameter.fetchedName with
  | none =>
      -- an argument that is missing belongs to an optional parameter
      cases hfallback : b.fallback with
      | none =>
          have hrequired : b.parameter.isOptional = false := by
            rw [← h.isSome_fallback, hfallback]
            rfl
          have hpresent := supplies.required hrequired
          rw [hargument] at hpresent
          cases hpresent
      | some i =>
          rcases lines_of_fallback hfallback indent with ⟨supplied, hsupplied, hlines⟩
          have hdefault := (h.straight_fallback named hfallback).runsThrough call
          have hbalanced := h.skipped_supplied named (indent + 1)
          rw [← hsupplied] at hbalanced
          simpa only [hlines, statements, hargument, hfallback] using
            hdefault.conditional_of_missing hargument hbalanced
  | some p =>
      cases hfallback : b.fallback with
      | none =>
          have hreceipts := h.runsThrough_supplied named supplies admits hargument indent
          simpa only [fragments_of_required hfallback, statements, hargument, hfallback] using hreceipts
      | some i =>
          rcases lines_of_fallback hfallback indent with ⟨supplied, hsupplied, hlines⟩
          have hreceipts := h.runsThrough_supplied named supplies admits hargument (indent + 1)
          have hbalanced := (h.straight_fallback named hfallback).skipped
          rw [← hsupplied] at hreceipts
          simpa only [hlines, statements, hargument, hfallback] using
            hreceipts.conditional_of_supplied hargument hbalanced

theorem Follows.leaves (h : b.Follows facts) (named : IsIdentifier b.name)
    (supplies : call.Supplies b.parameter) {g : Guard} (hg : b.guard? = some g) {p : Probe}
    (present : call.argument b.parameter.fetchedName = some p) (refuses : g.accepts p = false)
    (indent : Nat) : Leaves call (Fragment.lines (b.fragments indent)) [g.raiseLine] .null := by
  cases hfallback : b.fallback with
  | none =>
      have hguard := h.leaves_supplied named supplies hg present refuses indent
      simpa only [fragments_of_required hfallback] using hguard
  | some i =>
      rcases lines_of_fallback hfallback indent with ⟨supplied, hsupplied, hlines⟩
      have hguard := h.leaves_supplied named supplies hg present refuses (indent + 1)
      have hbalanced := (h.straight_fallback named hfallback).skipped
      rw [← hsupplied] at hguard
      simpa only [hlines] using hguard.conditional_of_supplied present hbalanced

end BoundParameter
end NativeMethod
