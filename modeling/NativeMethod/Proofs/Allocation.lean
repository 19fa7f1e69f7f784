import Mathlib.Data.List.TakeWhile
import NativeMethod.Proofs.Initializations
import NativeMethod.Proofs.Receipts

/-!
# Allocation — code that needs a managed frame

A handful of macros and functions make values that only a managed frame releases again.  The
decisions about a parameter or a default say whether its code allocates; here the lines are read to
see that they do so exactly then:

* `lineAllocates` — a line calls one of those macros and functions;
* `Initialization.exists_line_iff`, `Follows.exists_fragment_iff` — the lines of a default and of a
  parameter.
-/

namespace NativeMethod

/-! ## Lines -/

/-- The function or macro that a line calls as a statement. -/
def callee? (line : String) : Option String :=
  match line.toList.dropWhile isIdentifierChar with
  | '(' :: _ => some (String.ofList (line.toList.takeWhile isIdentifierChar))
  | _ => none

/-- The functions and macros that make a value for the frame to release. -/
def allocators : List String :=
  ["ZEPHIR_INIT_VAR", "zephir_get_strval", "zephir_get_arrval", "ZEPHIR_OBS_COPY_OR_DUP",
    "ZEPHIR_SEPARATE_PARAM"]

def lineAllocates (line : String) : Bool := (callee? line).any allocators.contains

def Fragment.allocates (f : Fragment) : Bool :=
  match f.content with
  | .code t => lineAllocates t
  | _ => false

/-- An assignment calls what the text in front of it calls, so none to a variable calls anything. -/
theorem callee?_assignment (name value : String) :
    callee? (name ++ " = " ++ value) = callee? name := by
  have htext : (name ++ " = " ++ value).toList = name.toList ++ ' ' :: '=' :: ' ' :: value.toList := by
    simp
  cases hdrop : name.toList.dropWhile isIdentifierChar with
  | nil =>
      -- the text is all of one identifier, and behind that comes a blank
      have hspace : isIdentifierChar ' ' = false := rfl
      simp [callee?, htext, List.dropWhile_append, hdrop, hspace]
  | cons x xs =>
      have htake : (name.toList ++ ' ' :: '=' :: ' ' :: value.toList).takeWhile isIdentifierChar =
          name.toList.takeWhile isIdentifierChar := by
        rw [List.takeWhile_append, if_neg]
        intro hlength
        have hsplit := congrArg List.length (List.takeWhile_append_dropWhile
          (p := isIdentifierChar) (l := name.toList))
        rw [List.length_append, hlength, hdrop] at hsplit
        simp at hsplit
      have hrest : (name.toList ++ ' ' :: '=' :: ' ' :: value.toList).dropWhile isIdentifierChar =
          x :: (xs ++ ' ' :: '=' :: ' ' :: value.toList) := by
        simp [List.dropWhile_append, hdrop]
      simp only [callee?, htext, htake, hrest, hdrop]
      by_cases hparen : x = '('
      · subst hparen
        rfl
      · simp [hparen]

theorem callee?_of_isIdentifier {name : String} (named : IsIdentifier name) :
    callee? name = none := by
  have hdrop : name.toList.dropWhile isIdentifierChar = [] := by
    rw [List.dropWhile_eq_nil_iff]
    exact named.chars
  simp only [callee?, hdrop]

theorem callee?_call {function : String} (named : IsIdentifier function) (rest : String) :
    callee? (function ++ "(" ++ rest) = some function := by
  have htext : (function ++ "(" ++ rest).toList = function.toList ++ '(' :: rest.toList := by
    simp
  have hparen : isIdentifierChar '(' = false := rfl
  have htake := named.takeWhile_append hparen rest.toList
  have hdrop := named.dropWhile_append hparen rest.toList
  simp only [callee?, htext, htake, hdrop, String.ofList_toList]

theorem lineAllocates_assignment {name : String} (named : IsIdentifier name) (value : String) :
    lineAllocates (name ++ " = " ++ value) = false := by
  simp [lineAllocates, callee?_assignment, callee?_of_isIdentifier named]

/-- A line that begins with a call allocates if what it calls does. -/
theorem lineAllocates_of_call {function : String} (named : IsIdentifier function) (rest : String) :
    lineAllocates (function ++ "(" ++ rest) = allocators.contains function := by
  simp [lineAllocates, callee?_call named]

theorem Fragment.exists_allocates_codeLines_iff {indent : Nat} {lines : List String} :
    (∃ f ∈ codeLines indent lines, f.allocates = true) ↔
      ∃ t ∈ lines, lineAllocates t = true := by
  simp [codeLines, allocates, code]

/-- Code that is put together piece by piece allocates if a piece does. -/
theorem Fragment.exists_allocates_flatMap_iff {α : Type} {xs : List α} {g : α → List Fragment}
    {P : α → Prop} (h : ∀ x ∈ xs, (∃ f ∈ g x, f.allocates = true) ↔ P x) :
    (∃ f ∈ xs.flatMap g, f.allocates = true) ↔ ∃ x ∈ xs, P x := by
  constructor
  · rintro ⟨f, hf, hallocates⟩
    rcases List.mem_flatMap.1 hf with ⟨x, hx, hfx⟩
    exact ⟨x, hx, (h x hx).1 ⟨f, hfx, hallocates⟩⟩
  · rintro ⟨x, hx, hP⟩
    rcases (h x hx).2 hP with ⟨f, hf, hallocates⟩
    exact ⟨f, List.mem_flatMap.2 ⟨x, hx, hf⟩, hallocates⟩

/-! ## Defaults -/

namespace Initialization

/-- Some line of a default allocates exactly when the default is built. -/
theorem exists_line_iff {v : Variable} {constants : SharedConstants} {e : Estimate} {span : Span}
    {l : Literal} {i : Initialization} (h : v.initialization constants e span l = .ok i)
    (named : IsIdentifier v.name) :
    (∃ t ∈ i.lines, lineAllocates t = true) ↔ i.allocates = true := by
  rcases Variable.initialization?_cases (Variable.initialization_eq_ok_iff.1 h) with
    ⟨value, hlines, hplain⟩ | hbuilds
  · have hline := lineAllocates_assignment named (value ++ ";")
    rw [← String.append_assoc] at hline
    rw [hlines, hplain]
    simp [hline]
  · refine ⟨fun _ => hbuilds.allocates, ?_⟩
    intro hallocates
    cases i with
    | build target commands =>
        -- the first line makes the variable
        refine ⟨_, List.mem_cons_self, ?_⟩
        simp [lineAllocates, callee?, isIdentifierChar, allocators]
    | _ => cases hallocates

end Initialization

/-! ## Receipts -/

namespace Receipt

theorem lineAllocates_raiseLine (g : Guard) : lineAllocates g.raiseLine = false := by
  rw [g.raiseLine_eq, lineAllocates_of_call Guard.isIdentifier_thrower]
  decide

theorem allocates_guard_fragments {g : Guard} {indent : Nat} {f : Fragment}
    (h : f ∈ g.fragments indent) : f.allocates = false := by
  rcases Guard.mem_fragments_cases h with rfl | rfl | rfl | rfl
  · simp [Fragment.allocates, Fragment.code, lineAllocates, callee?, isIdentifierChar]
  · exact lineAllocates_raiseLine g
  · rfl
  · rfl

end Receipt

theorem Conversion.contains_allocators :
    ∀ function ∈ writers, allocators.contains function = true := by
  decide

/-! ## Bound parameters -/

namespace BoundParameter

variable {facts : BindingFacts} {b : BoundParameter}

/-- A receipt allocates for strings and arrays, and for what is separated. -/
theorem Follows.exists_allocating_receipt_iff (h : b.Follows facts) :
    (∃ r ∈ b.receipts, r.allocates = true) ↔
      (b.parameter.type = .string ∨ b.parameter.type = .array) ∨ b.isSeparated = true := by
  constructor
  · rintro ⟨r, hr, hallocates⟩
    rcases h.mem_receipts_iff.1 hr with ⟨g, _, rfl⟩ | ⟨c, hc, rfl⟩ | ⟨hseparated, rfl⟩
    · cases hallocates
    · exact .inl ((Conversion.allocates_iff (conversion?_eq_some hc)).1 hallocates)
    · exact .inr hseparated
  · rintro (htype | hseparated)
    · have hslot : b.parameter.type.hasSlot = true := by
        rcases htype with htype | htype <;> rw [htype] <;> rfl
      rcases exists_conversion hslot with ⟨c, hc⟩
      have hallocates := (Conversion.allocates_iff (conversion?_eq_some hc)).2 htype
      exact ⟨_, h.mem_receipts_iff.2 (.inr (.inl ⟨c, hc, rfl⟩)), hallocates⟩
    · exact ⟨_, h.mem_receipts_iff.2 (.inr (.inr ⟨hseparated, rfl⟩)), rfl⟩

/-- The lines of a receipt allocate exactly when it needs a managed frame. -/
theorem Follows.exists_receipt_fragment_iff (h : b.Follows facts) (named : IsIdentifier b.name)
    {r : Receipt} (hr : r ∈ b.receipts) (indent : Nat) :
    (∃ f ∈ r.fragments indent, f.allocates = true) ↔ r.allocates = true := by
  rcases h.mem_receipts_iff.1 hr with ⟨g, _, rfl⟩ | ⟨c, hc, rfl⟩ | ⟨_, rfl⟩
  · constructor
    · rintro ⟨f, hf, hallocates⟩
      rw [Receipt.allocates_guard_fragments hf] at hallocates
      cases hallocates
    · intro h
      cases h
  · have hline :
        lineAllocates (c.text b.name b.parameter.fetchedName) = c.allocates := by
      rcases Conversion.text_cases (conversion?_eq_some hc) b.name b.parameter.fetchedName with
        ⟨hplain, value, htext⟩ | ⟨hallocates, function, hwriter, rest, htext⟩
      · rw [htext, lineAllocates_assignment named, hplain]
      · rw [htext, lineAllocates_of_call (Conversion.isIdentifier_of_mem_writers function hwriter),
          Conversion.contains_allocators function hwriter, hallocates]
    simpa [Receipt.fragments, Fragment.allocates, Fragment.code, Receipt.allocates] using hline
  · simp [Receipt.fragments, Fragment.allocates, Fragment.code, Receipt.allocates, lineAllocates,
      callee?, isIdentifierChar, allocators]

theorem requests_ne_zero_iff :
    b.requests ≠ 0 ↔
      (∃ i, b.fallback = some i ∧ i.allocates = true) ∨ ∃ r ∈ b.receipts, r.allocates = true := by
  have hreceipts : b.receipts.countP (·.allocates) ≠ 0 ↔ ∃ r ∈ b.receipts, r.allocates = true := by
    rw [Nat.ne_zero_iff_zero_lt, List.countP_pos_iff]
  have hfallback : b.fallback.toList.countP (·.allocates) ≠ 0 ↔
      ∃ i, b.fallback = some i ∧ i.allocates = true := by
    cases b.fallback <;> simp
  rw [← hreceipts, ← hfallback, requests]
  omega

theorem Follows.exists_supplied_fragment_iff (h : b.Follows facts) (named : IsIdentifier b.name)
    (indent : Nat) :
    (∃ f ∈ b.suppliedFragments indent, f.allocates = true) ↔
      ∃ r ∈ b.receipts, r.allocates = true :=
  Fragment.exists_allocates_flatMap_iff fun _ hr => h.exists_receipt_fragment_iff named hr indent

/-- The lines of a parameter allocate exactly when binding asks for a managed frame. -/
theorem Follows.exists_fragment_iff (h : b.Follows facts) (named : IsIdentifier b.name)
    (indent : Nat) :
    (∃ f ∈ b.fragments indent, f.allocates = true) ↔ b.requests ≠ 0 := by
  rw [requests_ne_zero_iff]
  cases hfallback : b.fallback with
  | none =>
      rw [fragments_of_required hfallback, h.exists_supplied_fragment_iff named]
      simp
  | some i =>
      -- the lines of the branches allocate as the default and the receipts do, and the test does not
      rcases h.fallback_eq_some_iff.1 hfallback with ⟨l, _, hi⟩
      have hdefault : (∃ f ∈ Fragment.codeLines (indent + 1) i.lines, f.allocates = true) ↔
          i.allocates = true :=
        Fragment.exists_allocates_codeLines_iff.trans (Initialization.exists_line_iff hi named)
      have hsupplied := h.exists_supplied_fragment_iff named (indent + 1)
      have htest : (Fragment.code indent ("if (!" ++ b.parameter.fetchedName ++ ") \x7b")).allocates =
          false := by
        simp [Fragment.allocates, Fragment.code, lineAllocates, callee?, isIdentifierChar]
      have hexists (fs : List Fragment) : (∃ f ∈ fs, f.allocates = true) ↔
          fs.filter Fragment.allocates ≠ [] := by
        simp [List.filter_eq_nil_iff]
      rw [hexists, filter_fragments_of_optional hfallback indent htest rfl rfl,
        ← List.filter_append, ← hexists]
      simp only [List.mem_append, or_and_right, exists_or, hdefault, hsupplied]
      simp

end BoundParameter
end NativeMethod
