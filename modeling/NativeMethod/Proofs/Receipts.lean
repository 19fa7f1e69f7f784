import NativeMethod.Proofs.BoundParameters
import NativeMethod.Proofs.Identifiers

/-!
# Receipts — what is done to a supplied argument

A supplied argument is checked by one guard at most, then converted if its type has a slot, then
separated.  A conversion assigns the local, or it is a call of one of three functions that fill it.
-/

namespace NativeMethod

/-! ## Guards -/

theorem Guard.raiseLine_eq (g : Guard) :
    g.raiseLine = "zephir_throw_exception_string" ++ "(" ++
      ("spl_ce_InvalidArgumentException, SL(" ++ (Quoted.string g.error.message ++ "));")) := by
  calc
    g.raiseLine
        = "zephir_throw_exception_string(spl_ce_InvalidArgumentException, SL(" ++
            Quoted.string g.error.message ++ "));" := rfl
    _ = _ := by
          simp only [← String.append_assoc]
          simp

theorem Guard.isIdentifier_thrower : IsIdentifier "zephir_throw_exception_string" := by
  decide

theorem Guard.mem_fragments_cases {g : Guard} {indent : Nat} {f : Fragment}
    (h : f ∈ g.fragments indent) :
    f = .code indent ("if (UNEXPECTED(" ++ g.rejection.text ++ ")) \x7b") ∨
      f = .code (indent + 1) g.raiseLine ∨ f = .site (indent + 1) (.leave .null) ∨
        f = .code indent "\x7d" := by
  simpa [fragments] using h

namespace BoundParameter

/-- The guard of a parameter: of a constrained one the class, of a strict one with a slot the type. -/
def guard? (b : BoundParameter) : Option Guard := b.instanceGuard?.or b.strictGuard?

variable {facts : BindingFacts} {b : BoundParameter}

/-- No parameter has both guards, as a constrained one has no slot. -/
theorem Follows.checks_eq (h : b.Follows facts) :
    b.instanceGuard?.toList ++ b.strictGuard?.toList = b.guard?.toList := by
  cases hconstraint : b.parameter.constraint with
  | none =>
      have hinstance : b.instanceGuard? = none := by
        simp [instanceGuard?, hconstraint]
      simp [guard?, hinstance]
  | some c =>
      have hslot : b.parameter.type.hasSlot = false :=
        h.hasSlot_of_constraint (by simp [hconstraint])
      -- and a type without a slot has no tag to ask for
      have htag : b.parameter.type.tag? = none := by
        rw [← Option.isNone_iff_eq_none, ← Option.not_isSome, StorageType.tag?_isSome, hslot]
        rfl
      have hstrict : b.strictGuard? = none := by
        simp [strictGuard?, htag]
      cases hinstance : b.instanceGuard? <;> simp [guard?, hinstance, hstrict]

theorem Follows.receipts_eq (h : b.Follows facts) :
    b.receipts = b.guard?.toList.map .check ++
      (b.conversion?.toList.map (.convert · b.name b.parameter.fetchedName) ++
        if b.isSeparated then [.separate b.separationTarget] else []) := by
  rw [receipts, ← List.map_append, h.checks_eq, List.append_assoc]

theorem Follows.receipts_eq_cons (h : b.Follows facts) {g : Guard} (hg : b.guard? = some g) :
    ∃ rest, b.receipts = .check g :: rest := by
  have hreceipts := h.receipts_eq
  rw [hg] at hreceipts
  exact ⟨_, hreceipts⟩

theorem Follows.guards_eq (h : b.Follows facts) : b.guards = b.guard?.toList := by
  rw [guards, h.receipts_eq]
  cases b.guard? <;> cases b.conversion? <;> cases b.isSeparated <;> rfl

/-- A parameter has a guard exactly if it is constrained, or strict with a slot. -/
theorem isSome_guard? (b : BoundParameter) :
    b.guard?.isSome = (b.parameter.constraint.isSome ||
      (b.parameter.isStrict && b.parameter.type.hasSlot)) := by
  have hinstance : b.instanceGuard?.isSome = b.parameter.constraint.isSome := by
    simp [instanceGuard?]
  have hstrict : b.strictGuard?.isSome = (b.parameter.isStrict && b.parameter.type.hasSlot) := by
    rw [← StorageType.tag?_isSome]
    cases hstrict : b.parameter.isStrict <;> simp [strictGuard?, hstrict]
  rw [guard?, Option.isSome_or, hinstance, hstrict]

theorem subject_of_guard? {g : Guard} (h : b.guard? = some g) :
    g.subject = b.parameter.fetchedName := by
  rcases Option.or_eq_some_iff.1 h with hinstance | ⟨_, hstrict⟩
  · rcases Option.map_eq_some_iff.1 hinstance with ⟨c, _, rfl⟩
    rfl
  · unfold strictGuard? at hstrict
    split at hstrict
    · rcases Option.map_eq_some_iff.1 hstrict with ⟨tag, _, rfl⟩
      rfl
    · cases hstrict

/-- A guard that asks for a class asks for that of the constraint. -/
theorem constraint_of_guard? {g : Guard} (h : b.guard? = some g) {c : ClassName} {orNull : Bool}
    (hrequirement : g.requirement = .instanceOf c orNull) : b.parameter.constraint = some c := by
  rcases Option.or_eq_some_iff.1 h with hinstance | ⟨_, hstrict⟩
  · rcases Option.map_eq_some_iff.1 hinstance with ⟨c', hc', rfl⟩
    cases hrequirement
    exact hc'
  · unfold strictGuard? at hstrict
    split at hstrict
    · rcases Option.map_eq_some_iff.1 hstrict with ⟨tag, _, rfl⟩
      cases hrequirement
    · cases hstrict

end BoundParameter

/-! ## Conversions -/

namespace Conversion

/-- Strings and arrays are copied, and everything else is read out. -/
theorem allocates_iff {t : StorageType} {c : Conversion}
    (h : t.strictConversion? = some c ∨ t.looseConversion? = some c) :
    c.allocates = true ↔ t = .string ∨ t = .array := by
  cases t <;> rcases h with h | h <;> cases h <;> simp [allocates]

theorem text_of_not_allocates {c : Conversion} (plain : c.allocates = false) (name slot : String) :
    ∃ value, c.text name slot = name ++ " = " ++ value := by
  cases c with
  | write function => cases plain
  | longValue => exact ⟨"Z_LVAL_P(" ++ slot ++ ");", String.toList_inj.1 (by simp [text])⟩
  | castLong cType =>
      exact ⟨"(" ++ cType ++ ") Z_LVAL_P(" ++ slot ++ ");", String.toList_inj.1 (by simp [text])⟩
  | doubleValue => exact ⟨"Z_DVAL_P(" ++ slot ++ ");", String.toList_inj.1 (by simp [text])⟩
  | isTrue =>
      exact ⟨"(Z_TYPE_P(" ++ slot ++ ") == IS_TRUE);", String.toList_inj.1 (by simp [text])⟩
  | call function => exact ⟨function ++ "(" ++ slot ++ ");", String.toList_inj.1 (by simp [text])⟩

/-- The functions that fill the local of a parameter. -/
def writers : List String := ["zephir_get_strval", "zephir_get_arrval", "ZEPHIR_OBS_COPY_OR_DUP"]

theorem isIdentifier_of_mem_writers : ∀ function ∈ writers, IsIdentifier function := by
  decide

/-- A conversion assigns the local or calls a function that fills it. -/
theorem text_cases {t : StorageType} {c : Conversion}
    (h : t.strictConversion? = some c ∨ t.looseConversion? = some c) (name slot : String) :
    (c.allocates = false ∧ ∃ value, c.text name slot = name ++ " = " ++ value) ∨
      (c.allocates = true ∧
        ∃ function ∈ writers, ∃ rest, c.text name slot = function ++ "(" ++ rest) := by
  cases hallocates : c.allocates with
  | false => exact .inl ⟨rfl, text_of_not_allocates hallocates name slot⟩
  | true =>
      right
      refine ⟨rfl, ?_⟩
      cases c with
      | write function =>
          have hwriter : function ∈ writers := by
            cases t <;> rcases h with h | h <;> cases h <;> simp [writers]
          refine ⟨function, hwriter, "&" ++ name ++ ", " ++ slot ++ ");", ?_⟩
          have hcall : function ++ "(&" = function ++ "(" ++ "&" := by
            simp [String.append_assoc]
          simp only [text, hcall, ← String.append_assoc]
      | _ => cases hallocates

end Conversion

namespace BoundParameter

variable {facts : BindingFacts} {b : BoundParameter}

theorem conversion?_eq_some {c : Conversion} (h : b.conversion? = some c) :
    b.parameter.type.strictConversion? = some c ∨ b.parameter.type.looseConversion? = some c := by
  unfold conversion? at h
  cases hstrict : b.parameter.isStrict with
  | true =>
      left
      simpa [hstrict] using h
  | false =>
      right
      simpa [hstrict] using h

theorem exists_conversion (slot : b.parameter.type.hasSlot = true) :
    ∃ c, b.conversion? = some c := by
  have hsome : b.conversion?.isSome = true := by
    unfold conversion?
    cases b.parameter.isStrict with
    | false => exact (StorageType.looseConversion?_isSome _).trans slot
    | true => exact (StorageType.strictConversion?_isSome _).trans slot
  exact Option.isSome_iff_exists.1 hsome

theorem Follows.mem_receipts_iff (h : b.Follows facts) {r : Receipt} :
    r ∈ b.receipts ↔
      (∃ g, b.guard? = some g ∧ .check g = r) ∨
        (∃ c, b.conversion? = some c ∧ .convert c b.name b.parameter.fetchedName = r) ∨
          (b.isSeparated = true ∧ .separate b.separationTarget = r) := by
  rw [h.receipts_eq]
  cases hseparated : b.isSeparated <;> simp [eq_comm]

end BoundParameter
end NativeMethod
