import Mathlib.Tactic.ByContra
import NativeMethod.Initialization

/-!
# Initializations — the code that a default can become

A default is either assigned to its variable, as a constant or as the address of a shared value, or
built in it.  What is built is a scalar, an empty string or an array.

* `initialization?_sources` — which variables are given which code;
* `builds_of_needsSeparation` — what is written through must not be shared, and is built.
-/

namespace NativeMethod
namespace Variable

variable {v : Variable} {constants : SharedConstants} {e : Estimate} {l : Literal}
  {i : Initialization}

theorem initialization_eq_ok_iff {span : Span} :
    v.initialization constants e span l = .ok i ↔ v.initialization? constants e l = some i := by
  unfold initialization
  cases v.initialization? constants e l <;> simp

/-- A variable that holds values of every kind, or arrays, is built where it is given an array. -/
theorem initialization?_array
    (takesArrays : v.type = .array ∨ v.type = .generic ∨ v.type = .mixed)
    (constants : SharedConstants) (e : Estimate) (items : List Literal) :
    v.initialization? constants e (.array items) =
      some (.build v.operand (Command.buildArray v items)) := by
  have hbuilt : (Command.buildArray? v items).map (Initialization.build v.operand) =
      some (Initialization.build v.operand (Command.buildArray v items)) := by
    rw [Command.buildArray?_eq]
    rfl
  unfold initialization?
  rcases takesArrays with htype | htype | htype
  · rw [htype]
    exact hbuilt
  · rw [htype]
    exact hbuilt
  · rw [htype]
    exact hbuilt

/-- The code assigns the variable. -/
def Assigns (v : Variable) (i : Initialization) : Prop :=
  ∃ value, i.lines = [v.name ++ " = " ++ value ++ ";"] ∧ i.allocates = false

/-- The code points the variable at a shared value, as the estimate allows. -/
inductive Shares (v : Variable) (constants : SharedConstants) (e : Estimate) :
    Initialization → Prop where
  | intro (s : SharedValue) : e.mayShare = true → v.isLocalOnly = false →
      Shares v constants e (.share v.name (constants.address s))

/-- The code builds a value in the variable. -/
inductive Builds (v : Variable) : Initialization → Prop where
  | scalar (value : BoxedScalar) : Builds v (v.buildScalar value)
  | emptyString : Builds v (.build v.operand [.setEmptyString v.operand])
  | emptyArray : Builds v (.build v.operand [.newArray v.operand])
  | array (items : List Literal) : Builds v (.build v.operand (Command.buildArray v items))

theorem shareOrCopy_cases (v : Variable) (constants : SharedConstants) (e : Estimate)
    (s : SharedValue) :
    v.Shares constants e (v.shareOrCopy constants e s) ∨
      v.Builds (v.shareOrCopy constants e s) := by
  unfold shareOrCopy
  split
  · rename_i hshares
    rcases Bool.and_eq_true_iff.1 hshares with ⟨hmay, hpointer⟩
    exact .inl (.intro s hmay (by simpa using hpointer))
  · cases s with
    | null => exact .inr (.scalar .null)
    | bool b => exact .inr (.scalar (.bool b))

theorem genericInitialization_cases (v : Variable) (constants : SharedConstants) (e : Estimate)
    (l : Literal) :
    v.Shares constants e (v.genericInitialization constants e l) ∨
      v.Builds (v.genericInitialization constants e l) := by
  cases l with
  | null => exact v.shareOrCopy_cases constants e .null
  | bool b => exact v.shareOrCopy_cases constants e (.bool b)
  | int n => exact .inr (.scalar (.int n))
  | char b => exact .inr (.scalar (.char b))
  | double x => exact .inr (.scalar (.double x))
  | string s => exact .inr (.scalar (.string s))
  | array items => exact .inr (.array items)

/-- A native variable is assigned a constant, and a boxed one shares a value or is built. -/
theorem initialization?_sources (h : v.initialization? constants e l = some i) :
    (v.type.isNative = true ∧ ∃ value, i = .assign v.name value) ∨
      v.Shares constants e i ∨ v.Builds i := by
  unfold initialization? at h
  -- arrays are always built, and a variable for values of any kind is always given some code
  simp only [Command.buildArray?_eq, genericInitialization?_eq, Option.map_some] at h
  split at h
  case h_10 =>
    rcases Option.map_eq_some_iff.1 h with ⟨value, hvalue, rfl⟩
    refine .inl ⟨?_, value, rfl⟩
    by_contra hnative
    rw [Literal.nativeConstant?_eq_none (by simpa using hnative)] at hvalue
    cases hvalue
  all_goals
    rw [← Option.some.inj h]
    right
  case h_1 => exact .inr .emptyString
  case h_2 => exact .inr (.scalar _)
  case h_3 => exact .inr .emptyArray
  case h_4 => exact .inr (.array _)
  case h_5 => exact v.genericInitialization_cases constants e _
  case h_6 => exact v.genericInitialization_cases constants e _
  all_goals exact v.shareOrCopy_cases constants e .null

theorem initialization?_cases (h : v.initialization? constants e l = some i) :
    v.Assigns i ∨ v.Builds i := by
  rcases initialization?_sources h with ⟨_, value, rfl⟩ | hshares | hbuilds
  · exact .inl ⟨_, rfl, rfl⟩
  · cases hshares
    exact .inl ⟨_, rfl, rfl⟩
  · exact .inr hbuilds

theorem Builds.allocates (h : v.Builds i) : i.allocates = true := by
  cases h <;> rfl

/-- What may be shared is built where it has to be one's own, and in variables that hold their value
inline. -/
theorem allocates_shareOrCopy (v : Variable) (constants : SharedConstants) (e : Estimate)
    (s : SharedValue) :
    (v.shareOrCopy constants e s).allocates = (e.needsSeparation || v.isLocalOnly) := by
  unfold shareOrCopy Estimate.mayShare
  cases hneeds : e.needsSeparation <;> cases hlocal : v.isLocalOnly <;> cases s <;> rfl

/-- The constants and the estimate have a say in a default only where a value may be shared. -/
theorem initialization?_shares_or_same (v : Variable) (l : Literal) :
    (∃ s, ∀ constants e, v.initialization? constants e l = some (v.shareOrCopy constants e s)) ∨
      ∀ constants e constants' e',
        v.initialization? constants e l = v.initialization? constants' e' l := by
  rcases v with ⟨name, type, _⟩
  -- in the table of conversions only null and truth values may be shared, by types without a slot
  cases type <;> cases l <;>
    first
      | exact .inl ⟨_, fun _ _ => rfl⟩
      | exact .inr fun _ _ _ _ => rfl

/-- A default that is built stays so if its variable is written through more. -/
theorem allocates_of_more_writes {constants' : SharedConstants} {e' : Estimate} {i' : Initialization}
    (more : e.needsSeparation = true → e'.needsSeparation = true)
    (h : v.initialization? constants e l = some i) (h' : v.initialization? constants' e' l = some i')
    (allocates : i.allocates = true) : i'.allocates = true := by
  rcases v.initialization?_shares_or_same l with ⟨s, hshares⟩ | hsame
  · have hi : v.shareOrCopy constants e s = i := Option.some.inj ((hshares _ _).symm.trans h)
    have hi' : v.shareOrCopy constants' e' s = i' := Option.some.inj ((hshares _ _).symm.trans h')
    rw [← hi, allocates_shareOrCopy, Bool.or_eq_true] at allocates
    rw [← hi', allocates_shareOrCopy, Bool.or_eq_true]
    exact allocates.imp_left more
  · have hcode : some i = some i' := h.symm.trans ((hsame _ _ _ _).trans h')
    simpa only [← Option.some.inj hcode] using allocates

/-- A boxed variable that must not share a value is built. -/
theorem builds_of_needsSeparation (boxed : v.type.isBoxed = true)
    (needs : e.needsSeparation = true) (h : v.initialization? constants e l = some i) :
    v.Builds i := by
  rcases initialization?_sources h with ⟨hnative, _⟩ | hshares | hbuilds
  · have hneither : v.type.isNative = false := by
      revert boxed
      cases v.type <;> decide
    rw [hnative] at hneither
    cases hneither
  · cases hshares with
    | intro s hmay _ =>
        rw [Estimate.mayShare, needs] at hmay
        cases hmay
  · exact hbuilds

end Variable
end NativeMethod
