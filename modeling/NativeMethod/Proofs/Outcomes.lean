import Mathlib.Data.List.Forall2

/-!
# Outcomes — taking successful steps apart

A computation that may fail and that succeeded did so in each of its parts.  These lemmas name the
parts: of two steps in sequence, of a mapped result, and of a list of steps, where each result comes
from a step and each step has a result.  `Alike` puts two computations side by side that fail together.
-/

namespace NativeMethod
namespace Outcome

variable {ε α β : Type}

theorem bind_eq_ok_iff {x : Except ε α} {f : α → Except ε β} {r : β} :
    (x >>= f) = .ok r ↔ ∃ a, x = .ok a ∧ f a = .ok r := by
  cases x with
  | error e =>
      constructor
      · intro h
        cases h
      · rintro ⟨a, ha, _⟩
        cases ha
  | ok a =>
      constructor
      · intro h
        exact ⟨a, rfl, h⟩
      · rintro ⟨a', ha, hf⟩
        cases ha
        exact hf

theorem bind_eq_error_iff {x : Except ε α} {f : α → Except ε β} {e : ε} :
    (x >>= f) = .error e ↔ x = .error e ∨ ∃ a, x = .ok a ∧ f a = .error e := by
  cases x <;> simp [bind, Except.bind]

/-- A check in front of a step is passed, or decides the error. -/
theorem check_then_eq_error_iff {check : Except ε Unit} {step : Except ε β} {e : ε} :
    (check >>= fun _ => step) = .error e ↔
      check = .error e ∨ (check = .ok () ∧ step = .error e) := by
  cases check <;> simp [bind, Except.bind]

theorem exists_check_then_eq_ok_iff {check : Except ε Unit} {step : Except ε β} :
    (∃ r, (check >>= fun _ => step) = .ok r) ↔ check = .ok () ∧ ∃ r, step = .ok r := by
  cases check <;> simp [bind, Except.bind]

theorem map_eq_ok_iff {x : Except ε α} {f : α → β} {r : β} :
    x.map f = .ok r ↔ ∃ a, x = .ok a ∧ f a = r := by
  cases x <;> simp [Except.map]

theorem map_eq_error_iff {x : Except ε α} {f : α → β} {e : ε} :
    x.map f = .error e ↔ x = .error e := by
  cases x <;> simp [Except.map]

theorem exists_map_eq_ok_iff {x : Except ε α} {f : α → β} :
    (∃ r, x.map f = .ok r) ↔ ∃ a, x = .ok a := by
  cases x <;> simp [Except.map]

/-- A list of steps succeeds when every step does, and gives the results in order. -/
theorem mapM_eq_ok_iff {f : α → Except ε β} {xs : List α} {ys : List β} :
    xs.mapM f = .ok ys ↔ List.Forall₂ (fun x y => f x = .ok y) xs ys := by
  induction xs generalizing ys with
  | nil =>
      rw [List.forall₂_nil_left_iff]
      constructor
      · intro h
        cases h
        rfl
      · rintro rfl
        rfl
  | cons x xs ih =>
      rw [List.mapM_cons, bind_eq_ok_iff, List.forall₂_cons_left_iff]
      constructor
      · rintro ⟨y, hy, h⟩
        obtain ⟨ys', hys, h'⟩ := bind_eq_ok_iff.1 h
        cases h'
        exact ⟨y, ys', hy, ih.1 hys, rfl⟩
      · rintro ⟨y, ys', hy, hys, rfl⟩
        exact ⟨y, hy, bind_eq_ok_iff.2 ⟨ys', ih.2 hys, rfl⟩⟩

/-- A list of steps fails at the first step that does. -/
theorem mapM_eq_error_iff {f : α → Except ε β} {xs : List α} {e : ε} :
    xs.mapM f = .error e ↔
      ∃ earlier x later, xs = earlier ++ x :: later ∧ (∀ y ∈ earlier, ∃ b, f y = .ok b) ∧
        f x = .error e := by
  induction xs with
  | nil => simp [pure, Except.pure]
  | cons x xs ih =>
      rw [List.mapM_cons, bind_eq_error_iff]
      constructor
      · rintro (hx | ⟨b, hx, hrest⟩)
        · exact ⟨[], x, xs, rfl, by simp, hx⟩
        · rcases bind_eq_error_iff.1 hrest with hxs | ⟨bs, _, hpure⟩
          · rcases ih.1 hxs with ⟨earlier, y, later, rfl, hearlier, hy⟩
            refine ⟨x :: earlier, y, later, rfl, ?_, hy⟩
            exact List.forall_mem_cons.2 ⟨⟨b, hx⟩, hearlier⟩
          · cases hpure
      · rintro ⟨earlier, y, later, hsplit, hearlier, hy⟩
        rcases List.cons_eq_append_iff.1 hsplit with ⟨rfl, hhead⟩ | ⟨rest, rfl, hrest⟩
        · cases hhead
          exact .inl hy
        · obtain ⟨⟨b, hx⟩, hothers⟩ := List.forall_mem_cons.1 hearlier
          refine .inr ⟨b, hx, bind_eq_error_iff.2 (.inl ?_)⟩
          exact ih.2 ⟨rest, y, later, hrest, hothers, hy⟩

/-! ## Results and what they came from -/

theorem exists_source {R : α → β → Prop} {xs : List α} {ys : List β} (h : List.Forall₂ R xs ys)
    {y : β} (hy : y ∈ ys) : ∃ x ∈ xs, R x y := by
  induction h with
  | nil => cases hy
  | @cons a b _ _ hab _ ih =>
      rcases List.mem_cons.1 hy with rfl | hy
      · exact ⟨a, List.mem_cons_self, hab⟩
      · rcases ih hy with ⟨x, hx, hxy⟩
        exact ⟨x, List.mem_cons_of_mem a hx, hxy⟩

theorem exists_result {R : α → β → Prop} {xs : List α} {ys : List β} (h : List.Forall₂ R xs ys)
    {x : α} (hx : x ∈ xs) : ∃ y ∈ ys, R x y :=
  exists_source h.flip hx

/-- A list of steps fails if one of them does. -/
theorem exists_mapM_eq_error {f : α → Except ε β} {xs : List α} {x : α} (hx : x ∈ xs) {e : ε}
    (fails : f x = .error e) : ∃ e', xs.mapM f = .error e' := by
  cases hresult : xs.mapM f with
  | error e' => exact ⟨e', rfl⟩
  | ok ys =>
      rcases exists_result (mapM_eq_ok_iff.1 hresult) hx with ⟨y, _, hy⟩
      rw [fails] at hy
      cases hy

/-- What each result keeps of its source, the list of results keeps of the list of sources. -/
theorem map_eq_map {R : α → β → Prop} {xs : List α} {ys : List β} (h : List.Forall₂ R xs ys)
    {γ : Type} {f : α → γ} {g : β → γ} (keeps : ∀ x y, R x y → f x = g y) :
    xs.map f = ys.map g := by
  induction h with
  | nil => rfl
  | cons hab _ ih => rw [List.map_cons, List.map_cons, keeps _ _ hab, ih]

theorem flatMap_eq_flatMap {R : α → β → Prop} {xs : List α} {ys : List β} (h : List.Forall₂ R xs ys)
    {γ : Type} {f : α → List γ} {g : β → List γ} (keeps : ∀ x y, R x y → f x = g y) :
    xs.flatMap f = ys.flatMap g := by
  simpa only [List.flatMap_def] using congrArg List.flatten (map_eq_map h keeps)

/-! ## Two computations side by side -/

/-- Both computations fail, with one error, or both succeed and their results are related. -/
inductive Alike (R : α → β → Prop) : Except ε α → Except ε β → Prop where
  | error (e : ε) : Alike R (.error e) (.error e)
  | ok {a : α} {b : β} : R a b → Alike R (.ok a) (.ok b)

theorem alike_of_errors {R : α → β → Prop} {x : Except ε α} {y : Except ε β}
    (same : ∀ e, x = .error e ↔ y = .error e)
    (related : ∀ a b, x = .ok a → y = .ok b → R a b) : Alike R x y := by
  cases x with
  | error e =>
      have hy : y = .error e := (same e).1 rfl
      exact hy ▸ .error e
  | ok a =>
      cases y with
      | error e => cases (same e).2 rfl
      | ok b => exact .ok (related a b rfl rfl)

/-- Steps that fail alike make lists of steps that fail alike. -/
theorem mapM_eq_error_of_same {γ : Type} {f : α → Except ε β} {g : α → Except ε γ}
    (same : ∀ x e, f x = .error e ↔ g x = .error e) {xs : List α} {e : ε}
    (fails : xs.mapM f = .error e) : xs.mapM g = .error e := by
  rcases mapM_eq_error_iff.1 fails with ⟨earlier, x, later, hsplit, hearlier, hx⟩
  refine mapM_eq_error_iff.2 ⟨earlier, x, later, hsplit, ?_, (same x e).1 hx⟩
  intro y hy
  obtain ⟨b, hok⟩ := hearlier y hy
  cases hresult : g y with
  | ok c => exact ⟨c, rfl⟩
  | error e' =>
      -- a step that succeeds on the one side cannot fail on the other
      cases hok.symm.trans ((same y e').2 hresult)

end Outcome
end NativeMethod
