import NativeMethod.Proofs.Hash.SinglePieces
import NativeMethod.Proofs.Prologue.Tests

/-!
# InstanceGuards — the objects that a class-cast parameter takes

Classes are compared by fingerprint.  A guard that asks for an instance therefore takes the objects of its
class and of the classes below it, however the names are spelled, and with them every object that has a
class whose key happens to have the same hash:

* `ClassName.sameClass_iff` — one key, or two keys that collide;
* `ClassName.not_collidesWith` — names that cannot collide;
* `instanceGuard_accepts` — what the guard says of null, of values, and of objects.
-/

namespace NativeMethod

namespace ClassName

/-- Another class, which the fingerprint does not tell from `c`. -/
def CollidesWith (a c : ClassName) : Prop :=
  a.key ≠ c.key ∧ XXHash64.hash 0 (Quoted.bytesOf a.key) = XXHash64.hash 0 (Quoted.bytesOf c.key)

instance (a c : ClassName) : Decidable (a.CollidesWith c) := inferInstanceAs (Decidable (_ ∧ _))

theorem sameClass_iff {a c : ClassName} : a.sameClass c = true ↔ a.key = c.key ∨ a.CollidesWith c := by
  have hhash : a.sameClass c = true ↔
      XXHash64.hash 0 (Quoted.bytesOf a.key) = XXHash64.hash 0 (Quoted.bytesOf c.key) := by
    rw [sameClass, beq_iff_eq, fingerprint, fingerprint, UInt64.xor_right_inj]
  constructor
  · intro h
    by_cases hkey : a.key = c.key
    · exact Or.inl hkey
    · exact Or.inr ⟨hkey, hhash.1 h⟩
  · rintro (hkey | ⟨_, hcollides⟩)
    · exact sameClass_of_key_eq hkey
    · exact hhash.2 hcollides

theorem not_collidesWith {a c : ClassName}
    (differ : XXHash64.DifferInOnePiece (Quoted.bytesOf a.key) (Quoted.bytesOf c.key)) :
    ¬ a.CollidesWith c := by
  rintro ⟨_, hcollides⟩
  exact XXHash64.hash_ne_of_differInOnePiece differ hcollides

end ClassName

theorem Probe.isInstanceOf_object_iff {own : ClassName} {ancestors : List ClassName} {c : ClassName} :
    (Probe.object own ancestors).isInstanceOf c = true ↔
      ∃ a ∈ own :: ancestors, a.key = c.key ∨ a.CollidesWith c := by
  have hany : (Probe.object own ancestors).isInstanceOf c = (own :: ancestors).any (·.sameClass c) := rfl
  simp only [hany, List.any_eq_true, ClassName.sameClass_iff]

/-- A guard that asks for an instance takes null if it was told so, nothing else that is not an object,
and of the objects those that have a class with its key, or one that collides with it.  Names that differ
in a single piece behind the whole stripes do not collide. -/
theorem instanceGuard_accepts (parameter subject : String) (c : ClassName) (orNull : Bool) :
    let g : Guard := ⟨parameter, subject, .instanceOf c orNull⟩
    g.accepts .null = orNull ∧
      (∀ p : Probe, p ≠ .null → (∀ own ancestors, p ≠ .object own ancestors) → g.accepts p = false) ∧
      (∀ own ancestors, g.accepts (.object own ancestors) = true ↔
        ∃ a ∈ own :: ancestors, a.key = c.key ∨ a.CollidesWith c) ∧
      ∀ a : ClassName, XXHash64.DifferInOnePiece (Quoted.bytesOf a.key) (Quoted.bytesOf c.key) →
        ¬ a.CollidesWith c := by
  intro g
  have hrequirement : g.requirement = .instanceOf c orNull := rfl
  refine ⟨rfl, ?_, ?_, fun _ => ClassName.not_collidesWith⟩
  · intro p hnull hobject
    have hvalue : p.isInstanceOf c = false := by
      cases p with
      | object own ancestors => exact absurd rfl (hobject own ancestors)
      | _ => rfl
    rw [Guard.accepts_of_instanceOf hrequirement, hvalue, beq_false_of_ne hnull, Bool.and_false,
      Bool.or_false]
  · intro own ancestors
    have hnotNull : (Probe.object own ancestors == .null) = false := rfl
    rw [Guard.accepts_of_instanceOf hrequirement, hnotNull, Bool.and_false, Bool.or_false,
      Probe.isInstanceOf_object_iff]

/-- A user class below the model is taken, and a class that differs from it in one letter does not collide. -/
theorem instanceGuard_accepts_below_model :
    let g : Guard := ⟨"m", "m", .instanceOf ⟨"\\App\\Model"⟩ true⟩
    g.accepts .null = true ∧ g.accepts .string = false ∧
      g.accepts (.object ⟨"App\\User"⟩ [⟨"APP\\model"⟩]) = true ∧
      ¬ ClassName.CollidesWith ⟨"App\\Medal"⟩ ⟨"\\App\\Model"⟩ := by
  obtain ⟨hnull, hvalues, hobjects, hapart⟩ := instanceGuard_accepts "m" "m" ⟨"\\App\\Model"⟩ true
  have hkey : ClassName.key ⟨"APP\\model"⟩ = ClassName.key ⟨"\\App\\Model"⟩ := by decide
  have hbytes : XXHash64.DifferInOnePiece (Quoted.bytesOf (ClassName.key ⟨"App\\Medal"⟩))
      (Quoted.bytesOf (ClassName.key ⟨"\\App\\Model"⟩)) :=
    ⟨by decide, by decide, [], Quoted.bytesOf "app\\meda", Quoted.bytesOf "app\\mode",
      [Quoted.bytesOf "l"], by decide, by decide, by decide⟩
  have hstring : ∀ own ancestors, Probe.string ≠ .object own ancestors := nofun
  exact ⟨hnull, hvalues .string (by decide) hstring,
    (hobjects _ _).2 ⟨⟨"APP\\model"⟩, by simp, Or.inl hkey⟩, hapart _ hbytes⟩

/-- The keys are sixteen bytes each and differ in both pieces, and the hash is the same. -/
theorem instanceGuard_accepts_collision :
    let g : Guard := ⟨"c", "c", .instanceOf ⟨"Invoice\\Customer"⟩ false⟩
    ClassName.key ⟨"Goaftue\\Ktldeupy"⟩ ≠ ClassName.key ⟨"Invoice\\Customer"⟩ ∧
      g.accepts (.object ⟨"Goaftue\\Ktldeupy"⟩ []) = true := by
  decide +kernel

end NativeMethod
