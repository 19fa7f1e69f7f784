import Mathlib.Data.List.Forall2
import NativeMethod.Proofs.Conversions

/-!
# EqualLiterals — literals that are equal, and what is written for them

Literals are compared as values, and the doubles in them as numbers, so that all NaNs are equal and so are
the two zeros.  All NaNs are written alike, but a zero is written with its sign:

* `Literal.canonical` — one literal for all that are equal to it, which makes equality an equivalence;
* `Literal.zerosAgree` — the zeros that stand at the same places have the same signs;
* `Command.lines_eq_iff` — of two runs of commands that push equal values, one by one, the lines are the
  same exactly if the texts are;
* `equal_literals_written_alike_iff` — what equal literals have in common, and where they differ.
-/

namespace NativeMethod

/-! ## Doubles -/

namespace Binary64

/-- One value for all that are the same number. -/
def canonical (x : Binary64) : Binary64 :=
  if x.isNaN then ⟨0x7ff8000000000000⟩ else if x.isZero then ⟨0⟩ else x

/-- Of two zeros both or neither are negative.  Nothing is asked of other values. -/
def zeroAgrees (x y : Binary64) : Bool := !(x.isZero && y.isZero) || x.isNegative == y.isNegative

variable {x y : Binary64}

theorem exponentField_of_isZero (h : x.isZero = true) : x.exponentField = 0 := by
  simp only [isZero, Bool.and_eq_true, beq_iff_eq] at h
  exact h.1

theorem isNaN_of_isZero (h : x.isZero = true) : x.isNaN = false := by
  simp [isNaN, exponentField_of_isZero h]

theorem isFinite_of_isZero (h : x.isZero = true) : x.isFinite = true := by
  simp [isFinite, exponentField_of_isZero h]

theorem isFinite_of_isNaN (h : x.isNaN = true) : x.isFinite = false := by
  have hexponent : x.exponentField = 2047 := by
    simp only [isNaN, Bool.and_eq_true, beq_iff_eq] at h
    exact h.1
  simp [isFinite, hexponent]

theorem isNaN_canonical (x : Binary64) : x.canonical.isNaN = x.isNaN := by
  cases hnan : x.isNaN with
  | true =>
      simp only [canonical, hnan, if_true]
      decide
  | false =>
      cases hzero : x.isZero with
      | true =>
          simp only [canonical, hnan, hzero, if_true, Bool.false_eq_true, if_false]
          decide
      | false => simp [canonical, hnan, hzero]

theorem isZero_canonical (x : Binary64) : x.canonical.isZero = x.isZero := by
  cases hzero : x.isZero with
  | true =>
      simp only [canonical, isNaN_of_isZero hzero, hzero, if_true, Bool.false_eq_true, if_false]
      decide
  | false =>
      cases hnan : x.isNaN with
      | true =>
          simp only [canonical, hnan, if_true]
          decide
      | false => simp [canonical, hnan, hzero]

theorem same_cases (h : x.same y = true) :
    x = y ∨ (x.isNaN = true ∧ y.isNaN = true) ∨ (x.isZero = true ∧ y.isZero = true) := by
  simpa [same, or_assoc] using h

theorem same_iff_canonical : x.same y = true ↔ x.canonical = y.canonical := by
  constructor
  · intro h
    rcases same_cases h with rfl | ⟨hx, hy⟩ | ⟨hx, hy⟩
    · rfl
    · simp [canonical, hx, hy]
    · simp [canonical, hx, hy, isNaN_of_isZero hx, isNaN_of_isZero hy]
  · intro h
    have hnan : x.isNaN = y.isNaN := by
      rw [← isNaN_canonical x, h, isNaN_canonical]
    have hzero : x.isZero = y.isZero := by
      rw [← isZero_canonical x, h, isZero_canonical]
    cases hx : x.isNaN with
    | true => simp [same, ← hnan, hx]
    | false =>
        cases hx' : x.isZero with
        | true => simp [same, ← hzero, hx']
        | false =>
            -- what is neither stands for itself
            have heq : x = y := by simpa [canonical, ← hnan, ← hzero, hx, hx'] using h
            rw [heq, same_refl]

theorem isFinite_eq_of_same (h : x.same y = true) : x.isFinite = y.isFinite := by
  rcases same_cases h with rfl | ⟨hx, hy⟩ | ⟨hx, hy⟩
  · rfl
  · rw [isFinite_of_isNaN hx, isFinite_of_isNaN hy]
  · rw [isFinite_of_isZero hx, isFinite_of_isZero hy]

/-- Zeros have no integer part, whatever their sign. -/
theorem truncate_of_isZero (h : x.isZero = true) : x.truncate = 0 := by
  have hmantissa : x.mantissa = 0 := by
    simp only [isZero, Bool.and_eq_true, beq_iff_eq] at h
    simp [mantissa, h.1, h.2]
  have hwhole : x.wholePart = 0 := by
    unfold wholePart
    split <;> simp [hmantissa]
  simp [truncate, hwhole]

theorem truncate_eq_of_same (h : x.same y = true) (finite : x.isFinite = true) :
    x.truncate = y.truncate := by
  rcases same_cases h with rfl | ⟨hx, _⟩ | ⟨hx, hy⟩
  · rfl
  · rw [isFinite_of_isNaN hx] at finite
    cases finite
  · rw [truncate_of_isZero hx, truncate_of_isZero hy]

theorem spelling_of_isZero (h : x.isZero = true) :
    x.spelling = if x.isNegative then "-0.0" else "0.0" := by
  cases hsign : x.isNegative <;>
    simp [spelling, isNaN_of_isZero h, isFinite_of_isZero h, h, hsign]

/-- All NaNs are written alike, and zeros by their signs. -/
theorem spelling_eq_iff (h : x.same y = true) :
    x.spelling = y.spelling ↔ x.zeroAgrees y = true := by
  rcases same_cases h with rfl | ⟨hx, hy⟩ | ⟨hx, hy⟩
  · simp [zeroAgrees]
  · have hnonzero : x.isZero = false := by
      by_contra hzero
      rw [isNaN_of_isZero (by simpa using hzero)] at hx
      cases hx
    simp [spelling, hx, hy, zeroAgrees, hnonzero]
  · rw [spelling_of_isZero hx, spelling_of_isZero hy]
    cases hsign : x.isNegative <;> cases hsign' : y.isNegative <;>
      simp [zeroAgrees, hx, hy, hsign, hsign']

end Binary64

namespace Literal

mutual

/-- The literal with one value for all that are the same number. -/
def canonical : Literal → Literal
  | double x => double x.canonical
  | array items => array (canonicalItems items)
  | l => l

def canonicalItems : List Literal → List Literal
  | [] => []
  | item :: items => item.canonical :: canonicalItems items

end

mutual

theorem same_iff_canonical : ∀ a b : Literal, a.same b = true ↔ a.canonical = b.canonical
  | .null, b => by cases b <;> simp [same, canonical]
  | .int _, b => by cases b <;> simp [same, canonical]
  | .char _, b => by cases b <;> simp [same, canonical]
  | .bool _, b => by cases b <;> simp [same, canonical]
  | .string _, b => by cases b <;> simp [same, canonical]
  | .double _, b => by cases b <;> simp [same, canonical, Binary64.same_iff_canonical]
  | .array xs, b => by
      cases b with
      | array ys => simpa [same, canonical] using sameItems_iff_canonicalItems xs ys
      | _ => simp [same, canonical]

theorem sameItems_iff_canonicalItems :
    ∀ xs ys : List Literal, sameItems xs ys = true ↔ canonicalItems xs = canonicalItems ys
  | [], ys => by cases ys <;> simp [sameItems, canonicalItems]
  | x :: xs, [] => by simp [sameItems, canonicalItems]
  | x :: xs, y :: ys => by
      simp [sameItems, canonicalItems, same_iff_canonical x y, sameItems_iff_canonicalItems xs ys]

end

/-- Equality of literals is that of what stands for them. -/
theorem equivalence_same : Equivalence fun a b : Literal => a.same b = true where
  refl a := (same_iff_canonical a a).2 rfl
  symm h := (same_iff_canonical _ _).2 ((same_iff_canonical _ _).1 h).symm
  trans h h' :=
    (same_iff_canonical _ _).2 (((same_iff_canonical _ _).1 h).trans ((same_iff_canonical _ _).1 h'))

mutual

/-- The zeros that stand at the same places of two literals have the same signs. -/
def zerosAgree : Literal → Literal → Bool
  | double x, double y => x.zeroAgrees y
  | array xs, array ys => zerosAgreeItems xs ys
  | _, _ => true

def zerosAgreeItems : List Literal → List Literal → Bool
  | x :: xs, y :: ys => zerosAgree x y && zerosAgreeItems xs ys
  | _, _ => true

end

theorem zerosAgree_self_of_kind {a : Literal} (scalar : a.kind ≠ .array) : a.zerosAgree a = true := by
  cases a with
  | array items => exact absurd rfl scalar
  | double x => simp [zerosAgree, Binary64.zeroAgrees]
  | _ => rfl

/-- Equal literals are one literal, two doubles or two arrays. -/
theorem same_cases {a b : Literal} (h : a.same b = true) :
    (a = b ∧ a.kind ≠ .array) ∨ (∃ x y, a = .double x ∧ b = .double y ∧ x.same y = true) ∨
      ∃ xs ys, a = .array xs ∧ b = .array ys ∧ sameItems xs ys = true := by
  cases a with
  | double x =>
      cases b with
      | double y => exact .inr (.inl ⟨x, y, rfl, rfl, h⟩)
      | _ => cases h
  | array xs =>
      cases b with
      | array ys => exact .inr (.inr ⟨xs, ys, rfl, rfl, h⟩)
      | _ => cases h
  | _ =>
      refine .inl ⟨?_, by simp [kind]⟩
      cases b <;> simp_all [same]

theorem length_eq_of_sameItems :
    ∀ {xs ys : List Literal}, sameItems xs ys = true → xs.length = ys.length
  | [], [], _ => rfl
  | _ :: _, _ :: _, h => by
      have htail := length_eq_of_sameItems (Bool.and_eq_true_iff.1 h).2
      simp [htail]

theorem kind_eq_of_same {a b : Literal} (h : a.same b = true) : a.kind = b.kind := by
  rcases same_cases h with ⟨rfl, _⟩ | ⟨x, y, rfl, rfl, _⟩ | ⟨xs, ys, rfl, rfl, _⟩
  · rfl
  · rfl
  · rfl

/-- Equal literals fit the same types. -/
theorem fits_eq_of_same {a b : Literal} (h : a.same b = true) (t : StorageType) :
    a.fits t = b.fits t := by
  rcases same_cases h with ⟨rfl, _⟩ | ⟨x, y, rfl, rfl, hxy⟩ | ⟨xs, ys, rfl, rfl, _⟩
  · rfl
  · simp only [fits, Binary64.isFinite_eq_of_same hxy]
  · rfl

end Literal

/-! ## Commands -/

namespace Command

/-- The commands are the same but for a double that they push, which is the same number. -/
inductive Alike : Command → Command → Prop where
  | refl (c : Command) : Alike c c
  | double (target : Operand) {x y : Binary64} :
      x.same y = true → Alike (push target (.double x)) (push target (.double y))

theorem indented_inj {depth : Nat} {s t : String} : indented depth s = indented depth t ↔ s = t := by
  simp [indented]

theorem pushText_double_inj {target : String} {x y : Binary64} :
    pushText target (.double x) = pushText target (.double y) ↔ x.spelling = y.spelling := by
  show "add_next_index_double(" ++ target ++ ", " ++ x.spelling ++ ");" =
    "add_next_index_double(" ++ target ++ ", " ++ y.spelling ++ ");" ↔ _
  rw [String.append_left_inj, String.append_right_inj]

theorem setText_double_inj {target : String} {x y : Binary64} :
    setText target (.double x) = setText target (.double y) ↔ x.spelling = y.spelling := by
  show "ZVAL_DOUBLE(" ++ target ++ ", " ++ x.spelling ++ ");" =
    "ZVAL_DOUBLE(" ++ target ++ ", " ++ y.spelling ++ ");" ↔ _
  rw [String.append_left_inj, String.append_right_inj]

/-- Blocks are opened and closed by the same commands, so that the lines differ only as the texts do. -/
theorem lines_eq_iff {cs ds : List Command} (h : List.Forall₂ Alike cs ds) (depth : Nat) :
    lines depth cs = lines depth ds ↔ cs.map text = ds.map text := by
  induction h generalizing depth with
  | nil => simp [lines]
  | @cons c d cs ds hcd _ ih =>
      cases hcd with
      | refl =>
          cases c <;> simp [lines, ih]
      | double target hxy => simp [lines, indented_inj, ih]

theorem create_eq_of_length_eq (target : Operand) {xs ys : List Literal}
    (h : xs.length = ys.length) : create target xs = create target ys := by
  cases xs with
  | nil =>
      rw [List.length_eq_zero_iff.1 h.symm]
  | cons x xs =>
      cases ys with
      | nil => cases h
      | cons y ys => simp [create, h]

mutual

/-- Equal items are appended by the same commands, but for the doubles in them. -/
theorem alike_pushItem (name : String) :
    ∀ (a b : Literal) (depth : Nat) (target : Operand), a.same b = true →
      List.Forall₂ Alike (pushItem name depth target a) (pushItem name depth target b)
  | .null, b, depth, target, h
  | .int _, b, depth, target, h
  | .char _, b, depth, target, h
  | .bool _, b, depth, target, h
  | .string _, b, depth, target, h => by
      rcases Literal.same_cases h with ⟨rfl, _⟩ | ⟨_, _, ha, _⟩ | ⟨_, _, ha, _⟩
      · exact List.forall₂_same.2 fun c _ => .refl c
      · cases ha
      · cases ha
  | .double x, b, depth, target, h => by
      cases b with
      | double y => exact .cons (.double target h) .nil
      | _ => cases h
  | .array xs, b, depth, target, h => by
      cases b with
      | array ys =>
          -- the room made is that for the number of items, which is the same
          have hcreate := create_eq_of_length_eq ⟨temporaryAt name depth, true⟩
            (Literal.length_eq_of_sameItems h)
          have hitems := alike_pushItems name xs ys (depth + 1) ⟨temporaryAt name depth, true⟩ h
          simp only [pushItem, hcreate]
          exact List.rel_append
            (List.rel_append (List.forall₂_same.2 fun c _ => .refl c) hitems)
            (List.forall₂_same.2 fun c _ => .refl c)
      | _ => cases h

theorem alike_pushItems (name : String) :
    ∀ (xs ys : List Literal) (depth : Nat) (target : Operand), Literal.sameItems xs ys = true →
      List.Forall₂ Alike (pushItems name depth target xs) (pushItems name depth target ys)
  | [], ys, depth, target, h => by
      cases ys with
      | nil => exact .nil
      | cons y ys => cases h
  | x :: xs, ys, depth, target, h => by
      cases ys with
      | nil => cases h
      | cons y ys =>
          rcases Bool.and_eq_true_iff.1 h with ⟨hx, hxs⟩
          exact List.rel_append (alike_pushItem name x y depth target hx)
            (alike_pushItems name xs ys depth target hxs)

end

mutual

/-- The texts of these commands tell the signs of the zeros in an item. -/
theorem map_text_pushItem_eq_iff (name : String) :
    ∀ (a b : Literal) (depth : Nat) (target : Operand), a.same b = true →
      ((pushItem name depth target a).map text = (pushItem name depth target b).map text ↔
        a.zerosAgree b = true)
  | .null, b, depth, target, h
  | .int _, b, depth, target, h
  | .char _, b, depth, target, h
  | .bool _, b, depth, target, h
  | .string _, b, depth, target, h => by
      rcases Literal.same_cases h with ⟨rfl, _⟩ | ⟨_, _, ha, _⟩ | ⟨_, _, ha, _⟩
      · simp [Literal.zerosAgree]
      · cases ha
      · cases ha
  | .double x, b, depth, target, h => by
      cases b with
      | double y =>
          have htext : (push target (.double x)).text = (push target (.double y)).text ↔
              x.zeroAgrees y = true :=
            pushText_double_inj.trans (Binary64.spelling_eq_iff h)
          simpa [pushItem, Literal.zerosAgree] using htext
      | _ => cases h
  | .array xs, b, depth, target, h => by
      cases b with
      | array ys =>
          have hcreate := create_eq_of_length_eq ⟨temporaryAt name depth, true⟩
            (Literal.length_eq_of_sameItems h)
          have hitems :=
            map_text_pushItems_eq_iff name xs ys (depth + 1) ⟨temporaryAt name depth, true⟩ h
          simpa [pushItem, hcreate, Literal.zerosAgree] using hitems
      | _ => cases h

theorem map_text_pushItems_eq_iff (name : String) :
    ∀ (xs ys : List Literal) (depth : Nat) (target : Operand), Literal.sameItems xs ys = true →
      ((pushItems name depth target xs).map text = (pushItems name depth target ys).map text ↔
        Literal.zerosAgreeItems xs ys = true)
  | [], ys, depth, target, h => by
      cases ys with
      | nil => simp [Literal.zerosAgreeItems]
      | cons y ys => cases h
  | x :: xs, ys, depth, target, h => by
      cases ys with
      | nil => cases h
      | cons y ys =>
          rcases Bool.and_eq_true_iff.1 h with ⟨hx, hxs⟩
          have hitem := map_text_pushItem_eq_iff name x y depth target hx
          have hitems := map_text_pushItems_eq_iff name xs ys depth target hxs
          -- the texts of the first items are equally many, so that equal lists are split at one place
          have hlength : ((pushItem name depth target x).map text).length =
              ((pushItem name depth target y).map text).length := by
            simpa using (alike_pushItem name x y depth target hx).length_eq
          simp only [pushItems, List.map_append, Literal.zerosAgreeItems, Bool.and_eq_true]
          rw [← hitem, ← hitems]
          constructor
          · intro hboth
            exact List.append_inj hboth hlength
          · intro hboth
            rw [hboth.1, hboth.2]

end

end Command

/-! ## Variables -/

namespace Variable

variable {v : Variable} {constants : SharedConstants} {e : Estimate} {a b : Literal}
  {i j : Initialization}

/-- The code that gives a double to a variable that takes one. -/
def doubleCode (v : Variable) (x : Binary64) : Initialization :=
  if v.type.isInteger then .assign v.name (.integer (clamp64 x.truncate))
  else if v.type = .double then .assign v.name (.real x)
  else v.buildScalar (.double x)

theorem eq_of_initialization?_double {x : Binary64}
    (h : v.initialization? constants e (.double x) = some i) :
    (v.type.isInteger = true → x.isFinite = true) ∧ i = v.doubleCode x := by
  have hfits : Literal.fits (.double x) v.type = true := by
    rw [← isSome_initialization? v constants e, h]
    rfl
  -- a variable that takes a double is an integer, a double, or one for values of any kind
  have htype : (v.type.isInteger = true ∧ x.isFinite = true) ∨ v.type = .double ∨
      v.type.holdsAny = true := by
    simpa [Literal.fits, StorageType.holdsAny, or_assoc] using hfits
  rcases htype with ⟨hinteger, hfinite⟩ | htype | hany
  · have hnative : v.type.isNative = true := by
      simp [StorageType.isNative, hinteger]
    rw [initialization?_of_isNative constants e _ hnative] at h
    simp only [Literal.nativeConstant?, Literal.integerConstant?, hinteger, hfinite, if_true] at h
    exact ⟨fun _ => hfinite, by simpa [doubleCode, hinteger] using (Option.some.inj h).symm⟩
  · have hnative : v.type.isNative = true := by
      rw [htype]
      rfl
    rw [initialization?_of_isNative constants e _ hnative, htype] at h
    exact ⟨by simp [htype, StorageType.isInteger],
      by simpa [doubleCode, htype, StorageType.isInteger] using (Option.some.inj h).symm⟩
  · rw [initialization?_of_holdsAny hany] at h
    have hcode : v.buildScalar (.double x) = i := Option.some.inj h
    have htypes : v.type = .generic ∨ v.type = .mixed := by
      simpa [StorageType.holdsAny] using hany
    have hneither : v.type.isInteger = false ∧ v.type ≠ .double := by
      rcases htypes with htype | htype <;> simp [htype, StorageType.isInteger]
    exact ⟨by simp [hneither], by simpa [doubleCode, hneither] using hcode.symm⟩

/-- A variable that takes an array at all is made that array. -/
theorem eq_of_initialization?_array {items : List Literal}
    (h : v.initialization? constants e (.array items) = some i) :
    v.type.isInteger = false ∧ i = .build v.operand (Command.buildArray v items) := by
  have hfits : Literal.fits (.array items) v.type = true := by
    rw [← isSome_initialization? v constants e, h]
    rfl
  have htype : v.type = .array ∨ v.type = .generic ∨ v.type = .mixed := by
    simpa [Literal.fits, StorageType.holdsAny] using hfits
  rw [initialization?_array htype] at h
  refine ⟨?_, (Option.some.inj h).symm⟩
  rcases htype with htype | htype | htype <;> rw [htype] <;> rfl

theorem compare_doubleCode {x y : Binary64} (same : x.same y = true)
    (finite : v.type.isInteger = true → x.isFinite = true) :
    (v.doubleCode x).allocates = (v.doubleCode y).allocates ∧
      (v.doubleCode x).lines.length = (v.doubleCode y).lines.length ∧
      ((v.doubleCode x).lines = (v.doubleCode y).lines ↔
        v.type.isInteger = true ∨ x.zeroAgrees y = true) := by
  have hspelling := Binary64.spelling_eq_iff same
  unfold doubleCode
  split
  next hinteger =>
    -- integers have no zeros with signs
    rw [Binary64.truncate_eq_of_same same (finite hinteger)]
    exact ⟨rfl, rfl, by simp only [hinteger, true_or]⟩
  next hother =>
    split
    next =>
      have hline : v.name ++ " = " ++ x.spelling ++ ";" = v.name ++ " = " ++ y.spelling ++ ";" ↔
          x.zeroAgrees y = true := by
        rw [String.append_left_inj, String.append_right_inj, hspelling]
      refine ⟨rfl, by simp only [Initialization.lines, List.length_singleton], ?_⟩
      simp only [Initialization.lines, CConstant.spelling, List.cons.injEq, and_true, hother,
        Bool.false_eq_true, false_or, hline]
    next =>
      have hline : Command.setText v.operand.text (.double x) =
          Command.setText v.operand.text (.double y) ↔ x.zeroAgrees y = true :=
        Command.setText_double_inj.trans hspelling
      simp only [lines_buildScalar]
      refine ⟨rfl, by simp only [List.length_cons], ?_⟩
      simp only [List.cons.injEq, true_and, and_true, hother, Bool.false_eq_true, false_or, hline]

theorem compare_buildArray (v : Variable) {xs ys : List Literal}
    (same : Literal.sameItems xs ys = true) :
    (Initialization.build v.operand (Command.buildArray v xs)).lines.length =
        (Initialization.build v.operand (Command.buildArray v ys)).lines.length ∧
      ((Initialization.build v.operand (Command.buildArray v xs)).lines =
          (Initialization.build v.operand (Command.buildArray v ys)).lines ↔
        Literal.zerosAgreeItems xs ys = true) := by
  have hcreate := Command.create_eq_of_length_eq v.operand (Literal.length_eq_of_sameItems same)
  have halike : List.Forall₂ Command.Alike (Command.buildArray v xs) (Command.buildArray v ys) := by
    rw [Command.buildArray, Command.buildArray, hcreate]
    exact .cons (.refl _) (Command.alike_pushItems v.name xs ys 1 v.operand same)
  have htexts : (Command.buildArray v xs).map Command.text =
      (Command.buildArray v ys).map Command.text ↔ Literal.zerosAgreeItems xs ys = true := by
    rw [← Command.map_text_pushItems_eq_iff v.name xs ys 1 v.operand same]
    simp [Command.buildArray, hcreate]
  constructor
  · simp [Initialization.lines, Command.length_lines, halike.length_eq]
  · rw [← htexts, ← Command.lines_eq_iff halike 0]
    simp [Initialization.lines]

/-- What a variable is given for two equal literals allocates for both or neither, in as many lines, and
the lines are the same unless they show the signs of zeros. -/
theorem compare_initializations (same : a.same b = true)
    (hi : v.initialization? constants e a = some i) (hj : v.initialization? constants e b = some j) :
    i.allocates = j.allocates ∧ i.lines.length = j.lines.length ∧
      (i.lines = j.lines ↔ v.type.isInteger = true ∨ a.zerosAgree b = true) := by
  rcases Literal.same_cases same with
    ⟨rfl, hscalar⟩ | ⟨x, y, rfl, rfl, hxy⟩ | ⟨xs, ys, rfl, rfl, hitems⟩
  · have hsame : i = j := Option.some.inj (hi.symm.trans hj)
    simp [hsame, Literal.zerosAgree_self_of_kind hscalar]
  · rcases eq_of_initialization?_double hi with ⟨hfinite, rfl⟩
    rcases eq_of_initialization?_double hj with ⟨_, rfl⟩
    exact compare_doubleCode hxy hfinite
  · rcases eq_of_initialization?_array hi with ⟨hother, rfl⟩
    rcases eq_of_initialization?_array hj with ⟨_, rfl⟩
    have hlines := compare_buildArray v hitems
    refine ⟨rfl, hlines.1, ?_⟩
    simpa [hother, Literal.zerosAgree] using hlines.2

end Variable

/-! ## Literals -/

theorem Literal.spelling?_eq_iff {a b : Literal} (same : a.same b = true) :
    a.spelling? = b.spelling? ↔ a.kind = .array ∨ a.zerosAgree b = true := by
  rcases same_cases same with
    ⟨rfl, hscalar⟩ | ⟨x, y, rfl, rfl, hxy⟩ | ⟨xs, ys, rfl, rfl, _⟩
  · simp [zerosAgree_self_of_kind hscalar]
  · show some x.spelling = some y.spelling ↔ _
    simp [Binary64.spelling_eq_iff hxy, kind, zerosAgree]
  · simp [spelling?, constant?, kind]

/-- Equality of literals is an equivalence relation, of arrays of any depth too.  Equal literals are of one
kind.  They have the same C expression unless they are zeros with different signs.  A variable is refused
both or takes both, and then allocates for both or for neither, in equally many lines.  These are the same
if and only if the variable is an integer or all zeros that stand at the same places have the same signs. -/
theorem equal_literals_written_alike_iff :
    (Equivalence fun a b : Literal => a.same b = true) ∧
      ∀ a b : Literal, a.same b = true →
        a.kind = b.kind ∧
          (a.spelling? = b.spelling? ↔ a.kind = .array ∨ a.zerosAgree b = true) ∧
          ∀ (v : Variable) (constants : SharedConstants) (e : Estimate) (span : Span),
            (∀ err, v.initialization constants e span a = .error err ↔
              v.initialization constants e span b = .error err) ∧
            ∀ i j, v.initialization constants e span a = .ok i →
              v.initialization constants e span b = .ok j →
                i.allocates = j.allocates ∧ i.lines.length = j.lines.length ∧
                  (i.lines = j.lines ↔ v.type.isInteger = true ∨ a.zerosAgree b = true) := by
  refine ⟨Literal.equivalence_same, ?_⟩
  intro a b same
  have hkind := Literal.kind_eq_of_same same
  refine ⟨hkind, Literal.spelling?_eq_iff same, ?_⟩
  intro v constants e span
  constructor
  · intro err
    rw [Variable.initialization_eq_error_iff, Variable.initialization_eq_error_iff, hkind,
      Literal.fits_eq_of_same same]
  · intro i j hi hj
    exact Variable.compare_initializations same (Variable.initialization_eq_ok_iff.1 hi)
      (Variable.initialization_eq_ok_iff.1 hj)

/-- Two NaNs in arrays, one of them with a sign, beside zeros without. -/
theorem written_alike_of_nans :
    let a : Literal := .array [.double ⟨0x7ff8000000000000⟩, .array [.double ⟨0⟩]]
    let b : Literal := .array [.double ⟨0xfff0000000000001⟩, .array [.double ⟨0⟩]]
    let v : Variable := { name := "v", type := .mixed }
    a.same b = true ∧ ∃ i j, v.initialization .standard (.exact 2) .nowhere a = .ok i ∧
      v.initialization .standard (.exact 2) .nowhere b = .ok j ∧ i.lines = j.lines := by
  intro a b v
  have hsame : a.same b = true := by decide
  have hcompared := (equal_literals_written_alike_iff.2 a b hsame).2.2 v .standard (.exact 2) .nowhere
  exact ⟨hsame, _, _, rfl, rfl, (hcompared.2 _ _ rfl rfl).2.2.2 (.inr (by decide))⟩

/-- The two zeros are equal, and a double is given each of them with its sign. -/
theorem not_written_alike_of_zeros :
    let a : Literal := .double ⟨0⟩
    let b : Literal := .double ⟨0x8000000000000000⟩
    let v : Variable := { name := "d", type := .double }
    a.same b = true ∧ a.spelling? = some "0.0" ∧ b.spelling? = some "-0.0" ∧
      ∃ i j, v.initialization .standard (.exact 0) .nowhere a = .ok i ∧
        v.initialization .standard (.exact 0) .nowhere b = .ok j ∧
        i.lines = ["d = 0.0;"] ∧ j.lines = ["d = -0.0;"] := by
  intro a b v
  refine ⟨by decide, by decide, by decide, _, _, rfl, rfl, by decide, by decide⟩

end NativeMethod
