import Mathlib.Algebra.Order.Ring.Int
import NativeMethod.CConstant
import NativeMethod.Proofs.Literals.Strings
import NativeMethod.StorageType

/-!
# Integers — what C reads where an integer is written

An integer is written in decimal, and a byte as a character constant.  Both are constant expressions of C,
with a value that need not be the one they were made from, and a variable that is given such a value
keeps as many bits of it as its type has.

* `decimal?` — a decimal number with its sign, read back from its text by `decimal?_toString`;
* `constantValue?` — the value of a constant expression: digits go up to `2 ^ 63 - 1`, and plain
  characters are signed;
* `StorageType.convert` — what is left of a value in a variable of an integer type, which is the value
  itself exactly if the type represents it.
-/

namespace NativeMethod

/-! ## Decimal numbers -/

/-- The value of decimal digits.  Behind a leading zero they would be octal. -/
def decimalDigits? (digits : List Char) : Option Nat :=
  if digits ≠ [] ∧ digits.all Char.isDigit = true ∧ (digits.head? = some '0' → digits = ['0']) then
    some (Nat.ofDigitChars 10 digits 0)
  else none

/-- The value of a decimal number, which may have a minus sign in front. -/
def decimal? : List Char → Option Int
  | '-' :: digits => (decimalDigits? digits).map fun (n : Nat) => -(n : Int)
  | digits => (decimalDigits? digits).map fun (n : Nat) => (n : Int)

/-- Only zero is written with a zero in front. -/
theorem head?_toDigits_ne_zero {n : Nat} (h : n ≠ 0) : (Nat.toDigits 10 n).head? ≠ some '0' := by
  induction n using Nat.strongRecOn with
  | _ n ih =>
      by_cases hsmall : n < 10
      · have hdigits : ∀ d < 10, d ≠ 0 → (Nat.toDigits 10 d).head? ≠ some '0' := by
          decide
        exact hdigits n hsmall h
      · -- the digits in front of the last one are those of a tenth
        have hfront := ih (n / 10) (by omega) (by omega)
        rw [Nat.toDigits_of_base_le (by decide) (Nat.le_of_not_lt hsmall), List.head?_append]
        cases hhead : (Nat.toDigits 10 (n / 10)).head? with
        | none => exact absurd (List.head?_eq_none_iff.1 hhead) Nat.toDigits_ne_nil
        | some x => simpa [hhead] using hfront

theorem isDigit_of_mem_toDigits {n : Nat} {x : Char} (h : x ∈ Nat.toDigits 10 n) :
    x.isDigit = true :=
  Nat.isDigit_of_mem_toDigits (by decide) (by decide) h

theorem decimalDigits?_toDigits (n : Nat) : decimalDigits? (Nat.toDigits 10 n) = some n := by
  have hnonempty : Nat.toDigits 10 n ≠ [] := Nat.toDigits_ne_nil
  have hdigits : (Nat.toDigits 10 n).all Char.isDigit = true := by
    rw [List.all_eq_true]
    intro x hx
    exact isDigit_of_mem_toDigits hx
  have hzero : (Nat.toDigits 10 n).head? = some '0' → Nat.toDigits 10 n = ['0'] := by
    intro hhead
    by_cases hn : n = 0
    · rw [hn]
      rfl
    · exact absurd hhead (head?_toDigits_ne_zero hn)
  rw [decimalDigits?, if_pos ⟨hnonempty, hdigits, hzero⟩, Nat.ofDigitChars_ten_toDigits]

/-- An integer is written as the digits of its magnitude, behind a minus sign if it is negative. -/
theorem toList_toString (n : Int) :
    (toString n).toList =
      if 0 ≤ n then Nat.toDigits 10 n.toNat else '-' :: Nat.toDigits 10 (-n).toNat := by
  rw [Int.toString_eq_repr, Int.repr_eq_if]
  split <;> simp [Nat.repr_eq_ofList_toDigits]

theorem exists_toDigits_eq_cons (n : Nat) :
    ∃ x xs, Nat.toDigits 10 n = x :: xs ∧ x.isDigit = true := by
  obtain ⟨x, xs, hdigits⟩ := List.exists_cons_of_ne_nil (Nat.toDigits_ne_nil (n := n) (b := 10))
  have hmem : x ∈ Nat.toDigits 10 n := by
    rw [hdigits]
    exact List.mem_cons_self
  exact ⟨x, xs, hdigits, isDigit_of_mem_toDigits hmem⟩

theorem decimal?_toDigits (n : Nat) : decimal? (Nat.toDigits 10 n) = some (n : Int) := by
  have hvalue := decimalDigits?_toDigits n
  obtain ⟨x, xs, hdigits, hx⟩ := exists_toDigits_eq_cons n
  rw [hdigits] at hvalue ⊢
  unfold decimal?
  split
  · -- no digit is a minus sign
    rename_i heq
    rw [(List.cons.inj heq).1] at hx
    cases hx
  · rw [hvalue]
    rfl

/-- A decimal number is read back from its text. -/
theorem decimal?_toString (n : Int) : decimal? (toString n).toList = some n := by
  rw [toList_toString]
  split
  · rename_i hn
    rw [decimal?_toDigits, Int.toNat_of_nonneg hn]
  · rename_i hn
    have hvalue : -((-n).toNat : Int) = n := by omega
    rw [decimal?, decimalDigits?_toDigits, Option.map_some, hvalue]

theorem toString_injective {m n : Int} (h : toString m = toString n) : m = n := by
  have hread : decimal? (toString m).toList = decimal? (toString n).toList := by rw [h]
  simpa only [decimal?_toString, Option.some.injEq] using hread

/-! ## Constant expressions -/

/-- The value of a character, which is signed. -/
def characterValue (b : UInt8) : Int := if b < 0x80 then b.toNat else (b.toNat : Int) - 256

/-- The value of an integer constant expression: a character constant, or digits that write at most
`2 ^ 63 - 1`, with or without a minus sign in front. -/
def constantValue? (text : String) : Option Int :=
  match text.toList with
  | '\x27' :: rest =>
    match Quoted.readText? .single rest with
    | some ([b], []) => some (characterValue b)
    | _ => none
  | number => (decimal? number).filter fun n => n.natAbs < 2 ^ 63

/-- A decimal number is no character constant. -/
theorem toList_toString_ne_quote (n : Int) (rest : List Char) :
    (toString n).toList ≠ '\x27' :: rest := by
  intro h
  rw [toList_toString] at h
  split at h
  · obtain ⟨x, xs, hdigits, hx⟩ := exists_toDigits_eq_cons n.toNat
    rw [hdigits] at h
    rw [(List.cons.inj h).1] at hx
    cases hx
  · exact absurd (List.cons.inj h).1 (by decide)

theorem constantValue?_toString (n : Int) :
    constantValue? (toString n) = if n.natAbs < 2 ^ 63 then some n else none := by
  unfold constantValue?
  split
  · rename_i rest heq
    exact absurd heq (toList_toString_ne_quote n rest)
  · rw [decimal?_toString, Option.filter_some]
    simp only [decide_eq_true_eq]

/-- Only the least integer has no constant expression, as it is too large without its sign. -/
theorem constantValue?_integer {n : Int64} (h : n ≠ Int64.minValue) :
    constantValue? (CConstant.integer n).spelling = some n.toInt := by
  have hlow := n.le_toInt
  have hhigh := n.toInt_lt
  have hne : n.toInt ≠ -2 ^ 63 := by
    intro heq
    exact h (Int64.toInt.inj heq)
  have hfits : n.toInt.natAbs < 2 ^ 63 := by omega
  rw [CConstant.spelling, constantValue?_toString, if_pos hfits]

theorem constantValue?_character (b : UInt8) :
    constantValue? (CConstant.character b).spelling = some (characterValue b) := by
  have htext : (CConstant.character b).spelling.toList =
      '\x27' :: Quoted.written .single [b] [] := by
    simp [CConstant.spelling, Quoted.character, Quoted.quote, Quoted.written]
    rfl
  have hread : Quoted.readText? .single (Quoted.written .single [b] []) = some ([b], []) :=
    Quoted.readText?_written_of_keepsApart (.singleton b) .single []
  simp only [constantValue?, htext, hread]

/-! ## Integer types -/

namespace StorageType

/-- The number of bits in an integer type. -/
def width : StorageType → Nat
  | char | uchar => 8
  | _ => 64

def isSigned : StorageType → Bool
  | uint | ulong | uchar => false
  | _ => true

/-- The value that a variable of an integer type has when it is given an integer. -/
def convert (t : StorageType) (n : Int) : Int :=
  if t.isSigned then Int.bmod n (2 ^ t.width) else n % 2 ^ t.width

/-- The integer is one of the values of the type. -/
def Represents (t : StorageType) (n : Int) : Prop :=
  if t.isSigned then -2 ^ (t.width - 1) ≤ n ∧ n < 2 ^ (t.width - 1) else 0 ≤ n ∧ n < 2 ^ t.width

instance (t : StorageType) (n : Int) : Decidable (t.Represents n) :=
  inferInstanceAs (Decidable (if t.isSigned then _ else _))

theorem width_eq (t : StorageType) : t.width = 8 ∨ t.width = 64 := by
  cases t <;> simp [width]

/-- Whatever is lost of a number that is not negative, the rest is not above it. -/
theorem convert_le (t : StorageType) {n : Int} (nonneg : 0 ≤ n) : t.convert n ≤ n := by
  unfold convert
  rcases t.width_eq with hwidth | hwidth <;> rw [hwidth]
  · split
    · rw [Int.bmod_def]
      omega
    · omega
  · split
    · rw [Int.bmod_def]
      omega
    · omega

theorem convert_eq_self_iff (t : StorageType) (n : Int) : t.convert n = n ↔ t.Represents n := by
  unfold convert Represents
  rcases t.width_eq with hwidth | hwidth <;> rw [hwidth]
  · split
    · rw [Int.bmod_def]
      omega
    · omega
  · split
    · rw [Int.bmod_def]
      omega
    · omega

end StorageType

end NativeMethod
