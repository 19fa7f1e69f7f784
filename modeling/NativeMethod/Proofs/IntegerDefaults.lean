import NativeMethod.Proofs.Literals.Doubles
import NativeMethod.Proofs.Literals.Integers
import NativeMethod.Proofs.MaterialisedDefaults

/-!
# IntegerDefaults — the number that an integer starts with

Integers take integers, characters and doubles as defaults.  The first two are written down as they are,
whatever the type of the variable, and a double loses its fraction and is then brought into 64 bits.  What
C makes of that is the literal's own value only within bounds:

* `Variable.GivenAs`, `Variable.Refuses` — what becomes of a literal in the assignment to a variable and in
  its declaration;
* `double_truncated_iff` — a finite double is truncated exactly if the result has 64 bits, and the variable
  has the result if its type represents it;
* `integers_kept_iff_represented` — an integer is kept exactly if the type of the variable represents it.
-/

namespace NativeMethod

/-! ## The places of a scalar -/

/-- The variable with the literal for a default. -/
def Variable.withDefault (v : Variable) (l : Literal) : Variable := { v with seed := some l }

/-- The text is what the variable is given for the literal, by an assignment and, if the literal is its
default, in its declaration. -/
structure Variable.GivenAs (v : Variable) (l : Literal) (text : String) : Prop where
  assigned : ∀ constants e span, ∃ i, v.initialization constants e span l = .ok i ∧
    i.lines = [v.name ++ " = " ++ text ++ ";"]
  declared : ∃ d, (v.withDefault l).declarator = .ok d ∧
    d.text = String.ofList (List.replicate d.indirection '*') ++ v.name ++ " = " ++ text

/-- The literal is refused at both places. -/
structure Variable.Refuses (v : Variable) (l : Literal) : Prop where
  unassigned : ∀ constants e span, v.initialization constants e span l =
    .error (.unsupportedDefault v.name v.type l.kind span)
  undeclared : (v.withDefault l).declarator =
    .error (.unsupportedDefault v.name v.type l.kind v.span)

namespace Variable

variable {v : Variable} {l : Literal} {k : CConstant} {text text' : String}

/-- The declarator of a scalar with a default. -/
theorem declarator_withDefault (native : v.type.isNative = true) (l : Literal) :
    (v.withDefault l).declarator =
      match l.nativeConstant? v.type with
      | some k => .ok ⟨v.name, if v.isDoublePointer then 1 else 0, some (.constant k)⟩
      | none => .error (.unsupportedDefault v.name v.type l.kind v.span) := by
  have hkind : v.type.isBoxed = false ∧ v.type.isPointer = false := by
    revert native
    cases v.type <;> decide
  have hunboxed : (v.withDefault l).type.isBoxed = false := hkind.1
  have hplain : (v.withDefault l).type.isPointer = false := hkind.2
  rw [declarator_of_not_isBoxed hunboxed, hplain]
  simp only [scalarInitializer?, withDefault]
  cases l.nativeConstant? v.type <;> rfl

theorem givenAs_of_constant (native : v.type.isNative = true)
    (h : l.nativeConstant? v.type = some k) : v.GivenAs l k.spelling := by
  constructor
  · intro constants e span
    refine ⟨.assign v.name k, ?_, rfl⟩
    rw [initialization_eq_ok_iff, initialization?_of_isNative constants e l native, h]
    rfl
  · have hdeclarator := declarator_withDefault native l
    rw [h] at hdeclarator
    exact ⟨_, hdeclarator, Declarator.text_of_constant rfl⟩

theorem refuses_of_none (native : v.type.isNative = true) (h : l.nativeConstant? v.type = none) :
    v.Refuses l := by
  constructor
  · intro constants e span
    simp only [initialization, initialization?_of_isNative constants e l native, h, Option.map_none]
  · rw [declarator_withDefault native, h]

theorem GivenAs.unique (h : v.GivenAs l text) (h' : v.GivenAs l text') : text = text' := by
  obtain ⟨i, hi, hlines⟩ := h.assigned .standard (.exact 0) .nowhere
  obtain ⟨i', hi', hlines'⟩ := h'.assigned .standard (.exact 0) .nowhere
  have hsame : i = i' := by
    rw [hi] at hi'
    exact Except.ok.inj hi'
  rw [hsame, hlines'] at hlines
  have hline : v.name ++ " = " ++ text' ++ ";" = v.name ++ " = " ++ text ++ ";" :=
    (List.cons.inj hlines).1
  simpa using hline.symm

theorem Refuses.not_givenAs (h : v.Refuses l) : ¬ v.GivenAs l text := by
  intro hgiven
  obtain ⟨i, hi, _⟩ := hgiven.assigned .standard (.exact 0) .nowhere
  rw [h.unassigned .standard (.exact 0) .nowhere] at hi
  cases hi

theorem givenAs_iff (native : v.type.isNative = true) :
    v.GivenAs l text ↔ ∃ k, l.nativeConstant? v.type = some k ∧ text = k.spelling := by
  constructor
  · intro h
    cases hconstant : l.nativeConstant? v.type with
    | none => exact absurd h (refuses_of_none native hconstant).not_givenAs
    | some k => exact ⟨k, rfl, h.unique (givenAs_of_constant native hconstant)⟩
  · rintro ⟨k, hconstant, rfl⟩
    exact givenAs_of_constant native hconstant

theorem refuses_iff (native : v.type.isNative = true) :
    v.Refuses l ↔ l.nativeConstant? v.type = none := by
  constructor
  · intro h
    cases hconstant : l.nativeConstant? v.type with
    | none => rfl
    | some k => exact absurd (givenAs_of_constant native hconstant) h.not_givenAs
  · exact refuses_of_none native

end Variable

/-! ## Doubles -/

theorem StorageType.isNative_of_isInteger {t : StorageType} (h : t.isInteger = true) :
    t.isNative = true := by
  simp [isNative, h]

theorem Literal.nativeConstant?_of_isInteger {t : StorageType} (h : t.isInteger = true)
    (l : Literal) : l.nativeConstant? t = l.integerConstant? := by
  rw [nativeConstant?, if_pos h]

/-- C reads the text as a constant expression, and a variable of the type that is given its value has
the number. -/
def StorageType.Stores (t : StorageType) (text : String) (m : Int) : Prop :=
  ∃ n, constantValue? text = some n ∧ t.convert n = m

/-- A number that is brought into 64 bits and then written down arrives in a variable exactly if there is
no need to change it and C can read it, and if the type has room for it. -/
theorem StorageType.stores_clamped_iff (t : StorageType) (n : Int) :
    t.Stores (toString (max (-2 ^ 63) (min n (2 ^ 63 - 1)))) n ↔
      n.natAbs < 2 ^ 63 ∧ t.Represents n := by
  rw [Stores, constantValue?_toString]
  constructor
  · rintro ⟨k, hk, hstored⟩
    split at hk
    next hreadable =>
      have hk : max (-2 ^ 63) (min n (2 ^ 63 - 1)) = k := Option.some.inj hk
      by_cases hlarge : 2 ^ 63 ≤ n
      · -- a number that was brought down does not come up again
        have hbelow : t.convert k ≤ k := t.convert_le (by omega)
        omega
      · have hsame : k = n := by omega
        rw [hsame] at hstored
        exact ⟨by omega, (t.convert_eq_self_iff n).1 hstored⟩
    next => cases hk
  · rintro ⟨hsmall, hrepresented⟩
    have hsame : max (-2 ^ 63) (min n (2 ^ 63 - 1)) = n := by omega
    rw [hsame, if_pos hsmall]
    exact ⟨n, rfl, (t.convert_eq_self_iff n).2 hrepresented⟩

/-- An integer that is given a double gets the number that the double denotes, without its fraction and
brought into 64 bits.  That is the number without its fraction exactly if it has 64 bits.  Only doubles that
are no numbers are refused.  The variable then has the number without its fraction exactly if its type
represents that and it is below `2 ^ 63` without its sign, which is what C reads. -/
theorem double_truncated_iff (v : Variable) (x : Binary64) (integer : v.type.isInteger = true) :
    (v.Refuses (.double x) ↔ x.isFinite = false) ∧
      (∀ text, v.GivenAs (.double x) text ↔ x.isFinite = true ∧
        text = toString (max (-2 ^ 63) (min (towardZero x.value) (2 ^ 63 - 1)))) ∧
      (v.GivenAs (.double x) (toString (towardZero x.value)) ↔
        x.isFinite = true ∧ -2 ^ 63 ≤ towardZero x.value ∧ towardZero x.value < 2 ^ 63) ∧
      ∀ text, v.GivenAs (.double x) text →
        (v.type.Stores text (towardZero x.value) ↔
          (towardZero x.value).natAbs < 2 ^ 63 ∧ v.type.Represents (towardZero x.value)) := by
  have hnative := StorageType.isNative_of_isInteger integer
  have hconstant : (Literal.double x).nativeConstant? v.type =
      if x.isFinite then some (.integer (clamp64 x.truncate)) else none :=
    Literal.nativeConstant?_of_isInteger integer _
  have hspelling : (CConstant.integer (clamp64 x.truncate)).spelling =
      toString (max (-2 ^ 63) (min (towardZero x.value) (2 ^ 63 - 1))) := by
    rw [CConstant.spelling, toInt_clamp64, Binary64.truncate_eq]
  -- all the rest follows from which text is given
  have hgiven : ∀ text, v.GivenAs (.double x) text ↔ x.isFinite = true ∧
      text = toString (max (-2 ^ 63) (min (towardZero x.value) (2 ^ 63 - 1))) := by
    intro text
    rw [Variable.givenAs_iff hnative, hconstant, ← hspelling]
    cases x.isFinite <;> simp
  refine ⟨?_, hgiven, ?_, ?_⟩
  · rw [Variable.refuses_iff hnative, hconstant]
    cases x.isFinite <;> simp
  · rw [hgiven]
    apply and_congr_right
    intro _
    constructor
    · intro htext
      have hbounded := toString_injective htext
      omega
    · rintro ⟨hlow, hhigh⟩
      have hbounded : max (-2 ^ 63) (min (towardZero x.value) (2 ^ 63 - 1)) = towardZero x.value := by
        omega
      rw [hbounded]
  · intro text htext
    rw [((hgiven text).1 htext).2]
    exact v.type.stores_clamped_iff _

/-- A fraction loses what stands behind the point, which leaves a number that a byte has.  The least integer
of 64 bits has nothing there to lose and is written down, but C does not read it. -/
theorem truncated_of_fraction_and_least :
    (Variable.GivenAs { name := "c", type := .char } (.double ⟨0xC006000000000000⟩) "-2" ∧
        StorageType.char.Stores "-2" (-2)) ∧
      Variable.GivenAs { name := "n", type := .ulong } (.double ⟨0xC3E0000000000000⟩)
          "-9223372036854775808" ∧
        ¬ StorageType.ulong.Stores "-9223372036854775808" (-2 ^ 63) := by
  have hfraction : towardZero (Binary64.value ⟨0xC006000000000000⟩) = -2 := by
    rw [← Binary64.truncate_eq]
    decide
  have hleast : towardZero (Binary64.value ⟨0xC3E0000000000000⟩) = -2 ^ 63 := by
    rw [← Binary64.truncate_eq]
    decide
  obtain ⟨_, _, hc, hcStored⟩ :=
    double_truncated_iff { name := "c", type := .char } ⟨0xC006000000000000⟩ rfl
  obtain ⟨_, _, hn, hnStored⟩ :=
    double_truncated_iff { name := "n", type := .ulong } ⟨0xC3E0000000000000⟩ rfl
  rw [hfraction] at hc hcStored
  rw [hleast] at hn hnStored
  have hcGiven := hc.2 (by decide)
  have hnGiven := hn.2 (by decide)
  exact ⟨⟨hcGiven, (hcStored _ hcGiven).2 (by decide)⟩, hnGiven,
    fun hstored => absurd ((hnStored _ hnGiven).1 hstored).1 (by decide)⟩

/-- The number `2 ^ 63` has no fraction to lose, and still an integer is given another one. -/
theorem not_truncated_of_two_pow_63 :
    ∃ (v : Variable) (x : Binary64) (text : String), v.type.isInteger = true ∧
      v.GivenAs (.double x) text ∧ towardZero x.value = 2 ^ 63 ∧
        text ≠ toString (towardZero x.value) := by
  have hvalue : towardZero (Binary64.value ⟨0x43E0000000000000⟩) = 2 ^ 63 := by
    rw [← Binary64.truncate_eq]
    decide
  have hgiven : Variable.GivenAs { name := "n", type := .int } (.double ⟨0x43E0000000000000⟩)
      (CConstant.integer Int64.maxValue).spelling :=
    Variable.givenAs_of_constant rfl rfl
  refine ⟨_, _, _, rfl, hgiven, hvalue, ?_⟩
  rw [hvalue]
  decide

/-! ## Integers and characters -/

/-- The number that an integer or a character stands for. -/
def Literal.integer? : Literal → Option Int
  | int n => some n.toInt
  | char b => some b.toNat
  | _ => none

/-- An integer that can be written without a sign in front of too large a number, or a character of
ASCII. -/
inductive Literal.IsPlain : Literal → Prop where
  | int (n : Int64) : n ≠ Int64.minValue → IsPlain (.int n)
  | char (b : UInt8) : b < 0x80 → IsPlain (.char b)

namespace Literal

variable {l : Literal} {m : Int} {text : String}

theorem IsPlain.constantValue?_eq (plain : l.IsPlain) (stands : l.integer? = some m)
    (spelled : l.spelling? = some text) : constantValue? text = some m := by
  cases plain with
  | int n hn =>
      cases stands
      cases spelled
      exact constantValue?_integer hn
  | char b hb =>
      cases stands
      cases spelled
      rw [constantValue?_character, characterValue, if_pos hb]

/-- An integer or a character is written the same way for all types of integers. -/
theorem givenAs_of_integer? {v : Variable} (integer : v.type.isInteger = true)
    (stands : l.integer? = some m) (spelled : l.spelling? = some text) : v.GivenAs l text := by
  have hnative := StorageType.isNative_of_isInteger integer
  cases l with
  | int n =>
      cases spelled
      exact Variable.givenAs_of_constant hnative (nativeConstant?_of_isInteger integer _)
  | char b =>
      cases spelled
      exact Variable.givenAs_of_constant hnative (nativeConstant?_of_isInteger integer _)
  | _ => cases stands

/-- A number that a literal stands for has 64 bits. -/
theorem represents_of_integer? (stands : l.integer? = some m) : StorageType.int.Represents m := by
  cases l with
  | int n =>
      cases stands
      exact ⟨n.le_toInt, n.toInt_lt⟩
  | char b =>
      cases stands
      have hb := b.toNat_lt
      constructor
      · show (-2 ^ 63 : Int) ≤ b.toNat
        omega
      · show (b.toNat : Int) < 2 ^ 63
        omega
  | _ => cases stands

theorem IsPlain.stores_iff (plain : l.IsPlain) (stands : l.integer? = some m)
    (spelled : l.spelling? = some text) (t : StorageType) : t.Stores text m ↔ t.Represents m := by
  rw [← t.convert_eq_self_iff, StorageType.Stores, plain.constantValue?_eq stands spelled]
  simp

/-- The byte of a character comes back as an unsigned one, although characters are signed. -/
theorem stores_uchar {b : UInt8} (stands : (char b).integer? = some m)
    (spelled : (char b).spelling? = some text) : StorageType.uchar.Stores text m := by
  cases stands
  cases spelled
  refine ⟨characterValue b, constantValue?_character b, ?_⟩
  have hb := b.toNat_lt
  show characterValue b % 2 ^ 8 = b.toNat
  unfold characterValue
  split <;> omega

/-- In a boxed value a number is set by one line. -/
theorem lines_of_integer? {v : Variable} (holdsAny : v.type.holdsAny = true)
    (constants : SharedConstants) (e : Estimate) (span : Span) (stands : l.integer? = some m)
    (spelled : l.spelling? = some text) :
    ∃ i, v.initialization constants e span l = .ok i ∧
      i.lines = [v.allocationLine, "ZVAL_LONG(" ++ v.operand.text ++ ", " ++ text ++ ");"] := by
  have hcode : v.initialization? constants e l = some (v.genericInitialization constants e l) :=
    Variable.initialization?_of_holdsAny holdsAny
  refine ⟨_, Variable.initialization_eq_ok_iff.2 hcode, ?_⟩
  cases l with
  | int n =>
      cases spelled
      exact v.lines_buildScalar (.int n)
  | char b =>
      cases spelled
      exact v.lines_buildScalar (.char b)
  | _ => cases stands

theorem text_pushItem_of_integer? (name : String) (depth : Nat) (target : Operand)
    (stands : l.integer? = some m) (spelled : l.spelling? = some text) :
    (Command.pushItem name depth target l).map Command.text =
      ["add_next_index_long(" ++ target.text ++ ", " ++ text ++ ");"] := by
  cases l with
  | int n =>
      cases spelled
      rfl
  | char b =>
      cases spelled
      rfl
  | _ => cases stands

end Literal

/-- An integer or a character is written down as it is at every place where a number is expected: what
is given to an integer variable, what is set as a boxed value, and what is appended to an array.  If it is
plain, C reads the number that it stands for, and a variable of an integer type has that number exactly if
the type represents it; the boxed integers of the runtime, which have 64 bits, always do.  An unsigned byte
has the number of every character. -/
theorem integers_kept_iff_represented (l : Literal) (m : Int) (text : String)
    (stands : l.integer? = some m) (spelled : l.spelling? = some text) :
    (∀ v : Variable, v.type.isInteger = true → v.GivenAs l text) ∧
      (∀ v : Variable, v.type.holdsAny = true → ∀ constants e span, ∃ i,
        v.initialization constants e span l = .ok i ∧
          i.lines = [v.allocationLine, "ZVAL_LONG(" ++ v.operand.text ++ ", " ++ text ++ ");"]) ∧
      (∀ name depth target, (Command.pushItem name depth target l).map Command.text =
        ["add_next_index_long(" ++ target.text ++ ", " ++ text ++ ");"]) ∧
      (l.IsPlain → constantValue? text = some m ∧ StorageType.int.Stores text m ∧
        ∀ t : StorageType, t.isInteger = true → (t.Stores text m ↔ t.Represents m)) ∧
      ∀ b, l = .char b → StorageType.uchar.Stores text m := by
  refine ⟨?_, ?_, ?_, ?_, ?_⟩
  · intro v integer
    exact Literal.givenAs_of_integer? integer stands spelled
  · intro v holdsAny constants e span
    exact Literal.lines_of_integer? holdsAny constants e span stands spelled
  · intro name depth target
    exact Literal.text_pushItem_of_integer? name depth target stands spelled
  · intro plain
    have hrepresented := Literal.represents_of_integer? stands
    refine ⟨plain.constantValue?_eq stands spelled, (plain.stores_iff stands spelled _).2 hrepresented, ?_⟩
    intro t _
    exact plain.stores_iff stands spelled t
  · rintro b rfl
    exact Literal.stores_uchar stands spelled

/-- A negative number is kept by a signed byte, and a letter beyond ASCII by an unsigned one. -/
theorem kept_of_negative_and_letter :
    (Variable.GivenAs { name := "c", type := .char } (.int (-128)) "-128" ∧
        StorageType.char.Stores "-128" (-128)) ∧
      Variable.GivenAs { name := "u", type := .uchar } (.char 0xe9) "'\\xe9'" ∧
        StorageType.uchar.Stores "'\\xe9'" 0xe9 := by
  have hnumber := integers_kept_iff_represented (.int (-128)) (-128) "-128" rfl rfl
  have hletter := integers_kept_iff_represented (.char 0xe9) 0xe9 "'\\xe9'" rfl rfl
  refine ⟨⟨hnumber.1 _ rfl, ?_⟩, hletter.1 _ rfl, hletter.2.2.2.2 0xe9 rfl⟩
  exact ((hnumber.2.2.2.1 (.int _ (by decide))).2.2 .char rfl).2 (by decide)

/-- A number that a byte does not represent is neither kept nor refused. -/
theorem not_kept_of_wide_number :
    ∃ (v : Variable) (l : Literal) (m : Int) (text : String), v.type.isInteger = true ∧
      l.integer? = some m ∧ v.GivenAs l text ∧ ¬ v.Refuses l ∧
        constantValue? text = some m ∧ v.type.convert m ≠ m := by
  have hgiven : Variable.GivenAs { name := "c", type := .char } (.int 300) "300" :=
    Literal.givenAs_of_integer? rfl rfl rfl
  refine ⟨_, .int 300, 300, "300", rfl, rfl, hgiven, ?_, ?_, by decide⟩
  · intro hrefused
    exact hrefused.not_givenAs hgiven
  · exact constantValue?_toString 300

end NativeMethod
