import NativeMethod.Proofs.Literals.Strings

/-!
# Delimiters — where a literal ends

Whatever bytes are quoted, what is written for them is printable ASCII and does not end the literal: a
quote or a backslash among the bytes is written behind a backslash, and nothing else is written with one
of them.  So a reader that takes a backslash together with the character behind it, and otherwise looks
for the quote, comes to the end of the literal and not before:

* `isPrintable_of_mem_escape`, `isPrintable_of_mem_string` — the characters of a literal;
* `behindLiteral?` — such a reader;
* `behindLiteral?_escape`, `behindLiteral?_written` — it passes over what is written for one byte, and
  for any number of them.
-/

namespace NativeMethod
namespace Quoted

/-! ## Printable characters -/

/-- The characters that stand for the bytes from `0x20` to `0x7e`. -/
def isPrintable (x : Char) : Bool := ' ' ≤ x && x ≤ '~'

theorem isPrintable_charOf {b : UInt8} (low : 0x20 ≤ b) (high : b ≤ 0x7e) :
    isPrintable (charOf b) = true := by
  have hchar : (charOf b).val.toNat = b.toNat := toNat_charOf high
  have hlow : 32 ≤ b.toNat := low
  have hhigh : b.toNat ≤ 126 := high
  simp only [isPrintable, Char.le_def, UInt32.le_iff_toNat_le, hchar, Bool.and_eq_true,
    decide_eq_true_eq]
  exact ⟨hlow, hhigh⟩

theorem isPrintable_digitChar {d : Nat} (h : d < 16) : isPrintable (Nat.digitChar d) = true := by
  have hdigits : ∀ d < 16, isPrintable (Nat.digitChar d) = true := by decide
  exact hdigits d h

theorem isPrintable_of_mem_escape {q : Quote} {b : UInt8} {x : Char} (h : x ∈ escape q b) :
    isPrintable x = true := by
  have hpair {y : Char} (hy : isPrintable y = true) (hx : x ∈ ['\\', y]) : isPrintable x = true := by
    rcases List.mem_pair.1 hx with rfl | rfl
    · rfl
    · exact hy
  unfold escape at h
  split_ifs at h with hbackslash hnewline hreturn htab hquote hprintable
  · exact hpair rfl h
  · exact hpair rfl h
  · exact hpair rfl h
  · exact hpair rfl h
  · subst hquote
    refine hpair ?_ h
    cases q <;> rfl
  · rw [List.mem_singleton.1 h]
    exact isPrintable_charOf hprintable.1 hprintable.2
  · -- both digits of a byte are below sixteen
    have hhigh : b.toNat / 16 < 16 := Nat.div_lt_of_lt_mul b.toNat_lt
    have hlow : b.toNat % 16 < 16 := Nat.mod_lt _ (by decide)
    simp only [hexDigits, List.mem_cons, List.not_mem_nil, or_false] at h
    rcases h with rfl | rfl | rfl | rfl
    · rfl
    · rfl
    · exact isPrintable_digitChar hhigh
    · exact isPrintable_digitChar hlow

theorem isPrintable_quote (q : Quote) : isPrintable (charOf q.byte) = true := by
  cases q <;> rfl

theorem isPrintable_of_mem_quote {q : Quote} {bytes : List UInt8} {x : Char}
    (h : x ∈ quote q bytes) : isPrintable x = true := by
  simp only [quote, List.mem_cons, List.mem_append, List.mem_flatMap, List.not_mem_nil, or_false] at h
  rcases h with rfl | ⟨b, -, hx⟩ | rfl
  · exact isPrintable_quote q
  · exact isPrintable_of_mem_escape hx
  · exact isPrintable_quote q

theorem isPrintable_of_mem_string {s : String} {x : Char} (h : x ∈ (string s).toList) :
    isPrintable x = true := by
  rw [string, String.toList_ofList] at h
  exact isPrintable_of_mem_quote h

/-- A printable character is encoded as the one byte it stands for. -/
theorem exists_charOf_of_isPrintable {x : Char} (h : isPrintable x = true) :
    ∃ b, x = charOf b ∧ 0x20 ≤ b ∧ b ≤ 0x7e := by
  simp only [isPrintable, Char.le_def, UInt32.le_iff_toNat_le, Bool.and_eq_true,
    decide_eq_true_eq] at h
  obtain ⟨hlow, hhigh⟩ : 32 ≤ x.toNat ∧ x.toNat ≤ 126 := h
  have hbyte : (UInt8.ofNat x.toNat).toNat = x.toNat := by
    rw [UInt8.toNat_ofNat']
    exact Nat.mod_eq_of_lt (by omega)
  refine ⟨UInt8.ofNat x.toNat, ?_, ?_, ?_⟩
  · rw [charOf, hbyte, Char.ofNat_toNat]
  · rw [UInt8.le_iff_toNat_le, hbyte]
    exact hlow
  · rw [UInt8.le_iff_toNat_le, hbyte]
    exact hhigh

theorem bytes_of_isPrintable {text : String} (h : ∀ x ∈ text.toList, isPrintable x = true) :
    ∀ b ∈ bytesOf text, 0x20 ≤ b ∧ b ≤ 0x7e := by
  intro b hb
  obtain ⟨x, hx, hb⟩ := List.mem_flatMap.1 hb
  obtain ⟨c, rfl, hlow, hhigh⟩ := exists_charOf_of_isPrintable (h x hx)
  rw [utf8EncodeChar_charOf hhigh, List.mem_singleton] at hb
  rw [hb]
  exact ⟨hlow, hhigh⟩

/-! ## Looking for the quote -/

/-- What stands behind the first quote that ends a literal, from behind its opening quote.  A backslash
takes the character behind it along, so that a quote there does not count. -/
def behindLiteral? (q : Quote) : List Char → Option (List Char)
  | [] => none
  | ['\\'] => none
  | '\\' :: _ :: text => behindLiteral? q text
  | x :: text => if x = charOf q.byte then some text else behindLiteral? q text

variable {q : Quote}

theorem behindLiteral?_backslash (x : Char) (text : List Char) :
    behindLiteral? q ('\\' :: x :: text) = behindLiteral? q text := by
  rw [behindLiteral?]

theorem behindLiteral?_quote (text : List Char) :
    behindLiteral? q (charOf q.byte :: text) = some text := by
  have hbackslash : charOf q.byte ≠ '\\' := (backslash_ne_quote q).symm
  unfold behindLiteral?
  split <;> simp_all

theorem behindLiteral?_other {x : Char} (hbackslash : x ≠ '\\') (hquote : x ≠ charOf q.byte)
    (text : List Char) : behindLiteral? q (x :: text) = behindLiteral? q text := by
  conv_lhs => unfold behindLiteral?
  split <;> simp_all

theorem behindLiteral?_digits {digits : List Char} (h : ∀ x ∈ digits, isHexDigit x = true)
    (text : List Char) : behindLiteral? q (digits ++ text) = behindLiteral? q text := by
  induction digits with
  | nil => rfl
  | cons x digits ih =>
      have hx : isHexDigit x = true := h x List.mem_cons_self
      have hbackslash : x ≠ '\\' := by
        rintro rfl
        cases hx
      have hquote : x ≠ charOf q.byte := by
        rintro rfl
        rw [isHexDigit_quote] at hx
        cases hx
      calc
        behindLiteral? q (x :: (digits ++ text)) = behindLiteral? q (digits ++ text) :=
          behindLiteral?_other hbackslash hquote _
        _ = behindLiteral? q text := ih fun y hy => h y (List.mem_cons_of_mem x hy)

/-- What is written for a byte does not end the literal. -/
theorem behindLiteral?_escape (b : UInt8) (text : List Char) :
    behindLiteral? q (escape q b ++ text) = behindLiteral? q text := by
  cases hhex : isHexWritten b with
  | true =>
      rw [escape_of_isHexWritten hhex]
      calc
        behindLiteral? q ('\\' :: 'x' :: (hexDigits b ++ text))
            = behindLiteral? q (hexDigits b ++ text) := behindLiteral?_backslash _ _
        _ = behindLiteral? q text := behindLiteral?_digits (fun _ => isHexDigit_of_mem_hexDigits) text
  | false =>
      rcases escape_cases q hhex with ⟨-, x, hescape, -⟩ | ⟨hescape, hbackslash, hquote, -, hascii⟩
      · rw [hescape]
        exact behindLiteral?_backslash x text
      · -- the byte stands for itself, and is neither a backslash nor the quote
        have hbyte : q.byte ≤ 0x7e := by cases q <;> decide
        have hother : charOf b ≠ '\\' := charOf_ne (c := 0x5c) hascii (by decide) hbackslash
        rw [hescape]
        exact behindLiteral?_other hother (charOf_ne hascii hbyte hquote) text

/-- The first quote that counts is the one behind all bytes. -/
theorem behindLiteral?_written (bytes : List UInt8) (rest : List Char) :
    behindLiteral? q (written q bytes rest) = some rest := by
  induction bytes with
  | nil => exact behindLiteral?_quote rest
  | cons b bytes ih =>
      calc
        behindLiteral? q (written q (b :: bytes) rest)
            = behindLiteral? q (escape q b ++ written q bytes rest) := by rw [written_cons]
        _ = behindLiteral? q (written q bytes rest) := behindLiteral?_escape b _
        _ = some rest := ih

end Quoted
end NativeMethod
