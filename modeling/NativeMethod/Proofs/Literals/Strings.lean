import Mathlib.Data.List.Chain
import Mathlib.Tactic.SplitIfs
import NativeMethod.Command
import NativeMethod.Guard
import NativeMethod.Proofs.Literals.Reading

/-!
# Strings — what the literal of a text denotes

Texts are quoted byte by byte, and a byte that has neither a short escape nor a printable character is
written with two hexadecimal digits.  C reads as many digits as there are, so such a byte swallows the
digits and letters behind it:

* `KeepsApart` — no byte written in hexadecimal stands in front of a hexadecimal digit;
* `readByte?`, `remaining` — what C reads for a byte, and what that leaves of the bytes behind it;
* `readLiteral?_quote_iff` — exactly the texts of such bytes are read back;
* `string_read_back_iff` — also where the literal is a default or the message of a guard.
-/

namespace NativeMethod
namespace Quoted

/-- The byte has neither a short escape nor a printable character. -/
def isHexWritten (b : UInt8) : Bool :=
  (b < 0x20 || 0x7e < b) && b != 0x0a && b != 0x0d && b != 0x09

/-- The byte is written as a character that C takes for a hexadecimal digit. -/
def isDigitByte (b : UInt8) : Bool :=
  (0x30 ≤ b && b ≤ 0x39) || (0x41 ≤ b && b ≤ 0x46) || (0x61 ≤ b && b ≤ 0x66)

/-- No byte written in hexadecimal stands in front of a digit. -/
def KeepsApart (bytes : List UInt8) : Prop :=
  bytes.IsChain fun b c => ¬ (isHexWritten b = true ∧ isDigitByte c = true)

instance (bytes : List UInt8) : Decidable (KeepsApart bytes) :=
  inferInstanceAs (Decidable (bytes.IsChain _))

/-! ## ASCII characters -/

theorem toNat_charOf {b : UInt8} (ascii : b ≤ 0x7e) : (charOf b).toNat = b.toNat := by
  have hsmall : b.toNat ≤ 126 := ascii
  have hvalid : b.toNat.isValidChar := .inl (by omega)
  rw [charOf, Char.ofNat, dif_pos hvalid]
  rfl

theorem utf8EncodeChar_charOf {b : UInt8} (ascii : b ≤ 0x7e) :
    String.utf8EncodeChar (charOf b) = [b] := by
  have hchar : (charOf b).val.toNat = b.toNat := toNat_charOf ascii
  have hsmall : b.toNat ≤ 127 := Nat.le_trans (show b.toNat ≤ 126 from ascii) (by decide)
  simp only [String.utf8EncodeChar, hchar, hsmall, if_true, UInt8.ofNat_toNat]

theorem isHexDigit_charOf {b : UInt8} (ascii : b ≤ 0x7e) :
    isHexDigit (charOf b) = isDigitByte b := by
  have hchar : (charOf b).val.toNat = b.toNat := toNat_charOf ascii
  rw [Bool.eq_iff_iff]
  simp only [isHexDigit, hexValue?, isDigitByte, Char.le_def, UInt32.le_iff_toNat_le,
    UInt8.le_iff_toNat_le, hchar, Bool.or_eq_true, Bool.and_eq_true, decide_eq_true_eq]
  split_ifs <;> simp_all

theorem charOf_ne {b c : UInt8} (hb : b ≤ 0x7e) (hc : c ≤ 0x7e) (hne : b ≠ c) :
    charOf b ≠ charOf c := by
  intro h
  apply hne
  rw [← UInt8.toNat_inj, ← toNat_charOf hb, ← toNat_charOf hc, h]

/-! ## How bytes are written -/

theorem escape_of_isHexWritten {q : Quote} {b : UInt8} (h : isHexWritten b = true) :
    escape q b = '\\' :: 'x' :: hexDigits b := by
  unfold escape
  split_ifs with hbackslash hnewline hreturn htab hquote hprintable
  · subst hbackslash
    cases h
  · subst hnewline
    cases h
  · subst hreturn
    cases h
  · subst htab
    cases h
  · subst hquote
    cases q <;> cases h
  · grind [isHexWritten]
  · rfl

/-- Every other byte has a short escape or stands for itself. -/
theorem escape_cases (q : Quote) {b : UInt8} (h : isHexWritten b = false) :
    (isDigitByte b = false ∧
        ∃ x, escape q b = ['\\', x] ∧ ∀ text, readEscape? (x :: text) = some (b, text)) ∨
      (escape q b = [charOf b] ∧ b ≠ 0x5c ∧ b ≠ q.byte ∧ 0x20 ≤ b ∧ b ≤ 0x7e) := by
  unfold escape
  split_ifs with hbackslash hnewline hreturn htab hquote hprintable
  · subst hbackslash
    exact .inl ⟨rfl, '\\', rfl, fun text => rfl⟩
  · subst hnewline
    exact .inl ⟨rfl, 'n', rfl, fun text => rfl⟩
  · subst hreturn
    exact .inl ⟨rfl, 'r', rfl, fun text => rfl⟩
  · subst htab
    exact .inl ⟨rfl, 't', rfl, fun text => rfl⟩
  · subst hquote
    refine .inl ⟨?_, charOf q.byte, rfl, ?_⟩
    · cases q <;> rfl
    · intro text
      cases q <;> rfl
  · exact .inr ⟨rfl, hbackslash, hquote, hprintable⟩
  · grind [isHexWritten]

theorem escape_of_isDigitByte {q : Quote} {b : UInt8} (h : isDigitByte b = true) :
    escape q b = [charOf b] ∧ isHexDigit (charOf b) = true := by
  have hplain : isHexWritten b = false := by grind [isDigitByte, isHexWritten]
  rcases escape_cases q hplain with ⟨hother, _⟩ | ⟨hescape, _, _, _, hascii⟩
  · rw [h] at hother
    cases hother
  · exact ⟨hescape, (isHexDigit_charOf hascii).trans h⟩

theorem exists_escape_eq_cons {q : Quote} {b : UInt8} (h : isDigitByte b = false) :
    ∃ x xs, escape q b = x :: xs ∧ isHexDigit x = false := by
  cases hhex : isHexWritten b with
  | true => exact ⟨_, _, escape_of_isHexWritten hhex, rfl⟩
  | false =>
      rcases escape_cases q hhex with ⟨_, x, hescape, _⟩ | ⟨hescape, _, _, _, hascii⟩
      · exact ⟨_, _, hescape, rfl⟩
      · exact ⟨_, _, hescape, (isHexDigit_charOf hascii).trans h⟩

theorem isHexDigit_quote (q : Quote) : isHexDigit (charOf q.byte) = false := by
  cases q <;> rfl

/-- The spelling of bytes, the closing quote, and some text behind it. -/
def written (q : Quote) (bytes : List UInt8) (rest : List Char) : List Char :=
  bytes.flatMap (escape q) ++ charOf q.byte :: rest

theorem written_cons (q : Quote) (b : UInt8) (bytes : List UInt8) (rest : List Char) :
    written q (b :: bytes) rest = escape q b ++ written q bytes rest := by
  simp [written]

/-- The digits that a spelling begins with are those that the bytes themselves are. -/
theorem takeWhile_written (q : Quote) (bytes : List UInt8) (rest : List Char) :
    (written q bytes rest).takeWhile isHexDigit = (bytes.takeWhile isDigitByte).map charOf := by
  induction bytes with
  | nil => simp [written, isHexDigit_quote]
  | cons b bytes ih =>
      cases hdigit : isDigitByte b with
      | true =>
          -- a digit is written as itself, so the run goes on
          rcases escape_of_isDigitByte (q := q) hdigit with ⟨hescape, hchar⟩
          simp [written_cons, hescape, hchar, hdigit, ih]
      | false =>
          -- whatever else is written ends it, as its first character is no digit
          rcases exists_escape_eq_cons (q := q) hdigit with ⟨x, xs, hescape, hchar⟩
          simp [written_cons, hescape, hchar, hdigit]

theorem dropWhile_written (q : Quote) (bytes : List UInt8) (rest : List Char) :
    (written q bytes rest).dropWhile isHexDigit =
      written q (bytes.dropWhile isDigitByte) rest := by
  induction bytes with
  | nil => simp [written, isHexDigit_quote]
  | cons b bytes ih =>
      cases hdigit : isDigitByte b with
      | true =>
          rcases escape_of_isDigitByte (q := q) hdigit with ⟨hescape, hchar⟩
          simp [written_cons, hescape, hchar, hdigit, ih]
      | false =>
          rcases exists_escape_eq_cons (q := q) hdigit with ⟨x, xs, hescape, hchar⟩
          simp [written_cons, hescape, hchar, hdigit]

/-! ## Reading one byte -/

theorem hexValue?_digitChar {d : Nat} (h : d < 16) : hexValue? (Nat.digitChar d) = some d := by
  revert h
  revert d
  decide

theorem byteOfDigits?_hexDigits (b : UInt8) : byteOfDigits? 16 (hexDigits b) = some b := by
  have hb : b.toNat < 256 := b.toNat_lt
  have hhigh := hexValue?_digitChar (d := b.toNat / 16) (by omega)
  have hlow := hexValue?_digitChar (d := b.toNat % 16) (by omega)
  have hvalue : 16 * (b.toNat / 16) + b.toNat % 16 = b.toNat := Nat.div_add_mod b.toNat 16
  simp [byteOfDigits?, hexDigits, hhigh, hlow, hvalue, hb]

theorem isHexDigit_of_mem_hexDigits {b : UInt8} {x : Char} (h : x ∈ hexDigits b) :
    isHexDigit x = true := by
  have hb : b.toNat < 256 := b.toNat_lt
  have hhigh := hexValue?_digitChar (d := b.toNat / 16) (by omega)
  have hlow := hexValue?_digitChar (d := b.toNat % 16) (by omega)
  have hcases : x = Nat.digitChar (b.toNat / 16) ∨ x = Nat.digitChar (b.toNat % 16) := by
    simpa [hexDigits] using h
  rcases hcases with rfl | rfl
  · simp [isHexDigit, hhigh]
  · simp [isHexDigit, hlow]

theorem backslash_ne_quote (q : Quote) : '\\' ≠ charOf q.byte := by
  cases q <;> decide

theorem readText?_escape_of_plain {q : Quote} {b : UInt8} (plain : isHexWritten b = false)
    (text : List Char) :
    readText? q (escape q b ++ text) = (readText? q text).map fun r => (b :: r.1, r.2) := by
  rcases escape_cases q plain with
    ⟨_, x, hescape, hread⟩ | ⟨hescape, hbackslash, hquote, hlow, hascii⟩
  -- a short escape
  · have helement : readElement? '\\' (x :: text) = some ([b], text) := by
      simp [readElement?, hread]
    rw [hescape, List.cons_append, List.singleton_append, readText?_cons (backslash_ne_quote q),
      helement]
    rfl
  -- a character that is neither the quote nor begins an escape
  · have hchar : charOf b ≠ '\\' := charOf_ne (c := 0x5c) hascii (by decide) hbackslash
    have hline : charOf b ≠ '\n' := by
      refine charOf_ne (c := 0x0a) hascii (by decide) ?_
      rintro rfl
      exact absurd hlow (by decide)
    have hclosing : charOf b ≠ charOf q.byte := by
      refine charOf_ne hascii ?_ hquote
      cases q <;> decide
    have helement : readElement? (charOf b) text = some ([b], text) := by
      simp [readElement?, hchar, hline, utf8EncodeChar_charOf hascii]
    rw [hescape, List.singleton_append, readText?_cons hclosing, helement]
    rfl

/-- The digits behind a byte that is written in hexadecimal are read as digits of that byte. -/
theorem readText?_escape_of_isHexWritten {q : Quote} {b : UInt8} (h : isHexWritten b = true)
    (text : List Char) :
    readText? q (escape q b ++ text) =
      (byteOfDigits? 16 (hexDigits b ++ text.takeWhile isHexDigit)).bind fun x =>
        (readText? q (text.dropWhile isHexDigit)).map fun r => (x :: r.1, r.2) := by
  have htake : (hexDigits b ++ text).takeWhile isHexDigit =
      hexDigits b ++ text.takeWhile isHexDigit :=
    List.takeWhile_append_of_pos fun x => isHexDigit_of_mem_hexDigits
  have hdrop : (hexDigits b ++ text).dropWhile isHexDigit = text.dropWhile isHexDigit :=
    List.dropWhile_append_of_pos fun x => isHexDigit_of_mem_hexDigits
  have hsome : (hexDigits b ++ text.takeWhile isHexDigit).isEmpty = false := rfl
  have hescape := escape_of_isHexWritten (q := q) h
  rw [hescape, List.cons_append, List.cons_append, readText?_cons (backslash_ne_quote q)]
  simp only [readElement?, readEscape?, htake, hdrop, hsome, if_true]
  cases byteOfDigits? 16 (hexDigits b ++ text.takeWhile isHexDigit) <;> rfl

/-! ## Reading all bytes -/

/-- The byte that C reads where a byte stands in front of others. -/
def readByte? (b : UInt8) (bytes : List UInt8) : Option UInt8 :=
  if isHexWritten b then
    byteOfDigits? 16 (hexDigits b ++ (bytes.takeWhile isDigitByte).map charOf)
  else some b

/-- What is left of the others: digits may have been swallowed. -/
def remaining (b : UInt8) (bytes : List UInt8) : List UInt8 :=
  if isHexWritten b then bytes.dropWhile isDigitByte else bytes

theorem readText?_written_cons (q : Quote) (b : UInt8) (bytes : List UInt8) (rest : List Char) :
    readText? q (written q (b :: bytes) rest) =
      (readByte? b bytes).bind fun x =>
        (readText? q (written q (remaining b bytes) rest)).map fun r => (x :: r.1, r.2) := by
  rw [written_cons]
  cases hhex : isHexWritten b with
  | false =>
      rw [readText?_escape_of_plain hhex]
      simp [readByte?, remaining, hhex]
  | true =>
      rw [readText?_escape_of_isHexWritten hhex, takeWhile_written, dropWhile_written]
      simp [readByte?, remaining, hhex]

theorem remaining_suffix (b : UInt8) (bytes : List UInt8) : remaining b bytes <:+ bytes := by
  unfold remaining
  split
  · exact List.dropWhile_suffix isDigitByte
  · exact List.suffix_rfl

/-- A byte that leaves all others is read as itself. -/
theorem readByte?_of_remaining_eq {b : UInt8} {bytes : List UInt8}
    (h : remaining b bytes = bytes) : readByte? b bytes = some b := by
  unfold remaining at h
  unfold readByte?
  split
  · rename_i hhex
    rw [if_pos hhex] at h
    have hsplit := List.takeWhile_append_dropWhile (p := isDigitByte) (l := bytes)
    have htake : bytes.takeWhile isDigitByte = [] := by
      rw [h] at hsplit
      simpa using hsplit
    rw [htake, List.map_nil, List.append_nil, byteOfDigits?_hexDigits]
  · rfl

theorem keepsApart_cons_iff {b : UInt8} {bytes : List UInt8} :
    KeepsApart (b :: bytes) ↔ remaining b bytes = bytes ∧ KeepsApart bytes := by
  cases bytes with
  | nil => cases hhex : isHexWritten b <;> simp [KeepsApart, remaining, hhex]
  | cons c bytes =>
      have hnext : remaining b (c :: bytes) = c :: bytes ↔
          ¬ (isHexWritten b = true ∧ isDigitByte c = true) := by
        cases hhex : isHexWritten b with
        | false => simp [remaining, hhex]
        | true =>
            cases hdigit : isDigitByte c with
            | false => simp [remaining, hhex, hdigit]
            | true =>
                -- without its head the list is too short to be the same
                have hlength := (List.dropWhile_suffix isDigitByte (l := bytes)).length_le
                have hne : bytes.dropWhile isDigitByte ≠ c :: bytes := by
                  intro h
                  rw [h, List.length_cons] at hlength
                  omega
                simp [remaining, hhex, hdigit, hne]
      rw [hnext]
      exact List.isChain_cons_cons

theorem readText?_written_of_keepsApart {bytes : List UInt8} (h : KeepsApart bytes) (q : Quote)
    (rest : List Char) : readText? q (written q bytes rest) = some (bytes, rest) := by
  induction bytes with
  | nil => exact readText?_quote q rest
  | cons b bytes ih =>
      rcases keepsApart_cons_iff.1 h with ⟨hremaining, hbytes⟩
      rw [readText?_written_cons, readByte?_of_remaining_eq hremaining, hremaining, ih hbytes]
      rfl

/-- A byte that swallows digits makes the result shorter, and nothing makes it longer. -/
theorem length_of_readText?_written {q : Quote} {bytes out : List UInt8} {rest behind : List Char}
    (h : readText? q (written q bytes rest) = some (out, behind)) :
    out.length ≤ bytes.length ∧ (out.length = bytes.length → KeepsApart bytes) := by
  -- what is left behind a byte may be any suffix, so the induction is on the length
  induction hn : bytes.length using Nat.strong_induction_on generalizing bytes out with
  | _ n ih =>
      cases bytes with
      | nil =>
          rw [written, List.flatMap_nil, List.nil_append, readText?_quote] at h
          cases h
          exact ⟨Nat.zero_le n, fun _ => .nil⟩
      | cons b bytes =>
          rw [readText?_written_cons] at h
          rcases Option.bind_eq_some_iff.1 h with ⟨x, _, hrest⟩
          rcases Option.map_eq_some_iff.1 hrest with ⟨⟨out', behind'⟩, hread, hout⟩
          dsimp only at hout
          cases hout
          have hsuffix := remaining_suffix b bytes
          have hshorter := hsuffix.length_le
          rw [List.length_cons] at hn
          rcases ih (remaining b bytes).length (by omega) hread rfl with ⟨hlength, hkeeps⟩
          rw [List.length_cons]
          refine ⟨by omega, ?_⟩
          intro heq
          have hremaining : remaining b bytes = bytes := hsuffix.eq_of_length (by omega)
          have hbytes : KeepsApart bytes := by
            simpa only [hremaining] using hkeeps (by omega)
          exact keepsApart_cons_iff.2 ⟨hremaining, hbytes⟩

/-- What is quoted is read back exactly if no byte swallows what is behind it. -/
theorem readLiteral?_quote_iff (q : Quote) (bytes : List UInt8) (rest : List Char) :
    readLiteral? q (quote q bytes ++ rest) = some (bytes, rest) ↔ KeepsApart bytes := by
  have hliteral : readLiteral? q (quote q bytes ++ rest) = readText? q (written q bytes rest) := by
    simp [readLiteral?, quote, written]
  rw [hliteral]
  constructor
  · intro h
    exact (length_of_readText?_written h).2 rfl
  · intro h
    exact readText?_written_of_keepsApart h q rest

/-- A literal behind some text of a line is read back exactly if its bytes keep apart. -/
theorem readAfter?_string_iff {opening line s : String} {rest : List Char}
    (h : line.toList = opening.toList ++ ((string s).toList ++ rest)) :
    readAfter? opening line = some (bytesOf s, rest) ↔ KeepsApart (bytesOf s) := by
  rw [readAfter?_append opening (string s) rest h, string, String.toList_ofList]
  exact readLiteral?_quote_iff .double (bytesOf s) rest

end Quoted

open Quoted

/-- The literal of a text denotes its UTF-8 bytes exactly if no byte written in hexadecimal stands in
front of a digit.  That holds of the literal alone, of a default, of an item of an array, and of the
message of a guard. -/
theorem string_read_back_iff (s target : String) (rest : List Char) (g : Guard) :
    (readLiteral? .double ((string s).toList ++ rest) = some (bytesOf s, rest) ↔
      KeepsApart (bytesOf s)) ∧
    (readAfter? ("ZVAL_STRING(" ++ target ++ ", ") (Command.setText target (.string s)) =
        some (bytesOf s, [')', ';']) ↔
      KeepsApart (bytesOf s)) ∧
    (readAfter? ("add_next_index_stringl(" ++ target ++ ", SL(")
        (Command.pushText target (.string s)) = some (bytesOf s, [')', ')', ';']) ↔
      KeepsApart (bytesOf s)) ∧
    (readAfter? "zephir_throw_exception_string(spl_ce_InvalidArgumentException, SL("
        g.raiseLine = some (bytesOf g.error.message, [')', ')', ';']) ↔
      KeepsApart (bytesOf g.error.message)) := by
  have hdefault : Command.setText target (.string s) =
      "ZVAL_STRING(" ++ target ++ ", " ++ string s ++ ");" := rfl
  have hitem : Command.pushText target (.string s) =
      "add_next_index_stringl(" ++ target ++ ", SL(" ++ string s ++ "));" := rfl
  have hmessage : g.raiseLine =
      "zephir_throw_exception_string(spl_ce_InvalidArgumentException, SL(" ++
        string g.error.message ++ "));" := rfl
  rw [hdefault, hitem, hmessage]
  refine ⟨?_, readAfter?_string_iff (by simp), readAfter?_string_iff (by simp),
    readAfter?_string_iff (by simp)⟩
  rw [string, String.toList_ofList]
  exact readLiteral?_quote_iff .double (bytesOf s) rest

/-- The last byte of the letter in the middle swallows the one behind it. -/
theorem not_read_back_of_letter_behind_hex :
    readLiteral? .double (string "née").toList ≠ some (bytesOf "née", []) := by
  have h := readLiteral?_quote_iff .double (bytesOf "née") []
  rw [List.append_nil] at h
  rw [string, String.toList_ofList, ne_eq, h]
  decide

end NativeMethod
