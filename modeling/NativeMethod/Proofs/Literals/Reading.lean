import Mathlib.Data.List.TakeWhile
import NativeMethod.Text.Quoted

/-!
# Reading — what quoted C text denotes

Quoted text is read back by the rules of C.  Between the quotes a character stands for itself, in
UTF-8, and a backslash begins an escape: a simple one, up to three octal digits, or `\x` and as many
hexadecimal digits as there are.  The value of the digits must fit into a byte.  There are no trigraphs,
and escapes that name characters of other alphabets are not read.

* `readEscape?`, `readElement?` — one escape and one element;
* `readText?`, `readLiteral?` — the bytes up to the closing quote, and the text behind it;
* `readAfter?` — the literal that stands behind a given text in a line.
-/

namespace NativeMethod
namespace Quoted

/-! ## Digits -/

/-- The value of a hexadecimal digit, in either case. -/
def hexValue? (x : Char) : Option Nat :=
  if '0' ≤ x ∧ x ≤ '9' then some (x.toNat - 0x30)
  else if 'a' ≤ x ∧ x ≤ 'f' then some (x.toNat - 0x57)
  else if 'A' ≤ x ∧ x ≤ 'F' then some (x.toNat - 0x37)
  else none

def isHexDigit (x : Char) : Bool := (hexValue? x).isSome

def isOctalDigit (x : Char) : Bool := '0' ≤ x && x ≤ '7'

/-- The byte that digits of a base write, if their value fits. -/
def byteOfDigits? (base : Nat) (digits : List Char) : Option UInt8 :=
  let value := digits.foldl (fun n x => base * n + (hexValue? x).getD 0) 0
  if value < 256 then some (UInt8.ofNat value) else none

/-! ## Elements -/

/-- The characters that name a byte behind a backslash. -/
def simpleEscapes : List (Char × UInt8) :=
  [('\x27', 0x27), ('\x22', 0x22), ('?', 0x3f), ('\\', 0x5c), ('a', 0x07), ('b', 0x08), ('f', 0x0c),
    ('n', 0x0a), ('r', 0x0d), ('t', 0x09), ('v', 0x0b)]

/-- The byte of an escape, and the text behind it.  The backslash has been read. -/
def readEscape? : List Char → Option (UInt8 × List Char)
  | [] => none
  | x :: text =>
    if x = 'x' then
      -- the longest run of digits counts, whoever wrote them
      if (text.takeWhile isHexDigit).isEmpty then none
      else (byteOfDigits? 16 (text.takeWhile isHexDigit)).map (·, text.dropWhile isHexDigit)
    else if isOctalDigit x then
      let digits := ((x :: text).take 3).takeWhile isOctalDigit
      (byteOfDigits? 8 digits).map (·, (x :: text).drop digits.length)
    else (simpleEscapes.lookup x).map (·, text)

/-- The bytes of the element that begins with a character, and the text behind it. -/
def readElement? (x : Char) (text : List Char) : Option (List UInt8 × List Char) :=
  if x = '\\' then (readEscape? text).map fun r => ([r.1], r.2)
  else if x = '\n' then none
  else some (String.utf8EncodeChar x, text)

theorem length_readEscape? {text rest : List Char} {b : UInt8}
    (h : readEscape? text = some (b, rest)) : rest.length ≤ text.length := by
  cases text with
  | nil => cases h
  | cons x text =>
      have hdrop := (List.dropWhile_suffix isHexDigit (l := text)).length_le
      simp only [readEscape?] at h
      split at h
      · split at h
        · cases h
        · rcases Option.map_eq_some_iff.1 h with ⟨value, _, hvalue⟩
          cases hvalue
          exact hdrop.trans (Nat.le_succ _)
      · split at h
        · rcases Option.map_eq_some_iff.1 h with ⟨value, _, hvalue⟩
          cases hvalue
          simp
        · rcases Option.map_eq_some_iff.1 h with ⟨value, _, hvalue⟩
          cases hvalue
          exact Nat.le_succ _

theorem length_readElement? {x : Char} {text rest : List Char} {bytes : List UInt8}
    (h : readElement? x text = some (bytes, rest)) : rest.length ≤ text.length := by
  unfold readElement? at h
  split at h
  · rcases Option.map_eq_some_iff.1 h with ⟨⟨b, rest'⟩, hescape, hresult⟩
    cases hresult
    exact length_readEscape? hescape
  · split at h
    · cases h
    · cases h
      exact Nat.le_refl _

/-! ## Literals -/

/-- The bytes up to the closing quote, and the text behind it. -/
def readText? (q : Quote) : List Char → Option (List UInt8 × List Char)
  | [] => none
  | x :: text =>
    if x = charOf q.byte then some ([], text)
    else
      match h : readElement? x text with
      | none => none
      | some (bytes, rest) =>
        have := length_readElement? h
        (readText? q rest).map fun r => (bytes ++ r.1, r.2)
termination_by text => text.length

/-- The bytes between two quotes, and the text behind them. -/
def readLiteral? (q : Quote) : List Char → Option (List UInt8 × List Char)
  | [] => none
  | x :: text => if x = charOf q.byte then readText? q text else none

/-- The literal that stands behind some text at the beginning of a line. -/
def readAfter? (opening line : String) : Option (List UInt8 × List Char) :=
  if opening.toList.isPrefixOf line.toList then
    readLiteral? .double (line.toList.drop opening.toList.length)
  else none

theorem readText?_quote (q : Quote) (text : List Char) :
    readText? q (charOf q.byte :: text) = some ([], text) := by
  rw [readText?, if_pos rfl]

theorem readText?_cons {q : Quote} {x : Char} (hx : x ≠ charOf q.byte) (text : List Char) :
    readText? q (x :: text) =
      (readElement? x text).bind fun e => (readText? q e.2).map fun r => (e.1 ++ r.1, r.2) := by
  rw [readText?, if_neg hx]
  split
  · rename_i hnone
    simp [hnone]
  · rename_i hsome
    simp [hsome]

theorem readAfter?_append (opening literal : String) (rest : List Char) {line : String}
    (h : line.toList = opening.toList ++ (literal.toList ++ rest)) :
    readAfter? opening line = readLiteral? .double (literal.toList ++ rest) := by
  simp [readAfter?, h]

end Quoted
end NativeMethod
