/-!
# Quoted C text

Bytes between C quotes.  The quote itself, the backslash and three control characters have a
short escape, the printable ASCII bytes stand for themselves, and every other byte is written
as `\x` with two hexadecimal digits.
-/

namespace NativeMethod.Quoted

/-- The two kinds of C quotes: around a character and around a string. -/
inductive Quote where
  | single
  | double
  deriving DecidableEq

def Quote.byte : Quote → UInt8
  | .single => 0x27
  | .double => 0x22

/-- The character of a byte below 128. -/
def charOf (b : UInt8) : Char := Char.ofNat b.toNat

/-- The two hexadecimal digits of a byte. -/
def hexDigits (b : UInt8) : List Char :=
  [Nat.digitChar (b.toNat / 16), Nat.digitChar (b.toNat % 16)]

/-- How one byte is written between the given quotes. -/
def escape (q : Quote) (b : UInt8) : List Char :=
  if b = 0x5c then ['\\', '\\']
  else if b = 0x0a then ['\\', 'n']
  else if b = 0x0d then ['\\', 'r']
  else if b = 0x09 then ['\\', 't']
  else if b = q.byte then ['\\', charOf b]
  else if 0x20 ≤ b ∧ b ≤ 0x7e then [charOf b]
  else '\\' :: 'x' :: hexDigits b

/-- The bytes between two quotes. -/
def quote (q : Quote) (bytes : List UInt8) : List Char :=
  charOf q.byte :: (bytes.flatMap (escape q) ++ [charOf q.byte])

/-- The UTF-8 bytes of a text. -/
def bytesOf (s : String) : List UInt8 := s.toList.flatMap String.utf8EncodeChar

/-- A text as a C string literal. -/
def string (s : String) : String := String.ofList (quote .double (bytesOf s))

/-- A byte as a C character constant. -/
def character (b : UInt8) : String := String.ofList (quote .single [b])

end NativeMethod.Quoted
