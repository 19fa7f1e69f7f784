import NativeMethod.Hash.XXHash64
import NativeMethod.Text.Ascii
import NativeMethod.Text.Quoted

/-!
# Class names

A class name keeps the spelling of the source.  The runtime resolves names without regard to
leading namespace separators and ASCII case; the *key* of a name is what is left of it then, and
its *fingerprint* a hash of the key.  Two derived C symbols name the class in generated code.
-/

namespace NativeMethod

/-- A class name as a source spells it. -/
structure ClassName where
  spelling : String
  deriving DecidableEq

namespace ClassName

/-- The name without its leading namespace separators. -/
def qualified (c : ClassName) : String :=
  String.ofList (c.spelling.toList.dropWhile (· == '\\'))

/-- What two spellings of one class have in common. -/
def key (c : ClassName) : String := Ascii.lower c.qualified

/-- Keeps fingerprints of classes apart from other hashes of the same bytes. -/
def domain : UInt64 := 0x2fac10b63a6cc57c

/-- The 64-bit identity of a class. -/
def fingerprint (c : ClassName) : UInt64 :=
  domain ^^^ XXHash64.hash 0 (Quoted.bytesOf c.key)

/-- Two names have the same fingerprint, which is how generated constraints compare classes. -/
def sameClass (a b : ClassName) : Bool := a.fingerprint == b.fingerprint

/-- The prefix of the C symbols of a class: its qualified name with underscores for the
namespace separators. -/
def cPrefix (c : ClassName) : String :=
  String.ofList (c.qualified.toList.map fun x => if x == '\\' then '_' else x)

/-- The C global that holds the class entry. -/
def entrySymbol (c : ClassName) : String := Ascii.lower c.cPrefix ++ "_ce"

/-- Sixteen hexadecimal digits of a word. -/
def hexWord (w : UInt64) : String :=
  let digits := Nat.toDigits 16 w.toNat
  String.ofList (List.replicate (16 - digits.length) '0' ++ digits)

/-- Two spellings with one key are one class. -/
theorem sameClass_of_key_eq {a b : ClassName} (h : a.key = b.key) : a.sameClass b = true := by
  simp [sameClass, fingerprint, h]

end ClassName

end NativeMethod
