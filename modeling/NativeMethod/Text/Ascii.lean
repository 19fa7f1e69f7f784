/-!
# ASCII case

Class and method names are compared without regard to case, and only the ASCII letters have a
case there.
-/

namespace NativeMethod.Ascii

/-- A text with its ASCII capitals made small; every other character stays. -/
def lower (s : String) : String := String.ofList (s.toList.map Char.toLower)

end NativeMethod.Ascii
