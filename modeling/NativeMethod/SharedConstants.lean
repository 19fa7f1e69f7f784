/-!
# Shared constants

The runtime holds one immutable boxed null, true and false.  Generated code may point a variable
at one of them instead of building a value, as long as nothing is written through the variable.
-/

namespace NativeMethod

/-- The values the runtime holds once. -/
inductive SharedValue where
  | null
  | bool (value : Bool)
  deriving DecidableEq

structure SharedConstants where
  null : String
  yes : String
  no : String
  deriving DecidableEq

namespace SharedConstants

/-- The symbols that the runtime defines. -/
def standard : SharedConstants := ⟨"__$null", "__$true", "__$false"⟩

instance : Inhabited SharedConstants := ⟨standard⟩

def symbol (c : SharedConstants) : SharedValue → String
  | .null => c.null
  | .bool true => c.yes
  | .bool false => c.no

/-- The address of a shared value, which a pointer to a boxed value may take. -/
def address (c : SharedConstants) (v : SharedValue) : String := "&" ++ c.symbol v

end SharedConstants

end NativeMethod
