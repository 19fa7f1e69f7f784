/-!
# Source spans

Where a declaration stands in the source of the extension.  Every error that a user can cause
carries the span of the declaration at fault.
-/

namespace NativeMethod

/-- A stretch of source: the line and column where it starts, counted from one, and its length
in bytes.  Line zero means that the place is not known. -/
structure Span where
  line : UInt32
  col : UInt32
  len : UInt32
  deriving DecidableEq

namespace Span

/-- The span of a declaration whose place nobody recorded. -/
def nowhere : Span := ⟨0, 0, 0⟩

instance : Inhabited Span := ⟨nowhere⟩

def point (line col : UInt32) : Span := ⟨line, col, 0⟩

/-- A span is unknown when it has no line, whatever its column. -/
def isUnknown (s : Span) : Bool := s.line == 0

/-- Line and column, also for an unknown span. -/
def position (s : Span) : String :=
  toString s.line.toNat ++ ":" ++ toString s.col.toNat

/-- The span as messages show it. -/
def text (s : Span) : String :=
  if s.isUnknown then "<unknown>" else s.position

end Span

end NativeMethod
