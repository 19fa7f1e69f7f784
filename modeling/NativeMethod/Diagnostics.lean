import NativeMethod.Span

/-!
# Diagnostics

Findings that do not stop a compilation, in the order in which they were made.
-/

namespace NativeMethod

inductive Severity where
  | info
  | warning
  deriving DecidableEq

def Severity.name : Severity → String
  | info => "info"
  | warning => "warning"

structure Diagnostic where
  severity : Severity
  message : String
  span : Span
  deriving DecidableEq

/-- A finding on one line. -/
def Diagnostic.text (d : Diagnostic) : String :=
  d.span.text ++ ": " ++ d.severity.name ++ ": " ++ d.message

structure Diagnostics where
  entries : List Diagnostic := []

namespace Diagnostics

def size (d : Diagnostics) : Nat := d.entries.length

def isEmpty (d : Diagnostics) : Bool := d.entries.isEmpty

/-- Records a finding after all others. -/
def push (d : Diagnostics) (severity : Severity) (message : String) (span : Span) : Diagnostics :=
  ⟨d.entries ++ [⟨severity, message, span⟩]⟩

def warn (d : Diagnostics) (message : String) (span : Span) : Diagnostics :=
  d.push .warning message span

def info (d : Diagnostics) (message : String) (span : Span) : Diagnostics :=
  d.push .info message span

def append (d : Diagnostics) (more : List Diagnostic) : Diagnostics := ⟨d.entries ++ more⟩

def clear (_ : Diagnostics) : Diagnostics := {}

def ofSeverity (d : Diagnostics) (s : Severity) : List Diagnostic :=
  d.entries.filter (·.severity == s)

def warnings (d : Diagnostics) : List Diagnostic := d.ofSeverity .warning

def infos (d : Diagnostics) : List Diagnostic := d.ofSeverity .info

/-- The findings from the least to the most serious, otherwise in the order they were made. -/
def ranked (d : Diagnostics) : List Diagnostic := d.infos ++ d.warnings

/-- All findings, each on a line of its own. -/
def text (d : Diagnostics) : String := String.join (d.entries.map fun e => e.text ++ "\n")

end Diagnostics

end NativeMethod
