import NativeMethod.CompileError
import NativeMethod.Method.Basic

/-!
# Modifiers that the runtime can register

A method has one visibility at most, an abstract method is neither final nor private, and
constructors and destructors belong to an object and so are not static.
-/

namespace NativeMethod.Method

/-- The visibilities written, in a fixed order. -/
def writtenVisibilities (m : Method) : List Modifier :=
  [Modifier.publicAccess, .protectedAccess, .privateAccess].filter m.has

/-- The first two modifiers that exclude each other. -/
def conflict? (m : Method) : Option (Modifier × Modifier) :=
  match m.writtenVisibilities with
  | first :: second :: _ => some (first, second)
  -- an abstract method is to be overridden, which these two modifiers rule out
  | _ =>
    if m.has .abstract && m.has .final then some (.abstract, .final)
    else if m.has .abstract && m.has .privateAccess then some (.abstract, .privateAccess)
    else none

/-- The word for a role that needs an object. -/
def boundRole? (m : Method) : Option String :=
  match m.role with
  | .regular => none
  | .constructor => some "constructor"
  | .destructor => some "destructor"

/-- Refuses modifiers that the runtime cannot register; a conflict is reported first. -/
def checkModifiers (m : Method) : Except CompileError Unit :=
  match m.conflict?, m.boundRole? with
  | some (first, second), _ =>
    .error (.modifierConflict m.name first.word second.word m.span)
  | none, some role =>
    if m.isStatic then .error (.illegalModifier m.name role Modifier.static.word m.span)
    else .ok ()
  | none, none => .ok ()

/-! ## Laws -/

/-- Refused modifiers are a fault of the source, at the place of the method. -/
theorem span?_of_checkModifiers {m : Method} {e : CompileError}
    (h : m.checkModifiers = .error e) : e.span? = some m.span := by
  unfold checkModifiers at h
  split at h
  · cases h
    rfl
  · split at h
    · cases h
      rfl
    · cases h
  · cases h

end NativeMethod.Method
