import NativeMethod.Parameter.Backing

/-!
# Identifiers — names that C reads as one word

The names of variables come from sources, and generated code is only what it looks like as long as
they are identifiers.  An identifier ends at the first character that no identifier has, which is how
a name is found again in a line, be it that of a variable or of what the line calls.
-/

namespace NativeMethod

def isIdentifierChar (x : Char) : Bool := x.isAlphanum || x == '_'

/-- C reads the text as an identifier. -/
structure IsIdentifier (s : String) : Prop where
  chars : ∀ x ∈ s.toList, isIdentifierChar x = true
  start : ∃ x, s.toList.head? = some x ∧ x.isDigit = false

theorem isIdentifier_iff {s : String} :
    IsIdentifier s ↔ s.toList.all isIdentifierChar = true ∧
      s.toList.head?.any (fun x => !x.isDigit) = true := by
  constructor
  · rintro ⟨hchars, x, hx, hdigit⟩
    exact ⟨List.all_eq_true.2 hchars, by simp [hx, hdigit]⟩
  · rintro ⟨hchars, hstart⟩
    rcases (Option.any_eq_true _ _).1 hstart with ⟨x, hx, hdigit⟩
    exact ⟨List.all_eq_true.1 hchars, x, hx, by simpa using hdigit⟩

instance : DecidablePred IsIdentifier := fun _ => decidable_of_iff _ isIdentifier_iff.symm

namespace IsIdentifier

theorem append {s t : String} (h : IsIdentifier s)
    (chars : ∀ x ∈ t.toList, isIdentifierChar x = true) : IsIdentifier (s ++ t) := by
  refine ⟨?_, ?_⟩
  · intro x hx
    rw [String.toList_append] at hx
    rcases List.mem_append.1 hx with hs | ht
    · exact h.chars x hs
    · exact chars x ht
  · rcases h.start with ⟨x, hx, hdigit⟩
    exact ⟨x, by simp [hx], hdigit⟩

/-- The slot of a parameter has an identifier for a name if the parameter has. -/
theorem fetchedName {p : Parameter} (h : IsIdentifier p.name) : IsIdentifier p.fetchedName := by
  cases hslot : p.type.hasSlot with
  | false =>
      have hname : p.fetchedName = p.name := by
        simp [Parameter.fetchedName, Parameter.slotName?, hslot]
      simpa only [hname] using h
  | true =>
      have hname : p.fetchedName = p.name ++ "_param" := by
        simp [Parameter.fetchedName, Parameter.slotName?, hslot]
      simpa only [hname] using h.append (by simp [isIdentifierChar])

variable {s : String} {x : Char}

/-- An identifier begins with one of its characters. -/
theorem exists_eq_cons (h : IsIdentifier s) :
    ∃ x xs, s.toList = x :: xs ∧ isIdentifierChar x = true := by
  rcases hs : s.toList with _ | ⟨x, xs⟩
  · rcases h.start with ⟨x, hx, _⟩
    simp [hs] at hx
  · exact ⟨x, xs, rfl, h.chars x (by simp [hs])⟩

theorem takeWhile_append (h : IsIdentifier s) (hx : isIdentifierChar x = false)
    (rest : List Char) :
    (s.toList ++ x :: rest).takeWhile isIdentifierChar = s.toList := by
  rw [List.takeWhile_append_of_pos h.chars, List.takeWhile_cons_of_neg (by simp [hx]),
    List.append_nil]

theorem dropWhile_append (h : IsIdentifier s) (hx : isIdentifierChar x = false)
    (rest : List Char) :
    (s.toList ++ x :: rest).dropWhile isIdentifierChar = x :: rest := by
  rw [List.dropWhile_append_of_pos h.chars, List.dropWhile_cons_of_neg (by simp [hx])]

end IsIdentifier

/-! ## Calls -/

/-- The text is a call of the function. -/
def Calls (function text : String) : Prop := ∃ rest, text = function ++ "(" ++ rest

namespace Calls

variable {function opening text : String}

theorem of_opening (h : opening = function ++ "(") (rest : String) :
    Calls function (opening ++ rest) :=
  ⟨rest, by rw [h]⟩

theorem append (h : Calls function text) (more : String) : Calls function (text ++ more) := by
  rcases h with ⟨rest, rfl⟩
  exact ⟨rest ++ more, String.append_assoc⟩

end Calls
end NativeMethod
