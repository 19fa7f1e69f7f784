import NativeMethod.Proofs.CompiledMethods
import NativeMethod.Proofs.Prologue.Tests

/-!
# MangledNames — what the C symbols of classes and methods tell apart

A C symbol is made of names in small letters, with underscores for namespace separators, joined by further
underscores.  Names may contain underscores of their own, so a symbol says less of them than the runtime
goes by, which is the key of a class and the name of a method up to ASCII case:

* `ClassName.Alike` — keys that differ at most in having an underscore where the other has a separator;
* `entrySymbol_eq_iff` — which classes share the symbol of their entry, and the instance test on it;
* `JoinsEarlier` — two names whose symbols agree, but are joined at different underscores;
* `argumentInfo_eq_iff` — which compiled methods share the symbol of their arguments.

All texts are compared here, whether or not a source can spell them as names.
-/

namespace NativeMethod

namespace ClassName

/-! ## Characters -/

/-- What stands for a character of a name in a symbol. -/
def flat (x : Char) : Char := if x == '\\' then '_' else x

/-- The characters are the same but for a separator and the underscore that stands for it. -/
def AlikeChars (x y : Char) : Prop := x = y ∨ (x ∈ ['\\', '_'] ∧ y ∈ ['\\', '_'])

theorem flat_eq_flat_iff {x y : Char} : flat x = flat y ↔ AlikeChars x y := by
  grind [flat, AlikeChars]

/-- What stands for two characters and where the separators are tells the characters apart. -/
theorem eq_of_flat_eq {x y : Char} (hflat : flat x = flat y)
    (hseparates : (x == '\\') = (y == '\\')) : x = y := by
  grind [flat]

/-- What a capital becomes is not in front of the small letters. -/
theorem toLower_ne {x y : Char} (hy : y.toNat < 'a'.toNat) (h : x ≠ y) : x.toLower ≠ y := by
  unfold Char.toLower
  split
  next hcapital =>
    intro heq
    have hcode := congrArg Char.toNat heq
    simp at hcode hy
    simp [UInt32.le_iff_toNat_le] at hcapital
    omega
  next => exact h

theorem toLower_flat (x : Char) : (flat x).toLower = flat x.toLower := by
  by_cases h : x = '\\'
  · simp [h, flat]
  · simp [h, toLower_ne (y := '\\') (by decide) h, flat]

/-! ## Symbols of classes -/

/-- The key as it stands in symbols. -/
def flatKey (c : ClassName) : String := String.ofList (c.key.toList.map flat)

/-- Where the separators are in the key. -/
def separators (c : ClassName) : List Bool := c.key.toList.map (· == '\\')

/-- The keys differ at most in having an underscore where the other has a separator. -/
def Alike (a b : ClassName) : Prop := List.Forall₂ AlikeChars a.key.toList b.key.toList

/-- Separators may be replaced before or after the capitals. -/
theorem lower_cPrefix (c : ClassName) : Ascii.lower c.cPrefix = c.flatKey := by
  simp only [Ascii.lower, cPrefix, flatKey, key, String.toList_ofList, List.map_map]
  exact congrArg String.ofList (List.map_congr_left fun x _ => toLower_flat x)

theorem flatKey_eq_iff {a b : ClassName} : a.flatKey = b.flatKey ↔ a.Alike b := by
  have hchars : a.flatKey = b.flatKey ↔ a.key.toList.map flat = b.key.toList.map flat :=
    String.ofList_inj
  refine hchars.trans ?_
  rw [← List.forall₂_eq_eq_eq, List.forall₂_map_left_iff, List.forall₂_map_right_iff]
  simp only [flat_eq_flat_iff, Alike]

theorem entrySymbol_eq_flatKey (c : ClassName) : c.entrySymbol = c.flatKey ++ "_ce" := by
  simp [entrySymbol, lower_cPrefix]

theorem entrySymbol_eq_iff_alike {a b : ClassName} :
    a.entrySymbol = b.entrySymbol ↔ a.Alike b := by
  simp [entrySymbol_eq_flatKey, flatKey_eq_iff]

/-- Texts that are alike are the same if their separators are at the same places. -/
theorem eq_of_alikeChars {xs ys : List Char} (halike : List.Forall₂ AlikeChars xs ys)
    (hplaces : xs.map (· == '\\') = ys.map (· == '\\')) : xs = ys := by
  induction halike with
  | nil => rfl
  | cons hxy _ ih =>
      have hparts := List.cons.inj hplaces
      exact congrArg₂ List.cons (eq_of_flat_eq (flat_eq_flat_iff.2 hxy) hparts.1) (ih hparts.2)

theorem key_eq_iff {a b : ClassName} :
    a.key = b.key ↔ a.Alike b ∧ a.separators = b.separators := by
  constructor
  · intro h
    exact ⟨flatKey_eq_iff.1 (by simp [flatKey, h]), by simp [separators, h]⟩
  · intro h
    exact String.toList_inj.1 (eq_of_alikeChars h.1 h.2)

end ClassName

/-! ## Instance tests -/

namespace Condition

variable {subject : String} {a b : ClassName}

theorem text_notInstanceOf_eq_iff :
    (notInstanceOf subject a).text = (notInstanceOf subject b).text ↔
      a.entrySymbol = b.entrySymbol := by
  rw [← String.toList_inj, toList_text_notInstanceOf, toList_text_notInstanceOf]
  simp only [List.append_cancel_left_eq, List.append_cancel_right_eq, String.toList_inj]

/-- A second test behind the same first one is all that the texts can differ in. -/
theorem text_both_eq_iff {first second second' : Condition} :
    (both first second).text = (both first second').text ↔ second.text = second'.text := by
  rw [← String.toList_inj, toList_text_both, toList_text_both]
  simp only [List.append_cancel_left_eq, String.toList_inj]

/-- An instance test begins unlike a conjunction that tests a type first. -/
theorem text_notInstanceOf_ne_both {type : TypeConstant} {second : Condition} :
    (notInstanceOf subject a).text ≠ (both (hasNotType subject type) second).text := by
  intro h
  have hfirst := congrArg List.head? (String.toList_inj.2 h)
  rw [toList_text_notInstanceOf, toList_text_both, toList_text_hasNotType] at hfirst
  simp [Test.instanceOpening, Test.typeOpening] at hfirst

end Condition

/-- The checks on one argument differ in what the classes have for separators only by underscores, and in
whether null passes. -/
theorem Guard.text_instanceOf_eq_iff {parameter parameter' subject : String} {a b : ClassName}
    {orNull orNull' : Bool} :
    (Guard.mk parameter subject (.instanceOf a orNull)).rejection.text =
        (Guard.mk parameter' subject (.instanceOf b orNull')).rejection.text ↔
      orNull = orNull' ∧ a.Alike b := by
  rw [← ClassName.entrySymbol_eq_iff_alike]
  cases orNull with
  | false =>
      cases orNull' with
      | false => simpa [rejection] using Condition.text_notInstanceOf_eq_iff
      | true => simpa [rejection] using Condition.text_notInstanceOf_ne_both
  | true =>
      cases orNull' with
      | false => simpa [rejection] using Condition.text_notInstanceOf_ne_both.symm
      | true =>
          simpa [rejection] using
            Condition.text_both_eq_iff.trans Condition.text_notInstanceOf_eq_iff

/-- Two classes share the symbol of their entry exactly if they are alike; they are one class if their
separators are, moreover, at the same places.  The checks for them on one argument are the same text
exactly if the classes are alike and both or neither of them takes null. -/
theorem entrySymbol_eq_iff (a b : ClassName) :
    (a.entrySymbol = b.entrySymbol ↔ a.Alike b) ∧
      (a.key = b.key ↔ a.entrySymbol = b.entrySymbol ∧ a.separators = b.separators) ∧
        ∀ (parameter parameter' subject : String) (orNull orNull' : Bool),
          (Guard.mk parameter subject (.instanceOf a orNull)).rejection.text =
              (Guard.mk parameter' subject (.instanceOf b orNull')).rejection.text ↔
            orNull = orNull' ∧ a.Alike b := by
  have hentry : a.entrySymbol = b.entrySymbol ↔ a.Alike b := ClassName.entrySymbol_eq_iff_alike
  refine ⟨hentry, ?_, fun _ _ _ _ _ => Guard.text_instanceOf_eq_iff⟩
  simpa only [hentry] using ClassName.key_eq_iff

/-- A class in a namespace, and another one with an underscore in its name. -/
theorem entrySymbol_of_separator_and_underscore :
    (ClassName.mk "A\\B").key ≠ (ClassName.mk "A_B").key ∧
      (ClassName.mk "A\\B").entrySymbol = (ClassName.mk "A_B").entrySymbol ∧
        (Guard.mk "x" "x" (.instanceOf ⟨"A\\B"⟩ false)).rejection.text =
          (Guard.mk "x" "x" (.instanceOf ⟨"A_B"⟩ false)).rejection.text := by
  have halike : (ClassName.mk "A\\B").Alike (ClassName.mk "A_B") :=
    ClassName.flatKey_eq_iff.1 (by decide +kernel)
  have hentry := ClassName.entrySymbol_eq_iff_alike.2 halike
  exact ⟨by decide, hentry, Guard.text_instanceOf_eq_iff.2 ⟨rfl, halike⟩⟩

/-! ## Symbols of methods -/

/-- Of two equal lists that are joined by one element each, the joints are at the same place, or the one
joint is inside a part of the other list. -/
theorem join_eq_join_iff {α : Type} {x : α} {xs ys us vs : List α} :
    xs ++ x :: us = ys ++ x :: vs ↔
      (xs = ys ∧ us = vs) ∨ (∃ w, ys = xs ++ x :: w ∧ us = w ++ x :: vs) ∨
        ∃ w, xs = ys ++ x :: w ∧ vs = w ++ x :: us := by
  constructor
  · intro h
    -- what is between the joints is empty, or it begins with the earlier one
    rcases List.append_eq_append_iff.1 h with ⟨w, hys, hus⟩ | ⟨w, hxs, hvs⟩
    · cases w with
      | nil => exact .inl (by simpa using And.intro hys.symm hus)
      | cons y w =>
          have hparts := List.cons.inj hus
          exact .inr (.inl ⟨w, hparts.1 ▸ hys, hparts.2⟩)
    · cases w with
      | nil => exact .inl (by simpa using And.intro hxs hvs.symm)
      | cons y w =>
          have hparts := List.cons.inj hvs
          exact .inr (.inr ⟨w, hparts.1 ▸ hxs, hparts.2⟩)
  · intro h
    rcases h with ⟨hxs, hus⟩ | ⟨w, hys, hus⟩ | ⟨w, hxs, hvs⟩
    · simp [hxs, hus]
    · simp [hys, hus]
    · simp [hxs, hvs]

/-- The names have one text between them, but the first two are joined at an earlier underscore of it: what
stands between the two joints ends the class of the second two and begins the method of the first. -/
def JoinsEarlier (c : ClassName) (m : Method) (c' : ClassName) (m' : Method) : Prop :=
  ∃ between, c'.flatKey = c.flatKey ++ "_" ++ between ∧
    Ascii.lower m.name = between ++ "_" ++ Ascii.lower m'.name

namespace MethodEntry

variable {c c' : ClassName} {m m' : Method}

theorem argumentInfo_ofMethod (c : ClassName) (m : Method) :
    (ofMethod c m).argumentInfo = "arginfo_" ++ (c.flatKey ++ "_" ++ Ascii.lower m.name) := by
  simp only [ofMethod, ClassName.lower_cPrefix, String.append_assoc]

/-- The same, said of the characters of the texts. -/
theorem joinsEarlier_iff :
    JoinsEarlier c m c' m' ↔ ∃ between, c'.flatKey.toList = c.flatKey.toList ++ '_' :: between ∧
      (Ascii.lower m.name).toList = between ++ '_' :: (Ascii.lower m'.name).toList := by
  constructor
  · intro h
    cases h with
    | intro between h => exact ⟨between.toList, by simp [h.1], by simp [h.2]⟩
  · intro h
    cases h with
    | intro between h =>
        refine ⟨String.ofList between, ?_, ?_⟩
        · simp [← String.toList_inj, h.1]
        · simp [← String.toList_inj, h.2]

/-- The method that is joined to its class earlier has the later joint in its name. -/
theorem underscore_mem_of_joinsEarlier (h : JoinsEarlier c m c' m') : '_' ∈ m.name.toList := by
  rcases joinsEarlier_iff.1 h with ⟨between, _, hname⟩
  by_contra hfree
  have hlower : '_' ∈ (Ascii.lower m.name).toList := by
    simp [hname]
  -- the name has it as it is, since no capital becomes an underscore
  rcases List.mem_map.1 (by simpa [Ascii.lower] using hlower) with ⟨x, hx, hunderscore⟩
  have hne : x ≠ '_' := by
    rintro rfl
    exact hfree hx
  exact ClassName.toLower_ne (by decide) hne hunderscore

theorem argumentInfo_ofMethod_eq_iff :
    (ofMethod c m).argumentInfo = (ofMethod c' m').argumentInfo ↔
      (c.Alike c' ∧ Ascii.lower m.name = Ascii.lower m'.name) ∨
        JoinsEarlier c m c' m' ∨ JoinsEarlier c' m' c m := by
  have hjoined : ∀ (c : ClassName) (m : Method), (c.flatKey ++ "_" ++ Ascii.lower m.name).toList =
      c.flatKey.toList ++ '_' :: (Ascii.lower m.name).toList := by
    simp
  rw [argumentInfo_ofMethod, argumentInfo_ofMethod, String.append_right_inj, ← String.toList_inj,
    hjoined, hjoined, join_eq_join_iff, joinsEarlier_iff, joinsEarlier_iff, String.toList_inj,
    String.toList_inj, ClassName.flatKey_eq_iff]

end MethodEntry

/-- What a compilation registers depends on nothing but the class and the declaration. -/
theorem ClassContext.entry_eq_of_result_eq_ok {ctx : ClassContext} {m : Method} {body : Body}
    {sink : Diagnostics} {c : CompiledMethod} (h : (ctx.compile m body sink).result = .ok c) :
    c.entry = .ofMethod ctx.owner m := by
  rcases exists_phases h with ⟨_, hphases⟩
  rw [CompiledMethod.entry, hphases.owner_eq, hphases.method_eq]

/-- Two compiled methods share the symbol of their arguments exactly if their classes are alike and their
names are the same but for ASCII case, or if the names of the one class and method are joined at an earlier
underscore of the symbol than those of the other.  Methods of classes that are alike share it by their
names only, and methods without underscores in their names only if their classes are alike. -/
theorem argumentInfo_eq_iff {ctx ctx' : ClassContext} {m m' : Method} {body body' : Body}
    {sink sink' : Diagnostics} {c c' : CompiledMethod}
    (compiled : (ctx.compile m body sink).result = .ok c)
    (compiled' : (ctx'.compile m' body' sink').result = .ok c') :
    (c.entry.argumentInfo = c'.entry.argumentInfo ↔
        (ctx.owner.Alike ctx'.owner ∧ Ascii.lower m.name = Ascii.lower m'.name) ∨
          JoinsEarlier ctx.owner m ctx'.owner m' ∨ JoinsEarlier ctx'.owner m' ctx.owner m) ∧
      (ctx.owner.Alike ctx'.owner →
        (c.entry.argumentInfo = c'.entry.argumentInfo ↔
          Ascii.lower m.name = Ascii.lower m'.name)) ∧
      ('_' ∉ m.name.toList → '_' ∉ m'.name.toList →
        (c.entry.argumentInfo = c'.entry.argumentInfo ↔
          ctx.owner.Alike ctx'.owner ∧ Ascii.lower m.name = Ascii.lower m'.name)) := by
  rw [ClassContext.entry_eq_of_result_eq_ok compiled,
    ClassContext.entry_eq_of_result_eq_ok compiled']
  refine ⟨MethodEntry.argumentInfo_ofMethod_eq_iff, ?_, ?_⟩
  · intro halike
    rw [MethodEntry.argumentInfo_ofMethod, MethodEntry.argumentInfo_ofMethod,
      ClassName.flatKey_eq_iff.2 halike, String.append_right_inj, String.append_right_inj]
  · intro hfree hfree'
    refine MethodEntry.argumentInfo_ofMethod_eq_iff.trans (or_iff_left ?_)
    intro hjoins
    cases hjoins with
    | inl h => exact hfree (MethodEntry.underscore_mem_of_joinsEarlier h)
    | inr h => exact hfree' (MethodEntry.underscore_mem_of_joinsEarlier h)

/-- One symbol for the method of a class and for another method of a class with a longer name. -/
theorem argumentInfo_of_other_joint :
    let ctx : ClassContext := { owner := ⟨"A"⟩ }
    let ctx' : ClassContext := { owner := ⟨"A_b"⟩ }
    let m : Method := { name := "b_c" }
    let m' : Method := { name := "c" }
    ∃ c c', (ctx.compile m {} {}).result = .ok c ∧ (ctx'.compile m' {} {}).result = .ok c' ∧
      c.entry.argumentInfo = c'.entry.argumentInfo ∧ ctx.owner.key ≠ ctx'.owner.key ∧
        Ascii.lower m.name ≠ Ascii.lower m'.name := by
  intro ctx ctx' m m'
  have hjoins : JoinsEarlier ctx.owner m ctx'.owner m' := ⟨"b", by decide, by decide⟩
  exact ⟨_, _, rfl, rfl, MethodEntry.argumentInfo_ofMethod_eq_iff.2 (.inr (.inl hjoins)), by decide,
    by decide⟩

/-- The first method of a class in a namespace, and the second under another spelling. -/
theorem argumentInfo_of_capitals :
    let ctx : ClassContext := { owner := ⟨"\\App\\User"⟩ }
    let ctx' : ClassContext := { owner := ⟨"app\\user"⟩ }
    let m : Method := { name := "getName" }
    let m' : Method := { name := "getname" }
    ∃ c c', (ctx.compile m {} {}).result = .ok c ∧ (ctx'.compile m' {} {}).result = .ok c' ∧
      c.entry.argumentInfo = c'.entry.argumentInfo := by
  intro ctx ctx' m m'
  have halike : ctx.owner.Alike ctx'.owner := ClassName.flatKey_eq_iff.1 (by decide +kernel)
  have hcompiled : ∃ c, (ctx.compile m {} {}).result = .ok c := ⟨_, rfl⟩
  have hcompiled' : ∃ c', (ctx'.compile m' {} {}).result = .ok c' := ⟨_, rfl⟩
  rcases hcompiled with ⟨c, hc⟩
  rcases hcompiled' with ⟨c', hc'⟩
  exact ⟨c, c', hc, hc', ((argumentInfo_eq_iff hc hc').2.1 halike).2 (by decide +kernel)⟩

end NativeMethod
