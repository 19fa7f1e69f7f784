import Mathlib.Data.List.TakeWhile
import NativeMethod.Proofs.CompiledMethods
import NativeMethod.Proofs.DeclaredVariables
import NativeMethod.Proofs.Identifiers

/-!
# FunctionScope — the identifiers that a function declares

The function of a method declares the variables of its table and, unless it is static, its receiver.
The table keeps its names distinct, but it does not know the name of the receiver:

* `NameOrigin` — the parameters, slots and declarations that names come from;
* `Declarator.identifier_text` — the name of a declarator is what C reads there;
* `scope_nodup_iff` — no identifier is declared twice, unless a variable has the name of the receiver.
-/

namespace NativeMethod

/-! ## Names and texts -/

namespace Declarator

/-- The identifier that the text of a declarator declares. -/
def identifier (text : String) : String :=
  String.ofList ((text.toList.dropWhile (· == '*')).takeWhile isIdentifierChar)

theorem identifier_text {d : Declarator} (named : IsIdentifier d.name) :
    identifier d.text = d.name := by
  -- the name ends with the text or in front of an initialiser
  have hrest : ∃ rest : List Char,
      d.text.toList = List.replicate d.indirection '*' ++ (d.name.toList ++ rest) ∧
        (d.name.toList ++ rest).takeWhile isIdentifierChar = d.name.toList := by
    cases hinitial : d.initial with
    | none =>
        refine ⟨[], by simp [text, hinitial], ?_⟩
        rw [List.append_nil, List.takeWhile_eq_self_iff]
        exact named.chars
    | some i =>
        refine ⟨' ' :: '=' :: ' ' :: i.text.toList, by simp [text, hinitial], ?_⟩
        exact named.takeWhile_append rfl _
  rcases hrest with ⟨rest, htext, hname⟩
  have hstars : d.text.toList.dropWhile (· == '*') = d.name.toList ++ rest := by
    rcases named.exists_eq_cons with ⟨y, ys, hchars, hy⟩
    have hstar : y ≠ '*' := by
      rintro rfl
      cases hy
    rw [htext, List.dropWhile_append_of_pos (by simp), hchars]
    simp [hstar]
  rw [identifier, hstars, hname, String.ofList_toList]

end Declarator

namespace CompiledMethod

/-- A line of the method has a declarator of the name, and C reads the name there. -/
def Declares (c : CompiledMethod) (x : String) : Prop :=
  ∃ g ∈ c.declarations.groups, .code 1 g.text ∈ c.fragments ∧
    ∃ d ∈ g.declarators, d.name = x ∧ (IsIdentifier x → Declarator.identifier d.text = x)

theorem declares_iff {c : CompiledMethod} {x : String} :
    c.Declares x ↔ x ∈ c.declarations.names := by
  constructor
  · rintro ⟨g, hg, _, d, hd, hname, _⟩
    exact List.mem_flatMap.2 ⟨g, hg, List.mem_map.2 ⟨d, hd, hname⟩⟩
  · intro hx
    rcases List.mem_flatMap.1 hx with ⟨g, hg, hname⟩
    rcases List.mem_map.1 hname with ⟨d, hd, rfl⟩
    exact ⟨g, hg, mem_fragments_of_mem_groups hg, d, hd, rfl, Declarator.identifier_text⟩

/-- The identifiers declared at the scope of the function: those of the declaration block, and the
receiver of a method that is not static. -/
def scope (c : CompiledMethod) : List String :=
  c.declarations.names ++ if c.method.isStatic then [] else ["this_ptr"]

theorem nodup_scope_iff {c : CompiledMethod} (distinct : c.declarations.names.Nodup) :
    c.scope.Nodup ↔ c.method.isStatic = true ∨ "this_ptr" ∉ c.declarations.names := by
  cases hstatic : c.method.isStatic with
  | true => simp [scope, hstatic, distinct]
  | false => simp [scope, hstatic, distinct, List.nodup_append']

end CompiledMethod

/-! ## Where names come from -/

/-- What a declared name is the name of. -/
inductive NameOrigin (m : Method) (body : Body) (x : String) : Prop where
  | parameter {p : Parameter} : p ∈ m.parameters → p.name = x → NameOrigin m body x
  | slot {p : Parameter} : p ∈ m.parameters → p.slotName? = some x → NameOrigin m body x
  | ofBody {type : StorageType} {span : Span} :
      .declare x type span ∈ Body.changes body.steps → NameOrigin m body x

theorem NameOrigin.of_mem_backing {m : Method} {body : Body} {p : Parameter} {v : Variable}
    (hp : p ∈ m.parameters) (hv : v ∈ p.backing) : NameOrigin m body v.name := by
  rcases List.mem_cons.1 hv with rfl | hslot
  · exact .parameter hp rfl
  · rcases Option.map_eq_some_iff.1 (Option.mem_toList.1 hslot) with ⟨x, hx, rfl⟩
    exact .slot hp hx

/-- No slot has the name of the receiver. -/
theorem NameOrigin.cases_receiver {m : Method} {body : Body}
    (h : NameOrigin m body "this_ptr") :
    (∃ p ∈ m.parameters, p.name = "this_ptr") ∨
      ∃ type span, .declare "this_ptr" type span ∈ Body.changes body.steps := by
  cases h with
  | parameter hp hname => exact .inl ⟨_, hp, hname⟩
  | ofBody hdeclare => exact .inr ⟨_, _, hdeclare⟩
  | slot hp hname =>
      rename_i p
      have hslot : p.name ++ "_param" = "this_ptr" := by
        unfold Parameter.slotName? at hname
        split at hname
        · exact Option.some.inj hname
        · cases hname
      have hsuffix : "_param".toList <:+ "this_ptr".toList :=
        ⟨p.name.toList, by rw [← hslot, String.toList_append]⟩
      exact absurd hsuffix (by decide)

namespace Phases

variable {ctx : ClassContext} {m : Method} {body : Body} {s : MethodState} {c : CompiledMethod}

theorem nameOrigin (h : Phases ctx m body s c) {x : String}
    (declared : x ∈ c.declarations.names) : NameOrigin m body x := by
  rcases (mem_names_iff h.declarations_ok).1 declared with ⟨v, hv, rfl⟩
  rcases List.mem_filter.1 hv with ⟨hmem, hvisible⟩
  have hleft := h.find?_run hmem
  cases hstart : s.table.find? v.name with
  | none =>
      rcases SymbolTable.exists_declare_of_find?_run h.namesDistinct_start hstart hleft with
        ⟨type, span, hdeclare⟩
      exact .ofBody hdeclare
  | some w =>
      rcases SymbolTable.mem_of_find?_eq_some hstart with ⟨hw, hname⟩
      -- an implicit variable would still be implicit, and not declared
      have himplicit : w.isImplicit ≠ true := by
        intro himplicit
        have hstays := SymbolTable.isImplicit_run h.namesDistinct_start hstart himplicit hleft
        simp [hstays] at hvisible
      rcases h.implicit_or_backing hw with rfl | rfl | ⟨p, hp, hbacking⟩
      · exact absurd rfl himplicit
      · exact absurd rfl himplicit
      · rw [← hname]
        exact .of_mem_backing hp hbacking

end Phases

/-! ## The scope of a compiled method -/

/-- The declaration block declares no name twice, and all of its names are those of parameters, slots
and locals of the body.  Together with the receiver they are distinct exactly if no variable of a
method with a receiver has its name. -/
theorem scope_nodup_iff {ctx : ClassContext} {m : Method} {body : Body} {sink : Diagnostics}
    {c : CompiledMethod} (compiled : (ctx.compile m body sink).result = .ok c) :
    c.declarations.names.Nodup ∧
      (∀ x ∈ c.declarations.names, NameOrigin m body x) ∧
      (c.scope.Nodup ↔ m.isStatic = true ∨ "this_ptr" ∉ c.declarations.names) ∧
      ("this_ptr" ∈ c.declarations.names →
        (∃ p ∈ m.parameters, p.name = "this_ptr") ∨
          ∃ type span, .declare "this_ptr" type span ∈ Body.changes body.steps) ∧
      ∀ x, c.Declares x ↔ x ∈ c.declarations.names := by
  rcases ClassContext.exists_phases compiled with ⟨s, h⟩
  have hnames : c.declarations.names.Nodup := nodup_names h.declarations_ok h.namesDistinct
  refine ⟨hnames, fun x => h.nameOrigin, ?_, ?_, fun x => CompiledMethod.declares_iff⟩
  · simpa only [h.method_eq] using CompiledMethod.nodup_scope_iff hnames
  · intro hdeclared
    exact (h.nameOrigin hdeclared).cases_receiver

/-- A static method may have a parameter with the name of the receiver. -/
theorem nodup_scope_of_static :
    ∃ c : CompiledMethod,
      (ClassContext.compile { owner := ⟨"C"⟩ }
        { name := "f", modifiers := [.static], parameters := [{ name := "this_ptr" }] } {}
        {}).result = .ok c ∧ c.scope.Nodup := by
  rcases hresult : (ClassContext.compile { owner := ⟨"C"⟩ }
      { name := "f", modifiers := [.static], parameters := [{ name := "this_ptr" }] } {}
      {}).result with _ | c
  · cases hresult
  · exact ⟨c, rfl, (scope_nodup_iff hresult).2.2.1.2 (.inl rfl)⟩

/-- A parameter of a method with a receiver has its name. -/
theorem not_nodup_scope_of_receiver_parameter :
    ∃ c : CompiledMethod,
      (ClassContext.compile { owner := ⟨"C"⟩ }
        { name := "f", parameters := [{ name := "this_ptr" }] } {} {}).result = .ok c ∧
        ¬ c.scope.Nodup := by
  refine ⟨_, rfl, ?_⟩
  decide

end NativeMethod
