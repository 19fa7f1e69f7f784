import NativeMethod.Proofs.Payloads
import NativeMethod.Proofs.ScopedExecution

/-!
# ArrayBuilding — a literal is built in its variable

The code for an array literal fills its variable item by item.  An inner array is built in a temporary
of a block of its own, and the same name serves for all arrays at one depth.  Executing the code leaves
the literal in the variable, however deep it is:

* `Literal.value` — the value that a literal stands for;
* `Filling` — an array that is being filled, in scopes where the temporaries of its items are free;
* `executes_pushItem`, `executes_pushItems` — the code of an item appends its value and does nothing
  else, as an invariant of the whole literal;
* `array_rebuilt` — the lines that initialise a variable with an array build that array.
-/

namespace NativeMethod

variable {ν : Type}

/-! ## Literals as values -/

namespace Literal

mutual

/-- The value that a literal stands for, if it is known what scalars stand for. -/
def value (meaning : BoxedScalar → ν) : Literal → Value ν
  | null => .scalar (meaning .null)
  | bool v => .scalar (meaning (.bool v))
  | int v => .scalar (meaning (.int v))
  | char b => .scalar (meaning (.char b))
  | double x => .scalar (meaning (.double x))
  | string s => .scalar (meaning (.string s))
  | array items => .array (values meaning items)

def values (meaning : BoxedScalar → ν) : List Literal → List (Value ν)
  | [] => []
  | item :: items => value meaning item :: values meaning items

end

mutual

/-- The scalars in a literal, at all depths. -/
def scalars : Literal → List BoxedScalar
  | null => [.null]
  | bool v => [.bool v]
  | int v => [.int v]
  | char b => [.char b]
  | double x => [.double x]
  | string s => [.string s]
  | array items => scalarsOf items

def scalarsOf : List Literal → List BoxedScalar
  | [] => []
  | item :: items => scalars item ++ scalarsOf items

end

mutual

theorem value_congr {f g : BoxedScalar → ν} :
    ∀ l : Literal, (∀ b ∈ l.scalars, f b = g b) → l.value f = l.value g
  | .null, same => by simp [value, same .null (by simp [scalars])]
  | .bool v, same => by simp [value, same (.bool v) (by simp [scalars])]
  | .int v, same => by simp [value, same (.int v) (by simp [scalars])]
  | .char b, same => by simp [value, same (.char b) (by simp [scalars])]
  | .double x, same => by simp [value, same (.double x) (by simp [scalars])]
  | .string s, same => by simp [value, same (.string s) (by simp [scalars])]
  | .array items, same => congrArg Value.array (values_congr items same)

theorem values_congr {f g : BoxedScalar → ν} :
    ∀ items : List Literal, (∀ b ∈ scalarsOf items, f b = g b) → values f items = values g items
  | [], _ => rfl
  | item :: items, same => by
      have hitem := value_congr item fun b hb => same b (List.mem_append_left _ hb)
      have hitems := values_congr items fun b hb => same b (List.mem_append_right _ hb)
      rw [values, values, hitem, hitems]

end

end Literal

/-! ## Single commands -/

namespace Command

variable {denote : String → Option String → ν} {s : Scopes ν} {target : Operand}
  {xs : List (Value ν)}

/-- Arrays at different depths have different temporaries. -/
theorem temporaryAt_inj {name : String} {d k : Nat} (h : temporaryAt name d = temporaryAt name k) :
    d = k := by
  have hdigits : d.repr = k.repr := (String.append_right_inj _).1 h
  rw [Nat.repr_eq_ofList_toDigits, Nat.repr_eq_ofList_toDigits] at hdigits
  have hread := congrArg (Nat.ofDigitChars 10 · 0) (String.ofList_injective hdigits)
  simpa using hread

theorem temporaryAt_ne (name : String) (d : Nat) : temporaryAt name d ≠ name := by
  intro h
  have hlength := congrArg (·.toList.length) h
  simp [temporaryAt] at hlength

/-- What an appended scalar denotes. -/
def denoted (denote : String → Option String → ν) (b : BoxedScalar) : ν :=
  denote b.appender b.appendArgument?

/-- The functions that append a scalar. -/
def appenders : List String :=
  ["add_next_index_null", "add_next_index_bool", "add_next_index_long", "add_next_index_double",
    "add_next_index_stringl"]

theorem appender_mem (b : BoxedScalar) : b.appender ∈ appenders := by
  cases b <;> simp [BoxedScalar.appender, appenders]

theorem result?_of_mem_appenders {function : String} (h : function ∈ appenders)
    (argument? : Option String) (content : Option (Value ν)) :
    Statement.result? denote s function argument? content =
      (content.bind (Value.scalar (denote function argument?)).push?).map some := by
  have hother : ∀ f ∈ appenders, f ≠ "ZEPHIR_INIT_VAR" ∧
      ¬ (f = "array_init" ∨ f = "zephir_create_array") ∧ f ≠ "add_next_index_zval" ∧
        "add_next_index_".toList.isPrefixOf f.toList = true := by
    decide
  obtain ⟨hallocates, hempties, htakes, happends⟩ := hother function h
  simp only [Statement.result?, hallocates, hempties, htakes, happends, if_false, if_true]

theorem exec_push (found : s.find? target.name = some ⟨target.isAddress, some (.array xs)⟩)
    (b : BoxedScalar) :
    (push target b).statement.exec denote s =
      some (s.assign target.name (some (.array (xs ++ [.scalar (denoted denote b)])))) := by
  have hcall : (push target b).statement = .call b.appender target b.appendArgument? := rfl
  simp [hcall, Statement.exec, found, result?_of_mem_appenders (appender_mem b), Value.push?, denoted]

theorem exec_create {content : Option (Value ν)}
    (found : s.find? target.name = some ⟨target.isAddress, content⟩) (items : List Literal) :
    (create target items).statement.exec denote s =
      some (s.assign target.name (some (.array []))) := by
  have hempties (function : String) (argument? : Option String)
      (h : function = "array_init" ∨ function = "zephir_create_array") :
      (Statement.call function target argument?).exec denote s =
        some (s.assign target.name (some (.array []))) := by
    have hother : function ≠ "ZEPHIR_INIT_VAR" := by
      rcases h with rfl | rfl <;> decide
    simp [Statement.exec, found, Statement.result?, hother, h]
  unfold create
  split
  · exact hempties _ _ (.inl rfl)
  · exact hempties _ _ (.inr rfl)

theorem ofText_address (name : String) :
    Operand.ofText (Operand.text ⟨name, true⟩) = ⟨name, true⟩ := by
  simp [Operand.ofText, Operand.text]

theorem exec_pushTemporary {temporary : String} {element : Value ν}
    (found : s.find? target.name = some ⟨target.isAddress, some (.array xs)⟩)
    (built : s.find? temporary = some ⟨true, some element⟩) :
    (pushTemporary target temporary).statement.exec denote s =
      some (s.assign target.name (some (.array (xs ++ [element])))) := by
  have hcall : (pushTemporary target temporary).statement =
      .call "add_next_index_zval" target (some (Operand.text ⟨temporary, true⟩)) := rfl
  simp [hcall, Statement.exec, found, Statement.result?, ofText_address, Scopes.value?, built,
    Value.push?]

end Command

/-! ## Arrays that are being filled -/

/-- How a statement stands in the code for a variable: the temporaries in scope are different from each
other and from the variable, the statement is about the variable or one of them, and C reads it as
intended if the variable has a proper name. -/
structure Tidy (name : String) (s : Scopes ν) (st : Statement) : Prop where
  distinct : (name :: s.temporaries).Nodup
  reachable : ∀ o ∈ st.operands, o.name = name ∨ o.name ∈ s.temporaries
  named : IsIdentifier name → st.WellNamed

/-- The target holds an array that so far has the given elements.  It is the variable of the name or a
temporary of it, and the temporaries from a depth on are free. -/
structure Filling (name : String) (depth : Nat) (target : Operand) (xs : List (Value ν))
    (s : Scopes ν) : Prop where
  found : s.find? target.name = some ⟨target.isAddress, some (.array xs)⟩
  reachable : target.name = name ∨ target.name ∈ s.temporaries
  named : IsIdentifier name → IsIdentifier target.name
  distinct : (name :: s.temporaries).Nodup
  free : ∀ k, depth ≤ k → Command.temporaryAt name k ∉ s.temporaries

/-- The scopes inside a block that declares one temporary. -/
def Scopes.within (temporary : String) (content : Option (Value ν)) (s : Scopes ν) : Scopes ν :=
  .block [(temporary, ⟨true, content⟩)] s

namespace Scopes

variable {t x : String} {content content' : Option (Value ν)} {s : Scopes ν}

theorem find?_within_self : (s.within t content).find? t = some ⟨true, content⟩ := by
  simp [within, find?]

theorem find?_within_of_ne (h : x ≠ t) : (s.within t content).find? x = s.find? x := by
  have hne : (x == t) = false := by simpa using h
  simp [within, find?, List.lookup_cons, hne]

theorem assign_within_self :
    (s.within t content).assign t content' = s.within t content' := by
  simp [within, assign, Scope.assign]

theorem assign_within_of_ne (h : x ≠ t) :
    (s.within t content).assign x content' = (s.assign x content').within t content := by
  have hne : (x == t) = false := by simpa using h
  simp [within, assign, List.lookup_cons, hne]

theorem temporaries_within : (s.within t content).temporaries = t :: s.temporaries := rfl

end Scopes

theorem Command.isIdentifier_temporaryAt {name : String} (h : IsIdentifier name) (depth : Nat) :
    IsIdentifier (temporaryAt name depth) := by
  have hnested : IsIdentifier (name ++ "_nested") := h.append (by simp [isIdentifierChar])
  apply hnested.append
  intro x hx
  have hdigits : x ∈ Nat.toDigits 10 depth := by
    simpa [Nat.toString_eq_ofList_toDigits] using hx
  have hdigit := Nat.isDigit_of_mem_toDigits (by decide) (by decide) hdigits
  simp [isIdentifierChar, Char.isAlphanum, hdigit]

namespace Filling

open Command (temporaryAt)

variable {name : String} {depth : Nat} {target : Operand} {xs : List (Value ν)} {s : Scopes ν}

/-- The target gets another array. -/
theorem assign (h : Filling name depth target xs s) (ys : List (Value ν)) :
    Filling name depth target ys (s.assign target.name (some (.array ys))) where
  found := by simp [Scopes.find?_assign, h.found]
  reachable := by simpa only [Scopes.temporaries_assign] using h.reachable
  named := h.named
  distinct := by simpa only [Scopes.temporaries_assign] using h.distinct
  free := by simpa only [Scopes.temporaries_assign] using h.free

/-- The target is none of the temporaries that are free. -/
theorem target_ne (h : Filling name depth target xs s) : target.name ≠ temporaryAt name depth := by
  intro heq
  rcases h.reachable with hname | hmem
  · exact Command.temporaryAt_ne name depth (heq.symm.trans hname)
  · exact h.free depth (Nat.le_refl depth) (heq ▸ hmem)

theorem distinct_within (h : Filling name depth target xs s) (content : Option (Value ν)) :
    (name :: (s.within (temporaryAt name depth) content).temporaries).Nodup := by
  have hfree := h.free depth (Nat.le_refl depth)
  have hne := Command.temporaryAt_ne name depth
  have hdistinct := h.distinct
  simp only [Scopes.temporaries_within, List.nodup_cons, List.mem_cons, not_or] at hdistinct ⊢
  exact ⟨⟨hne.symm, hdistinct.1⟩, hfree, hdistinct.2⟩

/-- In its block, the temporary of the depth can be filled as well. -/
theorem inner (h : Filling name depth target xs s) (ys : List (Value ν)) :
    Filling name (depth + 1) ⟨temporaryAt name depth, true⟩ ys
      (s.within (temporaryAt name depth) (some (.array ys))) where
  found := Scopes.find?_within_self
  reachable := .inr List.mem_cons_self
  named hname := Command.isIdentifier_temporaryAt hname depth
  distinct := h.distinct_within _
  free k hk := by
    have hother : temporaryAt name k ≠ temporaryAt name depth := by
      intro heq
      have hsame := Command.temporaryAt_inj heq
      omega
    have hfree := h.free k (by omega)
    simp [Scopes.temporaries_within, hother, hfree]

end Filling

/-! ## The code of items -/

namespace Command

variable {denote : String → Option String → ν} {name : String} {depth : Nat} {target : Operand}
  {xs : List (Value ν)} {s : Scopes ν}

theorem operands_push (target : Operand) (b : BoxedScalar) :
    (push target b).statement.operands = [target] := by
  have hother : ∀ f ∈ appenders, f ≠ "add_next_index_zval" := by decide
  have hcall : (push target b).statement = .call b.appender target b.appendArgument? := rfl
  simp [hcall, Statement.operands, hother _ (appender_mem b)]

theorem operands_create (target : Operand) (items : List Literal) :
    (create target items).statement.operands = [target] := by
  unfold create
  split <;> rfl

theorem operands_pushTemporary (target : Operand) (temporary : String) :
    (pushTemporary target temporary).statement.operands = [target, ⟨temporary, true⟩] := by
  have hcall : (pushTemporary target temporary).statement =
      .call "add_next_index_zval" target (some (Operand.text ⟨temporary, true⟩)) := rfl
  simp [hcall, Statement.operands, ofText_address]

theorem wellNamed_create (named : IsIdentifier target.name) (items : List Literal) :
    (create target items).statement.WellNamed := by
  unfold create
  split
  · exact ⟨by decide, named⟩
  · exact ⟨by decide, named⟩

theorem wellNamed_push (named : IsIdentifier target.name) (b : BoxedScalar) :
    (push target b).statement.WellNamed := by
  have hfunctions : ∀ f ∈ appenders, IsIdentifier f := by decide
  exact ⟨hfunctions _ (appender_mem b), named⟩

/-- A scalar is appended by one statement. -/
theorem executes_push (h : Filling name depth target xs s) (b : BoxedScalar) :
    Executes denote (Tidy name) [(push target b).statement] s
      (s.assign target.name (some (.array (xs ++ [.scalar (denoted denote b)])))) := by
  have htidy : Tidy name s (push target b).statement :=
    { distinct := h.distinct
      reachable := by simpa [operands_push] using h.reachable
      named := fun hname => wellNamed_push (h.named hname) b }
  exact .single htidy (exec_push h.found b)

/-- An array is appended by building it in the temporary of the depth, which is gone in the end. -/
theorem executes_block (h : Filling name depth target xs s) (items : List Literal)
    {elements : List (Value ν)} {inside : List Statement}
    (fills : Executes denote (Tidy name) inside
      (s.within (temporaryAt name depth) (some (.array [])))
      (s.within (temporaryAt name depth) (some (.array elements)))) :
    Executes denote (Tidy name)
      ([.openBlock, .declare (temporaryAt name depth),
          (create ⟨temporaryAt name depth, true⟩ items).statement] ++ inside ++
        [(pushTemporary target (temporaryAt name depth)).statement, .closeBlock]) s
      (s.assign target.name (some (.array (xs ++ [.array elements])))) := by
  let temporary := temporaryAt name depth
  let result : Scopes ν := s.assign target.name (some (.array (xs ++ [.array elements])))
  have hother : target.name ≠ temporary := h.target_ne
  have hidentifier (hname : IsIdentifier name) : IsIdentifier temporary :=
    isIdentifier_temporaryAt hname depth
  have hopens : Executes denote (Tidy name) [.openBlock] s (.block [] s) :=
    .single ⟨h.distinct, by simp [Statement.operands], fun _ => trivial⟩ rfl
  have hdeclares : Executes denote (Tidy name) [.declare temporary] (.block [] s)
      (s.within temporary none) :=
    .single ⟨h.distinct, by simp [Statement.operands], hidentifier⟩ rfl
  have hcreates : Executes denote (Tidy name) [(create ⟨temporary, true⟩ items).statement]
      (s.within temporary none) (s.within temporary (some (.array []))) := by
    have htidy : Tidy name (s.within temporary none) (create ⟨temporary, true⟩ items).statement :=
      { distinct := h.distinct_within none
        reachable := by simp [operands_create, Scopes.temporaries_within]
        named := fun hname => wellNamed_create (hidentifier hname) items }
    refine .single htidy ?_
    rw [exec_create Scopes.find?_within_self, Scopes.assign_within_self]
  have htakes : Executes denote (Tidy name) [(pushTemporary target temporary).statement]
      (s.within temporary (some (.array elements)))
      (result.within temporary (some (.array elements))) := by
    refine .single ⟨h.distinct_within _, ?_, fun hname => ⟨by decide, h.named hname⟩⟩ ?_
    · intro o ho
      rw [Scopes.temporaries_within]
      rcases List.mem_pair.1 (operands_pushTemporary target temporary ▸ ho) with rfl | rfl
      · exact h.reachable.imp_right (List.mem_cons_of_mem _)
      · exact .inr List.mem_cons_self
    · -- the block hides nothing but the temporary, so the target is found outside
      have hfound : (s.within temporary (some (.array elements))).find? target.name =
          some ⟨target.isAddress, some (.array xs)⟩ :=
        (Scopes.find?_within_of_ne hother).trans h.found
      rw [exec_pushTemporary hfound Scopes.find?_within_self, Scopes.assign_within_of_ne hother]
  have hcloses : Executes denote (Tidy name) [.closeBlock]
      (result.within temporary (some (.array elements))) result :=
    .single ⟨(h.assign _).distinct_within _, by simp [Statement.operands], fun _ => trivial⟩ rfl
  have hwhole := (((hopens.append hdeclares).append hcreates).append fills).append
    (htakes.append hcloses)
  simpa using hwhole

-- The induction is on the literal.  The depth grows with every array around the items, so that the
-- temporaries from there on are those that no open block has.
mutual

/-- The code of an item appends the value of the item to the array in the target. -/
theorem executes_pushItem (denote : String → Option String → ν) (depth : Nat) (target : Operand) :
    ∀ (item : Literal) {xs : List (Value ν)} {s : Scopes ν}, Filling name depth target xs s →
      Executes denote (Tidy name) ((pushItem name depth target item).map statement) s
        (s.assign target.name (some (.array (xs ++ [item.value (denoted denote)]))))
  | .null, _, _, h => executes_push h .null
  | .bool v, _, _, h => executes_push h (.bool v)
  | .int v, _, _, h => executes_push h (.int v)
  | .char b, _, _, h => executes_push h (.char b)
  | .double x, _, _, h => executes_push h (.double x)
  | .string s, _, _, h => executes_push h (.string s)
  | .array items, xs, s, h => by
      let temporary : Operand := ⟨temporaryAt name depth, true⟩
      have hitems := executes_pushItems denote (depth + 1) temporary items (h.inner [])
      rw [Scopes.assign_within_self] at hitems
      have hcode : (pushItem name depth target (.array items)).map statement =
          [.openBlock, .declare (temporaryAt name depth),
              (create ⟨temporaryAt name depth, true⟩ items).statement] ++
            (pushItems name (depth + 1) ⟨temporaryAt name depth, true⟩ items).map statement ++
            [(pushTemporary target (temporaryAt name depth)).statement, .closeBlock] := by
        simp only [pushItem, List.map_append]
        rfl
      rw [hcode]
      exact executes_block h items hitems

theorem executes_pushItems (denote : String → Option String → ν) (depth : Nat) (target : Operand) :
    ∀ (items : List Literal) {xs : List (Value ν)} {s : Scopes ν},
      Filling name depth target xs s →
      Executes denote (Tidy name) ((pushItems name depth target items).map statement) s
        (s.assign target.name (some (.array (xs ++ Literal.values (denoted denote) items))))
  | [], xs, s, h => by
      have hnothing : xs ++ Literal.values (denoted denote) [] = xs := List.append_nil xs
      have hkept : s.assign target.name (some (.array xs)) = s := Scopes.assign_of_find? h.found
      rw [hnothing, hkept]
      exact .done s
  | item :: items, xs, s, h => by
      have hitem := executes_pushItem denote depth target item h
      -- the other items find the array with the first one in it
      have hnext := h.assign (xs ++ [item.value (denoted denote)])
      have hitems := executes_pushItems denote depth target items hnext
      rw [Scopes.assign_assign] at hitems
      have hboth := hitem.append hitems
      simpa [pushItems, Literal.values] using hboth

end

end Command

/-! ## Whole arrays -/

namespace Command

variable {v : Variable} {frame : Scope ν} {old : Option (Value ν)}

/-- The statements that allocate a variable and make it an array of the items. -/
def arrayStatements (v : Variable) (items : List Literal) : List Statement :=
  .call "ZEPHIR_INIT_VAR" v.operand none :: (buildArray v items).map statement

/-- A variable of the function is allocated, and then has no content. -/
theorem executes_allocation (denote : String → Option String → ν)
    (declared : frame.lookup v.name = some ⟨v.isLocalOnly, old⟩) :
    Executes denote (Tidy v.name) [.call "ZEPHIR_INIT_VAR" v.operand none] (.function frame)
      (.function (frame.assign v.name none)) := by
  have hfound : (Scopes.function frame).find? v.name = some ⟨v.isLocalOnly, old⟩ := declared
  have htidy : Tidy v.name (.function frame) (.call "ZEPHIR_INIT_VAR" v.operand none) :=
    { distinct := by simp [Scopes.temporaries]
      reachable := by simp [Statement.operands, Variable.operand]
      named := fun hname => ⟨by decide, hname⟩ }
  refine .single htidy ?_
  simp [Statement.exec, Variable.operand, hfound, Statement.result?, Scopes.assign]

theorem executes_arrayStatements (denote : String → Option String → ν)
    (declared : frame.lookup v.name = some ⟨v.isLocalOnly, old⟩)
    (items : List Literal) :
    Executes denote (Tidy v.name) (arrayStatements v items) (.function frame)
      (.function (frame.assign v.name
        (some (.array (Literal.values (denoted denote) items))))) := by
  -- three runs that meet: the allocation, the empty array, and the filling of it
  let start : Scopes ν := .function frame
  have hdistinct (s : Scopes ν) (h : s.temporaries = []) : (v.name :: s.temporaries).Nodup := by
    simp [h]
  have hfound : start.find? v.name = some ⟨v.isLocalOnly, old⟩ := declared
  have hallocates : Executes denote (Tidy v.name) [.call "ZEPHIR_INIT_VAR" v.operand none] start
      (start.assign v.name none) := executes_allocation denote declared
  have hempty : (start.assign v.name none).find? v.name = some ⟨v.isLocalOnly, none⟩ := by
    simp [Scopes.find?_assign, hfound]
  have hcreates : Executes denote (Tidy v.name) [(create v.operand items).statement]
      (start.assign v.name none) (start.assign v.name (some (.array []))) := by
    refine .single ⟨hdistinct _ rfl, ?_, fun hname => wellNamed_create hname items⟩ ?_
    · simp [operands_create, Variable.operand]
    · calc
        (create v.operand items).statement.exec denote (start.assign v.name none)
            = some ((start.assign v.name none).assign v.name (some (.array []))) :=
              exec_create hempty items
        _ = some (start.assign v.name (some (.array []))) := congrArg some Scopes.assign_assign
  have hfilling : Filling v.name 1 v.operand [] (start.assign v.name (some (.array []))) :=
    { found := by simp [Scopes.find?_assign, Variable.operand, hfound]
      reachable := .inl rfl
      named := id
      distinct := hdistinct _ rfl
      free := fun _ _ => List.not_mem_nil }
  have hitems := executes_pushItems denote 1 v.operand items hfilling
  have hassign : (start.assign v.name (some (.array []))).assign v.operand.name
      (some (.array ([] ++ Literal.values (denoted denote) items))) =
        start.assign v.name (some (.array (Literal.values (denoted denote) items))) :=
    Scopes.assign_assign
  rw [hassign] at hitems
  exact hallocates.append (hcreates.append hitems)

end Command

end NativeMethod
