import NativeMethod.Proofs.ArrayBuilding
import NativeMethod.Proofs.Conversions

/-!
# StringDefaults — a string in a variable and in an array

A string that is the default of a variable is set without its length, so that the runtime takes it to end
at its first null character.  A string in an array is appended with its length.

* `Variable.Receives` — the code for a literal leaves a value in its variable, and does nothing else;
* `string_whole_iff_free_of_nul` — strings in arrays are always whole, and other strings exactly if there
  is no null character in them.
-/

namespace NativeMethod

open Quoted

/-! ## Scalars that are set -/

variable {ν : Type}

namespace Command

variable {denote : String → Option String → ν} {s : Scopes ν} {target : Operand}
  {v : Variable} {frame : Scope ν} {old : Option (Value ν)}

/-- The functions that set a boxed value to a scalar. -/
def setters : List String :=
  ["ZVAL_NULL", "ZVAL_BOOL", "ZVAL_LONG", "ZVAL_DOUBLE", "ZVAL_STRING"]

theorem setter_mem (b : BoxedScalar) : b.setter ∈ setters := by
  cases b <;> simp [BoxedScalar.setter, setters]

theorem result?_of_mem_setters {function : String} (h : function ∈ setters)
    (argument? : Option String) (content : Option (Value ν)) :
    Statement.result? denote s function argument? content =
      some (some (.scalar (denote function argument?))) := by
  have hother : ∀ f ∈ setters, f ≠ "ZEPHIR_INIT_VAR" ∧
      ¬ (f = "array_init" ∨ f = "zephir_create_array") ∧ f ≠ "add_next_index_zval" ∧
        "add_next_index_".toList.isPrefixOf f.toList = false ∧
          "ZVAL_".toList.isPrefixOf f.toList = true := by
    decide
  obtain ⟨hallocates, hempties, htakes, happends, hsets⟩ := hother function h
  simp only [Statement.result?, hallocates, hempties, htakes, happends, hsets, Bool.false_eq_true,
    if_false, if_true]

theorem exec_set {content : Option (Value ν)}
    (found : s.find? target.name = some ⟨target.isAddress, content⟩) (b : BoxedScalar) :
    (set target b).statement.exec denote s =
      some (s.assign target.name (some (.scalar (denote b.setter b.setArgument?)))) := by
  have hcall : (set target b).statement = .call b.setter target b.setArgument? := rfl
  simp [hcall, Statement.exec, found, result?_of_mem_setters (setter_mem b)]

/-- A scalar is set by one statement behind the one that allocates. -/
theorem executes_setStatements (denote : String → Option String → ν)
    (declared : frame.lookup v.name = some ⟨v.isLocalOnly, old⟩) (b : BoxedScalar) :
    Executes denote (Tidy v.name) (buildStatements v.operand [.set v.operand b]) (.function frame)
      (.function (frame.assign v.name (some (.scalar (denote b.setter b.setArgument?))))) := by
  -- setting does not look at what was there, so it does not matter that nothing is
  let allocated : Scopes ν := .function (frame.assign v.name none)
  have hallocates := executes_allocation denote declared
  have hempty : allocated.find? v.name = some ⟨v.isLocalOnly, none⟩ := by
    simp [allocated, Scopes.find?, Scope.lookup_assign, declared]
  have htidy : Tidy v.name allocated (set v.operand b).statement := by
    have hfunctions : ∀ f ∈ setters, IsIdentifier f ∧ f ≠ "add_next_index_zval" := by decide
    have hfunction := hfunctions _ (setter_mem b)
    exact
      { distinct := by simp [allocated, Scopes.temporaries]
        reachable := by simp [statement, Statement.operands, hfunction.2, Variable.operand]
        named := fun hname => ⟨hfunction.1, hname⟩ }
  have hsets : Executes denote (Tidy v.name) [(set v.operand b).statement] allocated
      (.function (frame.assign v.name (some (.scalar (denote b.setter b.setArgument?))))) := by
    refine .single htidy ?_
    calc
      (set v.operand b).statement.exec denote allocated
          = some (allocated.assign v.name (some (.scalar (denote b.setter b.setArgument?)))) :=
            exec_set hempty b
      _ = some (.function (frame.assign v.name
            (some (.scalar (denote b.setter b.setArgument?))))) := by
          simp only [allocated, Scopes.assign, Scope.assign_assign]
  exact hallocates.append hsets

end Command

/-! ## What a variable receives -/

namespace Variable

variable {denote : String → Option String → ν} {v : Variable} {frame : Scope ν} {l : Literal}
  {x y : Value ν} {old : Option (Value ν)} {cs : List Command}

/-- Whatever is shared, the code for a literal builds a value in the variable.  C reads its lines as the
statements of the commands if the variable has a proper name.  Executing these in a function with the
given variables leaves the value in the variable, and nothing else changes. -/
def Receives (v : Variable) (denote : String → Option String → ν) (frame : Scope ν) (l : Literal)
    (x : Value ν) : Prop :=
  ∀ constants e span, ∃ cs,
    v.initialization constants e span l = .ok (.build v.operand cs) ∧
      (IsIdentifier v.name → (Initialization.build v.operand cs).lines.mapM Statement.read? =
        some (Command.buildStatements v.operand cs)) ∧
      Statement.execAll denote (Command.buildStatements v.operand cs) (.function frame) =
        some (.function (frame.assign v.name (some x)))

theorem receives_of_executes
    (code : ∀ constants e, v.initialization? constants e l = some (.build v.operand cs))
    (executes : Executes denote (Tidy v.name) (Command.buildStatements v.operand cs)
      (.function frame) (.function (frame.assign v.name (some x)))) :
    v.Receives denote frame l x := by
  intro constants e span
  refine ⟨cs, initialization_eq_ok_iff.2 (code constants e), ?_, executes.execAll_eq⟩
  intro hname
  apply Statement.mapM_read? (Command.lines_buildStatements v.operand cs)
  intro st hst
  -- a statement that is executed is tidy where it stands, and thereby well named
  obtain ⟨before, after, hsplit⟩ := List.append_of_mem hst
  obtain ⟨s, _, htidy⟩ := executes.meets_of_eq hsplit
  exact htidy.named hname

/-- A variable of the function receives one value. -/
theorem Receives.unique (declared : frame.lookup v.name = some ⟨v.isLocalOnly, old⟩)
    (h : v.Receives denote frame l x) (h' : v.Receives denote frame l y) : x = y := by
  obtain ⟨cs, hcode, _, hexec⟩ := h .standard (.exact 0) .nowhere
  obtain ⟨cs', hcode', _, hexec'⟩ := h' .standard (.exact 0) .nowhere
  -- the commands are the same, and so is what their statements leave
  have hcommands : cs = cs' := by
    rw [hcode] at hcode'
    cases hcode'
    rfl
  have hframes : frame.assign v.name (some x) = frame.assign v.name (some y) := by
    rw [hcommands, hexec'] at hexec
    exact (Scopes.function.inj (Option.some.inj hexec)).symm
  have hcells := congrArg (List.lookup v.name) hframes
  simpa [Scope.lookup_assign, declared] using hcells

theorem initialization?_string {constants : SharedConstants} {e : Estimate}
    (takesStrings : v.type = .string ∨ v.type.holdsAny = true) (s : String) :
    v.initialization? constants e (.string s) = some (v.buildScalar (.string s)) := by
  rcases takesStrings with htype | hany
  · unfold initialization?
    rw [htype]
  · exact initialization?_of_holdsAny hany

theorem receives_string (declared : frame.lookup v.name = some ⟨v.isLocalOnly, old⟩)
    (takesStrings : v.type = .string ∨ v.type.holdsAny = true) (s : String) :
    v.Receives denote frame (.string s) (.scalar (denote "ZVAL_STRING" (some (string s)))) := by
  have hexecutes := Command.executes_setStatements denote declared (.string s)
  exact receives_of_executes (fun _ _ => initialization?_string takesStrings s) hexecutes

theorem receives_array (declared : frame.lookup v.name = some ⟨v.isLocalOnly, old⟩)
    (takesArrays : v.type = .array ∨ v.type = .generic ∨ v.type = .mixed) (items : List Literal) :
    v.Receives denote frame (.array items)
      ((Literal.array items).value (Command.denoted denote)) := by
  have hexecutes := Command.executes_arrayStatements denote declared items
  exact receives_of_executes (fun constants e => initialization?_array takesArrays constants e items)
    hexecutes

end Variable

/-! ## Strings -/

section Strings

variable {literal : String → List UInt8} {v : Variable} {frame : Scope Payload}
  {old : Option (Value Payload)}

/-- A default that is a string arrives up to its first null character. -/
theorem Variable.receives_upToNul (declared : frame.lookup v.name = some ⟨v.isLocalOnly, old⟩)
    (takesStrings : v.type = .string ∨ v.type.holdsAny = true) {s : String}
    (denotes : literal (string s) = bytesOf s) :
    v.Receives (payloadOf literal) frame (.string s) (.scalar (.bytes (upToNul (bytesOf s)))) := by
  rw [← BoxedScalar.payloadOf_set_string denotes]
  exact receives_string declared takesStrings s

/-- The strings in an array arrive as they are. -/
theorem Variable.receives_items (declared : frame.lookup v.name = some ⟨v.isLocalOnly, old⟩)
    (takesArrays : v.type = .array ∨ v.type = .generic ∨ v.type = .mixed) {items : List Literal}
    (denotes : ∀ s, .string s ∈ (Literal.array items).scalars → literal (string s) = bytesOf s) :
    v.Receives (payloadOf literal) frame (.array items)
      ((Literal.array items).value BoxedScalar.payload) := by
  have hpayloads : (Literal.array items).value (Command.denoted (payloadOf literal)) =
      (Literal.array items).value BoxedScalar.payload := by
    apply Literal.value_congr
    intro b hb
    apply BoxedScalar.payloadOf_append
    intro s hs
    exact denotes s (hs ▸ hb)
  rw [← hpayloads]
  exact receives_array declared takesArrays items

theorem upToNul_bytesOf_eq_iff (s : String) : upToNul (bytesOf s) = bytesOf s ↔ '\x00' ∉ s.toList := by
  rw [upToNul_eq_self_iff, zero_mem_bytesOf_iff]

end Strings

/-- If the literals of strings denote their bytes, then a variable with a string as its default ends up
with the bytes in front of the first null character.  These are all bytes of the string exactly if there
is no null character in it.  An array that is built in a variable has all bytes of all strings in it, at
every depth, whatever they are. -/
theorem string_whole_iff_free_of_nul (literal : String → List UInt8) :
    (∀ (v : Variable) (s : String) (frame : Scope Payload) (old : Option (Value Payload)),
      v.type = .string ∨ v.type = .generic ∨ v.type = .mixed →
      frame.lookup v.name = some ⟨v.isLocalOnly, old⟩ → literal (string s) = bytesOf s →
        v.Receives (payloadOf literal) frame (.string s)
            (.scalar (.bytes (upToNul (bytesOf s)))) ∧
          (v.Receives (payloadOf literal) frame (.string s)
              ((Literal.string s).value BoxedScalar.payload) ↔
            '\x00' ∉ s.toList)) ∧
      ∀ (w : Variable) (items : List Literal) (frame : Scope Payload) (old : Option (Value Payload)),
        w.type = .array ∨ w.type = .generic ∨ w.type = .mixed →
        frame.lookup w.name = some ⟨w.isLocalOnly, old⟩ →
        (∀ s, .string s ∈ (Literal.array items).scalars → literal (string s) = bytesOf s) →
          w.Receives (payloadOf literal) frame (.array items)
            ((Literal.array items).value BoxedScalar.payload) := by
  constructor
  · intro v s frame old htype declared denotes
    have htakes : v.type = .string ∨ v.type.holdsAny = true := by
      simpa [StorageType.holdsAny] using htype
    have hreceives := Variable.receives_upToNul declared htakes denotes
    refine ⟨hreceives, ?_⟩
    rw [← upToNul_bytesOf_eq_iff]
    constructor
    · -- a variable receives one value only, which is then both cut off and whole
      intro hwhole
      exact Payload.bytes.inj (Value.scalar.inj (hreceives.unique declared hwhole))
    · intro hsame
      rw [hsame] at hreceives
      exact hreceives
  · intro w items frame old takesArrays declared denotes
    exact Variable.receives_items declared takesArrays denotes

/-- A string with a null character in the middle is cut off in a variable, and whole in an array in an
array. -/
theorem string_cut_in_variable_and_whole_in_array :
    Variable.Receives { name := "v", type := .string } (payloadOf bytesRead) [("v", ⟨false, none⟩)]
        (.string "a\x00z") (.scalar (.bytes [0x61])) ∧
      Variable.Receives { name := "w", type := .mixed, flags := { isLocalOnly := true } }
        (payloadOf bytesRead) [("w", ⟨true, none⟩)] (.array [.array [.string "a\x00z"]])
        (.array [.array [.scalar (.bytes [0x61, 0, 0x7a])]]) := by
  have hread : bytesRead (string "a\x00z") = bytesOf "a\x00z" := bytesRead_string (by decide)
  have hstrings := string_whole_iff_free_of_nul bytesRead
  constructor
  · exact (hstrings.1 _ _ _ none (.inl rfl) rfl hread).1
  · refine hstrings.2 _ _ _ none (.inr (.inr rfl)) rfl ?_
    intro s hs
    exact bytesRead_of_mem_singleton (by decide) hs

/-- The two ways to give a string disagree about one with a null character in it. -/
theorem not_same_of_nul :
    ∃ (v w : Variable) (frame : Scope Payload) (s : String) (inVariable inArray : List UInt8),
      v.type = .string ∧ w.type = .array ∧ bytesRead (string s) = bytesOf s ∧
        v.Receives (payloadOf bytesRead) frame (.string s) (.scalar (.bytes inVariable)) ∧
        w.Receives (payloadOf bytesRead) frame (.array [.string s])
          (.array [.scalar (.bytes inArray)]) ∧
        inArray = bytesOf s ∧ inVariable ≠ inArray := by
  have hread : bytesRead (string "a\x00z") = bytesOf "a\x00z" := bytesRead_string (by decide)
  have hvariable : Variable.Receives { name := "v", type := .string } (payloadOf bytesRead)
      [("v", ⟨false, none⟩), ("w", ⟨false, none⟩)] (.string "a\x00z")
        (.scalar (.bytes (upToNul (bytesOf "a\x00z")))) :=
    Variable.receives_upToNul rfl (.inl rfl) hread
  have harray : Variable.Receives { name := "w", type := .array } (payloadOf bytesRead)
      [("v", ⟨false, none⟩), ("w", ⟨false, none⟩)] (.array [.string "a\x00z"])
        (.array [.scalar (.bytes (bytesOf "a\x00z"))]) :=
    Variable.receives_items rfl (.inl rfl) fun s hs => bytesRead_of_mem_singleton (by decide) hs
  refine ⟨_, _, _, _, _, _, rfl, rfl, hread, hvariable, harray, rfl, ?_⟩
  decide

end NativeMethod
