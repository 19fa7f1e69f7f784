import NativeMethod.Proofs.Receipts

/-!
# BindingSteps — binding operation by operation

A parameter is bound in many operations.  The table declares each variable and then changes it, the
local is looked up for its default and for its separation, and a slot needs a tag and a conversion; any
of these can fail, and whatever was done before stays.  `Parameter.bind` does all of it at once:

* `Parameter.bindInSteps` — the operations one after the other, each with its own failure;
* `SymbolTable.applyAll_behind` — operations on new names do not see the table in front of them;
* `run_bindInSteps`, `run_mapM_bindInSteps` — once a parameter has passed its checks no operation but
  the synthesis of the default fails, so both ways of binding agree on results and states.
-/

namespace NativeMethod

open SymbolTable (Change)

/-! ## Computations that may fail -/

/-- A computation on the state of a method that may fail.  What was done before the failure stays. -/
abbrev Task := ExceptT CompileError (StateM MethodState)

namespace Task

variable {α β : Type}

/-- What a task gives, and the state it leaves. -/
def run (task : Task α) (s : MethodState) : Except CompileError α × MethodState :=
  StateT.run (ExceptT.run task) s

def ofExcept (x : Except CompileError α) : Task α :=
  match x with
  | .ok a => pure a
  | .error e => throw e

/-- A value that has to be there. -/
def require (x : Option α) (e : CompileError) : Task α :=
  match x with
  | some a => pure a
  | none => throw e

/-- Says that the method needs a managed frame, if so. -/
def requestIf (needed : Bool) : Task Unit :=
  if needed then modify fun s => { s with growth := s.growth.request } else pure ()

@[simp]
theorem run_pure (a : α) (s : MethodState) : (pure a : Task α).run s = (.ok a, s) := rfl

@[simp]
theorem run_get (s : MethodState) : (get : Task MethodState).run s = (.ok s, s) := rfl

@[simp]
theorem run_set (s s' : MethodState) : (set s' : Task PUnit).run s = (.ok ⟨⟩, s') := rfl

theorem run_bind (task : Task α) (next : α → Task β) (s : MethodState) :
    (task >>= next).run s =
      match task.run s with
      | (.ok a, s') => (next a).run s'
      | (.error e, s') => (.error e, s') := by
  unfold run StateT.run ExceptT.run
  simp only [bind, ExceptT.bind, ExceptT.mk, StateT.bind, ExceptT.bindCont]
  rcases task s with ⟨_ | a, s'⟩ <;> rfl

theorem run_map (f : α → β) (task : Task α) (s : MethodState) :
    (f <$> task).run s = ((task.run s).1.map f, (task.run s).2) := by
  unfold run StateT.run ExceptT.run
  simp only [Functor.map, ExceptT.map, ExceptT.mk, bind, StateT.bind]
  rcases task s with ⟨_ | a, s'⟩ <;> rfl

@[simp]
theorem run_ofExcept (x : Except CompileError α) (s : MethodState) :
    (ofExcept x).run s = (x, s) := by
  cases x <;> rfl

@[simp]
theorem run_require_some (a : α) (e : CompileError) (s : MethodState) :
    (require (some a) e).run s = (.ok a, s) := rfl

@[simp]
theorem run_requestIf (needed : Bool) (s : MethodState) :
    (requestIf needed).run s =
      (.ok (), { s with growth := s.growth.requestTimes needed.toNat }) := by
  cases needed <;> rfl

end Task

/-! ## Operations on the table -/

namespace SymbolTable

/-- Applies changes in order, up to the first that fails. -/
def applyAll : List Change → SymbolTable → Except CompileError Unit × SymbolTable
  | [], t => (.ok (), t)
  | c :: cs, t =>
    match c.apply t with
    | .ok t' => applyAll cs t'
    | .error e => (.error e, t)

theorem modify_append {t : SymbolTable} {x : String} (unknown : t.find? x = none)
    (vs : List Variable) (f : Variable → Variable) :
    (t.append vs).modify x f = t.append (modify ⟨vs⟩ x f).variables := by
  have hkept : (t.modify x f).variables = t.variables := by
    rw [modify_of_find?_eq_none f unknown]
  simp only [modify, append, List.map_append] at hkept ⊢
  rw [hkept]

/-- A change of a name that is new to a table acts on what stands behind it. -/
theorem apply_append {t : SymbolTable} {c : Change} (unknown : t.find? c.name = none)
    (vs : List Variable) :
    c.apply (t.append vs) = (c.apply ⟨vs⟩).map fun u => t.append u.variables := by
  have hfind : (t.append vs).find? c.name = find? ⟨vs⟩ c.name := by
    rw [find?_append, unknown]
    rfl
  have hmodify (f : Variable → Variable) := modify_append unknown vs f
  -- a change looks only at the variable of its name, which is not in front
  cases c with
  | declare x type span =>
      simp only [Change.name] at hfind
      simp only [Change.apply, declare, hfind]
      cases find? ⟨vs⟩ x with
      | none => simp [Except.map, append]
      | some v => by_cases htype : v.type = type <;> simp [Except.map, htype]
  | constrain x k =>
      simp only [Change.name] at hfind hmodify
      simp only [Change.apply, constrain, require, hfind]
      cases find? ⟨vs⟩ x with
      | none => rfl
      | some v => by_cases htype : v.type = .object <;> simp [Except.map, htype, hmodify]
  | addFlags x flags => exact congrArg Except.ok (hmodify (·.addFlags flags))
  | setInit x state => exact congrArg Except.ok (hmodify fun v => { v with init := state })
  | _ =>
      simp only [Change.name] at hfind hmodify
      simp only [Change.apply, markExternal, markInitialized, recordUse, setSeed, update, require,
        hfind]
      split <;> simp [Except.map, hmodify]

theorem applyAll_append (cs ds : List Change) (t : SymbolTable) :
    applyAll (cs ++ ds) t =
      match applyAll cs t with
      | (.ok (), t') => applyAll ds t'
      | (.error e, t') => (.error e, t') := by
  induction cs generalizing t with
  | nil => rfl
  | cons c cs ih =>
      simp only [List.cons_append, applyAll]
      cases c.apply t with
      | error e => rfl
      | ok t' => exact ih t'

/-- Changes of names that are new to a table act on what stands behind it. -/
theorem applyAll_behind {t : SymbolTable} {cs : List Change}
    (unknown : ∀ c ∈ cs, t.find? c.name = none) (vs : List Variable) :
    applyAll cs (t.append vs) =
      ((applyAll cs ⟨vs⟩).1, t.append (applyAll cs ⟨vs⟩).2.variables) := by
  induction cs generalizing vs with
  | nil => rfl
  | cons c cs ih =>
      have hstep := apply_append (unknown c List.mem_cons_self) vs
      simp only [applyAll, hstep]
      cases c.apply ⟨vs⟩ with
      | error e => rfl
      | ok u => exact ih (fun d hd => unknown d (List.mem_cons_of_mem c hd)) u.variables

end SymbolTable

/-! ## The operations of one parameter -/

namespace Parameter

/-- The operations that declare the local of a parameter. -/
def localChanges (p : Parameter) : List Change :=
  [.declare p.name p.type p.span, .addFlags p.name { isExternal := true }] ++
    (if p.isConstant then [.addFlags p.name { isReadOnly := true }] else []) ++
    (if p.type == .string || p.type == .array then [.addFlags p.name { isLocalOnly := true }]
      else []) ++
    [.setInit p.name (if p.type.hasSlot then .initialized else p.fetchedInit)]

/-- The operations that declare the slot of a parameter, if there is one. -/
def slotChanges (p : Parameter) : List Change :=
  match p.slotName? with
  | some slot =>
    [.declare slot .generic p.span, .addFlags slot { isExternal := true, isParamSlot := true },
      .setInit slot p.fetchedInit]
  | none => []

/-- The operations that declare the variables behind a parameter. -/
def declarations (p : Parameter) : List Change :=
  p.localChanges ++ p.slotChanges ++ p.constraint.toList.map (.constrain p.name)

/-- The complaint about a type that turns out to be none of a parameter. -/
def unsupported (p : Parameter) : CompileError := .unsupportedParameter p.name p.type p.span

/-- The complaint about a local that is no longer in the table. -/
def vanished (p : Parameter) : CompileError :=
  .defect ("parameter '" ++ p.name ++ "' vanished from the symbol table")

def declare (p : Parameter) : Task Unit := do
  let s ← get
  let (outcome, table) := s.table.applyAll p.declarations
  set { s with table }
  Task.ofExcept outcome

/-- The variable of the parameter, which has to be in the table. -/
def lookUp (p : Parameter) : Task Variable := do
  let s ← get
  Task.require (s.table.find? p.name) p.vanished

/-- The code for the default, if there is one. -/
def fallBack (p : Parameter) (facts : BindingFacts) : Task (Option Initialization) :=
  match p.default with
  | none => pure none
  | some l => do
    let v ← p.lookUp
    let i ← Task.ofExcept (v.initialization facts.constants (facts.estimate p.name) p.span l)
    Task.requestIf i.allocates
    return some i

/-- Gives the local a value of its own, if so. -/
def separate (p : Parameter) (separates : Bool) : Task (List Receipt) :=
  if separates then do
    let v ← p.lookUp
    Task.requestIf true
    return [.separate v.operand]
  else pure []

/-- The check of a strict parameter, whose type has to have a tag. -/
def checkTag (p : Parameter) : Task (List Receipt) :=
  if p.isStrict then do
    let tag ← Task.require p.type.tag? p.unsupported
    return [.check ⟨p.name, p.fetchedName, .tag p.type tag⟩]
  else pure []

/-- The conversion from the slot, which the type has to have. -/
def convert (p : Parameter) : Task (List Receipt) := do
  let conversion? := if p.isStrict then p.type.strictConversion? else p.type.looseConversion?
  let c ← Task.require conversion? p.unsupported
  Task.requestIf c.allocates
  return [.convert c p.name p.fetchedName]

/-- Receives a supplied argument: checks it, converts it if there is a slot, and separates it. -/
def receive (p : Parameter) (separates : Bool) : Task (List Receipt) := do
  let orNull := (p.default.map Literal.isNull).getD false
  let instanceChecks := p.constraint.toList.map fun c =>
    .check ⟨p.name, p.fetchedName, .instanceOf c orNull⟩
  if p.type.hasSlot then
    let tagChecks ← p.checkTag
    let conversions ← p.convert
    let separations ← p.separate separates
    return instanceChecks ++ tagChecks ++ conversions ++ separations
  else
    Task.requestIf separates
    return instanceChecks ++ if separates then [.separate ⟨p.fetchedName, false⟩] else []

/-- Binds a parameter operation by operation, and gives what is done to a supplied argument as well. -/
def bindInSteps (facts : BindingFacts) (p : Parameter) : Task (BoundParameter × List Receipt) := do
  let s ← get
  Task.ofExcept (p.check s.table)
  p.declare
  let isSeparated := p.type.isBoxed && (facts.estimate p.name).needsSeparation
  let fallback ← p.fallBack facts
  let receipts ← p.receive isSeparated
  return ({ parameter := p, isSeparated, fallback, inferred := p.inferred? facts }, receipts)

/-! ## No operation fails -/

/-- The local before its constraint is added. -/
def bareLocal (p : Parameter) : Variable := { p.localVariable with constraints := [] }

theorem applyAll_localChanges (p : Parameter) :
    SymbolTable.applyAll p.localChanges ⟨[]⟩ = (.ok (), ⟨[p.bareLocal]⟩) := by
  cases hslot : p.type.hasSlot <;> cases hconstant : p.isConstant <;>
    cases hinline : (p.type == .string || p.type == .array) <;>
    simp [localChanges, hslot, hconstant, hinline, SymbolTable.applyAll, Change.apply,
      SymbolTable.declare, SymbolTable.find?, SymbolTable.append, SymbolTable.modify,
      Variable.addFlags, Flags.union, bareLocal, localVariable]

theorem applyAll_slotChanges (p : Parameter) :
    SymbolTable.applyAll p.slotChanges ⟨[]⟩ = (.ok (), ⟨p.slotVariable?.toList⟩) := by
  cases hslot : p.slotName? with
  | none => simp [slotChanges, slotVariable?, hslot, SymbolTable.applyAll]
  | some slot =>
      simp [slotChanges, slotVariable?, hslot, SymbolTable.applyAll, Change.apply,
        SymbolTable.declare, SymbolTable.find?, SymbolTable.append, SymbolTable.modify,
        Variable.addFlags, Flags.union]

theorem name_localChanges (p : Parameter) : ∀ c ∈ p.localChanges, c.name = p.name := by
  cases hconstant : p.isConstant <;>
    cases hinline : (p.type == .string || p.type == .array) <;>
    simp [localChanges, hconstant, hinline, Change.name]

theorem name_slotChanges (p : Parameter) : ∀ c ∈ p.slotChanges, p.slotName? = some c.name := by
  cases hslot : p.slotName? <;> simp [slotChanges, hslot, Change.name]

/-- The slot does not have the name of the local. -/
theorem slotName?_ne (p : Parameter) : p.slotName? ≠ some p.name := by
  intro h
  have hnodup := p.nodup_names_backing
  simp [backing, slotVariable?, h, localVariable] at hnodup

variable {p : Parameter} {t : SymbolTable}

/-- A constraint is only added to an object, which has no slot. -/
theorem applyAll_constraint (allowed : p.checkType = .ok ()) (free : t.find? p.name = none) :
    (t.append (p.bareLocal :: p.slotVariable?.toList)).applyAll
      (p.constraint.toList.map (.constrain p.name)) = (.ok (), t.append p.backing) := by
  cases hconstraint : p.constraint with
  | none =>
      have hbare : p.bareLocal = p.localVariable := by
        simp [bareLocal, localVariable, hconstraint]
      simp [SymbolTable.applyAll, backing, hbare]
  | some k =>
      obtain ⟨_, _, _, hobject⟩ := checkType_eq_ok_iff.1 allowed
      have htype : p.type = .object := hobject (by simp [hconstraint])
      have hnone : p.slotVariable? = none := by
        simp [slotVariable?, slotName?, htype, StorageType.hasSlot, StorageType.isNative,
          StorageType.isInteger]
      have happly : (Change.constrain p.name k).apply ⟨[p.bareLocal]⟩ =
          .ok ⟨[p.localVariable]⟩ := by
        simp [Change.apply, SymbolTable.constrain, SymbolTable.require, SymbolTable.find?,
          SymbolTable.modify, Variable.addConstraint, bareLocal, localVariable, htype, hconstraint]
      have hbehind := SymbolTable.apply_append (c := .constrain p.name k) free [p.bareLocal]
      rw [happly] at hbehind
      simp only [hnone, Option.toList_none, Option.toList_some, List.map_cons, List.map_nil,
        SymbolTable.applyAll, hbehind, Except.map, backing]

/-- On new names none of the operations fails, and they leave the variables behind the parameter. -/
theorem applyAll_declarations (allowed : p.checkType = .ok ()) (free : p.checkNames t = .ok ()) :
    t.applyAll p.declarations = (.ok (), t.append p.backing) := by
  have hfree := checkNames_eq_ok_iff.1 free
  have hfreeLocal : t.find? p.name = none := hfree p.localVariable List.mem_cons_self
  -- the local is declared behind the table, the slot behind the two, and the constraint comes last
  have hlocal : t.applyAll p.localChanges = (.ok (), t.append [p.bareLocal]) := by
    have hnew : ∀ c ∈ p.localChanges, t.find? c.name = none := by
      intro c hc
      rw [p.name_localChanges c hc]
      exact hfreeLocal
    have hbehind := SymbolTable.applyAll_behind hnew []
    rwa [SymbolTable.append_nil, p.applyAll_localChanges] at hbehind
  have hslot : (t.append [p.bareLocal]).applyAll p.slotChanges =
      (.ok (), t.append (p.bareLocal :: p.slotVariable?.toList)) := by
    have hnew : ∀ c ∈ p.slotChanges, (t.append [p.bareLocal]).find? c.name = none := by
      intro c hc
      have hslot := p.name_slotChanges c hc
      have hother : p.name ≠ c.name := by
        intro h
        exact p.slotName?_ne (h ▸ hslot)
      have hboth : t.find? p.localVariable.name = none ∧ t.find? c.name = none := by
        simpa [backing, slotVariable?, hslot] using hfree
      simp [SymbolTable.find?_append, hboth.2, bareLocal, localVariable, hother]
    have hbehind := SymbolTable.applyAll_behind hnew []
    rw [SymbolTable.append_nil, p.applyAll_slotChanges] at hbehind
    simpa [SymbolTable.append] using hbehind
  rw [declarations, SymbolTable.applyAll_append, SymbolTable.applyAll_append, hlocal]
  simp only [hslot, applyAll_constraint allowed hfreeLocal]

variable {g : Growth}

theorem run_declare (allowed : p.checkType = .ok ()) (free : p.checkNames t = .ok ()) :
    p.declare.run ⟨t, g⟩ = (.ok (), ⟨t.append p.backing, g⟩) := by
  simp [declare, Task.run_bind, applyAll_declarations allowed free]

theorem run_lookUp (declared : t.find? p.name = some p.localVariable) :
    p.lookUp.run ⟨t, g⟩ = (.ok p.localVariable, ⟨t, g⟩) := by
  simp [lookUp, Task.run_bind, declared]

theorem run_fallBack (declared : t.find? p.name = some p.localVariable) (facts : BindingFacts) :
    (p.fallBack facts).run ⟨t, g⟩ =
      match p.fallback facts with
      | .ok i => (.ok i, ⟨t, g.requestTimes (i.toList.countP (·.allocates))⟩)
      | .error e => (.error e, ⟨t, g⟩) := by
  unfold fallBack fallback
  cases p.default with
  | none => rfl
  | some l =>
      simp only [Task.run_bind, run_lookUp declared, Task.run_ofExcept, Task.run_requestIf]
      cases p.localVariable.initialization facts.constants (facts.estimate p.name) p.span l with
      | error e => rfl
      | ok i => cases hallocates : i.allocates <;> simp [Except.map, hallocates]

theorem run_separate (declared : t.find? p.name = some p.localVariable) (separates : Bool) :
    (p.separate separates).run ⟨t, g⟩ =
      (.ok (if separates then [.separate p.localVariable.operand] else []),
        ⟨t, g.requestTimes separates.toNat⟩) := by
  cases separates with
  | false => rfl
  | true => simp [separate, Task.run_bind, Task.run_map, run_lookUp declared, Except.map]

end Parameter

namespace BoundParameter

variable {b : BoundParameter} {t : SymbolTable} {g : Growth}

theorem run_checkTag (slot : b.parameter.type.hasSlot = true) :
    b.parameter.checkTag.run ⟨t, g⟩ = (.ok (b.strictGuard?.toList.map .check), ⟨t, g⟩) := by
  obtain ⟨tag, htag⟩ :=
    Option.isSome_iff_exists.1 ((StorageType.tag?_isSome b.parameter.type).trans slot)
  cases hstrict : b.parameter.isStrict <;>
    simp [Parameter.checkTag, strictGuard?, hstrict, htag, name, Task.run_map, Except.map]

theorem run_convert {c : Conversion} (known : b.conversion? = some c) :
    b.parameter.convert.run ⟨t, g⟩ =
      (.ok [.convert c b.name b.parameter.fetchedName], ⟨t, g.requestTimes c.allocates.toNat⟩) := by
  unfold conversion? at known
  simp [Parameter.convert, known, Task.run_bind, Task.run_map, Except.map, name]

theorem countP_checks (guards : List Guard) :
    (guards.map Receipt.check).countP (·.allocates) = 0 := by
  simp [List.countP_eq_zero, Receipt.allocates]

theorem countP_separations (separates : Bool) (target : Operand) :
    (if separates then [Receipt.separate target] else []).countP (·.allocates) =
      separates.toNat := by
  cases separates <;> rfl

/-- A type without a slot has no tag and no conversion. -/
theorem receipts_of_not_hasSlot (noSlot : b.parameter.type.hasSlot = false) :
    b.receipts = b.instanceGuard?.toList.map .check ++
      if b.isSeparated then [.separate ⟨b.parameter.fetchedName, false⟩] else [] := by
  have hstrict : b.strictGuard? = none := by
    have htag : b.parameter.type.tag? = none := by
      rw [← Option.not_isSome_iff_eq_none, StorageType.tag?_isSome, noSlot]
      simp
    simp [strictGuard?, htag]
  have hconversion : b.conversion? = none := by
    have hsome : b.conversion?.isSome = false := by
      unfold conversion?
      split
      · exact (StorageType.strictConversion?_isSome _).trans noSlot
      · exact (StorageType.looseConversion?_isSome _).trans noSlot
    simpa using hsome
  simp [receipts, hstrict, hconversion, separationTarget, noSlot]

theorem run_receive (declared : t.find? b.name = some b.parameter.localVariable) :
    (b.parameter.receive b.isSeparated).run ⟨t, g⟩ =
      (.ok b.receipts, ⟨t, g.requestTimes (b.receipts.countP (·.allocates))⟩) := by
  have hinstance : (b.parameter.constraint.toList.map fun c =>
      Receipt.check ⟨b.parameter.name, b.parameter.fetchedName,
        .instanceOf c ((b.parameter.default.map Literal.isNull).getD false)⟩) =
      b.instanceGuard?.toList.map .check := by
    cases hconstraint : b.parameter.constraint <;> simp [instanceGuard?, hconstraint, name]
  -- without a slot there is nothing to convert, and with one there is always a conversion
  cases hslot : b.parameter.type.hasSlot with
  | false =>
      rw [receipts_of_not_hasSlot hslot, List.countP_append, countP_checks, countP_separations,
        Nat.zero_add]
      simp [Parameter.receive, hslot, Task.run_map, hinstance, Except.map]
  | true =>
      obtain ⟨c, hc⟩ := exists_conversion hslot
      have hreceipts : b.receipts = b.instanceGuard?.toList.map .check ++
          b.strictGuard?.toList.map .check ++ [.convert c b.name b.parameter.fetchedName] ++
          if b.isSeparated then [.separate b.parameter.localVariable.operand] else [] := by
        simp [receipts, hc, separationTarget, hslot]
      have hcount : b.receipts.countP (·.allocates) = c.allocates.toNat + b.isSeparated.toNat := by
        have hconvert : [Receipt.convert c b.name b.parameter.fetchedName].countP (·.allocates) =
            c.allocates.toNat := by
          cases hallocates : c.allocates <;> simp [Receipt.allocates, hallocates]
        simp only [hreceipts, List.countP_append, countP_checks, countP_separations, hconvert,
          Nat.zero_add]
      rw [hcount, Growth.requestTimes_add, hreceipts]
      simp [Parameter.receive, hslot, hinstance, Task.run_bind, Task.run_map, run_checkTag hslot,
        run_convert hc, Parameter.run_separate declared, Except.map]

end BoundParameter

/-! ## Both ways of binding -/

/-- A parameter that passed its checks gets through every operation but its default. -/
theorem Parameter.run_bindInSteps (facts : BindingFacts) (p : Parameter) (s : MethodState) :
    (p.bindInSteps facts).run s =
      ((p.bind facts s).1.map fun b => (b, b.receipts), (p.bind facts s).2) := by
  rcases s with ⟨t, g⟩
  unfold bindInSteps bind
  simp only [Task.run_bind, Task.run_get, Task.run_ofExcept]
  cases hcheck : p.check t with
  | error e => rfl
  | ok _ =>
      obtain ⟨htype, _, hnames⟩ := check_eq_ok_iff.1 hcheck
      -- the checks passed, so the name is new and the local is found behind the table
      have hdeclared : (t.append p.backing).find? p.name = some p.localVariable := by
        have hfree := checkNames_eq_ok_iff.1 hnames p.localVariable List.mem_cons_self
        have hnone : t.find? p.name = none := hfree
        simp [SymbolTable.find?_append, hnone, backing, localVariable]
      simp only [run_declare htype hnames, run_fallBack hdeclared]
      cases hfallback : p.fallback facts with
      | error e => rfl
      | ok fallback =>
          let b : BoundParameter :=
            { parameter := p
              isSeparated := p.type.isBoxed && (facts.estimate p.name).needsSeparation
              fallback
              inferred := p.inferred? facts }
          have hreceive := BoundParameter.run_receive (b := b)
            (g := g.requestTimes (fallback.toList.countP (·.allocates))) hdeclared
          simp only [b] at hreceive
          simp only [hreceive, Task.run_pure, BoundParameter.requests, Growth.requestTimes_add]
          rfl

/-- Binding operation by operation comes to what binding at once comes to, in results, errors and
the states left behind. -/
theorem run_mapM_bindInSteps (facts : BindingFacts) (ps : List Parameter) (s : MethodState) :
    (ps.mapM (Parameter.bindInSteps facts)).run s =
      ((bindParameters facts ps s).1.map fun bs => bs.map fun b => (b, b.receipts),
        (bindParameters facts ps s).2) := by
  induction ps generalizing s with
  | nil => rfl
  | cons p ps ih =>
      rw [List.mapM_cons]
      simp only [Task.run_bind, Parameter.run_bindInSteps, bindParameters]
      rcases p.bind facts s with ⟨_ | b, s₁⟩
      · rfl
      · have hrest := ih s₁
        simp only [Except.map] at hrest ⊢
        rw [hrest]
        rcases bindParameters facts ps s₁ with ⟨_ | bs, s₂⟩ <;> rfl

end NativeMethod
