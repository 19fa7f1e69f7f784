import NativeMethod.Proofs.OwnValues
import NativeMethod.Proofs.Prologue.Execution

/-!
# Defaults — the code for a missing argument has no conditionals

Whatever the default, its code is plain statements, and for arrays inside arrays blocks around them.
So it runs through, and it can be skipped as a whole.
-/

namespace NativeMethod

/-! ## Commands -/

namespace Command

/-- What the line of a command is. -/
def line : Command → Line
  | openBlock => .openBlock
  | closeBlock => .closeBlock
  | c => .plain c.text

end Command

namespace Line

theorem read_calls {function t : String} (named : IsIdentifier function) (h : Calls function t) :
    read t = .plain t := by
  rcases h with ⟨rest, rfl⟩
  exact read_call named rest

/-- Indentation does not count. -/
theorem read_indented (depth : Nat) (t : String) : read (Command.indented depth t) = read t := by
  simp only [read, Command.dropWhile_tab_indented]

theorem read_text (c : Command) : read c.text = c.line := by
  rcases c.text_cases with rfl | rfl | ⟨temporary, rfl⟩ | ⟨function, hmem, hcalls⟩
  · rfl
  · rfl
  · have htext : ("zval " ++ temporary ++ ";").toList =
        'z' :: 'v' :: 'a' :: 'l' :: ' ' :: (temporary ++ ";").toList := by
      simp
    exact read_plain htext (by decide) (by simp)
  · have hcall := read_calls (isIdentifier_of_mem_builders function hmem) hcalls
    rw [hcall]
    cases c with
    -- a brace is no statement
    | openBlock => cases hcall
    | closeBlock => cases hcall
    | _ => rfl

theorem map_read_lines (depth : Nat) (cs : List Command) :
    (Command.lines depth cs).map read = cs.map Command.line := by
  fun_induction Command.lines depth cs with
  | case1 depth => rfl
  | case2 depth rest ih => rw [List.map_cons, List.map_cons, ih, read_indented, read_text]
  | case3 depth rest ih => rw [List.map_cons, List.map_cons, ih, read_indented, read_text]
  | case4 depth c rest _ _ ih => rw [List.map_cons, List.map_cons, ih, read_indented, read_text]

end Line

/-! ## Arrays -/

namespace Command

theorem line_create (target : Operand) (items : List Literal) :
    (create target items).line = .plain (create target items).text := by
  unfold create
  cases items.isEmpty <;> rfl

mutual

theorem straight_pushItem (name : String) (depth : Nat) (target : Operand) :
    ∀ item : Literal, Straight ((pushItem name depth target item).map line)
  | .null => .plain _
  | .bool _ => .plain _
  | .int _ => .plain _
  | .char _ => .plain _
  | .double _ => .plain _
  | .string _ => .plain _
  | .array items => by
      have hitems := straight_pushItems name (depth + 1) ⟨temporaryAt name depth, true⟩ items
      -- an array inside an array is built in a temporary, in a block of its own
      have hinner : Straight
          ([.plain (declareTemporary (temporaryAt name depth)).text] ++
            [.plain (create ⟨temporaryAt name depth, true⟩ items).text] ++
            (pushItems name (depth + 1) ⟨temporaryAt name depth, true⟩ items).map line ++
            [.plain (pushTemporary target (temporaryAt name depth)).text]) :=
        (((Straight.plain _).append (.plain _)).append hitems).append (.plain _)
      have hlines : (pushItem name depth target (.array items)).map line =
          .openBlock ::
            ([.plain (declareTemporary (temporaryAt name depth)).text] ++
              [.plain (create ⟨temporaryAt name depth, true⟩ items).text] ++
              (pushItems name (depth + 1) ⟨temporaryAt name depth, true⟩ items).map line ++
              [.plain (pushTemporary target (temporaryAt name depth)).text] ++ [.closeBlock]) := by
        have hcreate := line_create ⟨temporaryAt name depth, true⟩ items
        have hbraces : line openBlock = .openBlock ∧ line closeBlock = .closeBlock := ⟨rfl, rfl⟩
        have hdeclare (t : String) : line (declareTemporary t) = .plain (declareTemporary t).text :=
          rfl
        have hpush (o : Operand) (t : String) :
            line (pushTemporary o t) = .plain (pushTemporary o t).text := rfl
        simp only [pushItem, List.map_append, List.map_cons, List.map_nil, hcreate, hbraces.1,
          hbraces.2, hdeclare, hpush, List.cons_append, List.nil_append, List.append_assoc]
      simpa only [hlines] using .block hinner

theorem straight_pushItems (name : String) (depth : Nat) (target : Operand) :
    ∀ items : List Literal, Straight ((pushItems name depth target items).map line)
  | [] => .nil
  | item :: items => by
      have hitem := straight_pushItem name depth target item
      have hitems := straight_pushItems name depth target items
      rw [pushItems, List.map_append]
      exact hitem.append hitems

end

theorem straight_buildArray (v : Variable) (items : List Literal) :
    Straight ((buildArray v items).map line) := by
  have hitems := straight_pushItems v.name 1 v.operand items
  rw [buildArray, List.map_cons, line_create, ← List.singleton_append]
  exact (Straight.plain _).append hitems

end Command

/-! ## Defaults -/

namespace Variable

theorem Builds.straight {v : Variable} {i : Initialization} (h : v.Builds i) :
    Straight (i.lines.map Line.read) := by
  have hbuild {target : Operand} {commands : List Command}
      (hcommands : Straight (commands.map Command.line)) :
      Straight ((Initialization.build target commands).lines.map Line.read) := by
    have hfirst : Line.read ("ZEPHIR_INIT_VAR(" ++ target.text ++ ");") =
        .plain ("ZEPHIR_INIT_VAR(" ++ target.text ++ ");") :=
      Line.read_calls (by decide) (Calls.initLine target.text)
    rw [Initialization.lines, List.map_cons, hfirst, Line.map_read_lines, ← List.singleton_append]
    exact (Straight.plain _).append hcommands
  cases h with
  | scalar value => exact hbuild (.plain _)
  | emptyString => exact hbuild (.plain _)
  | emptyArray => exact hbuild (.plain _)
  | array items => exact hbuild (Command.straight_buildArray v items)

theorem straight_of_initialization {v : Variable} {constants : SharedConstants} {e : Estimate}
    {span : Span} {l : Literal} {i : Initialization} (named : IsIdentifier v.name)
    (h : v.initialization constants e span l = .ok i) : Straight (i.lines.map Line.read) := by
  rcases initialization?_cases (initialization_eq_ok_iff.1 h) with ⟨value, hlines, _⟩ | hbuilds
  · have hread := Line.read_assignment named (value ++ ";")
    rw [← String.append_assoc] at hread
    rw [hlines, List.map_singleton, hread]
    exact .plain _
  · exact hbuilds.straight

end Variable
end NativeMethod
