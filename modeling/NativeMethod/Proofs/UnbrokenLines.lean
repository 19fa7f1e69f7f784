import NativeMethod.Proofs.Initializations
import NativeMethod.Proofs.Literals.Delimiters
import NativeMethod.Proofs.Literals.Integers
import NativeMethod.Proofs.OwnValues

/-!
# UnbrokenLines — no literal breaks out of its line

The lines that initialise a variable are put together from fixed words, from spelled constants, and from
the names of the variable and of the shared values.  Words and constants are printable, whatever text a
literal has, so a line can only be broken by one of the names:

* `MadeFrom` — every character of a text is printable, a tab, or one of some sources;
* `CConstant.madeFrom_spelling` — a constant needs no sources;
* `Command.madeFrom_closedUnderItems` — the commands that append items need the name of the variable,
  as their temporaries are named after it;
* `literals_stay_inside` — literals end at their last quote, and lines stay whole.
-/

namespace NativeMethod

/-! ## Line breaks -/

/-- The characters that end a line somewhere: in C, in a terminal or by the Unicode standard. -/
def isLineBreak (x : Char) : Bool :=
  x == '\n' || x == '\x0b' || x == '\x0c' || x == '\r' || x == '\u0085' || x == '\u2028' ||
    x == '\u2029'

def LineBreakFree (text : String) : Prop := ∀ x ∈ text.toList, isLineBreak x = false

/-- The characters that words and constants have. -/
def isPlain (x : Char) : Bool := x == '\t' || Quoted.isPrintable x

theorem isLineBreak_of_isPlain {x : Char} (h : isPlain x = true) : isLineBreak x = false := by
  simp only [isPlain, Quoted.isPrintable, Char.le_def, UInt32.le_iff_toNat_le, Bool.or_eq_true,
    Bool.and_eq_true, beq_iff_eq, decide_eq_true_eq] at h
  cases hbreak : isLineBreak x with
  | false => rfl
  | true =>
      -- every line break stands below the space or above the tilde, and none is the tab
      simp only [isLineBreak, Bool.or_eq_true, beq_iff_eq] at hbreak
      rcases hbreak with (((((rfl | rfl) | rfl) | rfl) | rfl) | rfl) | rfl <;> revert h <;> decide

theorem isPlain_of_isDigit {x : Char} (h : x.isDigit = true) : isPlain x = true := by
  simp only [Char.isDigit, Bool.and_eq_true, decide_eq_true_eq, ge_iff_le,
    UInt32.le_iff_toNat_le] at h
  obtain ⟨hlow, hhigh⟩ : 48 ≤ x.val.toNat ∧ x.val.toNat ≤ 57 := h
  have hprintable : 32 ≤ x.val.toNat ∧ x.val.toNat ≤ 126 := by omega
  simp only [isPlain, Quoted.isPrintable, Char.le_def, UInt32.le_iff_toNat_le, Bool.or_eq_true,
    Bool.and_eq_true, decide_eq_true_eq]
  exact .inr hprintable

/-- Every character of a text is plain or stands in one of the sources. -/
def MadeFrom (sources : List String) (text : String) : Prop :=
  ∀ x ∈ text.toList, isPlain x = true ∨ ∃ s ∈ sources, x ∈ s.toList

namespace MadeFrom

variable {sources : List String} {s t : String}

theorem of_plain (h : s.toList.all isPlain = true) : MadeFrom sources s := by
  intro x hx
  exact .inl (List.all_eq_true.1 h x hx)

theorem of_mem (h : s ∈ sources) : MadeFrom sources s := by
  intro x hx
  exact .inr ⟨s, h, hx⟩

theorem append (hs : MadeFrom sources s) (ht : MadeFrom sources t) : MadeFrom sources (s ++ t) := by
  intro x hx
  rw [String.toList_append, List.mem_append] at hx
  rcases hx with hx | hx
  · exact hs x hx
  · exact ht x hx

/-- A call with one argument behind fixed words. -/
theorem call {opening closing : String} (hopening : opening.toList.all isPlain = true)
    (ht : MadeFrom sources t) (hclosing : closing.toList.all isPlain = true) :
    MadeFrom sources (opening ++ t ++ closing) :=
  ((of_plain hopening).append ht).append (of_plain hclosing)

/-- A call with two arguments. -/
theorem call₂ {opening separator closing : String} (hopening : opening.toList.all isPlain = true)
    (hs : MadeFrom sources s) (hseparator : separator.toList.all isPlain = true)
    (ht : MadeFrom sources t) (hclosing : closing.toList.all isPlain = true) :
    MadeFrom sources (opening ++ s ++ separator ++ t ++ closing) :=
  (((call hopening hs hseparator)).append ht).append (of_plain hclosing)

/-- Sources without line breaks give texts without them. -/
theorem lineBreakFree (h : MadeFrom sources t) (whole : ∀ s ∈ sources, LineBreakFree s) :
    LineBreakFree t := by
  intro x hx
  rcases h x hx with hplain | ⟨s, hs, hxs⟩
  · exact isLineBreak_of_isPlain hplain
  · exact whole s hs x hxs

end MadeFrom

/-! ## Constants -/

section Constants

variable {sources : List String}

theorem all_isPlain_toDigits (n : Nat) : (Nat.toDigits 10 n).all isPlain = true := by
  rw [List.all_eq_true]
  intro x hx
  exact isPlain_of_isDigit (isDigit_of_mem_toDigits hx)

theorem madeFrom_toString_nat (n : Nat) : MadeFrom sources (toString n) := by
  have htext : (toString n).toList = Nat.toDigits 10 n := by
    simp [Nat.toString_eq_repr, Nat.repr_eq_ofList_toDigits]
  exact .of_plain (htext ▸ all_isPlain_toDigits n)

theorem madeFrom_toString_int (n : Int) : MadeFrom sources (toString n) := by
  apply MadeFrom.of_plain
  rw [toList_toString]
  split
  · exact all_isPlain_toDigits n.toNat
  · rw [List.all_cons, all_isPlain_toDigits]
    rfl

theorem Decimal.madeFrom_positional (d : Decimal) : MadeFrom sources d.positional := by
  have hdigits : ∀ x ∈ Nat.toDigits 10 d.digits, isPlain x = true := fun x hx =>
    isPlain_of_isDigit (isDigit_of_mem_toDigits hx)
  have hzero {x : Char} {n : Nat} (hx : x ∈ List.replicate n '0') : isPlain x = true := by
    rw [List.eq_of_mem_replicate hx]
    rfl
  intro x hx
  refine .inl ?_
  unfold positional at hx
  -- zeros behind the digits, a point among them, or a point and zeros in front of them
  split at hx
  · simp only [String.toList_ofList, List.mem_append] at hx
    rcases hx with hx | hx
    · exact hdigits x hx
    · exact hzero hx
  · dsimp only at hx
    split at hx
    · simp only [String.toList_ofList, List.mem_append, List.mem_cons] at hx
      rcases hx with hx | rfl | hx
      · exact hdigits x (List.mem_of_mem_take hx)
      · rfl
      · exact hdigits x (List.mem_of_mem_drop hx)
    · simp only [String.toList_ofList, List.mem_append, List.mem_cons] at hx
      rcases hx with rfl | rfl | hx | hx
      · rfl
      · rfl
      · exact hzero hx
      · exact hdigits x hx

theorem Binary64.madeFrom_spelling (x : Binary64) : MadeFrom sources x.spelling := by
  have hsign : MadeFrom sources (if x.isNegative then "-" else "") := by
    split <;> exact .of_plain (by decide)
  have hdecimal : MadeFrom sources (Shortest.decimal x).positional :=
    (Shortest.decimal x).madeFrom_positional
  simp only [spelling]
  -- the texts of sign and digits do not matter any more, only what they are made of
  generalize (if x.isNegative = true then "-" else "") = sign at hsign
  generalize (Shortest.decimal x).positional = text at hdecimal
  split_ifs
  · exact .of_plain (by decide)
  · exact hsign.append (.of_plain (by decide))
  · exact hsign.append (.of_plain (by decide))
  · exact hsign.append hdecimal
  · exact hsign.append (hdecimal.append (.of_plain (by decide)))

namespace CConstant

/-- A constant is printable, whatever its value. -/
theorem madeFrom_spelling (c : CConstant) : MadeFrom sources c.spelling := by
  have hprintable {text : String} (h : ∀ x ∈ text.toList, Quoted.isPrintable x = true) :
      MadeFrom sources text := by
    intro x hx
    simp [isPlain, h x hx]
  cases c with
  | integer value => exact madeFrom_toString_int value.toInt
  | character byte =>
      apply hprintable
      intro x hx
      rw [spelling, Quoted.character, String.toList_ofList] at hx
      exact Quoted.isPrintable_of_mem_quote hx
  | real value => exact value.madeFrom_spelling
  | text value => exact hprintable fun x hx => Quoted.isPrintable_of_mem_string hx

end CConstant

end Constants

/-! ## Commands -/

section Commands

variable {sources : List String}

theorem Operand.madeFrom_text {o : Operand} (h : MadeFrom sources o.name) :
    MadeFrom sources o.text := by
  unfold text
  split
  · exact MadeFrom.append (.of_plain (by decide)) h
  · exact h

namespace Command

theorem madeFrom_setText {target : String} (h : MadeFrom sources target) (value : BoxedScalar) :
    MadeFrom sources (setText target value) := by
  cases value with
  | null => exact .call (by decide) h (by decide)
  | _ => exact .call₂ (by decide) h (by decide) (CConstant.madeFrom_spelling _) (by decide)

theorem madeFrom_pushText {target : String} (h : MadeFrom sources target) (value : BoxedScalar) :
    MadeFrom sources (pushText target value) := by
  cases value with
  | null => exact .call (by decide) h (by decide)
  | _ => exact .call₂ (by decide) h (by decide) (CConstant.madeFrom_spelling _) (by decide)

theorem madeFrom_create {target : Operand} (h : MadeFrom sources target.text) (items : List Literal) :
    MadeFrom sources (create target items).text := by
  unfold create
  split
  · exact .call (by decide) h (by decide)
  · exact .call₂ (by decide) h (by decide) (madeFrom_toString_nat items.length) (by decide)

theorem madeFrom_indented {text : String} (h : MadeFrom sources text) (depth : Nat) :
    MadeFrom sources (indented depth text) := by
  refine MadeFrom.append (.of_plain ?_) h
  rw [String.toList_ofList, List.all_eq_true]
  intro x hx
  rw [List.eq_of_mem_replicate hx]
  rfl

theorem madeFrom_temporaryAt {name : String} (h : MadeFrom sources name) (depth : Nat) :
    MadeFrom sources (temporaryAt name depth) :=
  (h.append (.of_plain (by decide))).append (madeFrom_toString_nat depth)

/-- Beside the name of a variable, the commands that append items to it are plain. -/
theorem madeFrom_closedUnderItems {name : String} (h : MadeFrom sources name) :
    ClosedUnderItems name (fun target => MadeFrom sources target.text)
      fun c => MadeFrom sources c.text where
  openBlock := .of_plain (by decide)
  closeBlock := .of_plain (by decide)
  good_temporary depth := Operand.madeFrom_text (madeFrom_temporaryAt h depth)
  declareTemporary depth := .call (by decide) (madeFrom_temporaryAt h depth) (by decide)
  create _ htarget items := madeFrom_create htarget items
  push _ htarget value := madeFrom_pushText htarget value
  pushTemporary _ htarget depth :=
    .call₂ (by decide) htarget (by decide) (madeFrom_temporaryAt h depth) (by decide)

end Command

end Commands

/-! ## Initialisations -/

namespace Variable

variable {v : Variable} {constants : SharedConstants} {e : Estimate} {l : Literal} {i : Initialization}

/-- The names that the lines for a variable can mention. -/
def sources (v : Variable) (constants : SharedConstants) : List String :=
  [v.name, constants.null, constants.yes, constants.no]

theorem madeFrom_address (v : Variable) (constants : SharedConstants) (s : SharedValue) :
    MadeFrom (v.sources constants) (constants.address s) := by
  refine MadeFrom.append (.of_plain (by decide)) (.of_mem ?_)
  cases s with
  | null => simp [sources, SharedConstants.symbol]
  | bool b => cases b <;> simp [sources, SharedConstants.symbol]

/-- Every line of a value of one's own is made from the name of its variable. -/
theorem Builds.madeFrom (h : v.Builds i) :
    ∀ line ∈ i.lines, MadeFrom (v.sources constants) line := by
  have hname : MadeFrom (v.sources constants) v.name := .of_mem (by simp [sources])
  have hoperand : MadeFrom (v.sources constants) v.operand.text :=
    Operand.madeFrom_text (o := v.operand) hname
  have hbuild {commands : List Command}
      (hcommands : ∀ c ∈ commands, MadeFrom (v.sources constants) c.text) :
      ∀ line ∈ (Initialization.build v.operand commands).lines,
        MadeFrom (v.sources constants) line := by
    intro line hline
    rcases List.mem_cons.1 hline with rfl | hline
    · exact .call (by decide) hoperand (by decide)
    · obtain ⟨depth, c, hc, rfl⟩ := Command.exists_of_mem_lines hline
      exact Command.madeFrom_indented (hcommands c hc) depth
  cases h with
  | scalar value =>
      exact hbuild (List.forall_mem_singleton.2 (Command.madeFrom_setText hoperand value))
  | emptyString => exact hbuild (List.forall_mem_singleton.2 (.call (by decide) hoperand (by decide)))
  | emptyArray => exact hbuild (List.forall_mem_singleton.2 (.call (by decide) hoperand (by decide)))
  | array items => exact hbuild ((Command.madeFrom_closedUnderItems hname).buildArray hoperand items)

theorem madeFrom_of_initialization (h : v.initialization? constants e l = some i) :
    ∀ line ∈ i.lines, MadeFrom (v.sources constants) line := by
  have hname : MadeFrom (v.sources constants) v.name := .of_mem (by simp [sources])
  have hassign {value : String} (hvalue : MadeFrom (v.sources constants) value) :
      ∀ line ∈ [v.name ++ " = " ++ value ++ ";"], MadeFrom (v.sources constants) line := by
    intro line hline
    rw [List.mem_singleton.1 hline]
    exact ((hname.append (.of_plain (by decide))).append hvalue).append (.of_plain (by decide))
  rcases initialization?_sources h with ⟨-, value, rfl⟩ | hshares | hbuilds
  · exact hassign value.madeFrom_spelling
  · cases hshares with
    | intro s _ _ => exact hassign (madeFrom_address v constants s)
  · exact hbuilds.madeFrom

end Variable

/-- The literal of a text consists of the bytes from `0x20` to `0x7e`, and whoever looks for its end
from behind its opening quote finds its last character, whatever stands behind the literal.  So the code
that initialises a variable, from whatever literal, has no line break in any line that does not come from
the name of the variable or of a shared value. -/
theorem literals_stay_inside :
    (∀ s : String, (∀ b ∈ Quoted.bytesOf (Quoted.string s), 0x20 ≤ b ∧ b ≤ 0x7e) ∧
        ∃ tail, (Quoted.string s).toList = '"' :: tail ∧
          ∀ rest, Quoted.behindLiteral? .double (tail ++ rest) = some rest) ∧
      ∀ (v : Variable) (constants : SharedConstants) (e : Estimate) (span : Span) (l : Literal)
        (i : Initialization), v.initialization constants e span l = .ok i →
        ∀ line ∈ i.lines, MadeFrom (v.sources constants) line ∧
          ((∀ name ∈ v.sources constants, LineBreakFree name) → LineBreakFree line) := by
  refine ⟨fun s => ⟨?_, ?_⟩, ?_⟩
  · exact Quoted.bytes_of_isPrintable fun x hx => Quoted.isPrintable_of_mem_string hx
  · -- behind the opening quote stands what is written for the bytes, and the closing quote
    refine ⟨Quoted.written .double (Quoted.bytesOf s) [], ?_, fun rest => ?_⟩
    · rw [Quoted.string, String.toList_ofList]
      rfl
    · have htail : Quoted.written .double (Quoted.bytesOf s) [] ++ rest =
          Quoted.written .double (Quoted.bytesOf s) rest := by
        simp [Quoted.written]
      rw [htail]
      exact Quoted.behindLiteral?_written _ rest
  · intro v constants e span l i hcode line hline
    have hmade : MadeFrom (v.sources constants) line :=
      Variable.madeFrom_of_initialization (Variable.initialization_eq_ok_iff.1 hcode) line hline
    exact ⟨hmade, hmade.lineBreakFree⟩

/-- Quotes, backslashes and line breaks in an array within an array. -/
theorem stays_inside_of_nested_array :
    let v : Variable := { name := "a", type := .array }
    let l : Literal := .array [.string "\"\\\n", .array [.string "\\\\\"\r"]]
    ∃ i, v.initialization .standard (.exact 0) .nowhere l = .ok i ∧
      "\tadd_next_index_stringl(&a_nested1, SL(\"\\\\\\\\\\\"\\r\"));" ∈ i.lines ∧
      ∀ line ∈ i.lines, LineBreakFree line := by
  intro v l
  refine ⟨.build v.operand (Command.buildArray v _), rfl, by decide, fun line hline => ?_⟩
  have hnames : ∀ name ∈ v.sources .standard, LineBreakFree name := by
    have hplain {name : String} (h : name.toList.all isPlain = true) : LineBreakFree name :=
      (MadeFrom.of_plain h : MadeFrom [] name).lineBreakFree (by simp)
    intro name hname
    simp only [Variable.sources, List.mem_cons, List.not_mem_nil, or_false] at hname
    rcases hname with rfl | rfl | rfl | rfl <;> exact hplain (by decide)
  exact (literals_stay_inside.2 v .standard (.exact 0) .nowhere l _ rfl line hline).2 hnames

end NativeMethod
