/-!
# Frame sites

Whether a method runs in a managed frame is known only when all of its code is there, while the
frame is entered at its very top.  The places that depend on the decision are kept as *sites*
and turned into text last.
-/

namespace NativeMethod

/-- The ways to leave a method, with the C expression of the value if there is one. -/
inductive ReturnForm where
  | empty
  | null
  | yes
  | no
  | long (expression : String)
  | double (expression : String)
  | bool (expression : String)
  /-- A copy of a string. -/
  | string (expression : String)
  /-- A copy of a boxed value. -/
  | copy (expression : String)
  deriving DecidableEq

/-- The C text of a return, inside a managed frame or without one. -/
def ReturnForm.text (managed : Bool) : ReturnForm → String
  | empty => if managed then "RETURN_MM();" else "return;"
  | null => head managed ++ "NULL();"
  | yes => head managed ++ "TRUE;"
  | no => head managed ++ "FALSE;"
  | long e => head managed ++ "LONG(" ++ e ++ ");"
  | double e => head managed ++ "DOUBLE(" ++ e ++ ");"
  | bool e => head managed ++ "BOOL(" ++ e ++ ");"
  | string e => head managed ++ "STR_COPY(" ++ e ++ ");"
  | copy e => head managed ++ "CTOR(" ++ e ++ ");"
where
  head : Bool → String
    | true => "RETURN_MM_"
    | false => "RETURN_"

/-- A place whose text depends on the frame. -/
inductive FrameSite where
  /-- The frame is entered. -/
  | acquire
  /-- The frame is left without returning. -/
  | restore
  | leave (form : ReturnForm)
  /-- The arguments are fetched into variables; the call says whether there is a frame. -/
  | fetch (required optional : Nat) (arguments : List String)
  deriving DecidableEq

namespace FrameSite

/-- The C text of a site; entering and leaving vanish without a frame. -/
def text? (managed : Bool) : FrameSite → Option String
  | acquire => if managed then some "ZEPHIR_MM_GROW();" else none
  | restore => if managed then some "ZEPHIR_MM_RESTORE();" else none
  | leave form => some (form.text managed)
  | fetch required optional arguments =>
    some <|
      "zephir_fetch_params(" ++ (if managed then "1" else "0") ++ ", " ++ toString required ++
        ", " ++ toString optional ++ String.join (arguments.map (", " ++ ·)) ++ ");"

end FrameSite

/-- Whether anything emitted so far needs a managed frame, and how often that was said, modulo
`2 ^ 32`. -/
structure Growth where
  isRequested : Bool := false
  count : UInt32 := 0
  deriving DecidableEq

namespace Growth

/-- Says that the method needs a managed frame. -/
def request (g : Growth) : Growth := ⟨true, g.count + 1⟩

def requestTimes (g : Growth) (n : Nat) : Growth := n.repeat request g

/-! ## Laws -/

/-- Requests are never taken back, and a single one decides. -/
theorem isRequested_requestTimes (g : Growth) (n : Nat) :
    (g.requestTimes n).isRequested = (g.isRequested || n != 0) := by
  cases n <;> simp [requestTimes, Nat.repeat, request]

theorem requestTimes_add (g : Growth) (m n : Nat) :
    g.requestTimes (m + n) = (g.requestTimes m).requestTimes n := by
  induction n with
  | zero => rfl
  | succ n ih => exact congrArg request ih

end Growth

end NativeMethod
