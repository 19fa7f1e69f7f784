import NativeMethod.Proofs.Literals.Strings
import NativeMethod.Proofs.Statements

/-!
# Payloads — what the arguments of calls put into boxed values

A string is given to the runtime as a C literal.  Without its length, the runtime takes it to end at its
first null character, and with its length it is whole.

* `Quoted.bytesRead` — the bytes that C reads in a literal;
* `Quoted.upToNul` — where a string without a length ends;
* `payloadOf` — what the runtime makes of the argument of a call;
* `BoxedScalar.payloadOf_append` — an item of an array is given whole.
-/

namespace NativeMethod

/-! ## Null characters -/

namespace Quoted

/-- What a string without a length is taken for. -/
def upToNul (bytes : List UInt8) : List UInt8 := bytes.takeWhile (· != 0)

theorem upToNul_eq_self_iff (bytes : List UInt8) : upToNul bytes = bytes ↔ 0 ∉ bytes := by
  rw [upToNul, List.takeWhile_eq_self_iff]
  constructor
  · intro hall hzero
    simpa using hall 0 hzero
  · intro hfree b hb
    have hne : b ≠ 0 := by
      intro h
      exact hfree (h ▸ hb)
    simpa using hne

theorem ofNat_ne_zero {n : Nat} (positive : 0 < n) (small : n < 256) : 0 ≠ UInt8.ofNat n := by
  intro h
  have hnat := congrArg UInt8.toNat h
  rw [UInt8.toNat_ofNat', Nat.mod_eq_of_lt small] at hnat
  exact absurd hnat.symm (Nat.pos_iff_ne_zero.1 positive)

/-- Only the null character has a zero among its bytes. -/
theorem zero_mem_utf8EncodeChar_iff (c : Char) :
    0 ∈ String.utf8EncodeChar c ↔ c = '\x00' := by
  constructor
  · intro h
    by_contra hc
    have hpositive : 0 < c.val.toNat := by
      rw [Nat.pos_iff_ne_zero]
      intro hzero
      exact hc (Char.ext (UInt32.toNat_inj.1 hzero))
    unfold String.utf8EncodeChar at h
    dsimp only at h
    -- every byte of an encoding in several bytes has its first bit set
    split_ifs at h <;> simp only [List.mem_cons, List.not_mem_nil, or_false] at h
    · exact ofNat_ne_zero hpositive (by omega) h
    · rcases h with h | h <;> exact ofNat_ne_zero (by omega) (by omega) h
    · rcases h with h | h | h <;> exact ofNat_ne_zero (by omega) (by omega) h
    · rcases h with h | h | h | h <;> exact ofNat_ne_zero (by omega) (by omega) h
  · intro hc
    rw [hc]
    decide

theorem zero_mem_bytesOf_iff (s : String) : 0 ∈ bytesOf s ↔ '\x00' ∈ s.toList := by
  simp [bytesOf, zero_mem_utf8EncodeChar_iff]

/-- The bytes of a C literal, if it is one. -/
def bytesRead (literal : String) : List UInt8 :=
  ((readLiteral? .double literal.toList).map (·.1)).getD []

theorem bytesRead_string {s : String} (keepsApart : KeepsApart (bytesOf s)) :
    bytesRead (string s) = bytesOf s := by
  have hread : readLiteral? .double (string s).toList = some (bytesOf s, []) := by
    rw [string, String.toList_ofList]
    simpa using (readLiteral?_quote_iff .double (bytesOf s) []).2 keepsApart
  simp [bytesRead, hread]

theorem bytesRead_of_mem_singleton {s t : String} (keepsApart : KeepsApart (bytesOf s))
    (h : BoxedScalar.string t ∈ [BoxedScalar.string s]) : bytesRead (string t) = bytesOf t := by
  have hsame : t = s := by simpa using h
  rw [hsame]
  exact bytesRead_string keepsApart

end Quoted

open Quoted

/-! ## The runtime -/

/-- What is in a boxed value. -/
inductive Payload where
  | bytes (bytes : List UInt8)
  /-- No string, but what a call with an argument makes of it. -/
  | other (function : String) (argument? : Option String)
  deriving DecidableEq

/-- What the runtime makes of the argument of a call.  A string that is set ends at its first null
character, and one that is appended comes with its length.  What bytes a literal denotes is a
parameter. -/
def payloadOf (literal : String → List UInt8) (function : String) (argument? : Option String) :
    Payload :=
  match argument? with
  | none => .other function none
  | some argument =>
    if function = "ZVAL_STRING" then .bytes (upToNul (literal argument))
    else if function = "add_next_index_stringl" then
      match between? ['S', 'L', '('] [')'] argument.toList with
      | some inner => .bytes (literal (String.ofList inner))
      | none => .other function (some argument)
    else .other function (some argument)

namespace BoxedScalar

/-- What a scalar stands for. -/
def payload : BoxedScalar → Payload
  | string s => .bytes (bytesOf s)
  | b => .other b.appender b.appendArgument?

variable {literal : String → List UInt8}

theorem payloadOf_set_string {s : String} (denotes : literal (Quoted.string s) = bytesOf s) :
    payloadOf literal (string s).setter (string s).setArgument? =
      .bytes (upToNul (bytesOf s)) := by
  show Payload.bytes (upToNul (literal (Quoted.string s))) = _
  rw [denotes]

/-- An item of an array is what it stands for. -/
theorem payloadOf_append {b : BoxedScalar}
    (denotes : ∀ s, b = string s → literal (Quoted.string s) = bytesOf s) :
    payloadOf literal b.appender b.appendArgument? = b.payload := by
  cases b with
  | string s =>
      -- the length is that of the literal, so that nothing in it ends the string
      have hargument : (string s).appendArgument? = some ("SL(" ++ Quoted.string s ++ ")") := rfl
      have hinner (text : List Char) :
          between? ['S', 'L', '('] [')'] ('S' :: 'L' :: '(' :: (text ++ [')'])) = some text :=
        between?_append ['S', 'L', '('] text [')']
      have hbytes : literal (Quoted.string s) = bytesOf s := denotes s rfl
      simp [payloadOf, hargument, hinner, appender, payload, hbytes]
  | _ => rfl

end BoxedScalar

end NativeMethod
