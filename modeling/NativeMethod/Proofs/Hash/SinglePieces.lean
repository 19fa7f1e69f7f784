import Mathlib.Data.Nat.Digits.Lemmas
import NativeMethod.Hash.XXHash64

/-!
# SinglePieces — bytes that XXHash64 tells apart

A step that mixes a piece of the input into a word can be undone by who knows the piece, and also by who
knows the word.  So of two inputs that are cut into the same pieces but for one, the hashes differ:

* `rotateLeft_inj`, `mul_inj_of_inverse`, `xor_shiftRight_inj` — what mixing is made of loses nothing;
* `toNat_word` — neither does reading up to eight bytes as a word;
* `tailPieces` — the pieces behind the last whole stripe, and `hash_eq_foldl`, the hash as a run over them;
* `hash_ne_of_differInOnePiece` — one piece that differs is never lost.

Inputs that differ in two pieces may well have one hash.
-/

namespace NativeMethod.XXHash64

/-! ## Words -/

theorem mul_inj_of_inverse {m x y : UInt64} (inverse : UInt64) (unit : m * inverse = 1) :
    x * m = y * m ↔ x = y := by
  constructor
  · intro h
    have hundone := congrArg (· * inverse) h
    simpa only [UInt64.mul_assoc, unit, UInt64.mul_one] using hundone
  · intro h
    rw [h]

theorem mul_prime₁_inj {x y : UInt64} : x * prime₁ = y * prime₁ ↔ x = y :=
  mul_inj_of_inverse 0x887493432badb37 (by decide)

theorem mul_prime₂_inj {x y : UInt64} : x * prime₂ = y * prime₂ ↔ x = y :=
  mul_inj_of_inverse 0xba79078168d4baf (by decide)

theorem mul_prime₃_inj {x y : UInt64} : x * prime₃ = y * prime₃ ↔ x = y :=
  mul_inj_of_inverse 0xe9e9f4c41d6df849 (by decide)

theorem mul_prime₅_inj {x y : UInt64} : x * prime₅ = y * prime₅ ↔ x = y :=
  mul_inj_of_inverse 0xc592c09fdfba7f0d (by decide)

section Shifts

variable {n x y : UInt64} (positive : 0 < n.toNat) (small : n.toNat < 64)
include positive small

theorem toBitVec_rotateLeft (x : UInt64) :
    (rotateLeft x n).toBitVec = x.toBitVec.rotateLeft n.toNat := by
  have hleft : (n.toBitVec % 64).toNat = n.toNat := by
    rw [BitVec.toNat_umod, UInt64.toNat_toBitVec]
    exact Nat.mod_eq_of_lt small
  have hright : ((64 - n).toBitVec % 64).toNat = 64 - n.toNat := by
    have hle : n ≤ 64 := by
      rw [UInt64.le_iff_toNat_le]
      exact small.le
    have hsub : (64 - n).toNat = 64 - n.toNat := UInt64.toNat_sub_of_le _ _ hle
    rw [BitVec.toNat_umod, UInt64.toNat_toBitVec, hsub]
    exact Nat.mod_eq_of_lt (Nat.sub_lt (by decide) positive)
  rw [rotateLeft, UInt64.toBitVec_or, UInt64.toBitVec_shiftLeft, UInt64.toBitVec_shiftRight,
    BitVec.rotateLeft_def, Nat.mod_eq_of_lt small, BitVec.shiftLeft_eq', BitVec.ushiftRight_eq',
    hleft, hright]

/-- A rotation moves the bits around. -/
theorem getLsbD_rotateLeft (x : UInt64) {i : Nat} (hi : i < 64) :
    (rotateLeft x n).toBitVec.getLsbD ((i + n.toNat) % 64) = x.toBitVec.getLsbD i := by
  rw [toBitVec_rotateLeft positive small, BitVec.getLsbD_rotateLeft, Nat.mod_eq_of_lt small]
  rcases Nat.lt_or_ge (i + n.toNat) 64 with hstays | hwraps
  · have hplace : ¬ i + n.toNat < n.toNat := by omega
    simp [Nat.mod_eq_of_lt hstays, hplace, hstays]
  · have hplace : (i + n.toNat) % 64 = i + n.toNat - 64 := by omega
    have hbelow : i + n.toNat - 64 < n.toNat := by omega
    have hback : 64 - n.toNat + (i + n.toNat - 64) = i := by omega
    simp [hplace, hbelow, hback]

theorem rotateLeft_inj : rotateLeft x n = rotateLeft y n ↔ x = y := by
  constructor
  · intro h
    apply UInt64.toBitVec_inj.1
    apply BitVec.eq_of_getLsbD_eq
    intro i hi
    rw [← getLsbD_rotateLeft positive small x hi, h, getLsbD_rotateLeft positive small y hi]
  · intro h
    rw [h]

/-- The highest bits are as they were, and every other bit is next to one above it. -/
theorem xor_shiftRight_inj : x ^^^ (x >>> n) = y ^^^ (y >>> n) ↔ x = y := by
  constructor
  · intro h
    have hshift : (n.toBitVec % 64).toNat = n.toNat := by
      rw [BitVec.toNat_umod, UInt64.toNat_toBitVec]
      exact Nat.mod_eq_of_lt small
    -- from the highest bits down
    have hbits : ∀ k i : Nat, 64 ≤ i + k → x.toBitVec.getLsbD i = y.toBitVec.getLsbD i := by
      intro k
      induction k with
      | zero =>
          intro i hi
          have hnone : 64 ≤ i := hi
          rw [BitVec.getLsbD_of_ge _ _ hnone, BitVec.getLsbD_of_ge _ _ hnone]
      | succ k ih =>
          intro i hi
          have habove := ih (n.toNat + i) (by omega)
          have hbit := congrArg (fun z : UInt64 => z.toBitVec.getLsbD i) h
          simp only [UInt64.toBitVec_xor, UInt64.toBitVec_shiftRight, BitVec.getLsbD_xor,
            BitVec.ushiftRight_eq', hshift, BitVec.getLsbD_ushiftRight, habove] at hbit
          exact Bool.xor_left_inj.1 hbit
    apply UInt64.toBitVec_inj.1
    apply BitVec.eq_of_getLsbD_eq
    intro i _
    exact hbits 64 i (by omega)
  · intro h
    rw [h]

end Shifts

theorem spread_inj {x y : UInt64} : spread x = spread y ↔ x = y := by
  unfold spread
  rw [xor_shiftRight_inj (by decide) (by decide), mul_prime₃_inj,
    xor_shiftRight_inj (by decide) (by decide), mul_prime₂_inj,
    xor_shiftRight_inj (by decide) (by decide)]

/-! ## Bytes as words -/

theorem toNat_lt_of_mem (bytes : List UInt8) : ∀ d ∈ bytes.map UInt8.toNat, d < 256 := by
  intro d hd
  obtain ⟨b, _, rfl⟩ := List.mem_map.1 hd
  exact b.toNat_lt

/-- Up to eight bytes are read as the number that they are the digits of. -/
theorem toNat_word : ∀ {bytes : List UInt8}, bytes.length ≤ 8 →
    (word bytes).toNat = Nat.ofDigits 256 (bytes.map UInt8.toNat)
  | [], _ => rfl
  | b :: bytes, h => by
      have hlength : bytes.length ≤ 7 := Nat.le_of_succ_le_succ h
      have hrest := toNat_word (Nat.le_succ_of_le hlength)
      have hbound : Nat.ofDigits 256 (bytes.map UInt8.toNat) < 256 ^ 7 := by
        calc
          Nat.ofDigits 256 (bytes.map UInt8.toNat) < 256 ^ (bytes.map UInt8.toNat).length :=
              Nat.ofDigits_lt_base_pow_length (by decide) (toNat_lt_of_mem bytes)
          _ ≤ 256 ^ 7 := Nat.pow_le_pow_right (by decide) (by simpa using hlength)
      have hb : b.toUInt64.toNat < 256 := by
        rw [UInt8.toNat_toUInt64]
        exact b.toNat_lt
      have hword : word (b :: bytes) = b.toUInt64 + 256 * word bytes := rfl
      have hunit : (256 : UInt64).toNat = 256 := rfl
      rw [hword, UInt64.toNat_add, UInt64.toNat_mul, hrest, List.map_cons, Nat.ofDigits_cons, hunit,
        ← UInt8.toNat_toUInt64]
      omega

theorem word_inj {xs ys : List UInt8} (same : xs.length = ys.length) (short : xs.length ≤ 8) :
    word xs = word ys ↔ xs = ys := by
  constructor
  · intro h
    have hdigits : Nat.ofDigits 256 (xs.map UInt8.toNat) = Nat.ofDigits 256 (ys.map UInt8.toNat) := by
      rw [← toNat_word short, ← toNat_word (same ▸ short), h]
    have hnumbers : xs.map UInt8.toNat = ys.map UInt8.toNat :=
      Nat.ofDigits_inj_of_len_eq (by decide) (by simpa using same) (toNat_lt_of_mem xs)
        (toNat_lt_of_mem ys) hdigits
    exact List.map_injective_iff.2 (fun _ _ => UInt8.toNat_inj.1) hnumbers
  · intro h
    rw [h]

/-! ## Pieces -/

/-- Mixes in a piece of eight or four bytes, and other bytes one by one. -/
def mixPiece (h : UInt64) (piece : List UInt8) : UInt64 :=
  if piece.length = 8 then mixEight h piece
  else if piece.length = 4 then mixFour h piece
  else piece.foldl mixOne h

theorem mixPiece_eight {piece : List UInt8} (eight : piece.length = 8) (h : UInt64) :
    mixPiece h piece = mixEight h piece := by
  rw [mixPiece, if_pos eight]

theorem mixPiece_four {piece : List UInt8} (four : piece.length = 4) (h : UInt64) :
    mixPiece h piece = mixFour h piece := by
  rw [mixPiece, if_neg (by omega), if_pos four]

theorem mixPiece_other {piece : List UInt8} (noEight : piece.length ≠ 8) (noFour : piece.length ≠ 4)
    (h : UInt64) : mixPiece h piece = piece.foldl mixOne h := by
  rw [mixPiece, if_neg noEight, if_neg noFour]

theorem feed_inj {x y : UInt64} : feed 0 x = feed 0 y ↔ x = y := by
  unfold feed
  rw [mul_prime₁_inj, rotateLeft_inj (by decide) (by decide), UInt64.add_right_inj, mul_prime₂_inj]

theorem mixEight_left_inj {h h' : UInt64} {piece : List UInt8} :
    mixEight h piece = mixEight h' piece ↔ h = h' := by
  unfold mixEight
  rw [UInt64.add_left_inj, mul_prime₁_inj, rotateLeft_inj (by decide) (by decide),
    UInt64.xor_left_inj]

theorem mixEight_right_inj {h : UInt64} {p q : List UInt8} (hp : p.length = 8) (hq : q.length = 8) :
    mixEight h p = mixEight h q ↔ p = q := by
  unfold mixEight
  rw [UInt64.add_left_inj, mul_prime₁_inj, rotateLeft_inj (by decide) (by decide),
    UInt64.xor_right_inj, feed_inj, word_inj (hp.trans hq.symm) (by omega)]

theorem mixFour_left_inj {h h' : UInt64} {piece : List UInt8} :
    mixFour h piece = mixFour h' piece ↔ h = h' := by
  unfold mixFour
  rw [UInt64.add_left_inj, mul_prime₂_inj, rotateLeft_inj (by decide) (by decide),
    UInt64.xor_left_inj]

theorem mixFour_right_inj {h : UInt64} {p q : List UInt8} (hp : p.length = 4) (hq : q.length = 4) :
    mixFour h p = mixFour h q ↔ p = q := by
  unfold mixFour
  rw [UInt64.add_left_inj, mul_prime₂_inj, rotateLeft_inj (by decide) (by decide),
    UInt64.xor_right_inj, mul_prime₁_inj, word_inj (hp.trans hq.symm) (by omega)]

theorem mixOne_left_inj {h h' : UInt64} {b : UInt8} : mixOne h b = mixOne h' b ↔ h = h' := by
  unfold mixOne
  rw [mul_prime₁_inj, rotateLeft_inj (by decide) (by decide), UInt64.xor_left_inj]

theorem mixOne_right_inj {h : UInt64} {b c : UInt8} : mixOne h b = mixOne h c ↔ b = c := by
  unfold mixOne
  rw [mul_prime₁_inj, rotateLeft_inj (by decide) (by decide), UInt64.xor_right_inj, mul_prime₅_inj,
    UInt8.toUInt64_inj]

/-- Steps that can each be undone can be undone together. -/
theorem foldl_inj {α : Type} {step : UInt64 → α → UInt64}
    (undone : ∀ a h h', step h a = step h' a ↔ h = h') (as : List α) {h h' : UInt64} :
    as.foldl step h = as.foldl step h' ↔ h = h' := by
  induction as generalizing h h' with
  | nil => rfl
  | cons a as ih => rw [List.foldl_cons, List.foldl_cons, ih, undone]

theorem mixPiece_left_inj (piece : List UInt8) (h h' : UInt64) :
    mixPiece h piece = mixPiece h' piece ↔ h = h' := by
  by_cases height : piece.length = 8
  · rw [mixPiece_eight height, mixPiece_eight height, mixEight_left_inj]
  by_cases hfour : piece.length = 4
  · rw [mixPiece_four hfour, mixPiece_four hfour, mixFour_left_inj]
  · have hundone : ∀ b h h', mixOne h b = mixOne h' b ↔ h = h' := fun _ _ _ => mixOne_left_inj
    rw [mixPiece_other height hfour, mixPiece_other height hfour, foldl_inj hundone]

/-- What is mixed into a word can be told from the result, if it is known how many bytes it is. -/
theorem mixPiece_right_inj {h : UInt64} {p q : List UInt8} (same : p.length = q.length)
    (width : p.length = 8 ∨ p.length = 4 ∨ p.length = 1) :
    mixPiece h p = mixPiece h q ↔ p = q := by
  rcases width with hp | hp | hp
  · have hq : q.length = 8 := same ▸ hp
    rw [mixPiece_eight hp, mixPiece_eight hq, mixEight_right_inj hp hq]
  · have hq : q.length = 4 := same ▸ hp
    rw [mixPiece_four hp, mixPiece_four hq, mixFour_right_inj hp hq]
  · have hq : q.length = 1 := same ▸ hp
    rcases List.length_eq_one_iff.1 hp with ⟨b, rfl⟩
    rcases List.length_eq_one_iff.1 hq with ⟨c, rfl⟩
    have hstep : ∀ b : UInt8, mixPiece h [b] = mixOne h b := fun _ => mixPiece_other (by simp) (by simp) h
    rw [hstep, hstep, mixOne_right_inj, List.singleton_inj]

/-! ## The pieces behind the stripes -/

theorem map_length_pieces {size count : Nat} {bytes : List UInt8} (enough : count * size ≤ bytes.length) :
    (pieces size count bytes).1.map List.length = List.replicate count size := by
  induction count generalizing bytes with
  | zero => rfl
  | succ count ih =>
      have hfirst : size ≤ bytes.length := by
        rw [Nat.succ_mul] at enough
        omega
      have hmore : count * size ≤ (bytes.drop size).length := by
        rw [Nat.succ_mul] at enough
        rw [List.length_drop]
        omega
      rw [List.replicate_succ, ← ih hmore]
      simp only [pieces, List.map_cons, List.length_take, Nat.min_eq_left hfirst]

theorem length_pieces_rest (size count : Nat) (bytes : List UInt8) :
    (pieces size count bytes).2.length = bytes.length - count * size := by
  induction count generalizing bytes with
  | zero => simp [pieces]
  | succ count ih => rw [pieces, ih, List.length_drop, Nat.succ_mul, Nat.sub_sub, Nat.add_comm]

theorem map_length_wholePieces (size : Nat) (bytes : List UInt8) :
    (wholePieces size bytes).1.map List.length = List.replicate (bytes.length / size) size :=
  map_length_pieces (Nat.div_mul_le_self _ _)

theorem length_wholePieces_rest (size : Nat) (bytes : List UInt8) :
    (wholePieces size bytes).2.length = bytes.length % size := by
  rw [wholePieces, length_pieces_rest, Nat.mod_eq_sub_div_mul]

/-- The whole stripes of an input. -/
def stripes (bytes : List UInt8) : List (List UInt8) := (wholePieces 32 bytes).1

/-- What is behind the whole stripes, cut as it is mixed in: in eights, a four, and single bytes. -/
def tailPieces (bytes : List UInt8) : List (List UInt8) :=
  let tail := (wholePieces 32 bytes).2
  let rest := (wholePieces 8 tail).2
  (wholePieces 8 tail).1 ++ (wholePieces 4 rest).1 ++ (wholePieces 4 rest).2.map ([·])

/-- How wide the pieces behind the whole stripes are. -/
def tailWidths (length : Nat) : List Nat :=
  List.replicate (length % 32 / 8) 8 ++ List.replicate (length % 32 % 8 / 4) 4 ++
    List.replicate (length % 32 % 8 % 4) 1

theorem map_length_tailPieces (bytes : List UInt8) :
    (tailPieces bytes).map List.length = tailWidths bytes.length := by
  have hones : ∀ ones : List UInt8, (ones.map ([·])).map List.length = List.replicate ones.length 1 := by
    intro ones
    rw [List.map_map, ← List.map_const']
    rfl
  simp only [tailPieces, tailWidths, List.map_append, map_length_wholePieces, length_wholePieces_rest,
    hones]

theorem mem_tailWidths {width length : Nat} (member : width ∈ tailWidths length) :
    width = 8 ∨ width = 4 ∨ width = 1 := by
  rcases List.mem_append.1 member with hwide | hone
  · rcases List.mem_append.1 hwide with height | hfour
    · exact Or.inl (List.eq_of_mem_replicate height)
    · exact Or.inr (Or.inl (List.eq_of_mem_replicate hfour))
  · exact Or.inr (Or.inr (List.eq_of_mem_replicate hone))

/-- What the whole stripes of an input make of the seed. -/
def afterStripes (seed : UInt64) (stripes : List (List UInt8)) : UInt64 :=
  if stripes.isEmpty then seed + prime₅
  else (stripes.foldl Lanes.feedStripe (Lanes.start seed)).join

theorem length_of_mem_wholePieces {size : Nat} {bytes piece : List UInt8}
    (member : piece ∈ (wholePieces size bytes).1) : piece.length = size := by
  have hwidth : piece.length ∈ (wholePieces size bytes).1.map List.length := List.mem_map_of_mem member
  rw [map_length_wholePieces] at hwidth
  exact List.eq_of_mem_replicate hwidth

/-- The hash is a run over the pieces behind the stripes, from what the stripes and the length make of
the seed. -/
theorem hash_eq_foldl (seed : UInt64) (bytes : List UInt8) :
    hash seed bytes = spread ((tailPieces bytes).foldl mixPiece
      (afterStripes seed (stripes bytes) + UInt64.ofNat bytes.length)) := by
  have heights : ∀ h tail, (wholePieces 8 tail).1.foldl mixPiece h =
      (wholePieces 8 tail).1.foldl mixEight h := by
    intro h tail
    exact List.foldl_ext _ _ _ fun h _ hp => mixPiece_eight (length_of_mem_wholePieces hp) h
  have hfours : ∀ h tail, (wholePieces 4 tail).1.foldl mixPiece h =
      (wholePieces 4 tail).1.foldl mixFour h := by
    intro h tail
    exact List.foldl_ext _ _ _ fun h _ hp => mixPiece_four (length_of_mem_wholePieces hp) h
  have hones : ∀ h (ones : List UInt8), (ones.map ([·])).foldl mixPiece h = ones.foldl mixOne h := by
    intro h ones
    rw [List.foldl_map]
    exact List.foldl_ext _ _ _ fun h b _ => mixPiece_other (by simp) (by simp) h
  simp only [tailPieces, List.foldl_append, heights, hfours, hones]
  rfl

/-! ## Inputs that differ in one piece -/

/-- Two inputs are of one length and differ in one of the pieces behind the whole stripes. -/
def DifferInOnePiece (xs ys : List UInt8) : Prop :=
  xs.length = ys.length ∧ stripes xs = stripes ys ∧
    ∃ front p q back, p ≠ q ∧ tailPieces xs = front ++ p :: back ∧ tailPieces ys = front ++ q :: back

theorem hash_ne_of_differInOnePiece {seed : UInt64} {xs ys : List UInt8}
    (differ : DifferInOnePiece xs ys) : hash seed xs ≠ hash seed ys := by
  obtain ⟨hlength, hstripes, front, p, q, back, hne, hxs, hys⟩ := differ
  have hxwidths := map_length_tailPieces xs
  have hywidths := map_length_tailPieces ys
  rw [hxs, List.map_append, List.map_cons] at hxwidths
  rw [hys, List.map_append, List.map_cons, ← hlength, ← hxwidths, List.append_cancel_left_eq,
    List.cons.injEq] at hywidths
  have hsame : p.length = q.length := hywidths.1.symm
  have hwidth : p.length = 8 ∨ p.length = 4 ∨ p.length = 1 := by
    have hmember : p.length ∈ tailWidths xs.length := by
      rw [← hxwidths]
      simp
    exact mem_tailWidths hmember
  intro h
  rw [hash_eq_foldl, hash_eq_foldl, spread_inj, hxs, hys, hstripes, hlength, List.foldl_append,
    List.foldl_append, List.foldl_cons, List.foldl_cons, foldl_inj mixPiece_left_inj,
    mixPiece_right_inj hsame hwidth] at h
  exact hne h

end NativeMethod.XXHash64
