/-!
# XXHash64

The 64-bit variant of XXHash over a list of bytes.  Thirty-two bytes at a time go through four
lanes; the rest is mixed in eight bytes, four bytes and one byte at a time, and a last mixing
step spreads every bit over the result.
-/

namespace NativeMethod.XXHash64

def prime₁ : UInt64 := 0x9E3779B185EBCA87

def prime₂ : UInt64 := 0xC2B2AE3D27D4EB4F

def prime₃ : UInt64 := 0x165667B19E3779F9

def prime₄ : UInt64 := 0x85EBCA77C2B2AE63

def prime₅ : UInt64 := 0x27D4EB2F165667C5

/-- Rotation to the left by less than 64 places. -/
def rotateLeft (x n : UInt64) : UInt64 := (x <<< n) ||| (x >>> (64 - n))

/-- The number that bytes denote, the least significant byte first. -/
def word (bytes : List UInt8) : UInt64 :=
  bytes.foldr (fun b rest => b.toUInt64 + 256 * rest) 0

def feed (lane input : UInt64) : UInt64 := rotateLeft (lane + input * prime₂) 31 * prime₁

/-- The four lanes of the long form. -/
structure Lanes where
  first : UInt64
  second : UInt64
  third : UInt64
  fourth : UInt64

namespace Lanes

/-- The lanes before any input. -/
def start (seed : UInt64) : Lanes := ⟨seed + prime₁ + prime₂, seed + prime₂, seed, seed - prime₁⟩

/-- Feeds a stripe of thirty-two bytes, eight to a lane. -/
def feedStripe (l : Lanes) (stripe : List UInt8) : Lanes :=
  { first := feed l.first (word (stripe.take 8))
    second := feed l.second (word ((stripe.drop 8).take 8))
    third := feed l.third (word ((stripe.drop 16).take 8))
    fourth := feed l.fourth (word ((stripe.drop 24).take 8)) }

def join (l : Lanes) : UInt64 :=
  let sum := rotateLeft l.first 1 + rotateLeft l.second 7 + rotateLeft l.third 12 +
    rotateLeft l.fourth 18
  [l.first, l.second, l.third, l.fourth].foldl
    (fun h lane => (h ^^^ feed 0 lane) * prime₁ + prime₄) sum

end Lanes

/-- A list of bytes cut into its first `count` pieces of `size` bytes and the rest. -/
def pieces (size : Nat) : Nat → List UInt8 → List (List UInt8) × List UInt8
  | 0, bytes => ([], bytes)
  | count + 1, bytes =>
    let (more, rest) := pieces size count (bytes.drop size)
    (bytes.take size :: more, rest)

/-- All whole pieces of `size` bytes of a list, and the rest. -/
def wholePieces (size : Nat) (bytes : List UInt8) : List (List UInt8) × List UInt8 :=
  pieces size (bytes.length / size) bytes

def mixEight (h : UInt64) (piece : List UInt8) : UInt64 :=
  rotateLeft (h ^^^ feed 0 (word piece)) 27 * prime₁ + prime₄

def mixFour (h : UInt64) (piece : List UInt8) : UInt64 :=
  rotateLeft (h ^^^ (word piece * prime₁)) 23 * prime₂ + prime₃

def mixOne (h : UInt64) (b : UInt8) : UInt64 :=
  rotateLeft (h ^^^ (b.toUInt64 * prime₅)) 11 * prime₁

/-- The last step, which lets every bit of its input reach every bit of the result. -/
def spread (h : UInt64) : UInt64 :=
  let h := (h ^^^ (h >>> 33)) * prime₂
  let h := (h ^^^ (h >>> 29)) * prime₃
  h ^^^ (h >>> 32)

/-- The hash of a list of bytes under a seed. -/
def hash (seed : UInt64) (bytes : List UInt8) : UInt64 :=
  let (stripes, tail) := wholePieces 32 bytes
  let start :=
    -- an input shorter than a stripe never touches the lanes
    if stripes.isEmpty then seed + prime₅
    else (stripes.foldl Lanes.feedStripe (Lanes.start seed)).join
  let (eights, tail) := wholePieces 8 tail
  let (fours, ones) := wholePieces 4 tail
  let h := start + UInt64.ofNat bytes.length
  let h := eights.foldl mixEight h
  let h := fours.foldl mixFour h
  spread (ones.foldl mixOne h)

end NativeMethod.XXHash64
