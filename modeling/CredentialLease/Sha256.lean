import CredentialLease.Bytes

/-!
# The SHA-256 digest of a byte string

The message is padded to blocks of 64 bytes, every block is expanded to a schedule of 64 words,
and the compression function mixes the schedule into a state of eight words. The digest is the
final state in big-endian order.
-/

namespace CredentialLease.Sha256

/-! ### Words -/

/-- A word rotated to the right. -/
def rotateRight (x : UInt32) (n : UInt32) : UInt32 := (x >>> n) ||| (x <<< (32 - n))

/-- The round constants: the first 32 bits of the fractional parts of the cube roots of the
first 64 primes. -/
def roundConstants : List UInt32 :=
  [0x428a2f98, 0x71374491, 0xb5c0fbcf, 0xe9b5dba5, 0x3956c25b, 0x59f111f1, 0x923f82a4, 0xab1c5ed5,
   0xd807aa98, 0x12835b01, 0x243185be, 0x550c7dc3, 0x72be5d74, 0x80deb1fe, 0x9bdc06a7, 0xc19bf174,
   0xe49b69c1, 0xefbe4786, 0x0fc19dc6, 0x240ca1cc, 0x2de92c6f, 0x4a7484aa, 0x5cb0a9dc, 0x76f988da,
   0x983e5152, 0xa831c66d, 0xb00327c8, 0xbf597fc7, 0xc6e00bf3, 0xd5a79147, 0x06ca6351, 0x14292967,
   0x27b70a85, 0x2e1b2138, 0x4d2c6dfc, 0x53380d13, 0x650a7354, 0x766a0abb, 0x81c2c92e, 0x92722c85,
   0xa2bfe8a1, 0xa81a664b, 0xc24b8b70, 0xc76c51a3, 0xd192e819, 0xd6990624, 0xf40e3585, 0x106aa070,
   0x19a4c116, 0x1e376c08, 0x2748774c, 0x34b0bcb5, 0x391c0cb3, 0x4ed8aa4a, 0x5b9cca4f, 0x682e6ff3,
   0x748f82ee, 0x78a5636f, 0x84c87814, 0x8cc70208, 0x90befffa, 0xa4506ceb, 0xbef9a3f7, 0xc67178f2]

/-- The eight words of the state. -/
structure State where
  a : UInt32
  b : UInt32
  c : UInt32
  d : UInt32
  e : UInt32
  f : UInt32
  g : UInt32
  h : UInt32
deriving DecidableEq

/-- The state before the first block: the first 32 bits of the fractional parts of the square
roots of the first eight primes. -/
def State.initial : State :=
  ⟨0x6a09e667, 0xbb67ae85, 0x3c6ef372, 0xa54ff53a, 0x510e527f, 0x9b05688c, 0x1f83d9ab, 0x5be0cd19⟩

/-- The sum of two states, word by word. -/
def State.add (s t : State) : State :=
  ⟨s.a + t.a, s.b + t.b, s.c + t.c, s.d + t.d, s.e + t.e, s.f + t.f, s.g + t.g, s.h + t.h⟩

/-! ### Blocks -/

/-- The bytes that complete a message of the given length to whole blocks. -/
def pad (length : Nat) : Bytes :=
  0x80 :: List.replicate ((119 - length % 64) % 64) 0 ++ Bytes.bigEndian 8 (length * 8)

/-- The first `count` blocks of a padded message. -/
def blocks : Nat → Bytes → List Bytes
  | 0, _ => []
  | count + 1, bytes => bytes.take 64 :: blocks count (bytes.drop 64)

/-- The words of a block. -/
def words : Bytes → List UInt32
  | a :: b :: c :: d :: rest =>
    UInt32.ofNat (Bytes.ofBigEndian [a, b, c, d]) :: words rest
  | _ => []

/-- Adds `count` words to a schedule that is held in reverse. -/
def extend : Nat → List UInt32 → List UInt32
  | 0, schedule => schedule
  | count + 1, schedule =>
    let word (back : Nat) : UInt32 := schedule.getD (back - 1) 0
    let low := rotateRight (word 15) 7 ^^^ rotateRight (word 15) 18 ^^^ (word 15 >>> 3)
    let high := rotateRight (word 2) 17 ^^^ rotateRight (word 2) 19 ^^^ (word 2 >>> 10)
    extend count ((word 16 + low + word 7 + high) :: schedule)

/-- The schedule of a block. -/
def schedule (block : Bytes) : List UInt32 := (extend 48 (words block).reverse).reverse

/-- One round of compression with its constant and its word of the schedule. -/
def round (s : State) (k w : UInt32) : State :=
  let sum1 := rotateRight s.e 6 ^^^ rotateRight s.e 11 ^^^ rotateRight s.e 25
  let choice := (s.e &&& s.f) ^^^ (~~~s.e &&& s.g)
  let first := s.h + sum1 + choice + k + w
  let sum0 := rotateRight s.a 2 ^^^ rotateRight s.a 13 ^^^ rotateRight s.a 22
  let majority := (s.a &&& s.b) ^^^ (s.a &&& s.c) ^^^ (s.b &&& s.c)
  ⟨first + (sum0 + majority), s.a, s.b, s.c, s.d + first, s.e, s.f, s.g⟩

/-- The state after a block. -/
def compress (s : State) (block : Bytes) : State :=
  s.add ((roundConstants.zip (schedule block)).foldl (fun t kw => round t kw.1 kw.2) s)

/-! ### Digest -/

/-- The SHA-256 digest of a byte string. -/
def digest (message : Bytes) : Bytes :=
  let padded := message ++ pad message.length
  let s := (blocks (padded.length / 64) padded).foldl compress State.initial
  [s.a, s.b, s.c, s.d, s.e, s.f, s.g, s.h].flatMap fun w => Bytes.bigEndian 4 w.toNat

end CredentialLease.Sha256
