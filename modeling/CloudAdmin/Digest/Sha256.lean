import CloudAdmin.Text.Hex

/-!
# SHA-256

A message is padded to whole blocks of sixteen words. Each block is extended to sixty-four words,
which are mixed one after the other into a state of eight words, and the result is added to the
state before the block. The digest is the last state, eight words of four bytes each.
-/

namespace CloudAdmin.Digest.Sha256

/-- The round constants: the first bits of the fractional parts of the cube roots of primes. -/
def roundConstants : List UInt32 := [
  0x428a2f98, 0x71374491, 0xb5c0fbcf, 0xe9b5dba5, 0x3956c25b, 0x59f111f1, 0x923f82a4, 0xab1c5ed5,
  0xd807aa98, 0x12835b01, 0x243185be, 0x550c7dc3, 0x72be5d74, 0x80deb1fe, 0x9bdc06a7, 0xc19bf174,
  0xe49b69c1, 0xefbe4786, 0x0fc19dc6, 0x240ca1cc, 0x2de92c6f, 0x4a7484aa, 0x5cb0a9dc, 0x76f988da,
  0x983e5152, 0xa831c66d, 0xb00327c8, 0xbf597fc7, 0xc6e00bf3, 0xd5a79147, 0x06ca6351, 0x14292967,
  0x27b70a85, 0x2e1b2138, 0x4d2c6dfc, 0x53380d13, 0x650a7354, 0x766a0abb, 0x81c2c92e, 0x92722c85,
  0xa2bfe8a1, 0xa81a664b, 0xc24b8b70, 0xc76c51a3, 0xd192e819, 0xd6990624, 0xf40e3585, 0x106aa070,
  0x19a4c116, 0x1e376c08, 0x2748774c, 0x34b0bcb5, 0x391c0cb3, 0x4ed8aa4a, 0x5b9cca4f, 0x682e6ff3,
  0x748f82ee, 0x78a5636f, 0x84c87814, 0x8cc70208, 0x90befffa, 0xa4506ceb, 0xbef9a3f7, 0xc67178f2]

/-- The eight words that blocks are mixed into. -/
structure State where
  a : UInt32
  b : UInt32
  c : UInt32
  d : UInt32
  e : UInt32
  f : UInt32
  g : UInt32
  h : UInt32
deriving DecidableEq, Repr

/-- The state before the first block: the first bits of the fractional parts of the square roots of
primes. -/
def initialState : State :=
  ⟨0x6a09e667, 0xbb67ae85, 0x3c6ef372, 0xa54ff53a, 0x510e527f, 0x9b05688c, 0x1f83d9ab, 0x5be0cd19⟩

/-- A word with its bits rotated to the right. -/
def rotateRight (amount : UInt32) (word : UInt32) : UInt32 :=
  (word >>> amount) ||| (word <<< (32 - amount))

/-- A mixture of a word's bits that the state is mixed with. -/
def largeSigma (first second third : UInt32) (word : UInt32) : UInt32 :=
  rotateRight first word ^^^ rotateRight second word ^^^ rotateRight third word

/-- A mixture of a word's bits that blocks are extended with. -/
def smallSigma (first second shift : UInt32) (word : UInt32) : UInt32 :=
  rotateRight first word ^^^ rotateRight second word ^^^ (word >>> shift)

/-- The next word of a block, from the words before it in reverse. -/
def nextWord (reversed : List UInt32) : UInt32 :=
  smallSigma 17 19 10 (reversed.getD 1 0) + reversed.getD 6 0 +
    smallSigma 7 18 3 (reversed.getD 14 0) + reversed.getD 15 0

/-- A block in reverse, extended by so many words. -/
def extend : Nat → List UInt32 → List UInt32
  | 0, reversed => reversed
  | count + 1, reversed => extend count (nextWord reversed :: reversed)

/-- The sixty-four words of a block of sixteen. -/
def schedule (block : List UInt32) : List UInt32 :=
  (extend 48 block.reverse).reverse

/-- Mix one word into the state. -/
def mix (state : State) (constantAndWord : UInt32 × UInt32) : State :=
  let choice := (state.e &&& state.f) ^^^ (~~~state.e &&& state.g)
  let majority := (state.a &&& state.b) ^^^ (state.a &&& state.c) ^^^ (state.b &&& state.c)
  let first := state.h + largeSigma 6 11 25 state.e + choice + constantAndWord.1 + constantAndWord.2
  let second := largeSigma 2 13 22 state.a + majority
  ⟨first + second, state.a, state.b, state.c, state.d + first, state.e, state.f, state.g⟩

/-- Two states added word by word. -/
def State.add (left right : State) : State :=
  ⟨left.a + right.a, left.b + right.b, left.c + right.c, left.d + right.d, left.e + right.e,
    left.f + right.f, left.g + right.g, left.h + right.h⟩

/-- The state after a block. -/
def absorb (state : State) (block : List UInt32) : State :=
  state.add ((roundConstants.zip (schedule block)).foldl mix state)

/-- The bytes of a number, the most significant first. -/
def bigEndian : Nat → Nat → List UInt8
  | 0, _ => []
  | count + 1, value => bigEndian count (value / 256) ++ [UInt8.ofNat (value % 256)]

/-- A message followed by a one bit, zeros up to whole blocks and its length in bits. -/
def pad (message : List UInt8) : List UInt8 :=
  let zeros := (119 - message.length % 64) % 64
  message ++ 0x80 :: (List.replicate zeros 0 ++ bigEndian 8 (message.length * 8))

/-- The words that bytes make, four at a time. -/
def words : List UInt8 → List UInt32
  | a :: b :: c :: d :: rest =>
      UInt32.ofNat (((a.toNat * 256 + b.toNat) * 256 + c.toNat) * 256 + d.toNat) :: words rest
  | _ => []

/-- Words in blocks of sixteen, as many as a bound allows. -/
def blocks : Nat → List UInt32 → List (List UInt32)
  | 0, _ => []
  | _, [] => []
  | bound + 1, list => list.take 16 :: blocks bound (list.drop 16)

def State.bytes (state : State) : List UInt8 :=
  [state.a, state.b, state.c, state.d, state.e, state.f, state.g, state.h].flatMap fun word =>
    bigEndian 4 word.toNat

def digest (message : List UInt8) : List UInt8 :=
  let padded := words (pad message)
  ((blocks padded.length padded).foldl absorb initialState).bytes

/-- The digest of a message in lower-case hexadecimal digits. -/
def hexDigest (message : List UInt8) : String :=
  String.ofList ((digest message).flatMap Text.hexByte)

theorem length_bigEndian (count value : Nat) : (bigEndian count value).length = count := by
  induction count generalizing value with
  | zero => rfl
  | succ count ih => simp [bigEndian, ih]

@[simp]
theorem length_digest (message : List UInt8) : (digest message).length = 32 := by
  simp [digest, State.bytes, length_bigEndian]

end CloudAdmin.Digest.Sha256
