/-!
# Digests

The SHA-256 digest of a byte string, by which paths are known in spans.
-/

namespace ArtifactDepot.Digest

/-- The round constants: fraction bits of the cube roots of the first primes. -/
def roundConstants : Array UInt32 := #[
  0x428a2f98, 0x71374491, 0xb5c0fbcf, 0xe9b5dba5, 0x3956c25b, 0x59f111f1, 0x923f82a4, 0xab1c5ed5,
  0xd807aa98, 0x12835b01, 0x243185be, 0x550c7dc3, 0x72be5d74, 0x80deb1fe, 0x9bdc06a7, 0xc19bf174,
  0xe49b69c1, 0xefbe4786, 0x0fc19dc6, 0x240ca1cc, 0x2de92c6f, 0x4a7484aa, 0x5cb0a9dc, 0x76f988da,
  0x983e5152, 0xa831c66d, 0xb00327c8, 0xbf597fc7, 0xc6e00bf3, 0xd5a79147, 0x06ca6351, 0x14292967,
  0x27b70a85, 0x2e1b2138, 0x4d2c6dfc, 0x53380d13, 0x650a7354, 0x766a0abb, 0x81c2c92e, 0x92722c85,
  0xa2bfe8a1, 0xa81a664b, 0xc24b8b70, 0xc76c51a3, 0xd192e819, 0xd6990624, 0xf40e3585, 0x106aa070,
  0x19a4c116, 0x1e376c08, 0x2748774c, 0x34b0bcb5, 0x391c0cb3, 0x4ed8aa4a, 0x5b9cca4f, 0x682e6ff3,
  0x748f82ee, 0x78a5636f, 0x84c87814, 0x8cc70208, 0x90befffa, 0xa4506ceb, 0xbef9a3f7, 0xc67178f2]

/-- The chaining state: eight words. -/
structure State where
  a : UInt32
  b : UInt32
  c : UInt32
  d : UInt32
  e : UInt32
  f : UInt32
  g : UInt32
  h : UInt32

/-- The state before any block: fraction bits of the square roots of the first primes. -/
def State.initial : State :=
  ⟨0x6a09e667, 0xbb67ae85, 0x3c6ef372, 0xa54ff53a, 0x510e527f, 0x9b05688c, 0x1f83d9ab, 0x5be0cd19⟩

/-- Rotate a word to the right. -/
def rotate (word : UInt32) (count : UInt32) : UInt32 :=
  (word >>> count) ||| (word <<< (32 - count))

/-- Mixing of older words into the message schedule. -/
def sigmaSmall (first second shift : UInt32) (word : UInt32) : UInt32 :=
  rotate word first ^^^ rotate word second ^^^ (word >>> shift)

/-- Mixing of a state word. -/
def sigmaLarge (first second third : UInt32) (word : UInt32) : UInt32 :=
  rotate word first ^^^ rotate word second ^^^ rotate word third

/-- The words of a block, extended to one for each round. -/
def schedule (block : List UInt32) : Array UInt32 :=
  (List.range 48).foldl
    (fun words i =>
      words.push
        (words.getD i 0 + sigmaSmall 7 18 3 (words.getD (i + 1) 0) + words.getD (i + 9) 0 +
          sigmaSmall 17 19 10 (words.getD (i + 14) 0)))
    block.toArray

/-- One round. -/
def State.round (state : State) (constant word : UInt32) : State :=
  let choice := (state.e &&& state.f) ^^^ (~~~state.e &&& state.g)
  let majority := (state.a &&& state.b) ^^^ (state.a &&& state.c) ^^^ (state.b &&& state.c)
  let first := state.h + sigmaLarge 6 11 25 state.e + choice + constant + word
  let second := sigmaLarge 2 13 22 state.a + majority
  ⟨first + second, state.a, state.b, state.c, state.d + first, state.e, state.f, state.g⟩

/-- The word-wise sum of two states. -/
def State.add (left right : State) : State :=
  ⟨left.a + right.a, left.b + right.b, left.c + right.c, left.d + right.d,
    left.e + right.e, left.f + right.f, left.g + right.g, left.h + right.h⟩

/-- Take one block into the state. -/
def State.absorb (state : State) (block : List UInt32) : State :=
  let words := schedule block
  state.add ((List.range 64).foldl
    (fun current i => current.round (roundConstants.getD i 0) (words.getD i 0)) state)

/-- A number as big-endian bytes. -/
def bigEndian (width n : Nat) : List UInt8 :=
  (List.range width).reverse.map (fun i => (n >>> (8 * i)).toUInt8)

/-- The message, a one bit, zeros up to eight bytes short of a block, and the length in bits. -/
def padded (message : List UInt8) : List UInt8 :=
  let zeros := (119 - message.length % 64) % 64
  message ++ 0x80 :: List.replicate zeros 0 ++ bigEndian 8 (8 * message.length)

/-- Four bytes make a word. -/
def wordsOf : List UInt8 → List UInt32
  | a :: b :: c :: d :: rest =>
      ((a.toUInt32 <<< 24) ||| (b.toUInt32 <<< 16) ||| (c.toUInt32 <<< 8) ||| d.toUInt32) ::
        wordsOf rest
  | _ => []

/-- The first `count` blocks of sixteen words. -/
def blocksOf : Nat → List UInt32 → List (List UInt32)
  | 0, _ => []
  | count + 1, words => words.take 16 :: blocksOf count (words.drop 16)

/-- The words of the digest. -/
def State.words (state : State) : List UInt32 :=
  [state.a, state.b, state.c, state.d, state.e, state.f, state.g, state.h]

/-- The digest of a message, as thirty-two bytes. -/
def sha256 (message : List UInt8) : List UInt8 :=
  let words := wordsOf (padded message)
  let final := (blocksOf (words.length / 16) words).foldl State.absorb State.initial
  final.words.flatMap (fun word => bigEndian 4 word.toNat)

/-- Bytes as lower-case hexadecimal digits. -/
def hex (bytes : List UInt8) : String :=
  String.ofList (bytes.flatMap (fun byte =>
    [Nat.digitChar (byte.toNat / 16), Nat.digitChar (byte.toNat % 16)]))

end ArtifactDepot.Digest
