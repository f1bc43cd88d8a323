/-! # SHA-256

The digest of a list of bytes, as the standard FIPS 180-4 defines it.
-/

namespace Reconciliation.Sha256

def roundConstants : List UInt32 :=
  [0x428a2f98, 0x71374491, 0xb5c0fbcf, 0xe9b5dba5, 0x3956c25b, 0x59f111f1, 0x923f82a4,
    0xab1c5ed5, 0xd807aa98, 0x12835b01, 0x243185be, 0x550c7dc3, 0x72be5d74, 0x80deb1fe,
    0x9bdc06a7, 0xc19bf174, 0xe49b69c1, 0xefbe4786, 0x0fc19dc6, 0x240ca1cc, 0x2de92c6f,
    0x4a7484aa, 0x5cb0a9dc, 0x76f988da, 0x983e5152, 0xa831c66d, 0xb00327c8, 0xbf597fc7,
    0xc6e00bf3, 0xd5a79147, 0x06ca6351, 0x14292967, 0x27b70a85, 0x2e1b2138, 0x4d2c6dfc,
    0x53380d13, 0x650a7354, 0x766a0abb, 0x81c2c92e, 0x92722c85, 0xa2bfe8a1, 0xa81a664b,
    0xc24b8b70, 0xc76c51a3, 0xd192e819, 0xd6990624, 0xf40e3585, 0x106aa070, 0x19a4c116,
    0x1e376c08, 0x2748774c, 0x34b0bcb5, 0x391c0cb3, 0x4ed8aa4a, 0x5b9cca4f, 0x682e6ff3,
    0x748f82ee, 0x78a5636f, 0x84c87814, 0x8cc70208, 0x90befffa, 0xa4506ceb, 0xbef9a3f7,
    0xc67178f2]

/-- The eight words that carry the digest from block to block. -/
structure Chain where
  a : UInt32
  b : UInt32
  c : UInt32
  d : UInt32
  e : UInt32
  f : UInt32
  g : UInt32
  h : UInt32

/-- The chain before the first block. -/
def Chain.start : Chain :=
  ⟨0x6a09e667, 0xbb67ae85, 0x3c6ef372, 0xa54ff53a, 0x510e527f, 0x9b05688c, 0x1f83d9ab,
    0x5be0cd19⟩

/-- The words of a chain in order. -/
def Chain.words (chain : Chain) : List UInt32 :=
  [chain.a, chain.b, chain.c, chain.d, chain.e, chain.f, chain.g, chain.h]

/-- A word turned right by a number of bits between one and thirty-one. -/
def turnRight (word bits : UInt32) : UInt32 :=
  (word >>> bits) ||| (word <<< (32 - bits))

/-- The word of the schedule that follows the words before it, nearest first. -/
def nextWord (before : List UInt32) : UInt32 :=
  let word (back : Nat) := before.getD (back - 1) 0
  let low := turnRight (word 15) 7 ^^^ turnRight (word 15) 18 ^^^ (word 15 >>> 3)
  let high := turnRight (word 2) 17 ^^^ turnRight (word 2) 19 ^^^ (word 2 >>> 10)
  word 16 + low + word 7 + high

/-- The schedule of a block, last word first. -/
def extend : (more : Nat) → (before : List UInt32) → List UInt32
  | 0, before => before
  | more + 1, before => extend more (nextWord before :: before)

/-- The schedule of a block of sixteen words. -/
def schedule (block : List UInt32) : List UInt32 :=
  (extend 48 block.reverse).reverse

def round (chain : Chain) (constant word : UInt32) : Chain :=
  let mixE := turnRight chain.e 6 ^^^ turnRight chain.e 11 ^^^ turnRight chain.e 25
  let choice := (chain.e &&& chain.f) ^^^ (~~~chain.e &&& chain.g)
  let first := chain.h + mixE + choice + constant + word
  let mixA := turnRight chain.a 2 ^^^ turnRight chain.a 13 ^^^ turnRight chain.a 22
  let majority := (chain.a &&& chain.b) ^^^ (chain.a &&& chain.c) ^^^ (chain.b &&& chain.c)
  ⟨first + (mixA + majority), chain.a, chain.b, chain.c, chain.d + first, chain.e, chain.f,
    chain.g⟩

def compress (chain : Chain) (block : List UInt32) : Chain :=
  let after := (roundConstants.zip (schedule block)).foldl
    (fun chain (constant, word) => round chain constant word) chain
  ⟨chain.a + after.a, chain.b + after.b, chain.c + after.c, chain.d + after.d, chain.e + after.e,
    chain.f + after.f, chain.g + after.g, chain.h + after.h⟩

/-- A number as eight bytes, highest first. -/
def lengthBytes (bits : Nat) : List UInt8 :=
  (List.range 8).map fun place => UInt8.ofNat (bits >>> (8 * (7 - place)))

/-- The bytes with the mark, the zeros and the length that fill whole blocks. -/
def padded (bytes : List UInt8) : List UInt8 :=
  let zeros := (64 - (bytes.length + 9) % 64) % 64
  bytes ++ 0x80 :: List.replicate zeros 0 ++ lengthBytes (8 * bytes.length)

/-- Bytes as words, highest byte first. -/
def words : List UInt8 → List UInt32
  | a :: b :: c :: d :: rest =>
    (a.toUInt32 <<< 24 ||| b.toUInt32 <<< 16 ||| c.toUInt32 <<< 8 ||| d.toUInt32) :: words rest
  | _ => []

/-- Words in blocks of sixteen, a block at most for each unit of `blocks`. -/
def inBlocks : (blocks : Nat) → List UInt32 → List (List UInt32)
  | 0, _ => []
  | _ + 1, [] => []
  | blocks + 1, words => words.take 16 :: inBlocks blocks (words.drop 16)

/-- A word as eight hexadecimal digits. -/
def hexWord (word : UInt32) : List Char :=
  (List.range 8).map fun place => Nat.digitChar (word.toNat >>> (4 * (7 - place)) % 16)

/-- The digest of some bytes in hexadecimal digits. -/
def hex (bytes : List UInt8) : List Char :=
  let words := words (padded bytes)
  ((inBlocks words.length words).foldl compress .start).words.flatMap hexWord

end Reconciliation.Sha256
