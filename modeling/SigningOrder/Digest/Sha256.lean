/-
The SHA-256 digest. The message is padded to blocks of sixty-four bytes, each
block is stretched to sixty-four words, and sixty-four rounds mix each word
into a state of eight. The keys of the fixtures are digests of their labels.
-/
import SigningOrder.Bytes

namespace SigningOrder

namespace Sha256

/-- The constants of the rounds: the first bits of the fractional parts of the
cube roots of the first sixty-four primes. -/
def roundConstants : List UInt32 :=
  [0x428a2f98, 0x71374491, 0xb5c0fbcf, 0xe9b5dba5, 0x3956c25b, 0x59f111f1,
   0x923f82a4, 0xab1c5ed5, 0xd807aa98, 0x12835b01, 0x243185be, 0x550c7dc3,
   0x72be5d74, 0x80deb1fe, 0x9bdc06a7, 0xc19bf174, 0xe49b69c1, 0xefbe4786,
   0x0fc19dc6, 0x240ca1cc, 0x2de92c6f, 0x4a7484aa, 0x5cb0a9dc, 0x76f988da,
   0x983e5152, 0xa831c66d, 0xb00327c8, 0xbf597fc7, 0xc6e00bf3, 0xd5a79147,
   0x06ca6351, 0x14292967, 0x27b70a85, 0x2e1b2138, 0x4d2c6dfc, 0x53380d13,
   0x650a7354, 0x766a0abb, 0x81c2c92e, 0x92722c85, 0xa2bfe8a1, 0xa81a664b,
   0xc24b8b70, 0xc76c51a3, 0xd192e819, 0xd6990624, 0xf40e3585, 0x106aa070,
   0x19a4c116, 0x1e376c08, 0x2748774c, 0x34b0bcb5, 0x391c0cb3, 0x4ed8aa4a,
   0x5b9cca4f, 0x682e6ff3, 0x748f82ee, 0x78a5636f, 0x84c87814, 0x8cc70208,
   0x90befffa, 0xa4506ceb, 0xbef9a3f7, 0xc67178f2]

/-- The state between rounds. -/
structure State where
  a : UInt32
  b : UInt32
  c : UInt32
  d : UInt32
  e : UInt32
  f : UInt32
  g : UInt32
  h : UInt32
  deriving DecidableEq, Repr

/-- The state before the first block: the first bits of the fractional parts of
the square roots of the first eight primes. -/
def initial : State :=
  ⟨0x6a09e667, 0xbb67ae85, 0x3c6ef372, 0xa54ff53a,
   0x510e527f, 0x9b05688c, 0x1f83d9ab, 0x5be0cd19⟩

/-- A word turned to the right. -/
def rotate (x : UInt32) (n : UInt32) : UInt32 :=
  (x >>> n) ||| (x <<< (32 - n))

/-- One round, which mixes in a word of the block and a constant. -/
def round (s : State) (word constant : UInt32) : State :=
  let mix1 := rotate s.e 6 ^^^ rotate s.e 11 ^^^ rotate s.e 25
  let choice := (s.e &&& s.f) ^^^ (~~~s.e &&& s.g)
  let t1 := s.h + mix1 + choice + constant + word
  let mix0 := rotate s.a 2 ^^^ rotate s.a 13 ^^^ rotate s.a 22
  let majority := (s.a &&& s.b) ^^^ (s.a &&& s.c) ^^^ (s.b &&& s.c)
  ⟨t1 + (mix0 + majority), s.a, s.b, s.c, s.d + t1, s.e, s.f, s.g⟩

/-- The next word of a block, from the sixteen before it, the latest first. -/
def nextWord (latest : List UInt32) : UInt32 :=
  let before (n : Nat) : UInt32 := latest.getD (n - 1) 0
  let w15 := before 15
  let w2 := before 2
  let s0 := rotate w15 7 ^^^ rotate w15 18 ^^^ (w15 >>> 3)
  let s1 := rotate w2 17 ^^^ rotate w2 19 ^^^ (w2 >>> 10)
  before 16 + s0 + before 7 + s1

/-- Stretches a block by a number of words; words are held latest first. -/
def stretch : Nat → List UInt32 → List UInt32
  | 0, words => words
  | n + 1, words => stretch n (nextWord words :: words)

/-- The sum of two states, word by word. -/
def State.add (s t : State) : State :=
  ⟨s.a + t.a, s.b + t.b, s.c + t.c, s.d + t.d,
   s.e + t.e, s.f + t.f, s.g + t.g, s.h + t.h⟩

/-- Mixes a block of sixteen words into a state. -/
def compress (s : State) (block : List UInt32) : State :=
  let words := (stretch 48 block.reverse).reverse
  s.add ((words.zip roundConstants).foldl
    (fun t (word, constant) => round t word constant) s)

/-- The words of bytes, four bytes each. -/
def words : Bytes → List UInt32
  | b0 :: b1 :: b2 :: b3 :: rest =>
    UInt32.ofNat (BigEndian.decode [b0, b1, b2, b3]) :: words rest
  | _ => []

/-- The message, a bit that is set, zeros, and the number of bits of the
message, which together fill whole blocks. -/
def pad (message : Bytes) : Bytes :=
  let zeros := (119 - message.length % 64) % 64
  message ++ 0x80 :: List.replicate zeros 0 ++
    BigEndian.encode 8 (8 * message.length)

/-- Mixes as many blocks as there are in turn. -/
def absorb : (blocks : Nat) → State → List UInt32 → State
  | 0, s, _ => s
  | n + 1, s, ws => absorb n (compress s (ws.take 16)) (ws.drop 16)

/-- The bytes of a state. -/
def State.bytes (s : State) : Bytes :=
  [s.a, s.b, s.c, s.d, s.e, s.f, s.g, s.h].flatMap
    fun w => BigEndian.encode 4 w.toNat

/-- The digest of a message. -/
def digest (message : Bytes) : Bytes :=
  let ws := words (pad message)
  (absorb (ws.length / 16) initial ws).bytes

end Sha256

end SigningOrder
