import Mathlib.Algebra.Order.Ring.Nat

/-!
# SHA-256

The standard on words of 32 bits: a message is padded to blocks of 64 bytes, a block is expanded to a
schedule of 64 words and is mixed into eight words in 64 rounds.
-/

namespace SwitchRemake.Lib.Sha256

abbrev Word := BitVec 32

/-- The first 32 bits of the fractional parts of the cube roots of the first 64 primes. -/
def constants : List Word :=
  [0x428a2f98, 0x71374491, 0xb5c0fbcf, 0xe9b5dba5, 0x3956c25b, 0x59f111f1, 0x923f82a4, 0xab1c5ed5,
    0xd807aa98, 0x12835b01, 0x243185be, 0x550c7dc3, 0x72be5d74, 0x80deb1fe, 0x9bdc06a7, 0xc19bf174,
    0xe49b69c1, 0xefbe4786, 0x0fc19dc6, 0x240ca1cc, 0x2de92c6f, 0x4a7484aa, 0x5cb0a9dc, 0x76f988da,
    0x983e5152, 0xa831c66d, 0xb00327c8, 0xbf597fc7, 0xc6e00bf3, 0xd5a79147, 0x06ca6351, 0x14292967,
    0x27b70a85, 0x2e1b2138, 0x4d2c6dfc, 0x53380d13, 0x650a7354, 0x766a0abb, 0x81c2c92e, 0x92722c85,
    0xa2bfe8a1, 0xa81a664b, 0xc24b8b70, 0xc76c51a3, 0xd192e819, 0xd6990624, 0xf40e3585, 0x106aa070,
    0x19a4c116, 0x1e376c08, 0x2748774c, 0x34b0bcb5, 0x391c0cb3, 0x4ed8aa4a, 0x5b9cca4f, 0x682e6ff3,
    0x748f82ee, 0x78a5636f, 0x84c87814, 0x8cc70208, 0x90befffa, 0xa4506ceb, 0xbef9a3f7, 0xc67178f2]

/-- The eight words of a hash, and the working variables of a round. -/
structure Words where
  a : Word
  b : Word
  c : Word
  d : Word
  e : Word
  f : Word
  g : Word
  h : Word
deriving DecidableEq

namespace Words

/-- The first 32 bits of the fractional parts of the square roots of the first eight primes. -/
def initial : Words :=
  ⟨0x6a09e667, 0xbb67ae85, 0x3c6ef372, 0xa54ff53a, 0x510e527f, 0x9b05688c, 0x1f83d9ab, 0x5be0cd19⟩

def add (x y : Words) : Words :=
  ⟨x.a + y.a, x.b + y.b, x.c + y.c, x.d + y.d, x.e + y.e, x.f + y.f, x.g + y.g, x.h + y.h⟩

def toList (x : Words) : List Word := [x.a, x.b, x.c, x.d, x.e, x.f, x.g, x.h]

end Words

def ch (x y z : Word) : Word := (x &&& y) ^^^ (~~~x &&& z)

def maj (x y z : Word) : Word := (x &&& y) ^^^ (x &&& z) ^^^ (y &&& z)

def bigSigma0 (x : Word) : Word := x.rotateRight 2 ^^^ x.rotateRight 13 ^^^ x.rotateRight 22

def bigSigma1 (x : Word) : Word := x.rotateRight 6 ^^^ x.rotateRight 11 ^^^ x.rotateRight 25

def smallSigma0 (x : Word) : Word := x.rotateRight 7 ^^^ x.rotateRight 18 ^^^ x >>> 3

def smallSigma1 (x : Word) : Word := x.rotateRight 17 ^^^ x.rotateRight 19 ^^^ x >>> 10

/-- The words of a block go on by a recurrence. -/
def schedule (block : Nat → Word) (t : Nat) : Word :=
  if t < 16 then block t
  else
    smallSigma1 (schedule block (t - 2)) + schedule block (t - 7) +
      smallSigma0 (schedule block (t - 15)) + schedule block (t - 16)
termination_by t

def round (x : Words) (constant word : Word) : Words :=
  let t1 := x.h + bigSigma1 x.e + ch x.e x.f x.g + constant + word
  let t2 := bigSigma0 x.a + maj x.a x.b x.c
  ⟨t1 + t2, x.a, x.b, x.c, x.d + t1, x.e, x.f, x.g⟩

def compress (hash : Words) (block : Nat → Word) : Words :=
  hash.add ((List.range 64).foldl (fun x t => round x (constants.getD t 0) (schedule block t)) hash)

/-! ## Bytes -/

/-- A number in big-endian bytes. -/
def bigEndian (length value : Nat) : List UInt8 :=
  (List.range length).map fun place => UInt8.ofNat (value / 256 ^ (length - 1 - place))

def pad (message : List UInt8) : List UInt8 :=
  message ++ 0x80 :: List.replicate ((119 - message.length % 64) % 64) 0 ++
    bigEndian 8 (8 * message.length)

/-- The four bytes from a place on, the most significant first. -/
def wordAt (bytes : List UInt8) (place : Nat) : Word :=
  BitVec.ofNat 32 ((bytes.getD place 0).toNat * 256 ^ 3 + (bytes.getD (place + 1) 0).toNat * 256 ^ 2 +
    (bytes.getD (place + 2) 0).toNat * 256 + (bytes.getD (place + 3) 0).toNat)

def blocks (bytes : List UInt8) : List (Nat → Word) :=
  (List.range (bytes.length / 64)).map fun i t => wordAt bytes (64 * i + 4 * t)

def hash (message : List UInt8) : List UInt8 :=
  ((blocks (pad message)).foldl compress .initial).toList.flatMap fun word => bigEndian 4 word.toNat

theorem length_bigEndian (length value : Nat) : (bigEndian length value).length = length := by
  rw [bigEndian, List.length_map, List.length_range]

theorem length_hash (message : List UInt8) : (hash message).length = 32 := by
  simp [hash, Words.toList, length_bigEndian]

theorem length_pad (message : List UInt8) :
    (pad message).length = (message.length + 72) / 64 * 64 := by
  simp only [pad, List.length_append, List.length_cons, List.length_replicate, length_bigEndian]
  omega

theorem schedule_of_lt {block : Nat → Word} {t : Nat} (first : t < 16) : schedule block t = block t := by
  rw [schedule, if_pos first]

theorem schedule_of_le {block : Nat → Word} {t : Nat} (later : 16 ≤ t) : schedule block t =
    smallSigma1 (schedule block (t - 2)) + schedule block (t - 7) +
      smallSigma0 (schedule block (t - 15)) + schedule block (t - 16) := by
  rw [schedule, if_neg (Nat.not_lt.mpr later)]

end SwitchRemake.Lib.Sha256
