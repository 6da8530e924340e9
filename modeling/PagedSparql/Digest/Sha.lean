import PagedSparql.Digest.Block

/-!
# The secure hash algorithms

SHA-1 and SHA-256 work on words of 32 bits in blocks of 64 bytes, SHA-384 and SHA-512 on words of 64
bits in blocks of 128 bytes, each with the most significant byte first. SHA-384 is SHA-512 from
another start, cut to six of its eight words.
-/

namespace PagedSparql.Digest

namespace Sha1

/-- A word rotated to the left. -/
def rotate (x n : UInt32) : UInt32 := (x <<< n) ||| (x >>> (32 - n))

/-- The words of a block and those derived from them; the latest word comes first. -/
def schedule (words : List UInt32) : List UInt32 :=
  ((List.range 64).foldl
    (fun (w : List UInt32) _ =>
      rotate (w.getD 2 0 ^^^ w.getD 7 0 ^^^ w.getD 13 0 ^^^ w.getD 15 0) 1 :: w)
    words.reverse).reverse

/-- The five words of the state. -/
structure State where
  /-- The first word. -/
  a : UInt32
  /-- The second word. -/
  b : UInt32
  /-- The third word. -/
  c : UInt32
  /-- The fourth word. -/
  d : UInt32
  /-- The fifth word. -/
  e : UInt32

/-- The state before the first block. -/
def initial : State := ⟨0x67452301, 0xefcdab89, 0x98badcfe, 0x10325476, 0xc3d2e1f0⟩

/-- The function and the constant of a step. -/
def mix (s : State) (i : Nat) : UInt32 × UInt32 :=
  if i < 20 then ((s.b &&& s.c) ||| (~~~s.b &&& s.d), 0x5a827999)
  else if i < 40 then (s.b ^^^ s.c ^^^ s.d, 0x6ed9eba1)
  else if i < 60 then ((s.b &&& s.c) ||| (s.b &&& s.d) ||| (s.c &&& s.d), 0x8f1bbcdc)
  else (s.b ^^^ s.c ^^^ s.d, 0xca62c1d6)

/-- One of the 80 steps. -/
def step (s : State) (entry : UInt32 × Nat) : State :=
  let (f, k) := mix s entry.2
  ⟨rotate s.a 5 + f + s.e + k + entry.1, s.a, rotate s.b 30, s.c, s.d⟩

/-- Takes one block into the state. -/
def absorb (s : State) (block : List UInt8) : State :=
  let words := (chunks 4 16 block).map fun w => UInt32.ofNat (ofBigEndian w)
  let t := (schedule words).zipIdx.foldl step s
  ⟨s.a + t.a, s.b + t.b, s.c + t.c, s.d + t.d, s.e + t.e⟩

/-- The digest of a message. -/
def digest (message : List UInt8) : List UInt8 :=
  let s := (blocks 64 (pad 64 8 (bigEndian 8) message)).foldl absorb initial
  [s.a, s.b, s.c, s.d, s.e].flatMap fun w => bigEndian 4 w.toNat

end Sha1

/-- The eight words of the state of the later algorithms. -/
structure Octet (α : Type) where
  /-- The first word. -/
  a : α
  /-- The second word. -/
  b : α
  /-- The third word. -/
  c : α
  /-- The fourth word. -/
  d : α
  /-- The fifth word. -/
  e : α
  /-- The sixth word. -/
  f : α
  /-- The seventh word. -/
  g : α
  /-- The eighth word. -/
  h : α

/-- The words of a state in order. -/
def Octet.toList {α : Type} (s : Octet α) : List α := [s.a, s.b, s.c, s.d, s.e, s.f, s.g, s.h]

/-- Two states added word by word. -/
def Octet.add {α : Type} [Add α] (s t : Octet α) : Octet α :=
  ⟨s.a + t.a, s.b + t.b, s.c + t.c, s.d + t.d, s.e + t.e, s.f + t.f, s.g + t.g, s.h + t.h⟩

namespace Sha256

/-- The constants of the 64 steps. -/
def constants : List UInt32 :=
  [0x428a2f98, 0x71374491, 0xb5c0fbcf, 0xe9b5dba5, 0x3956c25b, 0x59f111f1, 0x923f82a4, 0xab1c5ed5,
    0xd807aa98, 0x12835b01, 0x243185be, 0x550c7dc3, 0x72be5d74, 0x80deb1fe, 0x9bdc06a7, 0xc19bf174,
    0xe49b69c1, 0xefbe4786, 0x0fc19dc6, 0x240ca1cc, 0x2de92c6f, 0x4a7484aa, 0x5cb0a9dc, 0x76f988da,
    0x983e5152, 0xa831c66d, 0xb00327c8, 0xbf597fc7, 0xc6e00bf3, 0xd5a79147, 0x06ca6351, 0x14292967,
    0x27b70a85, 0x2e1b2138, 0x4d2c6dfc, 0x53380d13, 0x650a7354, 0x766a0abb, 0x81c2c92e, 0x92722c85,
    0xa2bfe8a1, 0xa81a664b, 0xc24b8b70, 0xc76c51a3, 0xd192e819, 0xd6990624, 0xf40e3585, 0x106aa070,
    0x19a4c116, 0x1e376c08, 0x2748774c, 0x34b0bcb5, 0x391c0cb3, 0x4ed8aa4a, 0x5b9cca4f, 0x682e6ff3,
    0x748f82ee, 0x78a5636f, 0x84c87814, 0x8cc70208, 0x90befffa, 0xa4506ceb, 0xbef9a3f7, 0xc67178f2]

/-- The state before the first block. -/
def initial : Octet UInt32 :=
  ⟨0x6a09e667, 0xbb67ae85, 0x3c6ef372, 0xa54ff53a,
    0x510e527f, 0x9b05688c, 0x1f83d9ab, 0x5be0cd19⟩

/-- A word rotated to the right. -/
def rotate (x n : UInt32) : UInt32 := (x >>> n) ||| (x <<< (32 - n))

/-- The words of a block and those derived from them. -/
def schedule (words : List UInt32) : List UInt32 :=
  ((List.range 48).foldl
    (fun (w : List UInt32) _ =>
      let x := w.getD 14 0
      let y := w.getD 1 0
      let low := rotate x 7 ^^^ rotate x 18 ^^^ (x >>> 3)
      let high := rotate y 17 ^^^ rotate y 19 ^^^ (y >>> 10)
      (w.getD 15 0 + low + w.getD 6 0 + high) :: w)
    words.reverse).reverse

/-- One of the 64 steps, with its word and its constant. -/
def step (s : Octet UInt32) (entry : UInt32 × UInt32) : Octet UInt32 :=
  let choice := (s.e &&& s.f) ^^^ (~~~s.e &&& s.g)
  let majority := (s.a &&& s.b) ^^^ (s.a &&& s.c) ^^^ (s.b &&& s.c)
  let first := s.h + (rotate s.e 6 ^^^ rotate s.e 11 ^^^ rotate s.e 25) + choice + entry.2 + entry.1
  let second := (rotate s.a 2 ^^^ rotate s.a 13 ^^^ rotate s.a 22) + majority
  ⟨first + second, s.a, s.b, s.c, s.d + first, s.e, s.f, s.g⟩

/-- Takes one block into the state. -/
def absorb (s : Octet UInt32) (block : List UInt8) : Octet UInt32 :=
  let words := (chunks 4 16 block).map fun w => UInt32.ofNat (ofBigEndian w)
  s.add (((schedule words).zip constants).foldl step s)

/-- The digest of a message. -/
def digest (message : List UInt8) : List UInt8 :=
  ((blocks 64 (pad 64 8 (bigEndian 8) message)).foldl absorb initial).toList.flatMap fun w =>
    bigEndian 4 w.toNat

end Sha256

namespace Sha512

/-- The constants of the 80 steps. -/
def constants : List UInt64 :=
  [0x428a2f98d728ae22, 0x7137449123ef65cd, 0xb5c0fbcfec4d3b2f, 0xe9b5dba58189dbbc,
    0x3956c25bf348b538, 0x59f111f1b605d019, 0x923f82a4af194f9b, 0xab1c5ed5da6d8118,
    0xd807aa98a3030242, 0x12835b0145706fbe, 0x243185be4ee4b28c, 0x550c7dc3d5ffb4e2,
    0x72be5d74f27b896f, 0x80deb1fe3b1696b1, 0x9bdc06a725c71235, 0xc19bf174cf692694,
    0xe49b69c19ef14ad2, 0xefbe4786384f25e3, 0x0fc19dc68b8cd5b5, 0x240ca1cc77ac9c65,
    0x2de92c6f592b0275, 0x4a7484aa6ea6e483, 0x5cb0a9dcbd41fbd4, 0x76f988da831153b5,
    0x983e5152ee66dfab, 0xa831c66d2db43210, 0xb00327c898fb213f, 0xbf597fc7beef0ee4,
    0xc6e00bf33da88fc2, 0xd5a79147930aa725, 0x06ca6351e003826f, 0x142929670a0e6e70,
    0x27b70a8546d22ffc, 0x2e1b21385c26c926, 0x4d2c6dfc5ac42aed, 0x53380d139d95b3df,
    0x650a73548baf63de, 0x766a0abb3c77b2a8, 0x81c2c92e47edaee6, 0x92722c851482353b,
    0xa2bfe8a14cf10364, 0xa81a664bbc423001, 0xc24b8b70d0f89791, 0xc76c51a30654be30,
    0xd192e819d6ef5218, 0xd69906245565a910, 0xf40e35855771202a, 0x106aa07032bbd1b8,
    0x19a4c116b8d2d0c8, 0x1e376c085141ab53, 0x2748774cdf8eeb99, 0x34b0bcb5e19b48a8,
    0x391c0cb3c5c95a63, 0x4ed8aa4ae3418acb, 0x5b9cca4f7763e373, 0x682e6ff3d6b2b8a3,
    0x748f82ee5defb2fc, 0x78a5636f43172f60, 0x84c87814a1f0ab72, 0x8cc702081a6439ec,
    0x90befffa23631e28, 0xa4506cebde82bde9, 0xbef9a3f7b2c67915, 0xc67178f2e372532b,
    0xca273eceea26619c, 0xd186b8c721c0c207, 0xeada7dd6cde0eb1e, 0xf57d4f7fee6ed178,
    0x06f067aa72176fba, 0x0a637dc5a2c898a6, 0x113f9804bef90dae, 0x1b710b35131c471b,
    0x28db77f523047d84, 0x32caab7b40c72493, 0x3c9ebe0a15c9bebc, 0x431d67c49c100d4c,
    0x4cc5d4becb3e42b6, 0x597f299cfc657e2a, 0x5fcb6fab3ad6faec, 0x6c44198c4a475817]

/-- The state of SHA-512 before the first block. -/
def initial : Octet UInt64 :=
  ⟨0x6a09e667f3bcc908, 0xbb67ae8584caa73b, 0x3c6ef372fe94f82b,
    0xa54ff53a5f1d36f1, 0x510e527fade682d1, 0x9b05688c2b3e6c1f,
    0x1f83d9abfb41bd6b, 0x5be0cd19137e2179⟩

/-- The state of SHA-384 before the first block. -/
def initial384 : Octet UInt64 :=
  ⟨0xcbbb9d5dc1059ed8, 0x629a292a367cd507, 0x9159015a3070dd17,
    0x152fecd8f70e5939, 0x67332667ffc00b31, 0x8eb44a8768581511,
    0xdb0c2e0d64f98fa7, 0x47b5481dbefa4fa4⟩

/-- A word rotated to the right. -/
def rotate (x n : UInt64) : UInt64 := (x >>> n) ||| (x <<< (64 - n))

/-- The words of a block and those derived from them. -/
def schedule (words : List UInt64) : List UInt64 :=
  ((List.range 64).foldl
    (fun (w : List UInt64) _ =>
      let x := w.getD 14 0
      let y := w.getD 1 0
      let low := rotate x 1 ^^^ rotate x 8 ^^^ (x >>> 7)
      let high := rotate y 19 ^^^ rotate y 61 ^^^ (y >>> 6)
      (w.getD 15 0 + low + w.getD 6 0 + high) :: w)
    words.reverse).reverse

/-- One of the 80 steps, with its word and its constant. -/
def step (s : Octet UInt64) (entry : UInt64 × UInt64) : Octet UInt64 :=
  let choice := (s.e &&& s.f) ^^^ (~~~s.e &&& s.g)
  let majority := (s.a &&& s.b) ^^^ (s.a &&& s.c) ^^^ (s.b &&& s.c)
  let first :=
    s.h + (rotate s.e 14 ^^^ rotate s.e 18 ^^^ rotate s.e 41) + choice + entry.2 + entry.1
  let second := (rotate s.a 28 ^^^ rotate s.a 34 ^^^ rotate s.a 39) + majority
  ⟨first + second, s.a, s.b, s.c, s.d + first, s.e, s.f, s.g⟩

/-- Takes one block into the state. -/
def absorb (s : Octet UInt64) (block : List UInt8) : Octet UInt64 :=
  let words := (chunks 8 16 block).map fun w => UInt64.ofNat (ofBigEndian w)
  s.add (((schedule words).zip constants).foldl step s)

/-- All bytes of the final state, from a given start. -/
def digestFrom (start : Octet UInt64) (message : List UInt8) : List UInt8 :=
  ((blocks 128 (pad 128 16 (bigEndian 16) message)).foldl absorb start).toList.flatMap fun w =>
    bigEndian 8 w.toNat

/-- The SHA-512 digest of a message. -/
def digest (message : List UInt8) : List UInt8 := digestFrom initial message

/-- The SHA-384 digest of a message. -/
def digest384 (message : List UInt8) : List UInt8 := (digestFrom initial384 message).take 48

end Sha512

end PagedSparql.Digest
