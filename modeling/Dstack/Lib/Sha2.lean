/-
SHA-256, SHA-384 and SHA-512, executable.

The functions are one construction at two word sizes: pad the
message to whole blocks, run one round per round constant while a window
of sixteen words slides over the block's message schedule, and add the
result into the chaining state. Words are natural numbers below `2 ^ w`,
reduced where an addition or a rotation can leave that range; windows
and messages are numbers too, so that evaluation in a proof stays with
the kernel's own arithmetic.
-/
import Dstack.Lib.Hash

namespace Dstack.Lib

namespace Sha2

/-- The eight working words. -/
structure State where
  a : Nat
  b : Nat
  c : Nat
  d : Nat
  e : Nat
  f : Nat
  g : Nat
  h : Nat

/-- One member of the SHA-2 family: the word width, the shift amounts
of its four mixing functions, the round constants and the initial
state. -/
structure Variant where
  width : Nat
  bigSigma0 : Nat × Nat × Nat
  bigSigma1 : Nat × Nat × Nat
  smallSigma0 : Nat × Nat × Nat
  smallSigma1 : Nat × Nat × Nat
  constants : List Nat
  init : State

variable (V : Variant)

-- The word operations are written with `Nat`'s own functions: through the
-- notations every one of them would cost the kernel several unfoldings.

/-- A number cut to a word. -/
def word (x : Nat) : Nat := Nat.mod x (Nat.pow 2 V.width)

/-- Rotate a word to the right. -/
def rotr (x n : Nat) : Nat :=
  Nat.lor (Nat.shiftRight x n) (word V (Nat.shiftLeft x (Nat.sub V.width n)))

def xor3 (x y z : Nat) : Nat := Nat.xor (Nat.xor x y) z

/-- The mixing of a working word. -/
def bigSigma (r : Nat × Nat × Nat) (x : Nat) : Nat :=
  xor3 (rotr V x r.1) (rotr V x r.2.1) (rotr V x r.2.2)

/-- The mixing of a message word. -/
def smallSigma (r : Nat × Nat × Nat) (x : Nat) : Nat :=
  xor3 (rotr V x r.1) (rotr V x r.2.1) (Nat.shiftRight x r.2.2)

/-- Each bit of `f` or `g`, as `e` says. -/
def choose (e f g : Nat) : Nat :=
  Nat.xor (Nat.land e f) (Nat.land (Nat.sub (Nat.pow 2 V.width) (Nat.succ e)) g)

/-- Each bit as most of the three have it. -/
def majority (a b c : Nat) : Nat :=
  xor3 (Nat.land a b) (Nat.land a c) (Nat.land b c)

def round (s : State) (k w : Nat) : State :=
  match s with
  | ⟨a, b, c, d, e, f, g, h⟩ =>
    let t1 := Nat.add (Nat.add h (bigSigma V V.bigSigma1 e))
      (Nat.add (choose V e f g) (Nat.add k w))
    let t2 := Nat.add (bigSigma V V.bigSigma0 a) (majority a b c)
    ⟨word V (Nat.add t1 t2), a, b, c, word V (Nat.add d t1), e, f, g⟩

/-- Word `i` of a window of sixteen message words, newest first, kept as
one number. -/
def wordAt (window i : Nat) : Nat :=
  word V (Nat.shiftRight window (Nat.mul V.width i))

/-- The window one word later. -/
def slide (window : Nat) : Nat :=
  let w := Nat.add
    (Nat.add (smallSigma V V.smallSigma1 (wordAt V window 1)) (wordAt V window 6))
    (Nat.add (smallSigma V V.smallSigma0 (wordAt V window 14)) (wordAt V window 15))
  Nat.mod (Nat.add (Nat.shiftLeft window V.width) (word V w))
    (Nat.pow 2 (Nat.mul 16 V.width))

/-- A round for each constant. -/
def rounds : List Nat → State → Nat → State
  | [], s, _ => s
  | k :: ks, s, window =>
    rounds ks (round V s k (wordAt V window 15)) (slide V window)

def addState (s t : State) : State :=
  ⟨word V (s.a + t.a), word V (s.b + t.b), word V (s.c + t.c),
    word V (s.d + t.d), word V (s.e + t.e), word V (s.f + t.f),
    word V (s.g + t.g), word V (s.h + t.h)⟩

/-- The state after a block. -/
def compress (s : State) (block : Nat) : State :=
  addState V s (rounds V V.constants s block)

/-- The bytes of a block. -/
def blockSize : Nat := 2 * V.width

/-- The number of blocks of a padded message: it holds the message, one
byte more and the length field. -/
def blockCount (length : Nat) : Nat :=
  (length + 1 + V.width / 4 + (blockSize V - 1)) / blockSize V

/-- The padded message as one number: the message, a one bit, zeros, and
the message length in bits. -/
def padded (m : Bytes) (length : Nat) : Nat :=
  let rest := blockCount V length * blockSize V - length
  beNat m * 256 ^ rest + 0x80 * 256 ^ (rest - 1) + 8 * length

/-- The state after a message. -/
def run (m : Bytes) : State :=
  let count := blockCount V m.length
  let message := padded V m m.length
  (List.range count).foldl
    (fun s i => compress V s
      (message >>> (8 * blockSize V * (count - 1 - i)) % 256 ^ blockSize V))
    V.init

/-- The words as bytes. -/
def output (s : State) : Bytes :=
  [s.a, s.b, s.c, s.d, s.e, s.f, s.g, s.h].flatMap (beBytes (V.width / 8))

lemma output_length (s : State) :
    (output V s).length = 8 * (V.width / 8) := by
  simp only [output, List.flatMap_cons, List.flatMap_nil, List.length_append,
    beBytes_length, List.length_nil]
  omega

-- == the variants

def sha256Variant : Variant where
  width := 32
  bigSigma0 := (2, 13, 22)
  bigSigma1 := (6, 11, 25)
  smallSigma0 := (7, 18, 3)
  smallSigma1 := (17, 19, 10)
  constants := [
    0x428a2f98, 0x71374491, 0xb5c0fbcf, 0xe9b5dba5, 0x3956c25b,
    0x59f111f1, 0x923f82a4, 0xab1c5ed5, 0xd807aa98, 0x12835b01,
    0x243185be, 0x550c7dc3, 0x72be5d74, 0x80deb1fe, 0x9bdc06a7,
    0xc19bf174, 0xe49b69c1, 0xefbe4786, 0x0fc19dc6, 0x240ca1cc,
    0x2de92c6f, 0x4a7484aa, 0x5cb0a9dc, 0x76f988da, 0x983e5152,
    0xa831c66d, 0xb00327c8, 0xbf597fc7, 0xc6e00bf3, 0xd5a79147,
    0x06ca6351, 0x14292967, 0x27b70a85, 0x2e1b2138, 0x4d2c6dfc,
    0x53380d13, 0x650a7354, 0x766a0abb, 0x81c2c92e, 0x92722c85,
    0xa2bfe8a1, 0xa81a664b, 0xc24b8b70, 0xc76c51a3, 0xd192e819,
    0xd6990624, 0xf40e3585, 0x106aa070, 0x19a4c116, 0x1e376c08,
    0x2748774c, 0x34b0bcb5, 0x391c0cb3, 0x4ed8aa4a, 0x5b9cca4f,
    0x682e6ff3, 0x748f82ee, 0x78a5636f, 0x84c87814, 0x8cc70208,
    0x90befffa, 0xa4506ceb, 0xbef9a3f7, 0xc67178f2]
  init := ⟨
    0x6a09e667, 0xbb67ae85, 0x3c6ef372, 0xa54ff53a,
    0x510e527f, 0x9b05688c, 0x1f83d9ab, 0x5be0cd19⟩

def sha512Variant : Variant where
  width := 64
  bigSigma0 := (28, 34, 39)
  bigSigma1 := (14, 18, 41)
  smallSigma0 := (1, 8, 7)
  smallSigma1 := (19, 61, 6)
  constants := [
    0x428a2f98d728ae22, 0x7137449123ef65cd, 0xb5c0fbcfec4d3b2f,
    0xe9b5dba58189dbbc, 0x3956c25bf348b538, 0x59f111f1b605d019,
    0x923f82a4af194f9b, 0xab1c5ed5da6d8118, 0xd807aa98a3030242,
    0x12835b0145706fbe, 0x243185be4ee4b28c, 0x550c7dc3d5ffb4e2,
    0x72be5d74f27b896f, 0x80deb1fe3b1696b1, 0x9bdc06a725c71235,
    0xc19bf174cf692694, 0xe49b69c19ef14ad2, 0xefbe4786384f25e3,
    0x0fc19dc68b8cd5b5, 0x240ca1cc77ac9c65, 0x2de92c6f592b0275,
    0x4a7484aa6ea6e483, 0x5cb0a9dcbd41fbd4, 0x76f988da831153b5,
    0x983e5152ee66dfab, 0xa831c66d2db43210, 0xb00327c898fb213f,
    0xbf597fc7beef0ee4, 0xc6e00bf33da88fc2, 0xd5a79147930aa725,
    0x06ca6351e003826f, 0x142929670a0e6e70, 0x27b70a8546d22ffc,
    0x2e1b21385c26c926, 0x4d2c6dfc5ac42aed, 0x53380d139d95b3df,
    0x650a73548baf63de, 0x766a0abb3c77b2a8, 0x81c2c92e47edaee6,
    0x92722c851482353b, 0xa2bfe8a14cf10364, 0xa81a664bbc423001,
    0xc24b8b70d0f89791, 0xc76c51a30654be30, 0xd192e819d6ef5218,
    0xd69906245565a910, 0xf40e35855771202a, 0x106aa07032bbd1b8,
    0x19a4c116b8d2d0c8, 0x1e376c085141ab53, 0x2748774cdf8eeb99,
    0x34b0bcb5e19b48a8, 0x391c0cb3c5c95a63, 0x4ed8aa4ae3418acb,
    0x5b9cca4f7763e373, 0x682e6ff3d6b2b8a3, 0x748f82ee5defb2fc,
    0x78a5636f43172f60, 0x84c87814a1f0ab72, 0x8cc702081a6439ec,
    0x90befffa23631e28, 0xa4506cebde82bde9, 0xbef9a3f7b2c67915,
    0xc67178f2e372532b, 0xca273eceea26619c, 0xd186b8c721c0c207,
    0xeada7dd6cde0eb1e, 0xf57d4f7fee6ed178, 0x06f067aa72176fba,
    0x0a637dc5a2c898a6, 0x113f9804bef90dae, 0x1b710b35131c471b,
    0x28db77f523047d84, 0x32caab7b40c72493, 0x3c9ebe0a15c9bebc,
    0x431d67c49c100d4c, 0x4cc5d4becb3e42b6, 0x597f299cfc657e2a,
    0x5fcb6fab3ad6faec, 0x6c44198c4a475817]
  init := ⟨
    0x6a09e667f3bcc908, 0xbb67ae8584caa73b, 0x3c6ef372fe94f82b,
    0xa54ff53a5f1d36f1, 0x510e527fade682d1, 0x9b05688c2b3e6c1f,
    0x1f83d9abfb41bd6b, 0x5be0cd19137e2179⟩

def sha384Variant : Variant where
  __ := sha512Variant
  init := ⟨
    0xcbbb9d5dc1059ed8, 0x629a292a367cd507, 0x9159015a3070dd17,
    0x152fecd8f70e5939, 0x67332667ffc00b31, 0x8eb44a8768581511,
    0xdb0c2e0d64f98fa7, 0x47b5481dbefa4fa4⟩

end Sha2

@[irreducible] def sha256 (m : Bytes) : Bytes :=
  Sha2.output Sha2.sha256Variant (Sha2.run Sha2.sha256Variant m)

@[irreducible] def sha512 (m : Bytes) : Bytes :=
  Sha2.output Sha2.sha512Variant (Sha2.run Sha2.sha512Variant m)

@[irreducible] def sha384 (m : Bytes) : Bytes :=
  (Sha2.output Sha2.sha384Variant (Sha2.run Sha2.sha384Variant m)).take 48

@[simp] lemma sha256_length (m : Bytes) : (sha256 m).length = 32 := by
  rw [sha256, Sha2.output_length]
  rfl

@[simp] lemma sha384_length (m : Bytes) : (sha384 m).length = 48 := by
  rw [sha384, List.length_take, Sha2.output_length]
  rfl

def Sha256 : Hasher := ⟨32, sha256, sha256_length⟩

def Sha384 : Hasher := ⟨48, sha384, sha384_length⟩

-- The published vectors for the three-byte message "abc".
example : sha256 (utf8 "abc")
    = [0xba, 0x78, 0x16, 0xbf, 0x8f, 0x01, 0xcf, 0xea, 0x41, 0x41, 0x40,
      0xde, 0x5d, 0xae, 0x22, 0x23, 0xb0, 0x03, 0x61, 0xa3, 0x96, 0x17,
      0x7a, 0x9c, 0xb4, 0x10, 0xff, 0x61, 0xf2, 0x00, 0x15, 0xad] := by
  decide +kernel

example : sha384 (utf8 "abc")
    = [0xcb, 0x00, 0x75, 0x3f, 0x45, 0xa3, 0x5e, 0x8b, 0xb5, 0xa0, 0x3d,
      0x69, 0x9a, 0xc6, 0x50, 0x07, 0x27, 0x2c, 0x32, 0xab, 0x0e, 0xde,
      0xd1, 0x63, 0x1a, 0x8b, 0x60, 0x5a, 0x43, 0xff, 0x5b, 0xed, 0x80,
      0x86, 0x07, 0x2b, 0xa1, 0xe7, 0xcc, 0x23, 0x58, 0xba, 0xec, 0xa1,
      0x34, 0xc8, 0x25, 0xa7] := by
  decide +kernel

example : (sha512 (utf8 "abc")).take 8
    = [0xdd, 0xaf, 0x35, 0xa1, 0x93, 0x61, 0x7a, 0xba] := by
  decide +kernel

end Dstack.Lib
