/-
Keccak-256, executable: the hash of the Ethereum virtual machine.

The state is 25 lanes of 64 bits, five to a row, kept as one number with
lane `x + 5 * y` at bit `64 * (x + 5 * y)`; the steps of a round act on
all rows at once. As in `Dstack.Lib.Sha2`, words are written with `Nat`'s
own functions, so that evaluation in a proof stays with the kernel's
arithmetic.
-/
import Dstack.Lib.Bytes

namespace Dstack.Lib

namespace Keccak

/-- One bit for each of `n` cells that are `width` bits wide. -/
def cells (width n : Nat) : Nat := Nat.div (Nat.sub (Nat.pow 2 (Nat.mul width n)) 1)
  (Nat.sub (Nat.pow 2 width) 1)

/-- The low `n` bits. -/
def ones (n : Nat) : Nat := Nat.sub (Nat.pow 2 n) 1

/-- Lane `i` of a state. -/
def lane (s i : Nat) : Nat := Nat.land (Nat.shiftRight s (Nat.mul 64 i)) (ones 64)

/-- Rotate a lane to the left. -/
def rotl (x n : Nat) : Nat :=
  Nat.lor (Nat.land (Nat.shiftLeft x n) (ones 64)) (Nat.shiftRight x (Nat.sub 64 n))

/-- Rotate every row by `n` lanes towards lane 0. -/
def rotRows (s n : Nat) : Nat :=
  Nat.lor
    (Nat.land (Nat.shiftRight s (Nat.mul 64 n))
      (Nat.mul (ones (Nat.mul 64 (Nat.sub 5 n))) (cells 320 5)))
    (Nat.land (Nat.shiftLeft s (Nat.mul 64 (Nat.sub 5 n)))
      (Nat.mul (Nat.shiftLeft (ones (Nat.mul 64 n)) (Nat.mul 64 (Nat.sub 5 n)))
        (cells 320 5)))

/-- The five column parities, as one row. -/
def columns (s : Nat) : Nat :=
  Nat.land
    (Nat.xor (Nat.xor (Nat.xor s (Nat.shiftRight s 320))
      (Nat.xor (Nat.shiftRight s 640) (Nat.shiftRight s 960))) (Nat.shiftRight s 1280))
    (ones 320)

/-- Rotate each lane of a row by one bit. -/
def rotLanes (r : Nat) : Nat :=
  Nat.lor (Nat.land (Nat.shiftLeft r 1) (Nat.mul (Nat.sub (ones 64) 1) (cells 64 5)))
    (Nat.land (Nat.shiftRight r 63) (cells 64 5))

def theta (s : Nat) : Nat :=
  Nat.xor s
    (Nat.mul (Nat.xor (rotRows (columns s) 4) (rotLanes (rotRows (columns s) 1)))
      (cells 320 5))

/-- Where each lane comes from, and by how much it is rotated. -/
def moves : List (Nat × Nat) :=
  [(0, 0), (6, 44), (12, 43), (18, 21), (24, 14), (3, 28), (9, 20), (10, 3), (16, 45),
    (22, 61), (1, 1), (7, 6), (13, 25), (19, 8), (20, 18), (4, 27), (5, 36), (11, 10),
    (17, 15), (23, 56), (2, 62), (8, 55), (14, 39), (15, 41), (21, 2)]

def rhoPi (s : Nat) : Nat :=
  moves.foldr
    (fun m rest => Nat.add (rotl (lane s m.1) m.2) (Nat.shiftLeft rest 64)) 0

def chi (s : Nat) : Nat :=
  Nat.xor s (Nat.land (Nat.xor (rotRows s 1) (ones 1600)) (rotRows s 2))

/-- What each round adds to the first lane. -/
def roundConstants : List Nat :=
  [0x0000000000000001, 0x0000000000008082, 0x800000000000808a, 0x8000000080008000,
    0x000000000000808b, 0x0000000080000001, 0x8000000080008081, 0x8000000000008009,
    0x000000000000008a, 0x0000000000000088, 0x0000000080008009, 0x000000008000000a,
    0x000000008000808b, 0x800000000000008b, 0x8000000000008089, 0x8000000000008003,
    0x8000000000008002, 0x8000000000000080, 0x000000000000800a, 0x800000008000000a,
    0x8000000080008081, 0x8000000000008080, 0x0000000080000001, 0x8000000080008008]

def permute (s : Nat) : Nat :=
  roundConstants.foldl (fun s c => Nat.xor (chi (rhoPi (theta s))) c) s

/-- The bytes a block has. -/
def rate : Nat := 136

/-- The message filled up to whole blocks. -/
def padded (m : Bytes) : Bytes :=
  let rest := rate - m.length % rate
  if rest = 1 then m ++ [0x81] else m ++ 0x01 :: (zeros (rest - 2) ++ [0x80])

/-- Absorb block after block; `fuel` counts them. -/
def absorb : Nat → Bytes → Nat → Nat
  | 0, _, s => s
  | fuel + 1, m, s =>
    absorb fuel (m.drop rate) (permute (Nat.xor s (leNat (m.take rate))))

end Keccak

@[irreducible] def keccak256 (m : Bytes) : BitVec 256 :=
  let s := Keccak.absorb ((Keccak.padded m).length / Keccak.rate) (Keccak.padded m) 0
  BitVec.ofNat 256 (beNat (leBytes 32 s))

example : keccak256 []
    = 0xc5d2460186f7233c927e7db2dcc703c0e500b653ca82273b7bfad8045d85a470 := by
  decide +kernel

example : keccak256 (utf8 "abc")
    = 0x4e03657aea45a94fc7d47ba826c8d667c0d1e6e33a64a036ec44f58fa12d6c45 := by
  decide +kernel

end Dstack.Lib
