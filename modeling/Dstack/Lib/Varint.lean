/-
Unsigned LEB128 integers of 64 bits: seven bits a byte, least
significant group first, the top bit set on every byte but the last.

The writer emits groups until nothing is left; the reader takes groups
at shifts 0, 7, …, 63 and refuses what does not fit 64 bits.
`read_put` is the round trip, with whatever follows left in place.
-/
import Dstack.Lib.Bytes
import Dstack.Lib.Result

namespace Dstack.Lib.Varint

/-- The groups of a value, at most `fuel + 1` of them. -/
def putGroups : Nat → Nat → Bytes
  | 0, value => [UInt8.ofNat (value % 128)]
  | fuel + 1, value =>
    if value / 128 = 0 then [UInt8.ofNat (value % 128)]
    else UInt8.ofNat (value % 128 + 128) :: putGroups fuel (value / 128)

/-- Write a value. -/
def put (value : Nat) : Bytes := putGroups 9 value

/-- Read groups onto `value` from a shift on. `what` names the data in
the error texts. -/
def readGroups (what : String) : Nat → Nat → Bytes → Result (Nat × Bytes)
  | _, _, [] => .error ("truncated " ++ what ++ " varuint")
  | shift, value, byte :: rest =>
    if shift = 63 ∧ byte &&& 0x7e ≠ 0 then
      .error (what ++ " varuint is too large")
    else
      let value := value ||| ((byte &&& 0x7f).toNat <<< shift)
      if byte &&& 0x80 = 0 then .ok (value, rest)
      else if shift + 7 ≥ 64 then .error (what ++ " varuint is too large")
      else readGroups what (shift + 7) value rest

/-- Read a value off the front. -/
def read (what : String) (input : Bytes) : Result (Nat × Bytes) :=
  readGroups what 0 0 input

-- == one group

lemma group_masks : ∀ n : Nat, n < 128 →
    (UInt8.ofNat n &&& 0x7f).toNat = n ∧ UInt8.ofNat n &&& 0x80 = 0
      ∧ (UInt8.ofNat (n + 128) &&& 0x7f).toNat = n
      ∧ UInt8.ofNat (n + 128) &&& 0x80 ≠ 0 := by
  decide +kernel

lemma top_group : ∀ n : Nat, n < 2 → UInt8.ofNat n &&& 0x7e = 0 := by
  decide +kernel

lemma or_shift {acc shift n : Nat} (h : acc < 2 ^ shift) :
    acc ||| (n <<< shift) = acc + n * 2 ^ shift := by
  rw [Nat.shiftLeft_eq, Nat.or_comm, Nat.mul_comm,
    ← Nat.two_pow_add_eq_or_of_lt h, Nat.add_comm]

-- == round trip

/-- Groups are read back onto the bits read before them. The induction
is on the groups still to come; the shift and the number of groups
together never pass 64 bits. -/
lemma readGroups_putGroups (what : String) (rest : Bytes) :
    ∀ (fuel shift acc value : Nat), shift + 7 * fuel = 63 →
      acc < 2 ^ shift → value < 2 ^ (64 - shift) →
      readGroups what shift acc (putGroups fuel value ++ rest)
        = .ok (acc + value * 2 ^ shift, rest) := by
  intro fuel
  induction fuel with
  | zero =>
    intro shift acc value hshift hacc hvalue
    have h63 : shift = 63 := by omega
    subst h63
    have hlt : value < 2 := by simpa using hvalue
    have hmod : value % 128 = value := Nat.mod_eq_of_lt (by omega)
    obtain ⟨hlow, htop, -, -⟩ := group_masks value (by omega)
    rw [putGroups, hmod, List.cons_append, List.nil_append, readGroups,
      if_neg (by simp [top_group value hlt])]
    simp only [hlow, htop, if_true, or_shift hacc]
  | succ fuel ih =>
    intro shift acc value hshift hacc hvalue
    have hmod : value % 128 < 128 := Nat.mod_lt _ (by decide)
    obtain ⟨hlow, htop, hlow', htop'⟩ := group_masks (value % 128) hmod
    have hne : shift ≠ 63 := by omega
    rw [putGroups]
    split
    next hlast =>
      have hv : value % 128 = value := by omega
      rw [List.cons_append, List.nil_append, readGroups,
        if_neg (by simp [hne])]
      simp only [hlow, htop, if_true, or_shift hacc]
      rw [hv]
    next hmore =>
      rw [List.cons_append, readGroups, if_neg (by simp [hne])]
      simp only [hlow', htop', if_false, or_shift hacc]
      rw [if_neg (by omega)]
      have hpow : 2 ^ (shift + 7) = 2 ^ shift * 128 := Nat.pow_add 2 shift 7
      have hacc' : acc + value % 128 * 2 ^ shift < 2 ^ (shift + 7) := by
        have hle : value % 128 * 2 ^ shift ≤ 127 * 2 ^ shift :=
          Nat.mul_le_mul_right _ (by omega)
        rw [hpow]
        omega
      have hvalue' : value / 128 < 2 ^ (64 - (shift + 7)) := by
        rw [Nat.div_lt_iff_lt_mul (by decide)]
        have h128 : (128 : Nat) = 2 ^ 7 := rfl
        rw [h128, ← Nat.pow_add]
        have hexp : 64 - (shift + 7) + 7 = 64 - shift := by omega
        rwa [hexp]
      rw [ih (shift + 7) _ _ (by omega) hacc' hvalue', hpow]
      have hdiv := Nat.div_add_mod value 128
      congr 2
      calc acc + value % 128 * 2 ^ shift + value / 128 * (2 ^ shift * 128)
          = acc + (128 * (value / 128) + value % 128) * 2 ^ shift := by ring
        _ = acc + value * 2 ^ shift := by rw [hdiv]

lemma read_put (what : String) {value : Nat} (rest : Bytes)
    (h : value < 2 ^ 64) : read what (put value ++ rest) = .ok (value, rest) := by
  have hround := readGroups_putGroups what rest 9 0 0 value (by decide)
    (by decide) (by simpa using h)
  simpa [read, put] using hround

end Dstack.Lib.Varint
