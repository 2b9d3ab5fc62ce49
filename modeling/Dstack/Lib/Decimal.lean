/-
Decimal numerals: a reader with a bound, as the fixed-width `parse` of a
standard library is, and the one canonical numeral of each number.

`Nat.toDigits 10` writes a number without leading zeros, and it is the
only way to write it so (`canonical_iff`). The reader accepts leading
zeros; what it reads is the value of the digits, if that is below the
bound (`parseDigitsBelow_eq_ok`). The value of a longer text is never
smaller, so the bound can be held to each digit as it comes.
-/
import Dstack.Lib.Text

namespace Dstack.Lib

namespace Decimal

lemma isDigit_iff {c : Char} : c.isDigit = true ↔ 48 ≤ c.toNat ∧ c.toNat ≤ 57 := by
  rw [Char.isDigit, Bool.and_eq_true, decide_eq_true_eq, decide_eq_true_eq]
  exact Iff.rfl

lemma le_ofDigitChars (cs : List Char) (n : Nat) : n ≤ Nat.ofDigitChars 10 cs n := by
  rw [Nat.ofDigitChars_eq_ofDigitChars_zero]
  have hpow : 0 < 10 ^ cs.length := Nat.pow_pos (by omega)
  exact Nat.le_add_right_of_le (Nat.le_mul_of_pos_left n hpow)

lemma ofDigitChars_cons (c : Char) (cs : List Char) (n : Nat) :
    Nat.ofDigitChars 10 (c :: cs) n = Nat.ofDigitChars 10 cs (n * 10 + (c.toNat - 48)) := by
  rw [Nat.ofDigitChars_eq_foldl, Nat.ofDigitChars_eq_foldl, List.foldl_cons]
  congr 1
  rw [Nat.mul_comm]
  rfl

lemma parseDigitsBelow_eq_ok {bound : Nat} {cs : List Char} {acc n : Nat}
    (hacc : acc < bound) :
    parseDigitsBelow bound acc cs = .ok n
      ↔ (∀ c ∈ cs, c.isDigit = true) ∧ Nat.ofDigitChars 10 cs acc = n ∧ n < bound := by
  induction cs generalizing acc with
  | nil =>
    simp only [parseDigitsBelow, Except.ok.injEq, Nat.ofDigitChars_nil]
    constructor
    · intro h
      exact ⟨by simp, h, h ▸ hacc⟩
    · intro h
      exact h.2.1
  | cons c cs ih =>
    simp only [parseDigitsBelow, ok_iff, ofDigitChars_cons, List.forall_mem_cons]
    constructor
    · rintro ⟨_, hc, _, hnext, h⟩
      obtain ⟨hcs, hval, hlt⟩ := (ih hnext).mp h
      exact ⟨⟨hc, hcs⟩, hval, hlt⟩
    · rintro ⟨⟨hc, hcs⟩, hval, hlt⟩
      have hnext : acc * 10 + (c.toNat - 48) < bound := by
        have hle := le_ofDigitChars cs (acc * 10 + (c.toNat - 48))
        omega
      exact ⟨(), hc, (), hnext, (ih hnext).mpr ⟨hcs, hval, hlt⟩⟩

-- == canonical

lemma digitChar_of_isDigit {c : Char} (h : c.isDigit = true) :
    Nat.digitChar (c.toNat - 48) = c := by
  obtain ⟨hlo, hhi⟩ := isDigit_iff.mp h
  apply Char.toNat_inj.mp
  rw [Nat.toNat_digitChar_of_lt_ten (by omega)]
  omega

lemma toDigits_append {cs : List Char} {acc : Nat} (hacc : 0 < acc)
    (hcs : ∀ c ∈ cs, c.isDigit = true) :
    Nat.toDigits 10 acc ++ cs = Nat.toDigits 10 (Nat.ofDigitChars 10 cs acc) := by
  induction cs generalizing acc with
  | nil => simp
  | cons c cs ih =>
    rw [List.forall_mem_cons] at hcs
    obtain ⟨hlo, hhi⟩ := isDigit_iff.mp hcs.1
    have hdigit : c.toNat - 48 < 10 := by omega
    have happend := Nat.toDigits_append_toDigits (b := 10) (by omega) hacc hdigit
    rw [Nat.toDigits_of_lt_base hdigit, digitChar_of_isDigit hcs.1, Nat.mul_comm] at happend
    calc Nat.toDigits 10 acc ++ c :: cs
        = (Nat.toDigits 10 acc ++ [c]) ++ cs := by simp
      _ = Nat.toDigits 10 (acc * 10 + (c.toNat - 48)) ++ cs := by rw [happend]
      _ = Nat.toDigits 10 (Nat.ofDigitChars 10 (c :: cs) acc) := by
        rw [ih (by omega) hcs.2, ofDigitChars_cons]

lemma head_toDigits_ne {n : Nat} (hn : 0 < n) : (Nat.toDigits 10 n).head? ≠ some '0' := by
  induction n using Nat.strongRecOn with
  | _ n ih =>
    by_cases hlt : n < 10
    · rw [Nat.toDigits_of_lt_base hlt, List.head?_cons]
      intro h
      rw [Option.some.injEq, Nat.digitChar_eq_zero] at h
      omega
    · rw [Nat.toDigits_of_base_le (by omega) (by omega),
        List.head?_append_of_ne_nil _ Nat.toDigits_ne_nil]
      exact ih (n / 10) (by omega) (by omega)

lemma canonical_iff {cs : List Char} :
    (cs ≠ [] ∧ cs.head? ≠ some '0' ∧ ∀ c ∈ cs, c.isDigit = true)
      ↔ ∃ n, 0 < n ∧ cs = Nat.toDigits 10 n := by
  constructor
  · rintro ⟨hne, hhead, hdigits⟩
    cases cs with
    | nil => exact absurd rfl hne
    | cons c cs =>
      rw [List.forall_mem_cons] at hdigits
      obtain ⟨hlo, hhi⟩ := isDigit_iff.mp hdigits.1
      have hzero : c.toNat ≠ 48 := by
        intro h
        apply hhead
        rw [List.head?_cons, Char.toNat_inj.mp (h.trans (by rfl : 48 = '0'.toNat))]
      have hfirst : Nat.toDigits 10 (c.toNat - 48) = [c] := by
        rw [Nat.toDigits_of_lt_base (by omega), digitChar_of_isDigit hdigits.1]
      have happend := toDigits_append (by omega : 0 < c.toNat - 48) hdigits.2
      refine ⟨Nat.ofDigitChars 10 cs (c.toNat - 48), ?_, ?_⟩
      · have hle := le_ofDigitChars cs (c.toNat - 48)
        omega
      · rw [← happend, hfirst, List.singleton_append]
  · rintro ⟨n, hn, rfl⟩
    refine ⟨Nat.toDigits_ne_nil, head_toDigits_ne hn, ?_⟩
    intro c hc
    exact Nat.isDigit_of_mem_toDigits (by omega) (by omega) hc

end Decimal

end Dstack.Lib
