/-
Byte strings and the encodings into them that measurement code is made
of: UTF-8 text, lowercase hexadecimal, fixed-width integers, and codes
whose words are self-delimiting.

Everything downstream that says "these bytes determine that value" —
a digest preimage, a key-derivation context, a quoted register —
comes down to one of two arguments collected here. Either two
concatenations agree and the first parts have the same LENGTH, so the
split point is forced (`List.append_inj`), or the first parts are words
of a PREFIX CODE, so that no word starts another and the split point
is forced by the contents (`PrefixCode.flatMap_append_inj`).
-/
import Mathlib

namespace Dstack.Lib

/-- A byte string. -/
abbrev Bytes := List UInt8

/-- `n` zero bytes. -/
def zeros (n : Nat) : Bytes := List.replicate n 0

@[simp] lemma zeros_length (n : Nat) : (zeros n).length = n :=
  List.length_replicate

-- == prefix codes

/-- No code word starts another: whatever follows, a word read off the
front of a string is the word that was written there. -/
def PrefixCode {α β : Type} (f : α → List β) : Prop :=
  ∀ a b x y, f a ++ x = f b ++ y → a = b ∧ x = y

lemma PrefixCode.flatMap_append_inj {α β : Type} {f : α → List β} (hf : PrefixCode f)
    {x y : List β} (hx : ∀ a r, f a ++ r ≠ x) (hy : ∀ a r, f a ++ r ≠ y) :
    ∀ as bs : List α, as.flatMap f ++ x = bs.flatMap f ++ y → as = bs ∧ x = y := by
  intro as
  induction as with
  | nil =>
    intro bs h
    cases bs with
    | nil => exact ⟨rfl, h⟩
    | cons b bs =>
      rw [List.flatMap_nil, List.nil_append, List.flatMap_cons, List.append_assoc] at h
      exact absurd h.symm (hx b _)
  | cons a as ih =>
    intro bs h
    cases bs with
    | nil =>
      rw [List.flatMap_nil, List.nil_append, List.flatMap_cons, List.append_assoc] at h
      exact absurd h (hy a _)
    | cons b bs =>
      simp only [List.flatMap_cons, List.append_assoc] at h
      obtain ⟨hab, hrest⟩ := hf a b _ _ h
      obtain ⟨hs, hxy⟩ := ih bs hrest
      exact ⟨by rw [hab, hs], hxy⟩

lemma PrefixCode.flatMap_inj {α β : Type} {f : α → List β} (hf : PrefixCode f)
    (hne : ∀ a, f a ≠ []) (as bs : List α) (h : as.flatMap f = bs.flatMap f) : as = bs := by
  have hstop (a : α) (r : List β) : f a ++ r ≠ [] :=
    fun h => hne a (List.append_eq_nil_iff.mp h).1
  exact (hf.flatMap_append_inj hstop hstop as bs (congrArg (· ++ []) h)).1

lemma PrefixCode.of_reader {α β : Type} {f : α → List β} (read : List β → Option (α × List β))
    (hread : ∀ a x, read (f a ++ x) = some (a, x)) : PrefixCode f := by
  intro a b x y h
  have hax := hread a x
  rw [h, hread b y, Option.some.injEq, Prod.mk.injEq] at hax
  exact ⟨hax.1.symm, hax.2.symm⟩

variable {n : Nat}

lemma flatten_inj_of_length {β : Type} :
    ∀ {xs ys : List (List β)}, xs.length = ys.length →
      (∀ x ∈ xs, x.length = n) → (∀ y ∈ ys, y.length = n) →
      xs.flatten = ys.flatten → xs = ys := by
  intro xs
  induction xs with
  | nil =>
    intro ys hlen _ _ _
    exact (List.length_eq_zero_iff.mp hlen.symm).symm
  | cons x xs ih =>
    intro ys hlen hxs hys h
    cases ys with
    | nil => simp at hlen
    | cons y ys =>
      simp only [List.flatten_cons] at h
      obtain ⟨hxy, hrest⟩ := List.append_inj h
        (by rw [hxs x List.mem_cons_self, hys y List.mem_cons_self])
      rw [hxy, ih (by simpa using hlen)
        (fun z hz => hxs z (List.mem_cons_of_mem _ hz))
        (fun z hz => hys z (List.mem_cons_of_mem _ hz)) hrest]

-- == slices

/-- The bytes from `start` up to `stop`, if there are that many
(`get(start..stop)`). -/
def slice (b : Bytes) (start stop : Nat) : Option Bytes :=
  if start ≤ stop ∧ stop ≤ b.length then some ((b.drop start).take (stop - start))
  else none

/-- Overwrite the bytes at `off`. -/
def writeAt (page : Bytes) (off : Nat) (bytes : Bytes) : Bytes :=
  page.take off ++ bytes ++ page.drop (off + bytes.length)

variable {b : Bytes}

lemma slice_eq_some {r : Bytes} {start stop : Nat} :
    slice b start stop = some r ↔
      start ≤ stop ∧ stop ≤ b.length ∧ (b.drop start).take (stop - start) = r := by
  unfold slice
  split
  next h => simp [h]
  next h => simp only [← and_assoc, h, false_and, reduceCtorEq]

lemma take_drop_zeros {i k : Nat} (h : i + k ≤ n) :
    ((zeros n ++ b).drop i).take k = zeros k := by
  rw [List.drop_append_of_le_length (by rw [zeros_length]; omega),
    List.take_append_of_le_length (by rw [List.length_drop, zeros_length]; omega),
    zeros, List.drop_replicate, List.take_replicate, Nat.min_eq_left (by omega)]
  rfl

lemma slice_append_right {a : Bytes} {i j : Nat} (hi : a.length ≤ i) (hij : i ≤ j) :
    slice (a ++ b) i j = slice b (i - a.length) (j - a.length) := by
  have hcond : (i ≤ j ∧ j ≤ (a ++ b).length)
      ↔ (i - a.length ≤ j - a.length ∧ j - a.length ≤ b.length) := by
    rw [List.length_append]
    omega
  have hdrop : (a ++ b).drop i = b.drop (i - a.length) := by
    rw [List.drop_append, List.drop_eq_nil_of_le hi, List.nil_append]
  have hlen : j - a.length - (i - a.length) = j - i := by omega
  simp only [slice, hcond, hdrop, hlen]

lemma slice_middle {a c : Bytes} {i : Nat} (ha : a.length = i) (hb : b.length = n) :
    slice (a ++ (b ++ c)) i (i + n) = some b := by
  subst ha hb
  refine slice_eq_some.mpr ⟨Nat.le_add_right _ _, ?_, ?_⟩
  · rw [List.length_append, List.length_append]
    omega
  · rw [List.drop_left, Nat.add_sub_cancel_left, List.take_left]

-- == UTF-8

/-- The bytes of a text (`as_bytes`). -/
def utf8 (s : String) : Bytes := s.toByteArray.data.toList

@[simp] lemma utf8_append (s t : String) :
    utf8 (s ++ t) = utf8 s ++ utf8 t := by
  simp [utf8]

/-- The text of a byte string, if it is UTF-8 (`str::from_utf8`). -/
def fromUtf8 (b : Bytes) : Option String := String.fromUTF8? ⟨b.toArray⟩

lemma fromUtf8_utf8 (s : String) : fromUtf8 (utf8 s) = some s := by
  unfold fromUtf8 String.fromUTF8? utf8
  have hs : (⟨s.toByteArray.data.toList.toArray⟩ : ByteArray) = s.toByteArray := rfl
  rw [hs, dif_pos s.isValidUTF8]
  rfl

variable {s : String}

lemma utf8_of_fromUtf8 (h : fromUtf8 b = some s) :
    utf8 s = b := by
  unfold fromUtf8 String.fromUTF8? at h
  split at h
  · cases h
    rfl
  · cases h

lemma utf8_ofList (l : List Char) :
    utf8 (String.ofList l) = l.flatMap String.utf8EncodeChar := by
  unfold utf8
  rw [String.toByteArray_ofList]
  simp [List.utf8Encode]

lemma utf8EncodeChar_ascii {c : Char} (h : c.toNat < 128) :
    String.utf8EncodeChar c = [UInt8.ofNat c.toNat] :=
  if_pos (Nat.le_of_lt_succ h)

lemma utf8_injective {t : String} (h : utf8 s = utf8 t) : s = t :=
  String.toByteArray_inj.mp (ByteArray.ext (Array.toList_inj.mp h))

lemma utf8_inj {t : String} : utf8 s = utf8 t ↔ s = t :=
  ⟨utf8_injective, congrArg utf8⟩

private lemma utf8_eq_encode (s : String) :
    s.toByteArray = s.toList.utf8Encode := by
  rw [← String.toByteArray_ofList, String.ofList_toList]

/-- Text is cut only at character boundaries: what is left of a string
after the bytes of another string is again the bytes of a string. -/
lemma utf8_eq_append {t : String} {r : Bytes}
    (h : utf8 s = utf8 t ++ r) : ∃ u, s = t ++ u ∧ r = utf8 u := by
  have hb : t.toList.utf8Encode ++ r.toByteArray = s.toList.utf8Encode := by
    rw [← utf8_eq_encode, ← utf8_eq_encode]
    apply ByteArray.ext
    apply Array.toList_inj.mp
    simpa [utf8] using h.symm
  obtain ⟨cs, hcs⟩ := List.isPrefix_of_utf8Encode_append_eq_utf8Encode _ hb
  have hs : s = t ++ String.ofList cs := by
    rw [← String.toList_inj, String.toList_append, String.toList_ofList, hcs]
  refine ⟨String.ofList cs, hs, ?_⟩
  rw [hs, utf8_append] at h
  exact (List.append_cancel_left h).symm

-- == integers

/-- `x` as `n` bytes, most significant first, modulo `256 ^ n`. -/
def beBytes : Nat → Nat → Bytes
  | 0, _ => []
  | n + 1, x => UInt8.ofNat (x / 256 ^ n) :: beBytes n x

/-- `x` as `n` bytes, least significant first, modulo `256 ^ n`. -/
def leBytes : Nat → Nat → Bytes
  | 0, _ => []
  | n + 1, x => UInt8.ofNat x :: leBytes n (x / 256)

/-- The number some bytes are, most significant byte first. -/
def beNat (bs : Bytes) : Nat := bs.foldl (fun n b => n * 256 + b.toNat) 0

/-- The number some bytes are, least significant byte first. -/
def leNat (bs : Bytes) : Nat := bs.foldr (fun b n => b.toNat + 256 * n) 0

/-- A sum that fits 64 bits (`u64::checked_add`). -/
def checkedAdd (a b : Nat) : Option Nat :=
  if a + b < 2 ^ 64 then some (a + b) else none

/-- A product that fits 64 bits (`u64::checked_mul`). -/
def checkedMul (a b : Nat) : Option Nat :=
  if a * b < 2 ^ 64 then some (a * b) else none

lemma checkedAdd_eq_some {a b c : Nat} :
    checkedAdd a b = some c ↔ a + b < 2 ^ 64 ∧ a + b = c := by
  unfold checkedAdd
  split
  next h => simp only [h, true_and, Option.some.injEq]
  next h => simp only [h, false_and, reduceCtorEq]

lemma checkedMul_eq_some {a b c : Nat} :
    checkedMul a b = some c ↔ a * b < 2 ^ 64 ∧ a * b = c := by
  unfold checkedMul
  split
  next h => simp only [h, true_and, Option.some.injEq]
  next h => simp only [h, false_and, reduceCtorEq]

@[simp] lemma beBytes_length (n x : Nat) : (beBytes n x).length = n := by
  induction n with
  | zero => rfl
  | succ n ih => simp [beBytes, ih]

@[simp] lemma leBytes_length (n x : Nat) : (leBytes n x).length = n := by
  induction n generalizing x with
  | zero => rfl
  | succ n ih => simp [leBytes, ih]

lemma beNat_concat (bs : Bytes) (b : UInt8) :
    beNat (bs ++ [b]) = beNat bs * 256 + b.toNat := by
  simp [beNat]

lemma beBytes_succ (n x : Nat) :
    beBytes (n + 1) x = beBytes n (x / 256) ++ [UInt8.ofNat x] := by
  induction n generalizing x with
  | zero => simp [beBytes]
  | succ n ih =>
    rw [beBytes, ih, beBytes, List.cons_append]
    congr 2
    rw [Nat.div_div_eq_div_mul, Nat.pow_succ, Nat.mul_comm]

lemma div_lt_pow {x n : Nat} (h : x < 256 ^ (n + 1)) : x / 256 < 256 ^ n :=
  Nat.div_lt_of_lt_mul (by rwa [Nat.pow_succ'] at h)

lemma toNat_ofNat_add (x : Nat) : (UInt8.ofNat x).toNat + 256 * (x / 256) = x := by
  rw [UInt8.toNat_ofNat']
  exact Nat.mod_add_div x 256

lemma beNat_beBytes (n : Nat) {x : Nat} (h : x < 256 ^ n) :
    beNat (beBytes n x) = x := by
  induction n generalizing x with
  | zero => exact (Nat.lt_one_iff.mp h).symm
  | succ n ih =>
    rw [beBytes_succ, beNat_concat, ih (div_lt_pow h), Nat.mul_comm, Nat.add_comm]
    exact toNat_ofNat_add x

lemma beNat_lt (bs : Bytes) : beNat bs < 256 ^ bs.length := by
  induction bs using List.reverseRecOn with
  | nil => decide
  | append_singleton bs b ih =>
    have hb : b.toNat < 256 := b.toNat_lt
    rw [beNat_concat, List.length_append, List.length_singleton, Nat.pow_succ]
    omega

lemma beBytes_beNat (bs : Bytes) : beBytes bs.length (beNat bs) = bs := by
  induction bs using List.reverseRecOn with
  | nil => rfl
  | append_singleton bs b ih =>
    have hb : b.toNat < 256 := b.toNat_lt
    have hdiv : (beNat bs * 256 + b.toNat) / 256 = beNat bs := by omega
    have hlast : UInt8.ofNat (beNat bs * 256 + b.toNat) = b := by
      apply UInt8.toNat_inj.mp
      rw [UInt8.toNat_ofNat']
      omega
    rw [List.length_append, List.length_singleton, beBytes_succ, beNat_concat, hdiv, ih, hlast]

lemma leNat_leBytes (n : Nat) {x : Nat} (h : x < 256 ^ n) :
    leNat (leBytes n x) = x := by
  induction n generalizing x with
  | zero => exact (Nat.lt_one_iff.mp h).symm
  | succ n ih =>
    show (UInt8.ofNat x).toNat + 256 * leNat (leBytes n (x / 256)) = x
    rw [ih (div_lt_pow h), toNat_ofNat_add]

end Dstack.Lib
