/-
SCALE, the compact binary encoding of records without field names.

An integer is its bytes, least significant first. A sequence is its
length as a compact integer and then its elements, a record is its
fields in order, a variant is its index and then its fields. Nothing
marks where a value ends, so a decoder reads a value off the front of
its input and leaves the rest, and an encoding is right when that holds
in front of any rest (`Codec.exact`).
-/
import Dstack.Lib.Bytes
import Dstack.Lib.Result

namespace Dstack.Lib.Scale

variable {α β : Type}

-- == reading

/-- Exactly `n` bytes off the front. -/
def takeBytes (n : Nat) (input : Bytes) : Result (Bytes × Bytes) :=
  if input.length < n then .error "Not enough data to fill buffer"
  else .ok (input.take n, input.drop n)

variable {n : Nat}

lemma takeBytes_append {bs : Bytes} (hn : bs.length = n) (rest : Bytes) :
    takeBytes n (bs ++ rest) = .ok (bs, rest) := by
  unfold takeBytes
  rw [if_neg (by simp [hn]), List.take_left' hn, List.drop_left' hn]

/-- An `n`-byte integer. -/
def readLe (n : Nat) (input : Bytes) : Result (Nat × Bytes) := do
  let (bs, rest) ← takeBytes n input
  pure (leNat bs, rest)

lemma readLe_append {x : Nat} (hx : x < 256 ^ n) (rest : Bytes) :
    readLe n (leBytes n x ++ rest) = .ok (x, rest) := by
  unfold readLe
  rw [takeBytes_append (leBytes_length n x)]
  show Except.ok (leNat (leBytes n x), rest) = _
  rw [leNat_leBytes n hx]

-- == compact integers

/-- A 32-bit integer in the shortest of four forms; the low two bits of
the first byte say which. -/
def compact (n : Nat) : Bytes :=
  if n < 2 ^ 6 then leBytes 1 (4 * n)
  else if n < 2 ^ 14 then leBytes 2 (4 * n + 1)
  else if n < 2 ^ 30 then leBytes 4 (4 * n + 2)
  else 3 :: leBytes 4 n

/-- Refuse a number that has a shorter form. -/
def acceptFrom (low : Nat) (n : Nat) (rest : Bytes) : Result (Nat × Bytes) :=
  if low ≤ n then .ok (n, rest)
  else .error "out of range decoding Compact<u32>"

/-- Read a compact integer. -/
def readCompact (input : Bytes) : Result (Nat × Bytes) :=
  match input with
  | [] => .error "Not enough data to fill buffer"
  | b :: tail =>
    if b.toNat % 4 = 0 then .ok (b.toNat / 4, tail)
    else if b.toNat % 4 = 1 then do
      let (x, rest) ← readLe 2 input
      acceptFrom (2 ^ 6) (x / 4) rest
    else if b.toNat % 4 = 2 then do
      let (x, rest) ← readLe 4 input
      acceptFrom (2 ^ 14) (x / 4) rest
    else if b.toNat / 4 = 0 then do
      let (x, rest) ← readLe 4 tail
      acceptFrom (2 ^ 30) x rest
    else .error "unexpected prefix decoding Compact<u32>"

lemma acceptFrom_of_le {low : Nat} (h : low ≤ n) (rest : Bytes) :
    acceptFrom low n rest = .ok (n, rest) :=
  if_pos h

lemma compact_ne_nil (n : Nat) : compact n ≠ [] := by
  unfold compact
  split
  · simp [leBytes]
  · split
    · simp [leBytes]
    · split <;> simp [leBytes]

lemma readCompact_compact (hn : n < 2 ^ 32) (rest : Bytes) :
    readCompact (compact n ++ rest) = .ok (n, rest) := by
  have hbyte : ∀ x, (UInt8.ofNat x).toNat = x % 256 := fun x => UInt8.toNat_ofNat'
  unfold compact
  by_cases h1 : n < 2 ^ 6
  · rw [if_pos h1]
    show readCompact (UInt8.ofNat (4 * n) :: rest) = _
    have hb : (UInt8.ofNat (4 * n)).toNat = 4 * n := by rw [hbyte]; omega
    rw [readCompact, hb, if_pos (by omega), Nat.mul_div_cancel_left n (by decide)]
  · rw [if_neg h1]
    by_cases h2 : n < 2 ^ 14
    · rw [if_pos h2]
      show readCompact (UInt8.ofNat (4 * n + 1) :: (leBytes 1 ((4 * n + 1) / 256) ++ rest)) = _
      have hread : readLe 2 (UInt8.ofNat (4 * n + 1)
          :: (leBytes 1 ((4 * n + 1) / 256) ++ rest)) = .ok (4 * n + 1, rest) :=
        readLe_append (n := 2) (by omega) rest
      rw [readCompact, hbyte, if_neg (by omega), if_pos (by omega), hread]
      show acceptFrom (2 ^ 6) ((4 * n + 1) / 4) rest = _
      rw [show (4 * n + 1) / 4 = n by omega]
      exact acceptFrom_of_le (by omega) rest
    · rw [if_neg h2]
      by_cases h3 : n < 2 ^ 30
      · rw [if_pos h3]
        show readCompact (UInt8.ofNat (4 * n + 2) :: (leBytes 3 ((4 * n + 2) / 256) ++ rest)) = _
        have hread : readLe 4 (UInt8.ofNat (4 * n + 2)
            :: (leBytes 3 ((4 * n + 2) / 256) ++ rest)) = .ok (4 * n + 2, rest) :=
          readLe_append (n := 4) (by omega) rest
        rw [readCompact, hbyte, if_neg (by omega), if_neg (by omega), if_pos (by omega),
          hread]
        show acceptFrom (2 ^ 14) ((4 * n + 2) / 4) rest = _
        rw [show (4 * n + 2) / 4 = n by omega]
        exact acceptFrom_of_le (by omega) rest
      · rw [if_neg h3]
        show readCompact (3 :: (leBytes 4 n ++ rest)) = _
        have hread : readLe 4 (leBytes 4 n ++ rest) = .ok (n, rest) :=
          readLe_append (n := 4) (by omega) rest
        show (readLe 4 (leBytes 4 n ++ rest) >>= fun x => acceptFrom (2 ^ 30) x.1 x.2) = _
        rw [hread]
        exact acceptFrom_of_le (by omega) rest

-- == codecs

/-- An encoding with its decoder; `kept` is what a round trip keeps. -/
structure Codec (α : Type) where
  encode : α → Bytes
  decode : Bytes → Result (α × Bytes)
  /-- The values of the encoded type, where `α` has more. -/
  InRange : α → Prop
  kept : α → α
  exact : ∀ a rest, InRange a → (encode a).length < 2 ^ 32 →
    decode (encode a ++ rest) = .ok (kept a, rest)

/-- Four bytes. -/
def u32 : Codec Nat where
  encode := leBytes 4
  decode := readLe 4
  InRange n := n < 2 ^ 32
  kept := id
  exact n rest hn _ := readLe_append (n := 4) (by omega) rest

/-- Bytes of a fixed length, without one. -/
def array (n : Nat) : Codec { b : Bytes // b.length = n } where
  encode b := b.1
  decode input :=
    if h : (input.take n).length = n then .ok (⟨input.take n, h⟩, input.drop n)
    else .error "Not enough data to fill buffer"
  InRange _ := True
  kept := id
  exact := by
    intro ⟨b, hb⟩ rest _ _
    have htake : (b ++ rest).take n = b := List.take_left' hb
    simp only [htake, List.drop_left' hb, dif_pos hb, id]

/-- Bytes with their length. -/
def bytes : Codec Bytes where
  encode b := compact b.length ++ b
  decode input := do
    let (n, rest) ← readCompact input
    takeBytes n rest
  InRange _ := True
  kept := id
  exact := by
    intro b rest _ hlen
    rw [List.length_append] at hlen
    rw [List.append_assoc, readCompact_compact (by omega)]
    exact takeBytes_append rfl rest

/-- Text, as its bytes. -/
def string : Codec String where
  encode s := bytes.encode (utf8 s)
  decode input := do
    let (b, rest) ← bytes.decode input
    let s ← Result.ofOption (fromUtf8 b) "Invalid utf8 sequence"
    pure (s, rest)
  InRange _ := True
  kept := id
  exact := by
    intro s rest _ hlen
    rw [bytes.exact (utf8 s) rest trivial hlen]
    show (Result.ofOption (fromUtf8 (utf8 s)) _ >>= _) = _
    rw [fromUtf8_utf8]
    rfl

/-- A record of two fields. -/
def Codec.pair (c : Codec α) (d : Codec β) : Codec (α × β) where
  encode x := c.encode x.1 ++ d.encode x.2
  decode input := do
    let (a, rest) ← c.decode input
    let (b, rest) ← d.decode rest
    pure ((a, b), rest)
  InRange x := c.InRange x.1 ∧ d.InRange x.2
  kept x := (c.kept x.1, d.kept x.2)
  exact := by
    intro x rest ⟨ha, hb⟩ hlen
    rw [List.length_append] at hlen
    rw [List.append_assoc, c.exact x.1 _ ha (by omega)]
    show (d.decode (d.encode x.2 ++ rest) >>= _) = _
    rw [d.exact x.2 _ hb (by omega)]
    rfl

/-- A record, by its fields. A record has a field that `fields` leaves
out when `record` gives that field its default. -/
def Codec.ofFields (c : Codec β) (fields : α → β) (record : β → α) : Codec α where
  encode a := c.encode (fields a)
  decode input := do
    let (b, rest) ← c.decode input
    pure (record b, rest)
  InRange a := c.InRange (fields a)
  kept a := record (c.kept (fields a))
  exact a rest ha hlen := by
    rw [c.exact _ rest ha hlen]
    rfl

/-- Decode `n` values in a row. -/
def decodeMany (c : Codec α) : Nat → Bytes → Result (List α × Bytes)
  | 0, input => .ok ([], input)
  | n + 1, input => do
      let (a, rest) ← c.decode input
      let (as, rest) ← decodeMany c n rest
      pure (a :: as, rest)

lemma decodeMany_flatMap (c : Codec α) (rest : Bytes) :
    ∀ xs : List α, (∀ x ∈ xs, c.InRange x) →
      (xs.flatMap c.encode).length < 2 ^ 32 →
      decodeMany c xs.length (xs.flatMap c.encode ++ rest) = .ok (xs.map c.kept, rest) := by
  intro xs
  induction xs with
  | nil => intro _ _; rfl
  | cons x xs ih =>
    intro hxs hlen
    rw [List.flatMap_cons, List.length_append] at hlen
    rw [List.flatMap_cons, List.append_assoc, List.length_cons, decodeMany,
      c.exact x _ (hxs x List.mem_cons_self) (by omega)]
    show (decodeMany c xs.length (xs.flatMap c.encode ++ rest) >>= _) = _
    rw [ih (fun y hy => hxs y (List.mem_cons_of_mem _ hy)) (by omega)]
    rfl

lemma length_le_flatMap {f : α → Bytes} (hf : ∀ a, f a ≠ []) (xs : List α) :
    xs.length ≤ (xs.flatMap f).length := by
  induction xs with
  | nil => simp
  | cons x xs ih =>
    have hx := List.length_pos_iff.mpr (hf x)
    rw [List.flatMap_cons, List.length_append, List.length_cons]
    omega

/-- A sequence; no element may have an empty encoding. -/
def Codec.vec (c : Codec α) (hne : ∀ a, c.encode a ≠ []) : Codec (List α) where
  encode xs := compact xs.length ++ xs.flatMap c.encode
  decode input := do
    let (n, rest) ← readCompact input
    decodeMany c n rest
  InRange xs := ∀ x ∈ xs, c.InRange x
  kept := List.map c.kept
  exact := by
    intro xs rest hxs hlen
    rw [List.length_append] at hlen
    have hcount := length_le_flatMap hne xs
    rw [List.append_assoc, readCompact_compact (by omega)]
    exact decodeMany_flatMap c rest xs hxs (by omega)

/-- A variant without fields, by its index. -/
def enumeration [DecidableEq α] (variants : List α) (hall : ∀ a, a ∈ variants)
    (hsize : variants.length ≤ 256) : Codec α where
  encode a := [UInt8.ofNat (variants.idxOf a)]
  decode
    | [] => .error "Not enough data to fill buffer"
    | index :: rest => do
        let a ← Result.ofOption (variants[index.toNat]?) "variant doesn't exist"
        pure (a, rest)
  InRange _ := True
  kept := id
  exact := by
    intro a rest _ _
    have hlt : variants.idxOf a < variants.length := List.idxOf_lt_length_of_mem (hall a)
    have hindex : (UInt8.ofNat (variants.idxOf a)).toNat = variants.idxOf a := by
      rw [UInt8.toNat_ofNat']
      omega
    show (Result.ofOption (variants[(UInt8.ofNat (variants.idxOf a)).toNat]?) _ >>= _) = _
    rw [hindex, List.getElem?_eq_getElem hlt, List.getElem_idxOf]
    rfl

/-- A value that may be missing. -/
def Codec.option (c : Codec α) : Codec (Option α) where
  encode
    | none => [0]
    | some a => 1 :: c.encode a
  decode
    | [] => .error "Not enough data to fill buffer"
    | tag :: input =>
      if tag = 0 then .ok (none, input)
      else if tag = 1 then do
        let (a, rest) ← c.decode input
        pure (some a, rest)
      else .error "unexpected first byte decoding Option"
  InRange o := ∀ a, o = some a → c.InRange a
  kept := Option.map c.kept
  exact := by
    intro o rest ho hlen
    cases o with
    | none => rfl
    | some a =>
      show (c.decode (c.encode a ++ rest) >>= _) = _
      rw [c.exact a rest (ho a rfl) (by simp only [List.length_cons] at hlen; omega)]
      rfl

/-- Decode the fields of a variant. -/
def Codec.decodeAs (c : Codec β) (variant : β → α) (input : Bytes) : Result (α × Bytes) := do
  let (b, rest) ← c.decode input
  pure (variant b, rest)

lemma Codec.decodeAs_encode (c : Codec β) (variant : β → α) {b : β} (hb : c.InRange b)
    (hlen : (c.encode b).length < 2 ^ 32) (rest : Bytes) :
    c.decodeAs variant (c.encode b ++ rest) = .ok (variant (c.kept b), rest) := by
  unfold Codec.decodeAs
  rw [c.exact b rest hb hlen]
  rfl

-- == no empty ones

lemma u32_ne_nil (n : Nat) : u32.encode n ≠ [] := by
  simp [u32, leBytes]

lemma bytes_ne_nil (b : Bytes) : bytes.encode b ≠ [] := by
  simp [bytes, compact_ne_nil]

lemma string_ne_nil (s : String) : string.encode s ≠ [] :=
  bytes_ne_nil _

lemma pair_ne_nil {c : Codec α} {d : Codec β} (h : ∀ a, c.encode a ≠ []) (x : α × β) :
    (c.pair d).encode x ≠ [] := by
  simp [Codec.pair, h x.1]

end Dstack.Lib.Scale
