/-
Text forms of data: lowercase hexadecimal and JSON string literals, as
the `hex` and `serde_json` crates print them.

Both are codes over characters. Hexadecimal spends two digits on every
byte, so its words have one length; a JSON string literal spends one
character on most characters and an escape on the rest, and ends at
the first quotation mark that no escape consumed. `readHexByte` and
`readEscaped` read one word back, which makes both prefix codes
(`PrefixCode.of_reader`) and so both encodings injective.
-/
import Dstack.Lib.Bytes
import Dstack.Lib.Result

namespace Dstack.Lib

-- == hexadecimal

/-- The lowercase hexadecimal digit of `n < 16`. -/
def hexDigit (n : Nat) : Char :=
  if n < 10 then Char.ofNat (48 + n) else Char.ofNat (87 + n)

/-- The value of a lowercase hexadecimal digit. -/
def hexValue (c : Char) : Nat :=
  if c.toNat < 58 then c.toNat - 48 else c.toNat - 87

lemma hexValue_hexDigit : ∀ n < 16, hexValue (hexDigit n) = n := by
  decide

/-- The two digits of a byte. -/
def hexByte (b : UInt8) : List Char :=
  [hexDigit (b.toNat / 16), hexDigit (b.toNat % 16)]

/-- Lowercase hexadecimal text of a byte string (`hex::encode`). -/
def hexEncode (bs : Bytes) : String := String.ofList (bs.flatMap hexByte)

/-- Read two digits back. -/
def readHexByte : List Char → Option (UInt8 × List Char)
  | c :: d :: r => some (UInt8.ofNat (16 * hexValue c + hexValue d), r)
  | _ => none

lemma readHexByte_hexByte (b : UInt8) (x : List Char) :
    readHexByte (hexByte b ++ x) = some (b, x) := by
  have hlt := b.toNat_lt
  have hhi := hexValue_hexDigit (b.toNat / 16) (by omega)
  have hlo := hexValue_hexDigit (b.toNat % 16) (by omega)
  have hb : 16 * (b.toNat / 16) + b.toNat % 16 = b.toNat := by omega
  simp [hexByte, readHexByte, hhi, hlo, hb]

lemma hexByte_prefixCode : PrefixCode hexByte :=
  .of_reader readHexByte readHexByte_hexByte

lemma hexEncode_injective {a b : Bytes} (h : hexEncode a = hexEncode b) :
    a = b :=
  hexByte_prefixCode.flatMap_inj (by simp [hexByte]) a b
    (String.ofList_injective h)

/-- The value of a digit at a position, in either case. -/
def hexNibble (c : UInt8) (index : Nat) : Result Nat :=
  if 48 ≤ c.toNat ∧ c.toNat ≤ 57 then .ok (c.toNat - 48)
  else if 97 ≤ c.toNat ∧ c.toNat ≤ 102 then .ok (c.toNat - 87)
  else if 65 ≤ c.toNat ∧ c.toNat ≤ 70 then .ok (c.toNat - 55)
  else .error ("Invalid character '" ++ String.singleton (Char.ofNat c.toNat)
    ++ "' at position " ++ toString index)

/-- Decode the pairs of digits from a position on. -/
def hexPairs : Nat → Bytes → Result Bytes
  | index, c :: d :: r => do
      let hi ← hexNibble c index
      let lo ← hexNibble d (index + 1)
      let rest ← hexPairs (index + 2) r
      pure (UInt8.ofNat (16 * hi + lo) :: rest)
  | _, _ => .ok []

/-- Decode hexadecimal text (`hex::decode`). -/
def hexDecode (s : String) : Result Bytes := do
  Result.ensure ((utf8 s).length % 2 = 0) "Odd number of digits"
  hexPairs 0 (utf8 s)

lemma hexDigit_byte : ∀ n < 16,
    (hexDigit n).toNat < 128 ∧ (n < 10 ∧ (UInt8.ofNat (hexDigit n).toNat).toNat = 48 + n
      ∨ 10 ≤ n ∧ (UInt8.ofNat (hexDigit n).toNat).toNat = 87 + n) := by
  decide

lemma hexNibble_hexDigit {n : Nat} (hn : n < 16) (index : Nat) :
    hexNibble (UInt8.ofNat (hexDigit n).toNat) index = .ok n := by
  unfold hexNibble
  rcases (hexDigit_byte n hn).2 with ⟨h, hb⟩ | ⟨h, hb⟩
  · rw [hb, if_pos (by omega), Nat.add_sub_cancel_left]
  · rw [hb, if_neg (by omega), if_pos (by omega), Nat.add_sub_cancel_left]

lemma utf8_hexByte (b : UInt8) :
    (hexByte b).flatMap String.utf8EncodeChar
      = [UInt8.ofNat (hexDigit (b.toNat / 16)).toNat,
        UInt8.ofNat (hexDigit (b.toNat % 16)).toNat] := by
  have hlt := b.toNat_lt
  have hhi := (hexDigit_byte (b.toNat / 16) (by omega)).1
  have hlo := (hexDigit_byte (b.toNat % 16) (by omega)).1
  unfold hexByte
  rw [List.flatMap_cons, List.flatMap_cons, List.flatMap_nil, utf8EncodeChar_ascii hhi,
    utf8EncodeChar_ascii hlo]
  rfl

lemma hexPairs_hexByte (bs : Bytes) :
    ∀ index, hexPairs index ((bs.flatMap hexByte).flatMap String.utf8EncodeChar) = .ok bs := by
  induction bs with
  | nil =>
    intro index
    rfl
  | cons b bs ih =>
    intro index
    have hlt := b.toNat_lt
    have hhi : b.toNat / 16 < 16 := by omega
    have hlo : b.toNat % 16 < 16 := by omega
    have hb : 16 * (b.toNat / 16) + b.toNat % 16 = b.toNat := by omega
    rw [List.flatMap_cons, List.flatMap_append, utf8_hexByte]
    show (do
      let hi ← hexNibble _ index
      let lo ← hexNibble _ (index + 1)
      let rest ← hexPairs (index + 2) _
      pure (UInt8.ofNat (16 * hi + lo) :: rest)) = _
    rw [hexNibble_hexDigit hhi, hexNibble_hexDigit hlo]
    simp only [ok_iff, Except.ok.injEq]
    refine ⟨_, rfl, _, rfl, bs, ih _, ?_⟩
    rw [hb, UInt8.ofNat_toNat]

lemma utf8_hexEncode_ne_zero {bs : Bytes} {c : UInt8} (h : c ∈ utf8 (hexEncode bs)) :
    c ≠ 0 := by
  unfold hexEncode at h
  rw [utf8_ofList, List.mem_flatMap] at h
  obtain ⟨d, hd, hc⟩ := h
  obtain ⟨b, -, hd⟩ := List.mem_flatMap.mp hd
  have hmem : c ∈ (hexByte b).flatMap String.utf8EncodeChar :=
    List.mem_flatMap.mpr ⟨d, hd, hc⟩
  have hlt := b.toNat_lt
  have hhi := (hexDigit_byte (b.toNat / 16) (by omega)).2
  have hlo := (hexDigit_byte (b.toNat % 16) (by omega)).2
  rw [utf8_hexByte, List.mem_cons, List.mem_singleton] at hmem
  intro hzero
  have hc : c.toNat = 0 := by rw [hzero]; rfl
  rcases hmem with h | h
  · rw [← h, hc] at hhi
    omega
  · rw [← h, hc] at hlo
    omega

lemma utf8_hexEncode_length (bs : Bytes) : (utf8 (hexEncode bs)).length = 2 * bs.length := by
  unfold hexEncode
  rw [utf8_ofList]
  induction bs with
  | nil => rfl
  | cons b bs ih =>
    rw [List.flatMap_cons, List.flatMap_append, List.length_append, ih, utf8_hexByte,
      List.length_cons, List.length_cons, List.length_nil, List.length_cons]
    omega

lemma hexDecode_hexEncode (bs : Bytes) : hexDecode (hexEncode bs) = .ok bs := by
  unfold hexDecode
  simp only [ok_iff]
  refine ⟨(), ?_, ?_⟩
  · rw [utf8_hexEncode_length]
    exact Nat.mul_mod_right 2 _
  · unfold hexEncode
    rw [utf8_ofList]
    exact hexPairs_hexByte bs 0

-- == string literals

/-- One character inside a JSON string literal: the two-character
escapes, `\u00xx` for the remaining control characters, and every
other character as itself. -/
def escapeChar (c : Char) : List Char :=
  match c with
  | '"' => ['\\', '"']
  | '\\' => ['\\', '\\']
  | '\x08' => ['\\', 'b']
  | '\x0c' => ['\\', 'f']
  | '\n' => ['\\', 'n']
  | '\r' => ['\\', 'r']
  | '\t' => ['\\', 't']
  | c =>
    if c.toNat < 32 then
      ['\\', 'u', '0', '0', hexDigit (c.toNat / 16), hexDigit (c.toNat % 16)]
    else [c]

/-- The body of the JSON string literal for `s`, without its quotes. -/
def escape (s : String) : String :=
  String.ofList (s.toList.flatMap escapeChar)

/-- Read one character of a string literal back. -/
def readEscaped : List Char → Option (Char × List Char)
  | '\\' :: 'u' :: '0' :: '0' :: h :: l :: r =>
    some (Char.ofNat (16 * hexValue h + hexValue l), r)
  | '\\' :: '"' :: r => some ('"', r)
  | '\\' :: '\\' :: r => some ('\\', r)
  | '\\' :: 'b' :: r => some ('\x08', r)
  | '\\' :: 'f' :: r => some ('\x0c', r)
  | '\\' :: 'n' :: r => some ('\n', r)
  | '\\' :: 'r' :: r => some ('\r', r)
  | '\\' :: 't' :: r => some ('\t', r)
  | c :: r => some (c, r)
  | [] => none

lemma readEscaped_escapeChar (c : Char) (x : List Char) :
    readEscaped (escapeChar c ++ x) = some (c, x) := by
  unfold escapeChar
  split
  · rfl
  · rfl
  · rfl
  · rfl
  · rfl
  · rfl
  · rfl
  next hquote hslash hb hf hn hr ht =>
    split
    · -- the `\u00xx` form: both digits read back to the code point
      have hhi := hexValue_hexDigit (c.toNat / 16) (by omega)
      have hlo := hexValue_hexDigit (c.toNat % 16) (by omega)
      have hc : 16 * (c.toNat / 16) + c.toNat % 16 = c.toNat := by omega
      simp [readEscaped, hhi, hlo, hc, Char.ofNat_toNat]
    · -- an ordinary character is not a backslash, so no escape is read
      rw [List.cons_append, List.nil_append, readEscaped.eq_def]
      split <;> simp_all

lemma escapeChar_prefixCode : PrefixCode escapeChar :=
  .of_reader readEscaped readEscaped_escapeChar

lemma escapeChar_ne_quote (c : Char) (y r : List Char) :
    escapeChar c ++ y ≠ '"' :: r := by
  unfold escapeChar
  split <;> try simp
  next hquote _ _ _ _ _ _ =>
    split
    · simp
    · simpa using fun h => absurd h hquote

/-- The JSON string literal for `s`. -/
def jsonString (s : String) : String := "\"" ++ escape s ++ "\""

lemma jsonString_append_inj {s t x y : String}
    (h : jsonString s ++ x = jsonString t ++ y) : s = t ∧ x = y := by
  have hl := congrArg String.toList h
  simp only [jsonString, escape, String.toList_append, String.toList_ofList,
    List.append_assoc] at hl
  obtain ⟨hst, hxy⟩ := escapeChar_prefixCode.flatMap_append_inj (escapeChar_ne_quote · · _)
    (escapeChar_ne_quote · · _) _ _ (List.append_cancel_left hl)
  exact ⟨String.toList_inj.mp hst, String.toList_inj.mp (List.cons.inj hxy).2⟩

-- == white space

/-- The characters with the Unicode `White_Space` property. -/
def isWhitespace (c : Char) : Bool :=
  (9 ≤ c.toNat ∧ c.toNat ≤ 13) ∨ (0x2000 ≤ c.toNat ∧ c.toNat ≤ 0x200a)
    ∨ c.toNat ∈ [0x20, 0x85, 0xa0, 0x1680, 0x2028, 0x2029, 0x202f, 0x205f, 0x3000]

/-- Text without the white space around it (`str::trim`). -/
def trim (s : String) : String :=
  String.ofList ((s.toList.dropWhile isWhitespace).reverse.dropWhile
    isWhitespace).reverse

/-- The words of a text (`str::split_whitespace`). -/
def splitWhitespace (s : String) : List (List Char) :=
  (s.toList.splitOnP isWhitespace).filter (· ≠ [])

-- == integers

/-- Read digits onto a number that stays below a bound. -/
def parseDigitsBelow (bound : Nat) : Nat → List Char → Result Nat
  | n, [] => .ok n
  | n, c :: cs => do
      Result.ensure (c.isDigit = true) "invalid digit found in string"
      let next := n * 10 + (c.toNat - 48)
      Result.ensure (next < bound) "number too large to fit in target type"
      parseDigitsBelow bound next cs

/-- A decimal number below a bound, with an optional plus sign
(`str::parse` of an unsigned type). -/
def parseBelow (bound : Nat) (cs : List Char) : Result Nat :=
  match cs with
  | [] => .error "cannot parse integer from empty string"
  | ['+'] => .error "invalid digit found in string"
  | '+' :: digits => parseDigitsBelow bound 0 digits
  | digits => parseDigitsBelow bound 0 digits

/-- `str::parse::<u16>`. -/
def parseU16 : List Char → Result Nat := parseBelow (2 ^ 16)

/-- `str::parse::<u32>`. -/
def parseU32 : List Char → Result Nat := parseBelow (2 ^ 32)

-- == formatted arguments

/-- A number in hexadecimal, padded with zeros to `width` digits
(`format!("{:0width$x}")`). -/
def hexPadded (width n : Nat) : String :=
  let digits := Nat.toDigits 16 n
  String.ofList (List.replicate (width - digits.length) '0' ++ digits)

/-- A list the way `Debug` prints one, from its printed elements. -/
def debugList (items : List String) : String :=
  "[" ++ ", ".intercalate items ++ "]"

/-- A string the way `Debug` prints one, for printable text: quoted,
with quotation marks, backslashes and the usual controls escaped. -/
def debugString (s : String) : String :=
  let body := s.toList.flatMap fun c =>
    match c with
    | '"' => ['\\', '"']
    | '\\' => ['\\', '\\']
    | '\n' => ['\\', 'n']
    | '\r' => ['\\', 'r']
    | '\t' => ['\\', 't']
    | c => [c]
  "\"" ++ String.ofList body ++ "\""

/-- An integer and a fraction of `digits` decimal places, trailing zeros
dropped, with a unit. -/
def decimal (int frac digits : Nat) (unit : String) : String :=
  let places := Nat.toDigits 10 frac
  let padded := List.replicate (digits - places.length) '0' ++ places
  let trimmed := (padded.reverse.dropWhile (· = '0')).reverse
  if frac = 0 then toString int ++ unit
  else toString int ++ "." ++ String.ofList trimmed ++ unit

/-- A duration in nanoseconds the way `Debug` prints one. -/
def debugDuration (nanos : Nat) : String :=
  if 1000000000 ≤ nanos then
    decimal (nanos / 1000000000) (nanos % 1000000000) 9 "s"
  else if 1000000 ≤ nanos then
    decimal (nanos / 1000000) (nanos % 1000000) 6 "ms"
  else if 1000 ≤ nanos then decimal (nanos / 1000) (nanos % 1000) 3 "µs"
  else toString nanos ++ "ns"

end Dstack.Lib
