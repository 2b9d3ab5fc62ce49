/-
The LUKS2 on-disk format: two copies of a header, each a binary block
with a JSON text behind it, and which of them a reader takes.

A copy says where it is and how long it is, and carries a checksum over
all of it but the checksum itself. A reader takes a copy only if all of
that fits. The second copy lies right after the first; when the first
does not tell, it is looked for at a few fixed offsets.
-/
import Dstack.Lib.Bytes

namespace Dstack.Lib.Luks2

-- == binary header

def headerLength : Nat := 4096

/-- The fields of the binary header. -/
structure LuksHeader where
  magic : Bytes
  version : Nat
  hdrSize : Nat
  seqid : Nat
  label : Bytes
  csumAlg : Bytes
  salt : Bytes
  uuid : Bytes
  subsystem : Bytes
  hdrOffset : Nat
  csum : Bytes
  deriving DecidableEq

/-- Some bytes at an offset. -/
def field (data : Bytes) (off len : Nat) : Bytes := (data.drop off).take len

/-- Read the fields at their offsets. -/
def LuksHeader.decode (data : Bytes) : LuksHeader where
  magic := field data 0 6
  version := beNat (field data 6 2)
  hdrSize := beNat (field data 8 8)
  seqid := beNat (field data 16 8)
  label := field data 24 48
  csumAlg := field data 72 32
  salt := field data 104 64
  uuid := field data 168 40
  subsystem := field data 208 48
  hdrOffset := beNat (field data 256 8)
  csum := field data 448 64

/-- The fields in their places, with zeros between them. -/
def LuksHeader.encode (h : LuksHeader) : Bytes :=
  h.magic ++ beBytes 2 h.version ++ beBytes 8 h.hdrSize ++ beBytes 8 h.seqid ++ h.label
    ++ h.csumAlg ++ h.salt ++ h.uuid ++ h.subsystem ++ beBytes 8 h.hdrOffset ++ zeros 184
    ++ h.csum ++ zeros 3584

/-- Every field has the size it has on disk. -/
structure LuksHeader.Fits (h : LuksHeader) : Prop where
  magic : h.magic.length = 6
  version : h.version < 256 ^ 2
  hdrSize : h.hdrSize < 256 ^ 8
  seqid : h.seqid < 256 ^ 8
  label : h.label.length = 48
  csumAlg : h.csumAlg.length = 32
  salt : h.salt.length = 64
  uuid : h.uuid.length = 40
  subsystem : h.subsystem.length = 48
  hdrOffset : h.hdrOffset < 256 ^ 8
  csum : h.csum.length = 64

variable {h : LuksHeader}

lemma LuksHeader.encode_length (hf : h.Fits) :
    h.encode.length = headerLength := by
  simp [encode, headerLength, hf.magic, hf.label, hf.csumAlg, hf.salt, hf.uuid, hf.subsystem,
    hf.csum]

variable {off : Nat}

lemma field_skip {a b : Bytes} {len : Nat} (h : a.length ≤ off) :
    field (a ++ b) off len = field b (off - a.length) len := by
  unfold field
  rw [List.drop_append, List.drop_eq_nil_of_le h, List.nil_append]

lemma field_here {a b : Bytes} {len : Nat} (h : a.length = len) :
    field (a ++ b) 0 len = a := by
  subst h
  exact List.take_left

lemma LuksHeader.decode_encode (hf : h.Fits) :
    LuksHeader.decode h.encode = h := by
  have hversion := beNat_beBytes 2 hf.version
  have hsize := beNat_beBytes 8 hf.hdrSize
  have hseqid := beNat_beBytes 8 hf.seqid
  have hoffset := beNat_beBytes 8 hf.hdrOffset
  unfold decode encode
  -- skip the fields in front, then read the one at hand
  simp (disch := simp [hf.magic, hf.label, hf.csumAlg, hf.salt, hf.uuid, hf.subsystem,
      hf.csum]) only
    [List.append_assoc, field_skip, field_here, hf.magic, hf.label, hf.csumAlg, hf.salt,
      hf.uuid, hf.subsystem, beBytes_length, zeros_length, Nat.reduceSub, hversion,
      hsize, hseqid, hoffset]

/-- The header as it is when the checksum is taken. -/
def zeroCsum (data : Bytes) : Bytes := writeAt data 448 (zeros 64)

lemma zeroCsum_encode (hf : h.Fits) :
    zeroCsum h.encode = { h with csum := zeros 64 }.encode := by
  have hfront : (h.magic ++ beBytes 2 h.version ++ beBytes 8 h.hdrSize ++ beBytes 8 h.seqid
      ++ h.label ++ h.csumAlg ++ h.salt ++ h.uuid ++ h.subsystem ++ beBytes 8 h.hdrOffset
      ++ zeros 184).length = 448 := by
    simp [hf.magic, hf.label, hf.csumAlg, hf.salt, hf.uuid, hf.subsystem]
  unfold zeroCsum writeAt LuksHeader.encode
  generalize h.magic ++ beBytes 2 h.version ++ beBytes 8 h.hdrSize ++ beBytes 8 h.seqid
      ++ h.label ++ h.csumAlg ++ h.salt ++ h.uuid ++ h.subsystem ++ beBytes 8 h.hdrOffset
      ++ zeros 184 = front at hfront ⊢
  have htail : (front ++ h.csum ++ zeros 3584).drop (448 + (zeros 64).length)
      = zeros 3584 := by
    refine List.drop_left' ?_
    rw [List.length_append, hfront, hf.csum, zeros_length]
  rw [htail, List.append_assoc front h.csum, List.take_left' hfront]

-- == metadata

structure LuksArea where
  encryption : String
  keySize : Nat
  offset : Nat
  size : Nat
  deriving DecidableEq

inductive LuksKdf where
  | pbkdf2 (salt : String) (hash : String) (iterations : Nat)
  | argon2i (salt : String) (time memory cpus : Nat)
  | argon2id (salt : String) (time memory cpus : Nat)
  deriving DecidableEq

structure LuksAf where
  stripes : Nat
  hash : String
  deriving DecidableEq

inductive LuksPriority where
  | ignore
  | normal
  | high
  deriving DecidableEq

structure LuksKeyslot where
  keySize : Nat
  area : LuksArea
  kdf : LuksKdf
  af : LuksAf
  priority : Option LuksPriority
  deriving DecidableEq

inductive LuksSegmentSize where
  | dynamic
  | fixed (size : Nat)
  deriving DecidableEq

structure LuksIntegrity where
  type : String
  journalEncryption : String
  journalIntegrity : String
  deriving DecidableEq

structure LuksSegment where
  offset : Nat
  size : LuksSegmentSize
  ivTweak : Nat
  encryption : String
  sectorSize : Nat
  integrity : Option LuksIntegrity
  flags : Option (List String)
  deriving DecidableEq

structure LuksDigest where
  keyslots : List Nat
  segments : List Nat
  hash : String
  digest : String
  iterations : Nat
  salt : String
  deriving DecidableEq

structure LuksToken where
  type : String
  keyslots : List Nat
  deriving DecidableEq

structure LuksConfig where
  jsonSize : Nat
  keyslotsSize : Nat
  flags : Option (List String)
  requirements : Option (List String)
  deriving DecidableEq

/-- The metadata behind the binary header. -/
structure LuksJson where
  keyslots : List (Nat × LuksKeyslot)
  tokens : List (Nat × LuksToken)
  segments : List (Nat × LuksSegment)
  digests : List (Nat × LuksDigest)
  config : LuksConfig
  deriving DecidableEq

/-- The text of an area, up to the zeros that fill it. -/
def areaText (area : Bytes) : Bytes := area.takeWhile (· ≠ 0)

lemma areaText_append {t r : Bytes} (ht : ∀ b ∈ t, b ≠ 0) :
    areaText (t ++ 0 :: r) = t := by
  unfold areaText
  rw [List.takeWhile_append_of_pos (by simpa using ht),
    List.takeWhile_cons_of_neg (by simp), List.append_nil]

-- == reader

/-- A copy of the header. -/
structure Copy where
  header : LuksHeader
  json : LuksJson
  deriving DecidableEq

/-- What readers of the format may differ in: how the text is parsed,
which checksum algorithms are known by name and which header sizes are
taken. -/
structure Reader where
  parse : Bytes → Option LuksJson
  hash : Bytes → Option (Bytes → Bytes)
  takesSize : Nat → Bool

def primaryMagic : Bytes := [76, 85, 75, 83, 186, 190]

def secondaryMagic : Bytes := [83, 75, 85, 76, 186, 190]

/-- Where a second copy is looked for. -/
def secondaryOffsets : List Nat :=
  [0x4000, 0x8000, 0x10000, 0x20000, 0x40000, 0x80000, 0x100000, 0x200000, 0x400000]

namespace Reader

variable (R : Reader)

/-- The copy at an offset, if the bytes there are a copy that is in its
place and whose checksum verifies. -/
def copyAt (magic : Bytes) (image : Bytes) (off : Nat) : Option Copy := do
  let data ← slice image off (off + headerLength)
  let header := LuksHeader.decode data
  if header.magic = magic ∧ header.version = 2 ∧ header.hdrOffset = off
      ∧ R.takesSize header.hdrSize = true then
    let area ← slice image (off + headerLength) (off + header.hdrSize)
    let hash ← R.hash header.csumAlg
    let digest := hash (zeroCsum data ++ area)
    if header.csum.take digest.length = digest then
      let json ← R.parse (areaText area)
      some ⟨header, json⟩
    else none
  else none

/-- The first copy. -/
def primary (image : Bytes) : Option Copy := R.copyAt primaryMagic image 0

/-- A second copy, whose offset is the size of a copy. -/
def secondaryAt (image : Bytes) (off : Nat) : Option Copy :=
  (R.copyAt secondaryMagic image off).filter fun c => c.header.hdrSize = off

/-- The first offset with a second copy. -/
def scan (image : Bytes) : Option (Nat × Copy) :=
  secondaryOffsets.findSome? fun off => (R.secondaryAt image off).map fun c => (off, c)

/-- The copy that is used: of two the younger one, and when the first is
of no use the second as it is found. -/
def select (image : Bytes) : Option Copy :=
  match R.primary image with
  | some first =>
    match R.secondaryAt image first.header.hdrSize with
    | some second =>
      if first.header.seqid < second.header.seqid then some second else some first
    | none => some first
  | none => (R.scan image).map Prod.snd

variable {R}

variable {image : Bytes} {c : Copy}

lemma copyAt_eq_some {magic : Bytes} (h : R.copyAt magic image off = some c) :
    ∃ data area, slice image off (off + headerLength) = some data
      ∧ c.header = LuksHeader.decode data
      ∧ slice image (off + headerLength) (off + c.header.hdrSize) = some area
      ∧ R.parse (areaText area) = some c.json := by
  unfold copyAt at h
  simp only [Option.bind_eq_bind, Option.bind_eq_some_iff, Option.ite_none_right_eq_some,
    Option.some.injEq] at h
  obtain ⟨data, hdata, -, area, harea, _, -, -, json, hjson, rfl⟩ := h
  exact ⟨data, area, hdata, rfl, harea, hjson⟩

lemma copyAt_encode {before area after : Bytes}
    {hash : Bytes → Bytes} (himage : image = before ++ (h.encode ++ (area ++ after)))
    (hbefore : before.length = off) (hf : h.Fits) (hversion : h.version = 2)
    (hoff : h.hdrOffset = off) (hsize : h.hdrSize = headerLength + area.length)
    (htakes : R.takesSize h.hdrSize = true) (hhash : R.hash h.csumAlg = some hash) :
    R.copyAt h.magic image off
      = if h.csum.take (hash ({ h with csum := zeros 64 }.encode ++ area)).length
            = hash ({ h with csum := zeros 64 }.encode ++ area) then
          (R.parse (areaText area)).map (Copy.mk h)
        else none := by
  have hlength := LuksHeader.encode_length hf
  have hdata : slice image off (off + headerLength) = some h.encode := by
    subst himage hbefore
    exact slice_middle rfl hlength
  have harea : slice image (off + headerLength) (off + h.hdrSize) = some area := by
    have hassoc : image = (before ++ h.encode) ++ (area ++ after) := by
      rw [himage, List.append_assoc]
    rw [hassoc, hsize, ← Nat.add_assoc]
    refine slice_middle ?_ rfl
    rw [List.length_append, hbefore, hlength]
  unfold copyAt
  simp only [Option.bind_eq_bind, hdata, Option.bind_some, LuksHeader.decode_encode hf,
    hversion, hoff, htakes, and_self, if_true, harea, hhash, zeroCsum_encode hf]
  cases R.parse (areaText area) <;> rfl

lemma secondaryAt_eq_some (h : R.secondaryAt image off = some c) :
    R.copyAt secondaryMagic image off = some c ∧ c.header.hdrSize = off := by
  unfold secondaryAt at h
  simpa [Option.filter_eq_some_iff] using h

lemma scan_eq_some (h : R.scan image = some (off, c)) : R.secondaryAt image off = some c := by
  unfold scan at h
  obtain ⟨off', -, hfound⟩ := List.exists_of_findSome?_eq_some h
  obtain ⟨c', hc', he⟩ := Option.map_eq_some_iff.mp hfound
  cases he
  exact hc'

lemma scan_of_first (h : R.secondaryAt image 0x4000 = some c) :
    R.scan image = some (0x4000, c) := by
  unfold scan secondaryOffsets
  rw [List.findSome?_cons, h, Option.map_some]

lemma select_of_primary {first : Copy}
    (hfirst : R.primary image = some first) (h : R.select image = some c) :
    c = first ∨ R.secondaryAt image first.header.hdrSize = some c := by
  unfold select at h
  rw [hfirst] at h
  dsimp only at h
  split at h
  · next second hsecond =>
      split at h
      · exact .inr (hsecond.trans h)
      · exact .inl (Option.some.inj h).symm
  · exact .inl (Option.some.inj h).symm

lemma select_isSome {first : Copy} (hfirst : R.primary image = some first) :
    ∃ c, R.select image = some c := by
  unfold select
  rw [hfirst]
  dsimp only
  split
  · split
    · exact ⟨_, rfl⟩
    · exact ⟨_, rfl⟩
  · exact ⟨_, rfl⟩

lemma select_of_scan (hfirst : R.primary image = none) :
    R.select image = (R.scan image).map Prod.snd := by
  unfold select
  rw [hfirst]

end Reader

end Dstack.Lib.Luks2
