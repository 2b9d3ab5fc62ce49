/-
What a data disk's header has to say before the disk is opened
(`dstack-util/src/system_setup.rs`).

The header of the disk is copied into memory, validated there and then
handed to `cryptsetup` from there. The validator reads the two copies
one after the other, the second where the first ends by its own account.
-/
import Dstack.Lib.Luks2
import Dstack.Lib.Text

namespace Dstack.Util

open Lib Lib.Luks2

def payloadOffset : Nat := 16777216

def luksInitializingLabel : String := "dstack-initializing"

/-- Bytes with zeros behind them (`const_pad!`). -/
def constPad (s : Bytes) (len : Nat) : Bytes := s ++ zeros (len - s.length)

/-- The `luks2` crate: what it reads from the bytes of a header and of a
JSON text. -/
structure Luks2Crate where
  readHeader : Bytes → Result LuksHeader
  readJson : Bytes → Result LuksJson

/-- `read_exact`: so many bytes, and what is behind them. -/
def readExact (n : Nat) (input : Bytes) : Result (Bytes × Bytes) :=
  if input.length < n then .error "failed to fill whole buffer"
  else .ok (input.take n, input.drop n)

def debugBytes (b : Bytes) : String := debugList (b.map fun x => toString x.toNat)

def expectedMagic : Nat → Result Bytes
  | 0 => pure [76, 85, 75, 83, 186, 190]
  | 1 => pure [83, 75, 85, 76, 186, 190]
  | hdrInd => .error ("Invalid LUKS header index: " ++ toString hdrInd)

def validateHeader (hdrInd : Nat) (header : LuksHeader) : Result Bool := do
  let expectedMagic ← expectedMagic hdrInd
  Result.ensure (header.magic = expectedMagic)
    ("Invalid LUKS magic: " ++ debugBytes header.magic)
  Result.ensure (header.version = 2)
    ("Invalid LUKS version: " ++ toString header.version)
  let initializing := header.label = constPad (utf8 luksInitializingLabel) 48
  Result.ensure (initializing ∨ header.label = zeros 48)
    ("Invalid LUKS label: " ++ debugBytes header.label)
  Result.ensure (header.csumAlg = constPad (utf8 "sha256") 32)
    "Invalid LUKS checksum algorithm"
  Result.ensure (header.subsystem = zeros 48) "Invalid LUKS subsystem"
  Result.ensure (header.hdrOffset = hdrInd * header.hdrSize)
    ("Invalid LUKS header offset: " ++ toString header.hdrOffset)
  Result.ensure (4096 ≤ header.hdrSize ∧ header.hdrSize ≤ 1024 * 1024 * 16)
    ("Invalid LUKS header size: " ++ toString header.hdrSize)
  pure (decide initializing)

def validateKdf : LuksKdf → Result Unit
  | .pbkdf2 _ hash _ =>
    Result.ensure (hash = "sha256") ("Invalid LUKS keyslot hash: " ++ hash)
  | _ => .error "Invalid LUKS keyslot KDF"

def validateKeyslot (hdrSize : Nat) (keyslot : LuksKeyslot) : Result Unit := do
  let area := keyslot.area
  Result.ensure (area.encryption = "aes-xts-plain64")
    ("Invalid LUKS keyslot encryption: " ++ area.encryption)
  Result.ensure (¬(area.offset < 2 * hdrSize
      ∨ (checkedAdd area.offset area.size).all (payloadOffset < ·) = true))
    ("Invalid LUKS keyslot area: offset=" ++ toString area.offset ++ " size="
      ++ toString area.size)
  Result.ensure (keyslot.keySize = 64)
    ("Invalid LUKS keyslot key size: " ++ toString keyslot.keySize)
  Result.ensure (area.keySize = 64)
    ("Invalid LUKS keyslot key size: " ++ toString area.keySize)
  validateKdf keyslot.kdf
  Result.ensure (keyslot.af.hash = "sha256")
    ("Invalid LUKS keyslot hash: " ++ keyslot.af.hash)
  Result.ensure (keyslot.af.stripes = 4000)
    ("Invalid LUKS keyslot stripes: " ++ toString keyslot.af.stripes)
  Result.ensure (keyslot.priority.isNone = true) "Invalid LUKS keyslot priority"

def validateSegment (segment : LuksSegment) : Result Unit := do
  Result.ensure (segment.offset = payloadOffset) "Invalid LUKS segment offset"
  Result.ensure (segment.size = .dynamic) "Invalid LUKS segment size"
  Result.ensure (segment.ivTweak = 0) "Invalid LUKS segment IV tweak"
  Result.ensure (segment.encryption = "aes-xts-plain64") "Invalid LUKS segment encryption"
  Result.ensure (segment.sectorSize = 512) "Invalid LUKS segment sector size"
  Result.ensure (segment.integrity.isNone = true) "Invalid LUKS segment integrity"
  Result.ensure (segment.flags.isNone = true) "Invalid LUKS segment flags"

def validateDigest (digest : LuksDigest) : Result Unit := do
  Result.ensure (digest.hash = "sha256") ("Invalid LUKS digest hash: " ++ digest.hash)
  Result.ensure (digest.keyslots = [0])
    ("Invalid LUKS digest keyslots: " ++ debugList (digest.keyslots.map toString))
  Result.ensure (digest.segments = [0])
    ("Invalid LUKS digest segments: " ++ debugList (digest.segments.map toString))

def validateJson (hdrSize : Nat) (json : LuksJson) : Result Unit := do
  Result.ensure (json.keyslots.length = 1) "Invalid LUKS keyslots"
  Result.ensure (json.tokens.isEmpty = true) "Invalid LUKS tokens"
  Result.ensure (json.segments.length = 1) "Invalid LUKS segments"
  Result.ensure (json.digests.length = 1) "Invalid LUKS digests"
  Result.ensure (json.config.flags.isNone = true) "Invalid LUKS flags"
  Result.ensure (json.config.requirements.isNone = true) "Invalid LUKS requirements"
  let firstKeyslot ← Result.ofOption (json.keyslots.lookup 0) "no LUKS keyslot"
  validateKeyslot hdrSize firstKeyslot
  let firstSegment ← Result.ofOption (json.segments.lookup 0) "no LUKS segment"
  validateSegment firstSegment
  let firstDigest ← Result.ofOption (json.digests.lookup 0) "no LUKS digest"
  validateDigest firstDigest

def validateSingleLuks2Header (crate : Luks2Crate) (hdrInd : Nat) (input : Bytes) :
    Result (Bool × Bytes) := do
  let (hdrData, input) ← (readExact 4096 input).context "Failed to read LUKS header"
  let header ← (crate.readHeader hdrData).context "Failed to decode LUKS header"
  let initializing ← validateHeader hdrInd header
  let (jsnData, input) ←
    (readExact (header.hdrSize - 4096) input).context "Failed to read LUKS JSON"
  let json ← (crate.readJson (areaText jsnData)).context "Failed to decode LUKS JSON"
  validateJson header.hdrSize json
  pure (initializing, input)

def validateLuks2Headers (crate : Luks2Crate) (input : Bytes) : Result Bool := do
  let (initializing, input) ← validateSingleLuks2Header crate 0 input
  let _ ← validateSingleLuks2Header crate 1 input
  pure initializing

end Dstack.Util
