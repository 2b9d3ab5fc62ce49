/-
TDVF firmware: its metadata, the MRTD it is measured as, and the TD HOB
it is started with (`dstack-mr/src/tdvf.rs`).

Slices the code takes without a check are read through `sliceAt`, whose
error is the panic such a slice would be.
-/
import Dstack.Lib.Varint
import Dstack.Mr.TdHob

namespace Dstack.Mr

open Lib

def pageSize : Nat := 0x1000

def mrExtendGranularity : Nat := 0x100

def attributeMrExtend : Nat := 0x00000001

def attributePageAug : Nat := 0x00000002

def tdvfSectionTdHob : Nat := 0x02

def tdvfSectionTempMem : Nat := 0x03

def maxTdvfSections : Nat := 64

def tdvfSectionSize : Nat := 32

def maxMeasuredPages : Nat := 0x10000

structure TdvfSection where
  dataOffset : Nat
  rawDataSize : Nat
  memoryAddress : Nat
  memoryDataSize : Nat
  secType : Nat
  attributes : Nat
  deriving DecidableEq

structure Tdvf where
  fw : Bytes
  sections : List TdvfSection
  deriving DecidableEq

def sliceAt (data : Bytes) (start stop : Nat) : Result Bytes :=
  Result.ofOption (slice data start stop) "panicked: slice index out of range"

-- == metadata

def encodeGuidAtom (idx : Nat) (atom : List Char) : Result Bytes := do
  let raw ← (hexDecode (String.ofList atom)).context "Failed to decode hex in GUID"
  pure (if idx ≤ 2 then raw.reverse else raw)

def encodeGuid (guidStr : String) : Result Bytes := do
  let atoms := guidStr.toList.splitOn '-'
  Result.ensure (atoms.length = 5) "Invalid GUID format"
  let parts ← atoms.zipIdx.mapM fun (atom, idx) => encodeGuidAtom idx atom
  pure parts.flatten

def tdxMetadataOffsetGuid : String := "e47a6535-984a-4798-865e-4685a7bf8ec2"

def tableFooterGuid : String := "96b582de-1fb2-45f7-baea-a366c55a082d"

/-- Walk the table from its end and return the data of the entry with a
GUID. Every entry is at least 18 bytes, so `fuel` never runs out before
the table does. -/
def findEntry (tables encodedGuid : Bytes) : Nat → Nat → Result (Option Bytes)
  | 0, _ => .ok none
  | fuel + 1, offset =>
    if offset ≤ 18 then .ok none
    else do
      let guid ← sliceAt tables (offset - 16) offset
      let entryLen ← readLe 2 tables (offset - 18) "entry length"
      Result.ensure (¬ (entryLen < 18 ∨ entryLen > offset - 18))
        "Failed to parse TDVF metadata: Invalid entry length"
      if guid = encodedGuid then
        some <$> sliceAt tables (offset - 18 - entryLen) (offset - 18)
      else findEntry tables encodedGuid fuel (offset - entryLen)

def decodeSection (record : Bytes) : TdvfSection where
  dataOffset := leNat (record.take 4)
  rawDataSize := leNat ((record.drop 4).take 4)
  memoryAddress := leNat ((record.drop 8).take 8)
  memoryDataSize := leNat ((record.drop 16).take 8)
  secType := leNat ((record.drop 24).take 4)
  attributes := leNat ((record.drop 28).take 4)

namespace TdvfSection

def mrExtends (s : TdvfSection) : Bool := s.attributes &&& attributeMrExtend ≠ 0

def pageAug (s : TdvfSection) : Bool := s.attributes &&& attributePageAug ≠ 0

def numPages (s : TdvfSection) : Nat := s.memoryDataSize / pageSize

def measuredSize (s : TdvfSection) : Nat :=
  if s.mrExtends then s.memoryDataSize else s.rawDataSize

def check (fwLen i : Nat) (s : TdvfSection) : Result Unit := do
  Result.ensure (s.memoryAddress % pageSize = 0)
    "Failed to parse TDVF metadata: Section memory address not aligned"
  Result.ensure (¬ s.memoryDataSize < s.rawDataSize)
    "Failed to parse TDVF metadata: Section memory data size less than raw"
  Result.ensure (s.memoryDataSize % pageSize = 0)
    "Failed to parse TDVF metadata: Section memory data size not aligned"
  Result.ensure (¬ (s.mrExtends ∧ s.rawDataSize > s.memoryDataSize))
    "Failed to parse TDVF metadata: Section raw data size less than memory"
  let dataEnd ← Result.ofOption (checkedAdd s.dataOffset s.measuredSize)
    ("TDVF section " ++ toString i ++ " data range overflows")
  Result.ensure (¬ dataEnd > fwLen)
    ("TDVF section " ++ toString i ++ " data range " ++ toString s.dataOffset
      ++ ".." ++ toString dataEnd ++ " is outside the " ++ toString fwLen
      ++ "-byte firmware")
  Result.ensure ((checkedAdd s.memoryAddress s.memoryDataSize).isSome)
    ("TDVF section " ++ toString i
      ++ " guest address range wraps past the end of the address space")

end TdvfSection

def parseSections (fw : Bytes) (tdvfMetaOffset : Nat) :
    Nat → List Nat → Result (List TdvfSection)
  | _, [] => .ok []
  | totalPages, i :: is => do
      let secOffset := tdvfMetaOffset + 16 + tdvfSectionSize * i
      let record ← Result.ofOption
        (slice fw secOffset (secOffset + tdvfSectionSize))
        ("TDVF section " ++ toString i ++ " at offset " ++ toString secOffset
          ++ " is outside the " ++ toString fw.length ++ "-byte firmware")
      let s := decodeSection record
      s.check fw.length i
      let totalPages ← Result.ofOption (checkedAdd totalPages s.numPages)
        ("TDVF section " ++ toString i ++ " page count overflows")
      Result.ensure (¬ totalPages > maxMeasuredPages)
        ("TDVF metadata asks to measure " ++ toString totalPages
          ++ " pages, more than the " ++ toString maxMeasuredPages ++ " supported")
      let rest ← parseSections fw tdvfMetaOffset totalPages is
      pure (s :: rest)

def metadataTables (fw : Bytes) : Result Bytes := do
  Result.ensure (¬ fw.length < 32) "TDVF firmware too small"
  let offset := fw.length - 32
  let encodedFooterGuid ← encodeGuid tableFooterGuid
  Result.ensure (¬ offset < 16) "TDVF firmware offset too small for GUID"
  let guid ← sliceAt fw (offset - 16) offset
  Result.ensure (guid = encodedFooterGuid)
    "Failed to parse TDVF metadata: Invalid footer GUID"
  Result.ensure (¬ offset < 18) "TDVF firmware offset too small for tables length"
  let tablesLen := leNat (← sliceAt fw (offset - 18) (offset - 16))
  Result.ensure (¬ (tablesLen = 0 ∨ tablesLen > offset - 18))
    "Failed to parse TDVF metadata: Invalid tables length"
  sliceAt fw (offset - 18 - tablesLen) (offset - 18)

def metadataOffset (fw : Bytes) : Result Nat := do
  let tables ← metadataTables fw
  let encodedGuid ← encodeGuid tdxMetadataOffsetGuid
  let entry ← findEntry tables encodedGuid tables.length tables.length
  let data ← Result.ofOption entry
    "Failed to parse TDVF metadata: Missing TDVF metadata"
  Result.ensure (¬ data.length < 4) "TDVF metadata data too small"
  let raw := leNat (data.drop (data.length - 4))
  Result.ensure (¬ raw > fw.length) "TDVF metadata offset exceeds firmware size"
  pure (fw.length - raw)

def Tdvf.parse (fw : Bytes) : Result Tdvf := do
  let tdvfMetaOffset ← metadataOffset fw
  let descriptor ← Result.ofOption (slice fw tdvfMetaOffset (tdvfMetaOffset + 16))
    "failed to decode TDVF descriptor: Not enough data to fill buffer"
  Result.ensure (descriptor.take 4 = utf8 "TDVF")
    "Failed to parse TDVF metadata: Invalid TDVF descriptor"
  Result.ensure (leNat ((descriptor.drop 8).take 4) = 1)
    "Failed to parse TDVF metadata: Unsupported TDVF version"
  let numSections := leNat ((descriptor.drop 12).take 4)
  Result.ensure (¬ numSections > maxTdvfSections)
    ("TDVF metadata declares " ++ toString numSections
      ++ " sections, more than the " ++ toString maxTdvfSections ++ " supported")
  let sections ← parseSections fw tdvfMetaOffset 0 (List.range numSections)
  pure ⟨fw, sections⟩

-- == MRTD

inductive PageAddOrder where
  | twoPass
  | singlePass
  deriving DecidableEq

def mrtdRecord (operation : String) (gpa : Nat) : Bytes :=
  writeAt (writeAt (zeros 128) 0 (utf8 operation)) 16 (leBytes 8 gpa)

/-- `memory_address + page * PAGE_SIZE`, and an offset in the page. -/
def guestAddress (s : TdvfSection) (page offset : Nat) : Result Nat :=
  Result.ofOption
    ((checkedMul page pageSize).bind fun o =>
      (checkedAdd o offset).bind (checkedAdd s.memoryAddress))
    "TDVF section guest address wraps"

namespace Tdvf

def memPageAdd (s : TdvfSection) (h : Bytes) (page : Nat) : Result Bytes :=
  if s.attributes &&& attributePageAug = 0 then do
    let gpa ← guestAddress s page 0
    pure (h ++ mrtdRecord "MEM.PAGE.ADD" gpa)
  else .ok h

def mrExtendChunk (t : Tdvf) (s : TdvfSection) (page : Nat) (h : Bytes) (i : Nat) :
    Result Bytes := do
  let gpa ← guestAddress s page (i * mrExtendGranularity)
  let chunkOffset := s.dataOffset + page * pageSize + i * mrExtendGranularity
  let chunk ← Result.ofOption
    (slice t.fw chunkOffset (chunkOffset + mrExtendGranularity))
    "TDVF section data is outside the firmware"
  pure (h ++ mrtdRecord "MR.EXTEND" gpa ++ chunk)

def mrExtend (t : Tdvf) (s : TdvfSection) (h : Bytes) (page : Nat) : Result Bytes :=
  if s.attributes &&& attributeMrExtend ≠ 0 then
    (List.range (pageSize / mrExtendGranularity)).foldlM (t.mrExtendChunk s page) h
  else .ok h

def addSection (t : Tdvf) (order : PageAddOrder) (h : Bytes) (s : TdvfSection) :
    Result Bytes :=
  let pages := List.range (s.memoryDataSize / pageSize)
  match order with
  | .twoPass => do
      let h ← pages.foldlM (memPageAdd s) h
      pages.foldlM (t.mrExtend s) h
  | .singlePass =>
    pages.foldlM (fun h page => do
      let h ← memPageAdd s h page
      t.mrExtend s h page) h

def computeMrtd (t : Tdvf) (order : PageAddOrder) : Result Bytes := do
  let h ← t.sections.foldlM (t.addSection order) []
  pure (sha384 h)

def mrtdSinglePass (t : Tdvf) : Result Bytes := t.computeMrtd .singlePass

def mrtdTwoPass (t : Tdvf) : Result Bytes := t.computeMrtd .twoPass

def mrtd (t : Tdvf) (machine : Machine) : Result Bytes := do
  let opts ← machine.versionedOptions.context "Failed to get versioned options"
  t.computeMrtd (if opts.twoPassAddPages then .twoPass else .singlePass)

-- == TD HOB witness

def accepts (s : TdvfSection) : Bool :=
  s.secType = tdvfSectionTdHob ∨ s.secType = tdvfSectionTempMem

def witnessRanges : List TdvfSection → List (Nat × Nat) → Option Nat →
    Result (List (Nat × Nat) × Option Nat)
  | [], ranges, tdHobPage => .ok (ranges, tdHobPage)
  | s :: rest, ranges, tdHobPage => do
      let startPage := s.memoryAddress / pageSize
      let pageCount := s.memoryDataSize / pageSize
      Result.ensure (¬ (accepts s ∧ pageCount = 0))
        "TD HOB witness range must not be empty"
      Result.ensure (¬ (s.secType = tdvfSectionTdHob ∧ tdHobPage.isSome))
        "TDVF metadata contains more than one TD_HOB section"
      witnessRanges rest
        (if accepts s then ranges ++ [(startPage, pageCount)] else ranges)
        (if s.secType = tdvfSectionTdHob then some startPage else tdHobPage)

def checkOverlap : Option Nat → List (Nat × Nat) → Result Unit
  | _, [] => .ok ()
  | prevEnd, (startPage, pageCount) :: rest => do
      Result.ensure (∀ e ∈ prevEnd, ¬ startPage < e)
        "TD HOB witness ranges must not overlap"
      checkOverlap (some (startPage + pageCount)) rest

def tdHobWitnessV1 (t : Tdvf) : Result Bytes := do
  let (ranges, tdHobPage) ← witnessRanges t.sections [] none
  Result.ensure (ranges ≠ []) "TDVF metadata has no TD_HOB/TEMP_MEM sections"
  let tdHobPage ← Result.ofOption tdHobPage
    "TDVF metadata is missing TD_HOB section"
  let ranges := Intervals.sortByStart Prod.fst ranges
  checkOverlap none ranges
  let basePage := (ranges.headD (0, 0)).1
  Result.ensure (¬ tdHobPage < basePage)
    "TD_HOB page is below TD HOB witness base page"
  pure (Varint.put basePage ++ Varint.put (tdHobPage - basePage)
    ++ Varint.put ranges.length
    ++ ranges.flatMap fun (startPage, pageCount) =>
        Varint.put (startPage - basePage) ++ Varint.put pageCount)

-- == RTMR0

def acceptSection (state : MemoryAcceptor × Nat) (s : TdvfSection) :
    Result (MemoryAcceptor × Nat) := do
  let acceptor ←
    if accepts s then do
      let stop ← Result.ofOption (checkedAdd s.memoryAddress s.memoryDataSize)
        "TDVF section guest address wraps"
      pure (state.1.accept s.memoryAddress stop)
    else pure state.1
  pure (acceptor,
    if s.secType = tdvfSectionTdHob then s.memoryAddress else state.2)

def measureTdHob (t : Tdvf) (memorySize : Nat) : Result Bytes := do
  let (acceptor, tdHobBaseAddr) ←
    t.sections.foldlM acceptSection (MemoryAcceptor.new 0 memorySize, 0x809000)
  measureHob acceptor memorySize tdHobBaseAddr "TD HOB end-of-list address overflows"

end Tdvf

structure AcpiTableHashes where
  loader : Bytes
  rsdp : Bytes
  tables : Bytes
  deriving DecidableEq

def measureTdxEfiVariable (vendorGuid varName : String) : Result Bytes := do
  let guid ← encodeGuid vendorGuid
  pure (measureSha384 (guid ++ leBytes 8 (utf8 varName).length ++ leBytes 8 0
    ++ utf16Encode varName))

def cfvImageHash : Bytes :=
  [0x34, 0x4b, 0xc5, 0x1c, 0x98, 0x0b, 0xa6, 0x21, 0xaa, 0xa0, 0x0d, 0xa3,
    0xed, 0x74, 0x36, 0xf7, 0xd6, 0xe5, 0x49, 0x19, 0x7d, 0xfe, 0x69, 0x95,
    0x15, 0xdf, 0xa2, 0xc6, 0x58, 0x3d, 0x95, 0xe6, 0x41, 0x2a, 0xf2, 0x1c,
    0x09, 0x7d, 0x47, 0x31, 0x55, 0x87, 0x5f, 0xfd, 0x56, 0x1d, 0x67, 0x90]

/-- `Boot0000` of the pre-202505 firmware. -/
def boot000Hash : Bytes :=
  [0x23, 0xad, 0xa0, 0x7f, 0x52, 0x61, 0xf1, 0x2f, 0x34, 0xa0, 0xbd, 0x8e,
    0x46, 0x76, 0x09, 0x62, 0xd6, 0xb4, 0xd5, 0x76, 0xa4, 0x16, 0xf1, 0xfe,
    0xa1, 0xc6, 0x4b, 0xc6, 0x56, 0xb1, 0xd2, 0x8e, 0xac, 0xf7, 0x04, 0x7a,
    0xe6, 0xe9, 0x67, 0xc5, 0x8f, 0xd2, 0xa9, 0x8b, 0xfa, 0x74, 0xc2, 0x98]

def rtmr0LogFromTdHobHashWithAcpiHashes (tdHobHash : Bytes)
    (ovmfVariant : OvmfVariant) (acpiHashes : AcpiTableHashes) :
    Result (List Bytes) := do
  let securebootHash ←
    measureTdxEfiVariable "8BE4DF61-93CA-11D2-AA0D-00E098032B8C" "SecureBoot"
  let pkHash ← measureTdxEfiVariable "8BE4DF61-93CA-11D2-AA0D-00E098032B8C" "PK"
  let kekHash ← measureTdxEfiVariable "8BE4DF61-93CA-11D2-AA0D-00E098032B8C" "KEK"
  let dbHash ← measureTdxEfiVariable "D719B2CB-3D3A-4596-A3BC-DAD00E67656F" "db"
  let dbxHash ← measureTdxEfiVariable "D719B2CB-3D3A-4596-A3BC-DAD00E67656F" "dbx"
  let separatorHash := measureSha384 [0x00, 0x00, 0x00, 0x00]
  match ovmfVariant with
  | .pre202505 =>
    pure [tdHobHash, cfvImageHash, securebootHash, pkHash, kekHash, dbHash,
      dbxHash, separatorHash, acpiHashes.loader, acpiHashes.rsdp,
      acpiHashes.tables, measureSha384 [0x00, 0x00], boot000Hash]

def Tdvf.rtmr0LogWithAcpiHashes (t : Tdvf) (memorySize : Nat)
    (ovmfVariant : OvmfVariant) (acpiHashes : AcpiTableHashes) :
    Result (List Bytes) := do
  let tdHobHash ← t.measureTdHob memorySize
  rtmr0LogFromTdHobHashWithAcpiHashes tdHobHash ovmfVariant acpiHashes

def Tdvf.rtmr0Log (acpi : AcpiBuild) (t : Tdvf) (machine : Machine) :
    Result (List Bytes) := do
  let tables ← machine.buildTables acpi
  t.rtmr0LogWithAcpiHashes machine.memorySize machine.ovmfVariant {
    tables := measureSha384 tables.tables
    rsdp := measureSha384 tables.rsdp
    loader := measureSha384 tables.loader }

end Dstack.Mr
