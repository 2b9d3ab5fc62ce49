/-
AMD SEV-SNP launch measurement (`dstack-mr/src/sev.rs`).

The launch digest is a chain: it starts at the digest of the firmware
bytes and takes one `PAGE_INFO` record per measured page, first the
firmware's metadata sections in their order, then one VMSA page per
vCPU. The page of kernel hashes is rebuilt from the hashes of the
kernel, the initrd and the command line.
-/
import Dstack.Types

namespace Dstack.Mr.Sev

open Lib

def maxVcpus : Nat := 512

def maxOvmfSections : Nat := 64

def maxOvmfMetadataPages : Nat := 0x10000

def vmsaGpa : Nat := 0x0000FFFFFFFFF000

/-- `SNPActive`, the one feature bit a launch may carry. -/
def sevFeatureSnpActive : Nat := 1

def allowedGuestFeatures : Nat := sevFeatureSnpActive

structure MeasurementInput where
  baseCmdline : String
  ovmfHash : String
  kernelHash : String
  initrdHash : String
  sevHashesTableGpa : Nat
  sevEsResetEip : Nat
  vcpus : Nat
  vcpuType : Option String
  guestFeatures : Nat
  ovmfSections : List OvmfSection
  deriving DecidableEq

inductive SectionType where
  | snpSecMemory
  | snpSecrets
  | cpuid
  | svsmCaa
  | snpKernelHashes
  deriving DecidableEq

def SectionType.fromU32 : Nat → Option SectionType
  | 1 => some .snpSecMemory
  | 2 => some .snpSecrets
  | 3 => some .cpuid
  | 4 => some .svsmCaa
  | 0x10 => some .snpKernelHashes
  | _ => none

def unknownSectionType (sectionType : Nat) : String :=
  "unknown ovmf section_type 0x" ++ hexPadded 1 sectionType

-- == input checks

def decodeOptionalHex (name value : String) (expectedLen : Nat) :
    Result Bytes :=
  if value = "" then .ok []
  else do
    let bytes ← (hexDecode value).mapError fun _ => name ++ " must be valid hex"
    Result.ensure (bytes.length = expectedLen)
      (name ++ " must be " ++ toString expectedLen ++ " bytes")
    pure bytes

def decodeRequiredHex (name value : String) (expectedLen : Nat) :
    Result Bytes := do
  Result.ensure (value ≠ "") (name ++ " must not be empty")
  decodeOptionalHex name value expectedLen

/-- The word after a given start (`strip_prefix`). -/
def afterStart (start word : List Char) : Option (List Char) :=
  if start <+: word then some (word.drop start.length) else none

/-- The rootfs digest the command line commits to. Two of them are
refused, since the readers of a command line do not agree on which one
counts. -/
def rootfsHashFromCmdline (cmdline : Option String) : Result String := do
  let values := (splitWhitespace (cmdline.getD "")).filterMap
    (afterStart "dstack.rootfs_hash=".toList)
  Result.ensure (values.length ≤ 1)
    "dstack.rootfs_hash appears more than once in the measured cmdline"
  let rootfsHash ← Result.ofOption values.head?
    "dstack.rootfs_hash is required in amd sev-snp measured cmdline"
  let bytes ← decodeRequiredHex "dstack.rootfs_hash" (String.ofList rootfsHash) 32
  pure (hexEncode bytes)

def amdCpuSig (family model stepping : Nat) : Nat :=
  let familyLow := if family > 0xf then 0xf else family
  let familyHigh := if family > 0xf then (family - 0xf) &&& 0xff else 0
  (familyHigh <<< 20) ||| (((model >>> 4) &&& 0xf) <<< 16) ||| (familyLow <<< 8)
    ||| ((model &&& 0xf) <<< 4) ||| (stepping &&& 0xf)

/-- The CPUID signature of a vCPU model. Every name is made of ASCII
letters, and no other character lowers to one of theirs. -/
def vcpuSigFromType (vcpuType : String) : Result Nat :=
  let name := String.ofList ((trim vcpuType).toList.map Char.toLower)
  if name ∈ ["epyc", "epyc-v1", "epyc-v2", "epyc-ibpb", "epyc-v3", "epyc-v4"] then
    .ok (amdCpuSig 23 1 2)
  else if name ∈ ["epyc-rome", "epyc-rome-v1", "epyc-rome-v2", "epyc-rome-v3"] then
    .ok (amdCpuSig 23 49 0)
  else if name ∈ ["epyc-milan", "epyc-milan-v1", "epyc-milan-v2"] then
    .ok (amdCpuSig 25 1 1)
  else if name ∈ ["epyc-genoa", "epyc-genoa-v1"] then .ok (amdCpuSig 25 17 0)
  else .error ("unknown vcpu_type " ++ debugString name)

def checkVcpuType : Option String → Result Unit
  | some vcpuType =>
    if trim vcpuType ≠ "" then (fun _ => ()) <$> vcpuSigFromType vcpuType
    else .error "vcpu_type is required"
  | none => .error "vcpu_type is required"

def checkSections : Nat → Bool → List OvmfSection → Result Bool
  | _, hasKernelHashes, [] => .ok hasKernelHashes
  | measuredPages, hasKernelHashes, s :: rest => do
      Result.ensure (s.size ≠ 0) "ovmf section size must be greater than zero"
      let pages := measuredPages + (s.size + 4095) / 4096
      Result.ensure (pages < 2 ^ 64) "ovmf metadata page count overflow"
      Result.ensure (pages ≤ maxOvmfMetadataPages)
        ("ovmf metadata page count must not exceed "
          ++ toString maxOvmfMetadataPages)
      let sectionType ← Result.ofOption (SectionType.fromU32 s.sectionType)
        (unknownSectionType s.sectionType)
      checkSections pages
        (hasKernelHashes || sectionType = .snpKernelHashes) rest

def validateMeasurementInput (input : MeasurementInput) : Result Unit := do
  Result.ensure (input.guestFeatures &&& sevFeatureSnpActive ≠ 0)
    "guest_features must set SNPActive (bit 0)"
  let unexpected := input.guestFeatures - (input.guestFeatures &&& allowedGuestFeatures)
  Result.ensure (unexpected = 0)
    ("guest_features 0x" ++ hexPadded 1 input.guestFeatures
      ++ " carries unsupported SEV_FEATURES bits 0x" ++ hexPadded 1 unexpected
      ++ "; dstack launches amd sev-snp guests with SNPActive only (0x"
      ++ hexPadded 1 allowedGuestFeatures ++ ")")
  let _ ← rootfsHashFromCmdline (some input.baseCmdline)
  let _ ← decodeRequiredHex "kernel_hash" input.kernelHash 32
  let _ ← decodeOptionalHex "initrd_hash" input.initrdHash 32
  Result.ensure (input.vcpus ≠ 0) "vcpus must be greater than zero"
  Result.ensure (input.vcpus ≤ maxVcpus)
    ("vcpus must not exceed " ++ toString maxVcpus)
  checkVcpuType input.vcpuType
  Result.ensure (input.ovmfSections ≠ [])
    "ovmf_sections are required for amd sev-snp"
  let _ ← decodeRequiredHex "ovmf_hash" input.ovmfHash 48
  Result.ensure (input.ovmfSections.length ≤ maxOvmfSections)
    ("ovmf section count must not exceed " ++ toString maxOvmfSections)
  Result.ensure (input.sevHashesTableGpa ≠ 0)
    "sev_hashes_table_gpa must be non-zero"
  Result.ensure (input.sevEsResetEip ≠ 0) "sev_es_reset_eip must be non-zero"
  let hasKernelHashes ← checkSections 0 false input.ovmfSections
  Result.ensure (hasKernelHashes = true)
    "ovmf metadata does not include a snp_kernel_hashes section"

-- == launch digest

/-- Extend a launch digest by one page: its `PAGE_INFO` record is the
current digest, the digest of the contents, the record's length, the
page type and the guest address. -/
def gctxUpdate (ld : Bytes) (pageType : UInt8) (gpa : Nat) (contents : Bytes) :
    Bytes :=
  sha384 (ld ++ contents ++ leBytes 2 0x70 ++ [pageType] ++ zeros 5
    ++ leBytes 8 gpa)

def zerosLd : Bytes := zeros 48

/-- Pages of given contents (`data.chunks(4096)`). -/
def updateNormalPages (ld : Bytes) (startGpa : Nat) (data : Bytes) : Bytes :=
  (List.range ((data.length + 4095) / 4096)).foldl
    (fun ld i => gctxUpdate ld 0x01 (startGpa + i * 4096)
      (sha384 ((data.drop (i * 4096)).take 4096))) ld

def updateZeroPages (ld : Bytes) (gpa len : Nat) : Bytes :=
  (List.range ((len + 4095) / 4096)).foldl
    (fun ld i => gctxUpdate ld 0x03 (gpa + i * 4096) zerosLd) ld

def updateSecretsPage (ld : Bytes) (gpa : Nat) : Bytes :=
  gctxUpdate ld 0x05 gpa zerosLd

def updateCpuidPage (ld : Bytes) (gpa : Nat) : Bytes :=
  gctxUpdate ld 0x06 gpa zerosLd

def updateVmsaPage (ld page : Bytes) : Bytes :=
  gctxUpdate ld 0x02 vmsaGpa (sha384 page)

-- == measured pages

def guidLeHashTableHeader : Bytes :=
  [0x06, 0xd6, 0x38, 0x94, 0x22, 0x4f, 0xc9, 0x4c, 0xb4, 0x79, 0xa7, 0x93, 0xd4,
    0x11, 0xfd, 0x21]

def guidLeKernelEntry : Bytes :=
  [0x37, 0x94, 0xe7, 0x4d, 0xd2, 0xab, 0x7f, 0x42, 0xb8, 0x35, 0xd5, 0xb1, 0x72,
    0xd2, 0x04, 0x5b]

def guidLeInitrdEntry : Bytes :=
  [0x31, 0xf7, 0xba, 0x44, 0x2f, 0x3a, 0xd7, 0x4b, 0x9a, 0xf1, 0x41, 0xe2, 0x91,
    0x69, 0x78, 0x1d]

def guidLeCmdlineEntry : Bytes :=
  [0xd8, 0x2d, 0xd0, 0x97, 0x20, 0xbd, 0x94, 0x4c, 0xaa, 0x78, 0xe7, 0x71, 0x4d,
    0x36, 0xab, 0x2a]

def sevEntry (guid hash : Bytes) : Bytes := guid ++ leBytes 2 50 ++ hash

def decodeHash (name value : String) : Result Bytes := do
  let bytes ← (hexDecode value).context (name ++ " must be valid hex")
  Result.ensure (bytes.length = 32) (name ++ " must be 32 bytes")
  pure bytes

def buildSevHashesPage (kernelHashHex initrdHashHex append : String)
    (pageOffset : Nat) : Result Bytes := do
  let kernelHash ← decodeHash "kernel_hash" kernelHashHex
  let initrdHash ←
    if initrdHashHex = "" then pure (sha256 [])
    else decodeHash "initrd_hash" initrdHashHex
  let cmdlineHash := sha256 (utf8 append ++ [0])
  let table := guidLeHashTableHeader ++ leBytes 2 168
    ++ sevEntry guidLeCmdlineEntry cmdlineHash
    ++ sevEntry guidLeInitrdEntry initrdHash
    ++ sevEntry guidLeKernelEntry kernelHash
  -- 176 is the table size rounded up to a multiple of 16
  Result.ensure (pageOffset + 176 ≤ 4096)
    "sev hash table overflows 4096-byte page"
  pure (writeAt (zeros 4096) pageOffset table)

def vmcbSeg (off selector attrib limit base : Nat) : Nat × Bytes :=
  (off, leBytes 2 selector ++ leBytes 2 attrib ++ leBytes 4 limit
    ++ leBytes 8 base)

/-- The initial save area of a vCPU that starts at `eip`. -/
def buildVmsaPage (eip vcpuSig sevFeatures : Nat) : Bytes :=
  let csBase := eip &&& 0xffff0000
  let rip := eip &&& 0x0000ffff
  let writes : List (Nat × Bytes) :=
    [vmcbSeg 0x000 0 0x0093 0xffff 0, vmcbSeg 0x010 0xf000 0x009b 0xffff csBase,
      vmcbSeg 0x020 0 0x0093 0xffff 0, vmcbSeg 0x030 0 0x0093 0xffff 0,
      vmcbSeg 0x040 0 0x0093 0xffff 0, vmcbSeg 0x050 0 0x0093 0xffff 0,
      vmcbSeg 0x060 0 0x0000 0xffff 0, vmcbSeg 0x070 0 0x0082 0xffff 0,
      vmcbSeg 0x080 0 0x0000 0xffff 0, vmcbSeg 0x090 0 0x008b 0xffff 0,
      (0x0D0, leBytes 8 0x1000), (0x148, leBytes 8 0x40), (0x158, leBytes 8 0x10),
      (0x160, leBytes 8 0x400), (0x168, leBytes 8 0xffff0ff0),
      (0x170, leBytes 8 0x2), (0x178, leBytes 8 rip),
      (0x268, leBytes 8 0x0007040600070406), (0x310, leBytes 8 vcpuSig),
      (0x3B0, leBytes 8 sevFeatures), (0x3E8, leBytes 8 0x1),
      (0x408, leBytes 4 0x1f80), (0x410, leBytes 2 0x037f)]
  writes.foldl (fun page (off, bytes) => writeAt page off bytes) (zeros 4096)

-- == expected measurement

/-- Without white space around it. Unlike for TDX nothing is appended:
the hash table is built from the command line as it was passed. -/
def normalizeKernelCmdline (input : String) : String := trim input

structure MetadataSection where
  gpa : Nat
  size : Nat
  sectionType : SectionType
  deriving DecidableEq

def resolveSection (s : OvmfSection) : Result MetadataSection := do
  let sectionType ← Result.ofOption (SectionType.fromU32 s.sectionType)
    (unknownSectionType s.sectionType)
  pure { gpa := s.gpa, size := s.size, sectionType }

def gctxFromOvmfHash (hexValue : String) : Result Bytes := do
  let raw ← (hexDecode hexValue).context "ovmf_hash must be valid hex"
  Result.ensure (raw.length = 48) "ovmf_hash must be 48 bytes"
  pure raw

def measureSection (input : MeasurementInput) :
    Bytes × Bool → MetadataSection → Result (Bytes × Bool)
  | (ld, hasKernelHashes), s =>
    match s.sectionType with
    | .snpSecMemory => .ok (updateZeroPages ld s.gpa s.size, hasKernelHashes)
    | .snpSecrets => .ok (updateSecretsPage ld s.gpa, hasKernelHashes)
    | .cpuid => .ok (updateCpuidPage ld s.gpa, hasKernelHashes)
    | .svsmCaa => .ok (updateZeroPages ld s.gpa s.size, hasKernelHashes)
    | .snpKernelHashes => do
        Result.ensure (input.sevHashesTableGpa ≠ 0)
          "snp_kernel_hashes section present but sev_hashes_table_gpa is 0"
        let page ← buildSevHashesPage input.kernelHash input.initrdHash
          (normalizeKernelCmdline input.baseCmdline)
          (input.sevHashesTableGpa % 4096)
        pure (updateNormalPages ld s.gpa page, true)

def computeExpectedMeasurement (input : MeasurementInput) : Result Bytes := do
  let vcpuType ← Result.ofOption input.vcpuType "vcpu_type is required"
  let sections ← input.ovmfSections.mapM resolveSection
  let ld ← gctxFromOvmfHash input.ovmfHash
  let (ld, hasKernelHashes) ← sections.foldlM (measureSection input) (ld, false)
  Result.ensure (hasKernelHashes = true)
    "ovmf metadata does not include a snp_kernel_hashes section"
  let vcpuSig ← vcpuSigFromType vcpuType
  let bspVmsa := buildVmsaPage 0xfffffff0 vcpuSig input.guestFeatures
  let apVmsa := buildVmsaPage input.sevEsResetEip vcpuSig input.guestFeatures
  pure ((List.range input.vcpus).foldl
    (fun ld i => updateVmsaPage ld (if i = 0 then bspVmsa else apVmsa)) ld)

-- == digest lengths

@[simp] lemma gctxUpdate_length (ld contents : Bytes) (t : UInt8) (gpa : Nat) :
    (gctxUpdate ld t gpa contents).length = 48 :=
  sha384_length _

lemma foldl_length {α : Type} {f : Bytes → α → Bytes}
    (hf : ∀ ld a, (f ld a).length = 48) :
    ∀ (l : List α) {ld : Bytes}, ld.length = 48 → (l.foldl f ld).length = 48 := by
  intro l
  induction l with
  | nil => intro ld hld; exact hld
  | cons a l ih => intro ld hld; exact ih (hf ld a)

lemma measureSection_length {input : MeasurementInput} {ld ld' : Bytes}
    {b b' : Bool} {s : MetadataSection} (hld : ld.length = 48)
    (h : measureSection input (ld, b) s = .ok (ld', b')) : ld'.length = 48 := by
  simp only [measureSection] at h
  split at h
  · rw [← (Prod.mk.inj (Except.ok.inj h)).1]
    exact foldl_length (by simp) _ hld
  · rw [← (Prod.mk.inj (Except.ok.inj h)).1]
    exact gctxUpdate_length ..
  · rw [← (Prod.mk.inj (Except.ok.inj h)).1]
    exact gctxUpdate_length ..
  · rw [← (Prod.mk.inj (Except.ok.inj h)).1]
    exact foldl_length (by simp) _ hld
  · simp only [ok_iff] at h
    obtain ⟨_, -, page, -, hpage⟩ := h
    rw [← (Prod.mk.inj hpage).1]
    exact foldl_length (by simp) _ hld

lemma measureSections_length {input : MeasurementInput} :
    ∀ {sections : List MetadataSection} {ld ld' : Bytes} {b b' : Bool},
      ld.length = 48 →
      sections.foldlM (measureSection input) (ld, b) = .ok (ld', b') →
      ld'.length = 48 := by
  intro sections
  induction sections with
  | nil =>
    intro ld ld' b b' hld h
    rw [List.foldlM_nil, pure_eq_ok] at h
    rw [← (Prod.mk.inj h).1]
    exact hld
  | cons s rest ih =>
    intro ld ld' b b' hld h
    rw [List.foldlM_cons, bind_eq_ok] at h
    obtain ⟨⟨ld₁, b₁⟩, hstep, hrest⟩ := h
    exact ih (measureSection_length hld hstep) hrest

lemma computeExpectedMeasurement_length {input : MeasurementInput} {m : Bytes}
    (h : computeExpectedMeasurement input = .ok m) : m.length = 48 := by
  unfold computeExpectedMeasurement gctxFromOvmfHash at h
  simp only [ok_iff] at h
  obtain ⟨_, -, sections, -, ld, ⟨raw, -, _, hraw, rfl⟩, ⟨ld', b⟩, hsections, _,
    -, sig, -, rfl⟩ := h
  exact foldl_length (fun _ _ => gctxUpdate_length ..) _
    (measureSections_length hraw hsections)

end Dstack.Mr.Sev
