/-
The kernel a TDX guest boots, as it is measured (`dstack-mr/src/kernel.rs`).

RTMR[1] starts with the Authenticode digest of the kernel. QEMU rewrites
the setup header before the firmware sees it, and puts the initrd at an
address that follows the guest memory size; firmware that normalizes the
header measures the file as it was shipped.
-/
import Dstack.Lib.Intervals
import Dstack.Mr.Machine

namespace Dstack.Mr

open Lib

def tdxKernelHashStableMinMemory : Nat := 0xB0000000

def tdxKernelHashCompat2gMemory : Nat := 0x80000000

def tdxKernelHashUsesPrecomputedHighMem (memorySize : Nat) : Bool :=
  memorySize = tdxKernelHashCompat2gMemory
    ∨ memorySize ≥ tdxKernelHashStableMinMemory

-- == Authenticode

/-- Bytes `start..stop`. -/
def bytesBetween (data : Bytes) (start stop : Nat) : Bytes :=
  (data.drop start).take (stop - start)

structure PeLayout where
  coffHeaderOffset : Nat
  optionalHeaderOffset : Nat
  optionalHeaderSize : Nat
  checksumOffset : Nat
  certDirOffset : Nat
  sizeOfHeaders : Nat
  deriving DecidableEq

def peLayout (data : Bytes) : Result PeLayout := do
  let lfanew ← readLe 4 data 0x3c "DOS header"
  let peSig ← readLe 4 data lfanew "PE signature offset"
  Result.ensure (peSig = 0x00004550) "Invalid PE signature"
  let coffHeaderOffset := lfanew + 4
  let optionalHeaderSize ← readLe 2 data (coffHeaderOffset + 16) "COFF header size"
  let optionalHeaderOffset := coffHeaderOffset + 20
  let magic ← readLe 2 data optionalHeaderOffset "header magic"
  let dataDirOffset := optionalHeaderOffset + (if magic = 0x20b then 112 else 96)
  let certDirOffset := dataDirOffset + 4 * 8
  let certDirEnd := certDirOffset + 8
  let sizeOfHeaders ← readLe 4 data (optionalHeaderOffset + 60) "size_of_headers"
  Result.ensure (¬ certDirEnd > data.length)
    ("malformed PE: certificate directory ends at " ++ toString certDirEnd
      ++ ", past the " ++ toString data.length ++ "-byte image")
  Result.ensure (¬ (sizeOfHeaders < certDirEnd ∨ sizeOfHeaders > data.length))
    ("malformed PE: size_of_headers " ++ toString sizeOfHeaders
      ++ " is outside [" ++ toString certDirEnd ++ ", " ++ toString data.length
      ++ "]")
  pure { coffHeaderOffset, optionalHeaderOffset, optionalHeaderSize
         checksumOffset := optionalHeaderOffset + 64, certDirOffset, sizeOfHeaders }

def peSection (data : Bytes) (sectionTableOffset i : Nat) :
    Result (Nat × Nat) := do
  let sectionOffset := sectionTableOffset + i * 40
  let ptrRawData ← readLe 4 data (sectionOffset + 20) "pointer_to_raw_data"
  let sizeRawData ← readLe 4 data (sectionOffset + 16) "size_of_raw_data"
  pure (ptrRawData, sizeRawData)

def peSectionBytes (data : Bytes) (s : Nat × Nat) : Bytes :=
  if s.1 + s.2 ≤ data.length then bytesBetween data s.1 (s.1 + s.2)
  else
    let availableSize := data.length - s.1
    if availableSize > 0 then bytesBetween data s.1 (s.1 + availableSize) else []

def peTrailing (data : Bytes) (sumOfBytesHashed certTableAddr certTableSize : Nat) :
    Bytes :=
  if certTableAddr > 0 ∧ certTableSize > 0 ∧ data.length > sumOfBytesHashed then
    let trailingDataLen := data.length - sumOfBytesHashed
    if trailingDataLen > certTableSize then
      let hashedTrailingLen := trailingDataLen - certTableSize
      if sumOfBytesHashed + hashedTrailingLen ≤ data.length then
        bytesBetween data sumOfBytesHashed (sumOfBytesHashed + hashedTrailingLen)
      else []
    else []
  else []

def authenticodeSha384Hash (data : Bytes) : Result Bytes := do
  let pe ← peLayout data
  let certDirEnd := pe.certDirOffset + 8
  let headers := bytesBetween data 0 pe.checksumOffset
    ++ bytesBetween data (pe.checksumOffset + 4) pe.certDirOffset
    ++ bytesBetween data certDirEnd pe.sizeOfHeaders
  let numSections ← readLe 2 data (pe.coffHeaderOffset + 2) "number of sections"
  let all ← (List.range numSections).mapM
    (peSection data (pe.optionalHeaderOffset + pe.optionalHeaderSize))
  let sections := Intervals.sortByStart Prod.fst (all.filter (·.2 > 0))
  let sumOfBytesHashed := pe.sizeOfHeaders + (sections.map Prod.snd).sum
  let certTableAddr ← readLe 4 data pe.certDirOffset "certificate table address"
  let certTableSize ← readLe 4 data (pe.certDirOffset + 4) "certificate table size"
  let padding := if data.length % 8 ≠ 0 then zeros (8 - data.length % 8) else []
  pure (sha384 (headers ++ sections.flatMap (peSectionBytes data)
    ++ peTrailing data sumOfBytesHashed certTableAddr certTableSize ++ padding))

-- == QEMU's patch

def byteAt (kd : Bytes) (i : Nat) : Nat := (kd.getD i 0).toNat

def below4gMemSize (memSize : Nat) : Nat :=
  let lowmem :=
    if memSize < tdxKernelHashStableMinMemory then tdxKernelHashStableMinMemory
    else 0x80000000
  if memSize ≥ lowmem then lowmem else memSize

def initrdMaxOf (protocol : Nat) (kd : Bytes) : Nat :=
  if protocol ≥ 0x20c then
    let xlf := leNat (bytesBetween kd 0x236 0x238)
    if xlf &&& 0x02 ≠ 0 then 0xffffffff else 0x37ffffff
  else if protocol ≥ 0x203 then
    let max := leNat (bytesBetween kd 0x22c 0x230)
    if max = 0 then 0x37ffffff else max
  else 0x37ffffff

def patchLoaderFields (protocol : Nat) (kd : Bytes) : Bytes :=
  let (realAddr, cmdlineAddr) :=
    if protocol < 0x200 ∨ byteAt kd 0x211 &&& 0x01 = 0 then (0x90000, 0x9a000)
    else (0x10000, 0x20000)
  let kd := if protocol ≥ 0x200 then writeAt kd 0x210 [0xb0] else kd
  let kd :=
    if protocol ≥ 0x201 then
      let kd := writeAt kd 0x211 [UInt8.ofNat (byteAt kd 0x211 ||| 0x80)]
      writeAt kd 0x224 (leBytes 4 (cmdlineAddr - realAddr - 0x200))
    else kd
  if protocol ≥ 0x202 then writeAt kd 0x228 (leBytes 4 cmdlineAddr)
  else
    writeAt (writeAt kd 0x20 (leBytes 2 0xa33f)) 0x22
      (leBytes 2 (cmdlineAddr - realAddr))

/-- Place the initrd below `below4g`. -/
def placeInitrd (protocol : Nat) (kd : Bytes) (initrdSize below4g acpiDataSize : Nat) :
    Result Bytes := do
  Result.ensure (¬ protocol < 0x200) "the kernel image is too old for ramdisk"
  Result.ensure (¬ below4g < acpiDataSize)
    ("ACPI data size (" ++ toString acpiDataSize ++ ") exceeds available memory ("
      ++ toString below4g ++ ")")
  let availableMem := below4g - acpiDataSize
  let initrdMax :=
    if initrdMaxOf protocol kd ≥ availableMem then availableMem - 1
    else initrdMaxOf protocol kd
  Result.ensure (¬ initrdSize ≥ initrdMax) "initrd is too large"
  let initrdAddr := (initrdMax - initrdSize) &&& 0xfffff000
  pure (writeAt (writeAt kd 0x218 (leBytes 4 initrdAddr)) 0x21c
    (leBytes 4 initrdSize))

def patchKernel (kernelData : Bytes) (initrdSize memSize acpiDataSize : Nat) :
    Result Bytes := do
  Result.ensure (¬ kernelData.length < 0x1000) "the kernel image is too short"
  let protocol := leNat (bytesBetween kernelData 0x206 0x208)
  let kd := patchLoaderFields protocol kernelData
  if initrdSize > 0 then
    placeInitrd protocol kd initrdSize (below4gMemSize memSize) acpiDataSize
  else pure kd

-- == RTMR1

def patchedKernelAuthenticodeSha384 (kernelData : Bytes)
    (initrdSize memSize acpiDataSize : Nat) : Result Bytes := do
  let kd ← (patchKernel kernelData initrdSize memSize acpiDataSize).context
    "Failed to patch kernel"
  (authenticodeSha384Hash kd).context "Failed to compute kernel hash"

def kernelAuthenticodeSha384 (kernelData : Bytes) : Result Bytes :=
  (authenticodeSha384Hash kernelData).context "failed to compute kernel hash"

def measuredKernelHash (kernelData : Bytes) (initrdSize memSize acpiDataSize : Nat)
    (normalizedSetupHeader : Bool) : Result Bytes :=
  if normalizedSetupHeader then kernelAuthenticodeSha384 kernelData
  else patchedKernelAuthenticodeSha384 kernelData initrdSize memSize acpiDataSize

def rtmr1LogFromKernelHash (kernelHash : Bytes) : List Bytes :=
  [kernelHash,
    measureSha384 (utf8 "Calling EFI Application from Boot Option"),
    measureSha384 [0x00, 0x00, 0x00, 0x00],
    measureSha384 (utf8 "Exit Boot Services Invocation"),
    measureSha384 (utf8 "Exit Boot Services Returned with Success")]

def rtmr1Log (kernelData : Bytes) (initrdSize memSize acpiDataSize : Nat)
    (normalizedSetupHeader : Bool) : Result (List Bytes) := do
  let kernelHash ← measuredKernelHash kernelData initrdSize memSize acpiDataSize
    normalizedSetupHeader
  pure (rtmr1LogFromKernelHash kernelHash)

def measureCmdline (cmdline : String) : Bytes :=
  measureSha384 (utf16Encode cmdline ++ [0, 0])

-- == lemmas

lemma below4gMemSize_highMem {memSize : Nat}
    (h : tdxKernelHashUsesPrecomputedHighMem memSize = true) :
    below4gMemSize memSize = below4gMemSize tdxKernelHashStableMinMemory := by
  have hstable : below4gMemSize tdxKernelHashStableMinMemory = 0x80000000 := by
    decide
  rw [hstable]
  simp only [tdxKernelHashUsesPrecomputedHighMem, decide_eq_true_eq] at h
  rcases h with h2g | hhigh
  · rw [h2g]
    decide
  · have hlow : ¬ memSize < tdxKernelHashStableMinMemory := Nat.not_lt.mpr hhigh
    have hle : 0x80000000 ≤ memSize := Nat.le_trans (by decide) hhigh
    simp only [below4gMemSize, if_neg hlow]
    exact if_pos hle

lemma patchedKernel_highMem {memSize : Nat}
    (h : tdxKernelHashUsesPrecomputedHighMem memSize = true)
    (kernelData : Bytes) (initrdSize acpiDataSize : Nat) :
    patchedKernelAuthenticodeSha384 kernelData initrdSize memSize acpiDataSize
      = patchedKernelAuthenticodeSha384 kernelData initrdSize
        tdxKernelHashStableMinMemory acpiDataSize := by
  unfold patchedKernelAuthenticodeSha384 patchKernel
  rw [below4gMemSize_highMem h]

lemma authenticodeSha384Hash_length {data d : Bytes}
    (h : authenticodeSha384Hash data = .ok d) : d.length = 48 := by
  unfold authenticodeSha384Hash at h
  simp only [ok_iff] at h
  obtain ⟨_, -, _, -, _, -, _, -, _, -, rfl⟩ := h
  exact sha384_length _

lemma measuredKernelHash_length {kernelData d : Bytes}
    {initrdSize memSize acpiDataSize : Nat} {normalized : Bool}
    (h : measuredKernelHash kernelData initrdSize memSize acpiDataSize normalized
      = .ok d) : d.length = 48 := by
  unfold measuredKernelHash kernelAuthenticodeSha384
    patchedKernelAuthenticodeSha384 at h
  split at h
  · exact authenticodeSha384Hash_length (context_eq_ok.mp h)
  · simp only [ok_iff] at h
    obtain ⟨kd, -, hkd⟩ := h
    exact authenticodeSha384Hash_length hkd

end Dstack.Mr
