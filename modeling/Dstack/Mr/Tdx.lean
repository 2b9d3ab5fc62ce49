/-
TDX measurements from image files and from measurement material
(`dstack-mr`: `tdx.rs`, `machine.rs`).

There are two ways to the same four registers. With the image, the
firmware is parsed, the kernel patched for the guest memory size and
everything hashed (`tdxMeasurementsForImageDirWithAcpiHashes`). Without
it, what the image contributes is read from a document it was measured
into (`tdxMeasurementsFromMeasurementDocument`); the memory ranges of
the firmware travel in it as a compact witness.
-/
import Dstack.Lib.PathText
import Dstack.Mr.Kernel
import Dstack.Mr.Sev
import Dstack.Mr.Tdvf
import Dstack.Types.TdxMeasurement

namespace Dstack.Mr

open Lib

structure TdxMeasurements where
  mrtd : Bytes
  rtmr0 : Bytes
  rtmr1 : Bytes
  rtmr2 : Bytes
  deriving DecidableEq

abbrev TdxRtmr0AcpiHashes := AcpiTableHashes

-- == machine

def nonZero (n : Nat) : Option Nat := if n > 0 then some n else none

def machineFor (vmConfig : VmConfig) (firmware kernel initrd kernelCmdline : String)
    (normalizedSetupHeader : Bool) (ovmfVariant : OvmfVariant) : Machine where
  cpuCount := vmConfig.cpuCount
  memorySize := vmConfig.memorySize
  firmware := firmware
  kernel := kernel
  initrd := initrd
  kernelCmdline := kernelCmdline
  rootVerity := true
  hotplugOff := vmConfig.hotplugOff
  twoPassAddPages := vmConfig.qemuSinglePassAddPages
  normalizedSetupHeader := normalizedSetupHeader
  pic := vmConfig.pic
  qemuVersion := vmConfig.qemuVersion
  pciHole64Size := nonZero vmConfig.pciHole64Size
  hugepages := vmConfig.hugepages
  numaNodes := vmConfig.numaNodes
  numGpus := vmConfig.numGpus
  numNics := vmConfig.numNics
  numVerityVolumes := vmConfig.numVerityVolumes
  extraRootDevices := vmConfig.extraRootDevices
  swtpm := vmConfig.swtpm
  numNvswitches := vmConfig.numNvswitches
  hostShareMode := vmConfig.hostShareMode
  ovmfVariant := ovmfVariant

def machineFromVmConfig (vmConfig : VmConfig) (ovmfVariant : OvmfVariant) : Machine :=
  machineFor vmConfig "" "" "" "" false ovmfVariant

abbrev ReadFile := String → Result Bytes

def Machine.measure (acpi : AcpiBuild) (read : ReadFile) (m : Machine) :
    Result TdxMeasurements := do
  let fwData ← read m.firmware
  let kernelData ← read m.kernel
  let initrdData ← read m.initrd
  let tdvf ← (Tdvf.parse fwData).context "Failed to parse TDVF metadata"
  let mrtd ← (tdvf.mrtd m).context "Failed to compute MR TD"
  let rtmr0 ← (tdvf.rtmr0Log acpi m).context "Failed to compute RTMR0 log"
  let rtmr1 ← rtmr1Log kernelData (initrdData.length % 2 ^ 32) m.memorySize 0x28000
    m.normalizedSetupHeader
  pure {
    mrtd
    rtmr0 := measureLog rtmr0
    rtmr1 := measureLog rtmr1
    rtmr2 := measureLog [measureCmdline m.kernelCmdline, measureSha384 initrdData] }

-- == TD HOB witness

def maxTdHobWitnessRanges : Nat := maxTdvfSections

def pageAddress (basePage delta : Nat) (e : String) : Result Nat :=
  Result.ofOption ((checkedAdd basePage delta).bind (checkedMul · 0x1000)) e

def acceptWitnessRanges (basePage : Nat) :
    Nat → Bytes → MemoryAcceptor → Result (Bytes × MemoryAcceptor)
  | 0, input, acceptor => .ok (input, acceptor)
  | count + 1, input, acceptor => do
      let (startPageDelta, input) ← Varint.read "TD HOB witness" input
      let (pageCount, input) ← Varint.read "TD HOB witness" input
      let start ← pageAddress basePage startPageDelta "TD HOB range start overflow"
      let len ← Result.ofOption (checkedMul pageCount 0x1000)
        "TD HOB range length overflow"
      let stop ← Result.ofOption (checkedAdd start len) "TD HOB range end overflow"
      acceptWitnessRanges basePage count input (acceptor.accept start stop)

def measureTdHobFromWitnessData (data : Bytes) (memorySize : Nat) : Result Bytes := do
  let (basePage, input) ← Varint.read "TD HOB witness" data
  let (tdHobPageDelta, input) ← Varint.read "TD HOB witness" input
  let (rangeCount, input) ← Varint.read "TD HOB witness" input
  Result.ensure (¬ rangeCount > maxTdHobWitnessRanges)
    ("TD HOB witness declares " ++ toString rangeCount ++ " ranges, more than the "
      ++ toString maxTdHobWitnessRanges ++ " supported")
  let tdHobBaseAddr ← pageAddress basePage tdHobPageDelta
    "TD HOB base address overflow"
  let (input, acceptor) ← acceptWitnessRanges basePage rangeCount input
    (MemoryAcceptor.new 0 memorySize)
  Result.ensure (input = []) "TD HOB witness has trailing bytes"
  measureHob acceptor memorySize tdHobBaseAddr "TD HOB end-of-list address overflow"

-- == document

def measuredKernelCmdline (baseCmdline : String) : String :=
  baseCmdline ++ " initrd=initrd"

def validateBytesField (value : Bytes) (field : String) (expectedLen : Nat) :
    Result Bytes := do
  Result.ensure (value.length = expectedLen)
    (field ++ " has invalid length " ++ toString value.length ++ ", expected "
      ++ toString expectedLen)
  pure value

def selectMrtd (measurement : TdxOsImageMeasurement) (vmConfig : VmConfig) :
    Result Bytes := do
  let machine := machineFromVmConfig vmConfig measurement.tdvf.ovmfVariant
  let opts ← machine.versionedOptions.context
    "failed to resolve QEMU measurement options"
  validateBytesField
    (if opts.twoPassAddPages then measurement.tdvf.mrtd.twoPass
      else measurement.tdvf.mrtd.singlePass)
    "tdx.measurement.tdvf.mrtd" 48

def unsupportedMemorySize (memorySize : Nat) : String :=
  "TDX lite attestation without image download requires memory_size == "
    ++ toString tdxKernelHashCompat2gMemory ++ " bytes ("
    ++ toString (tdxKernelHashCompat2gMemory / 1024 / 1024) ++ " MiB) or >= "
    ++ toString tdxKernelHashStableMinMemory ++ " bytes ("
    ++ toString (tdxKernelHashStableMinMemory / 1024 / 1024) ++ " MiB); got "
    ++ toString memorySize
    ++ " bytes. This restriction only applies to images whose OVMF does not "
    ++ "normalize the kernel setup header, because QEMU's rewrite moves the "
    ++ "initrd with guest RAM; re-emit the image to remove it"

def tdxMeasurementsFromMeasurementDocument (cbor : TdxCbor)
    (document : TdxOsImageMeasurementDocument) (vmConfig : VmConfig)
    (acpiHashes : TdxRtmr0AcpiHashes) : Result TdxMeasurements := do
  let measurement ← (document.decodeMeasurement cbor).context
    "failed to decode TDX measurement CBOR"
  Result.ensure (measurement.kernelHeaderNormalized = true
      ∨ tdxKernelHashUsesPrecomputedHighMem vmConfig.memorySize = true)
    (unsupportedMemorySize vmConfig.memorySize)
  let mrtd ← selectMrtd measurement vmConfig
  let tdHobHash ← (measureTdHobFromWitnessData measurement.tdvf.tdHobWitness
    vmConfig.memorySize).context "failed to measure TD HOB from witness"
  let rtmr0Log ← (rtmr0LogFromTdHobHashWithAcpiHashes tdHobHash
    measurement.tdvf.ovmfVariant acpiHashes).context
    "failed to compute RTMR0 from measurement document"
  let kernelHash ← validateBytesField measurement.image.kernelAuthenticode
    "tdx.measurement.image.kernel_authenticode" 48
  let initrdHash ← validateBytesField measurement.image.initrdSha384
    "tdx.measurement.image.initrd_sha384" 48
  let _ ← (Sev.rootfsHashFromCmdline (some measurement.image.baseCmdline)).context
    "failed to parse dstack.rootfs_hash from tdx.measurement.image.base_cmdline"
  let kernelCmdlineHash :=
    measureCmdline (measuredKernelCmdline measurement.image.baseCmdline)
  pure {
    mrtd
    rtmr0 := measureLog rtmr0Log
    rtmr1 := measureLog (rtmr1LogFromKernelHash kernelHash)
    rtmr2 := measureLog [kernelCmdlineHash, initrdHash] }

-- == image directory

structure ImageMetadata where
  cmdline : Option String := none
  kernel : String
  initrd : String
  bios : String
  ovmfVariant : Option OvmfVariant := none
  kernelHeaderNormalized : Bool := false
  deriving DecidableEq

/-- Image directories: how files are read, and the JSON decoder of
`metadata.json`. -/
structure Images where
  read : ReadFile
  parseMetadata : String → Result ImageMetadata

namespace Images

variable (I : Images)

def readIn (imageDir name : String) : Result Bytes :=
  (I.read (joinPath imageDir name)).context ("cannot read " ++ joinPath imageDir name)

def readText (imageDir name : String) : Result String :=
  (I.read (joinPath imageDir name) >>= fun b =>
    Result.ofOption (fromUtf8 b) "stream did not contain valid UTF-8").context
      ("cannot read " ++ joinPath imageDir name)

def metadata (imageDir : String) : Result (ImageMetadata × String) := do
  let metaStr ← I.readText imageDir "metadata.json"
  let metadata ← (I.parseMetadata metaStr).context
    "failed to parse image metadata.json"
  let baseCmdline ← Result.ofOption (metadata.cmdline.filter (trim · ≠ ""))
    "metadata.json cmdline is required for TDX measurement"
  pure (metadata, baseCmdline)

def documentKernelHash (kernel initrd : Bytes) (normalized : Bool) : Result Bytes :=
  if normalized then kernelAuthenticodeSha384 kernel
  else
    (patchedKernelAuthenticodeSha384 kernel (initrd.length % 2 ^ 32)
      tdxKernelHashStableMinMemory 0x28000).context
      "failed to compute high-memory QEMU-patched kernel hash"

def tdxOsImageMeasurementForImageDir (imageDir : String) :
    Result TdxOsImageMeasurement := do
  let (metadata, baseCmdline) ← I.metadata imageDir
  let _ ← (Sev.rootfsHashFromCmdline (some baseCmdline)).context
    "failed to parse dstack.rootfs_hash from TDX cmdline"
  let ovmfVariant := metadata.ovmfVariant.getD .pre202505
  let fwData ← I.readIn imageDir metadata.bios
  let tdvf ← (Tdvf.parse fwData).context "failed to parse TDX TDVF metadata"
  let initrd ← I.readIn imageDir metadata.initrd
  let kernel ← I.readIn imageDir metadata.kernel
  let kernelAuthenticode ←
    documentKernelHash kernel initrd metadata.kernelHeaderNormalized
  let singlePass ← tdvf.mrtdSinglePass
  let twoPass ← tdvf.mrtdTwoPass
  let tdHobWitness ← tdvf.tdHobWitnessV1
  pure {
    kernelHeaderNormalized := metadata.kernelHeaderNormalized
    image := {
      baseCmdline
      kernelAuthenticode
      initrdSha384 := measureSha384 initrd }
    tdvf := { ovmfVariant, mrtd := { singlePass, twoPass }, tdHobWitness } }

def tdxMeasurementsForImageDirWithAcpiHashes (imageDir : String)
    (vmConfig : VmConfig) (acpiHashes : TdxRtmr0AcpiHashes) :
    Result TdxMeasurements := do
  let (metadata, baseCmdline) ← I.metadata imageDir
  let kernelCmdline := measuredKernelCmdline baseCmdline
  let fwData ← I.readIn imageDir metadata.bios
  let kernelData ← I.readIn imageDir metadata.kernel
  let initrdData ← I.readIn imageDir metadata.initrd
  let ovmfVariant := (vmConfig.ovmfVariant.or metadata.ovmfVariant).getD .pre202505
  let machine := machineFor vmConfig (joinPath imageDir metadata.bios)
    (joinPath imageDir metadata.kernel) (joinPath imageDir metadata.initrd)
    kernelCmdline metadata.kernelHeaderNormalized ovmfVariant
  let tdvf ← (Tdvf.parse fwData).context "failed to parse TDX TDVF metadata"
  let mrtd ← (tdvf.mrtd machine).context "failed to compute MRTD"
  let rtmr0Log ← (tdvf.rtmr0LogWithAcpiHashes vmConfig.memorySize ovmfVariant
    acpiHashes).context "failed to compute RTMR0 without ACPI table generation"
  let rtmr1Log ← (rtmr1Log kernelData (initrdData.length % 2 ^ 32)
    vmConfig.memorySize 0x28000 metadata.kernelHeaderNormalized).context
    "failed to compute RTMR1"
  pure {
    mrtd
    rtmr0 := measureLog rtmr0Log
    rtmr1 := measureLog rtmr1Log
    rtmr2 := measureLog [measureCmdline kernelCmdline, measureSha384 initrdData] }

-- == successful runs

/-- The files of an image. -/
structure Files where
  metadata : ImageMetadata
  baseCmdline : String
  fwData : Bytes
  kernel : Bytes
  initrd : Bytes

/-- A directory has these files. -/
structure Holds (imageDir : String) (f : Files) : Prop where
  metadata : I.metadata imageDir = .ok (f.metadata, f.baseCmdline)
  fwData : I.readIn imageDir f.metadata.bios = .ok f.fwData
  kernel : I.readIn imageDir f.metadata.kernel = .ok f.kernel
  initrd : I.readIn imageDir f.metadata.initrd = .ok f.initrd

/-- The document says what these files are. -/
structure Measured (f : Files) (tdvf : Tdvf) (m : TdxOsImageMeasurement) : Prop where
  parsed : Tdvf.parse f.fwData = .ok tdvf
  normalized : m.kernelHeaderNormalized = f.metadata.kernelHeaderNormalized
  baseCmdline : m.image.baseCmdline = f.baseCmdline
  initrd : m.image.initrdSha384 = measureSha384 f.initrd
  kernel : documentKernelHash f.kernel f.initrd f.metadata.kernelHeaderNormalized
    = .ok m.image.kernelAuthenticode
  singlePass : tdvf.mrtdSinglePass = .ok m.tdvf.mrtd.singlePass
  twoPass : tdvf.mrtdTwoPass = .ok m.tdvf.mrtd.twoPass
  witness : tdvf.tdHobWitnessV1 = .ok m.tdvf.tdHobWitness

variable {I}

lemma tdxOsImageMeasurementForImageDir_ok {imageDir : String}
    {m : TdxOsImageMeasurement}
    (h : I.tdxOsImageMeasurementForImageDir imageDir = .ok m) :
    ∃ f tdvf, I.Holds imageDir f ∧ Measured f tdvf m := by
  unfold tdxOsImageMeasurementForImageDir at h
  simp only [ok_iff] at h
  obtain ⟨⟨md, cmd⟩, hmeta, _, -, fw, hfw, tdvf, htdvf, initrd, hinitrd, kernel,
    hkernel, hash, hhash, single, hsingle, two, htwo, witness, hwitness, rfl⟩ := h
  exact ⟨⟨md, cmd, fw, kernel, initrd⟩, tdvf, ⟨hmeta, hfw, hkernel, hinitrd⟩,
    ⟨htdvf, rfl, rfl, rfl, hhash, hsingle, htwo, hwitness⟩⟩

lemma Holds.unique {imageDir : String} {f g : Files} (hf : I.Holds imageDir f)
    (hg : I.Holds imageDir g) : f = g := by
  obtain ⟨md, cmd, fw, kernel, initrd⟩ := f
  obtain ⟨md', cmd', fw', kernel', initrd'⟩ := g
  have hmeta := hf.metadata.symm.trans hg.metadata
  simp only [Except.ok.injEq, Prod.mk.injEq] at hmeta
  obtain ⟨rfl, rfl⟩ := hmeta
  have hfw := hf.fwData.symm.trans hg.fwData
  have hkernel := hf.kernel.symm.trans hg.kernel
  have hinitrd := hf.initrd.symm.trans hg.initrd
  simp only [Except.ok.injEq] at hfw hkernel hinitrd
  rw [hfw, hkernel, hinitrd]

end Images

structure LiteRun (measurement : TdxOsImageMeasurement) (vmConfig : VmConfig)
    (acpiHashes : TdxRtmr0AcpiHashes) (m : TdxMeasurements) (tdHobHash : Bytes)
    (rtmr0Log : List Bytes) : Prop where
  memorySize : measurement.kernelHeaderNormalized = true
    ∨ tdxKernelHashUsesPrecomputedHighMem vmConfig.memorySize = true
  mrtd : selectMrtd measurement vmConfig = .ok m.mrtd
  tdHob : measureTdHobFromWitnessData measurement.tdvf.tdHobWitness
    vmConfig.memorySize = .ok tdHobHash
  log : rtmr0LogFromTdHobHashWithAcpiHashes tdHobHash
    measurement.tdvf.ovmfVariant acpiHashes = .ok rtmr0Log
  rtmr0 : m.rtmr0 = measureLog rtmr0Log
  rtmr1 : m.rtmr1
    = measureLog (rtmr1LogFromKernelHash measurement.image.kernelAuthenticode)
  rtmr2 : m.rtmr2 = measureLog
    [measureCmdline (measuredKernelCmdline measurement.image.baseCmdline),
      measurement.image.initrdSha384]

lemma validateBytesField_ok {value v : Bytes} {field : String} {n : Nat} :
    validateBytesField value field n = .ok v ↔ value.length = n ∧ value = v := by
  unfold validateBytesField
  simp only [ok_iff]
  constructor
  · intro h
    obtain ⟨_, h⟩ := h
    exact h
  · intro h
    exact ⟨(), h⟩

lemma tdxMeasurementsFromMeasurementDocument_ok {cbor : TdxCbor}
    {checksumFile : Bytes} {measurement : TdxOsImageMeasurement}
    {vmConfig : VmConfig} {acpiHashes : TdxRtmr0AcpiHashes} {m : TdxMeasurements}
    (hcbor : cbor.RoundTrips measurement.toCbor)
    (h : tdxMeasurementsFromMeasurementDocument cbor
      (.fromMeasurement cbor checksumFile measurement) vmConfig acpiHashes = .ok m) :
    ∃ tdHobHash rtmr0Log,
      LiteRun measurement vmConfig acpiHashes m tdHobHash rtmr0Log := by
  unfold tdxMeasurementsFromMeasurementDocument at h
  simp only [ok_iff, validateBytesField_ok] at h
  obtain ⟨measurement', hdec, _, hmem, mrtd, hmrtd, hob, hhob, log, hlog, kernelHash,
    ⟨-, rfl⟩, initrdHash, ⟨-, rfl⟩, _, -, rfl⟩ := h
  obtain ⟨rfl, -⟩ :=
    (TdxOsImageMeasurementDocument.decodeMeasurement_fromMeasurement hcbor).mp hdec
  exact ⟨hob, log, hmem, hmrtd, hhob, hlog, rfl, rfl, rfl⟩

end Dstack.Mr
