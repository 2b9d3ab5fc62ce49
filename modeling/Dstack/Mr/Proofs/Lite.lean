/-
Verification without the image computes what verification with it does.

A measurement document stands for its image: wherever the registers can
be computed from the document, computing them from the image directory
succeeds with the same four values. The parts are the candidates for the
MRTD, the TD HOB rebuilt from the witness, the one kernel digest, and
the command line with the initrd digest.
-/
import Dstack.Mr.Proofs.TdHob

namespace Dstack.Mr

open Lib

instance : Subsingleton OvmfVariant :=
  ⟨fun a b => by cases a; cases b; rfl⟩

/-- The kernel digest of a document is that of the kernel the firmware
measures, at every memory size the document is used for. -/
lemma documentKernelHash_measured {kernel initrd d : Bytes} {normalized : Bool}
    (h : Images.documentKernelHash kernel initrd normalized = .ok d) {memorySize : Nat}
    (hmem : normalized = true
      ∨ tdxKernelHashUsesPrecomputedHighMem memorySize = true) :
    measuredKernelHash kernel (initrd.length % 2 ^ 32) memorySize 0x28000 normalized
      = .ok d := by
  unfold Images.documentKernelHash at h
  unfold measuredKernelHash
  cases normalized with
  | true => exact h
  | false =>
    rcases hmem with hmem | hmem
    · cases hmem
    · rw [if_neg Bool.false_ne_true, context_eq_ok] at h
      rw [if_neg Bool.false_ne_true, patchedKernel_highMem hmem]
      exact h

lemma LiteRun.full {I : Images} {imageDir : String} {f : Images.Files} {t : Tdvf}
    {measurement : TdxOsImageMeasurement} {vmConfig : VmConfig}
    {acpiHashes : TdxRtmr0AcpiHashes} {m : TdxMeasurements} {tdHobHash : Bytes}
    {rtmr0Log : List Bytes} (hf : I.Holds imageDir f)
    (hm : Images.Measured f t measurement)
    (h : LiteRun measurement vmConfig acpiHashes m tdHobHash rtmr0Log) :
    I.tdxMeasurementsForImageDirWithAcpiHashes imageDir vmConfig acpiHashes = .ok m := by
  have ht := (Tdvf.parse_wellFormed hm.parsed).2
  have hovmf : (vmConfig.ovmfVariant.or f.metadata.ovmfVariant).getD .pre202505
      = measurement.tdvf.ovmfVariant := Subsingleton.elim _ _
  have hrtmr0 : t.rtmr0LogWithAcpiHashes vmConfig.memorySize
      measurement.tdvf.ovmfVariant acpiHashes = .ok rtmr0Log := by
    unfold Tdvf.rtmr0LogWithAcpiHashes
    rw [bind_eq_ok]
    exact ⟨tdHobHash, (Tdvf.measureTdHob_witness ht hm.witness _ _).mp h.tdHob, h.log⟩
  have hrtmr1 : rtmr1Log f.kernel (f.initrd.length % 2 ^ 32) vmConfig.memorySize 0x28000
      f.metadata.kernelHeaderNormalized
      = .ok (rtmr1LogFromKernelHash measurement.image.kernelAuthenticode) := by
    have hmem := h.memorySize
    rw [hm.normalized] at hmem
    unfold rtmr1Log
    rw [bind_eq_ok]
    exact ⟨_, documentKernelHash_measured hm.kernel hmem, rfl⟩
  obtain ⟨opts, hopts, hmrtd⟩ := selectMrtd_ok hm h.mrtd
  have hmachine : ∀ firmware kernel initrd cmdline normalized ovmf,
      t.mrtd (machineFor vmConfig firmware kernel initrd cmdline normalized ovmf)
        = .ok m.mrtd := by
    intro firmware kernel initrd cmdline normalized ovmf
    refine (Tdvf.mrtd_ok ht).mpr ⟨opts, ?_, hmrtd⟩
    rw [← hopts]
    exact Machine.versionedOptions_congr rfl rfl rfl
  unfold Images.tdxMeasurementsForImageDirWithAcpiHashes
  simp only [ok_iff]
  refine ⟨(f.metadata, f.baseCmdline), hf.metadata, f.fwData, hf.fwData, f.kernel,
    hf.kernel, f.initrd, hf.initrd, t, hm.parsed, m.mrtd, hmachine _ _ _ _ _ _,
    rtmr0Log, ?_, _, hrtmr1, ?_⟩
  · rw [hovmf]
    exact hrtmr0
  · obtain ⟨mrtd, rtmr0, rtmr1, rtmr2⟩ := m
    have h0 : rtmr0 = measureLog rtmr0Log := h.rtmr0
    have h1 := h.rtmr1
    have h2 := h.rtmr2
    rw [hm.baseCmdline, hm.initrd] at h2
    simp only at h1 h2
    rw [h0, h1, h2]

/-- A document computes what its image does, register by register: the
TD HOB at every memory size, the kernel digest at every admitted one,
and so all four registers whenever the document yields them. -/
theorem document_computes_image {I : Images} {imageDir : String}
    {measurement : TdxOsImageMeasurement}
    (hdir : I.tdxOsImageMeasurementForImageDir imageDir = .ok measurement) :
    (∀ (cbor : TdxCbor) (checksumFile : Bytes) (vmConfig : VmConfig)
        (acpiHashes : TdxRtmr0AcpiHashes) (m : TdxMeasurements),
      cbor.RoundTrips measurement.toCbor →
      tdxMeasurementsFromMeasurementDocument cbor
        (.fromMeasurement cbor checksumFile measurement) vmConfig acpiHashes = .ok m →
      I.tdxMeasurementsForImageDirWithAcpiHashes imageDir vmConfig acpiHashes = .ok m)
    ∧ ∃ f t, I.Holds imageDir f ∧ Tdvf.parse f.fwData = .ok t
      ∧ (∀ (memorySize : Nat) (d : Bytes),
        measureTdHobFromWitnessData measurement.tdvf.tdHobWitness memorySize = .ok d
          ↔ t.measureTdHob memorySize = .ok d)
      ∧ ∀ memorySize : Nat, measurement.kernelHeaderNormalized = true
          ∨ tdxKernelHashUsesPrecomputedHighMem memorySize = true →
        measuredKernelHash f.kernel (f.initrd.length % 2 ^ 32) memorySize 0x28000
          measurement.kernelHeaderNormalized
          = .ok measurement.image.kernelAuthenticode := by
  obtain ⟨f, t, hf, hm⟩ := Images.tdxOsImageMeasurementForImageDir_ok hdir
  refine ⟨?_, f, t, hf, hm.parsed, ?_, ?_⟩
  · intro cbor checksumFile vmConfig acpiHashes m hcbor hlite
    obtain ⟨_, _, hrun⟩ := tdxMeasurementsFromMeasurementDocument_ok hcbor hlite
    exact hrun.full hf hm
  · intro memorySize d
    exact Tdvf.measureTdHob_witness (Tdvf.parse_wellFormed hm.parsed).2 hm.witness
      memorySize d
  · intro memorySize hmem
    rw [hm.normalized] at hmem ⊢
    exact documentKernelHash_measured hm.kernel hmem

-- == sample image

def sampleCmdline : String :=
  "console=ttyS0 dstack.rootfs_hash="
    ++ "1111111111111111111111111111111111111111111111111111111111111111"

def sampleImageMetadata : ImageMetadata where
  cmdline := some sampleCmdline
  kernel := "bzImage"
  initrd := "initramfs.cpio.gz"
  bios := "ovmf.fd"

def sampleMetadataJson : String :=
  "\x7b\"cmdline\":\"" ++ sampleCmdline ++ "\",\"kernel\":\"bzImage\","
    ++ "\"initrd\":\"initramfs.cpio.gz\",\"bios\":\"ovmf.fd\"\x7d"

/-- A kernel of one page: a PE image that is all headers, with a setup
header of boot protocol 2.12. -/
def samplePageKernel : Bytes :=
  zeros 0x3c ++ (leBytes 4 0x40 ++ (leBytes 4 0x4550 ++ (zeros 20
    ++ (leBytes 2 0x20b ++ (zeros 58 ++ (leBytes 4 0x1000 ++ (zeros 0x16e
      ++ (leBytes 2 0x20c ++ zeros 0xdf8))))))))

def sampleFiles : Images.Files :=
  ⟨sampleImageMetadata, sampleCmdline, sampleFirmware, samplePageKernel, [1, 2, 3, 4]⟩

/-- A disk with one image directory, `/images/dstack`. -/
def sampleImages : Images where
  read path :=
    if path = "/images/dstack/metadata.json" then .ok (utf8 sampleMetadataJson)
    else if path = "/images/dstack/ovmf.fd" then .ok sampleFiles.fwData
    else if path = "/images/dstack/bzImage" then .ok sampleFiles.kernel
    else if path = "/images/dstack/initramfs.cpio.gz" then .ok sampleFiles.initrd
    else .error "No such file or directory (os error 2)"
  parseMetadata text :=
    if text = sampleMetadataJson then .ok sampleImageMetadata
    else .error "expected value at line 1 column 1"

def cborHead (major n : Nat) : Bytes :=
  if n < 24 then [.ofNat (32 * major + n)]
  else if n < 256 then [.ofNat (32 * major + 24), .ofNat n]
  else .ofNat (32 * major + 25) :: [.ofNat (n / 256), .ofNat n]

def cborBytes (b : Bytes) : Bytes := cborHead 2 b.length ++ b

def cborText (s : String) : Bytes := cborHead 3 (utf8 s).length ++ utf8 s

def cborMap (fields : List (String × Bytes)) : Bytes :=
  cborHead 5 fields.length ++ fields.flatMap fun (name, value) => cborText name ++ value

def cborEncode (m : CborTdxOsImageMeasurement) : Bytes :=
  cborMap [
    ("version", cborHead 0 m.version),
    ("image", cborMap (
      [("cmdline", cborText m.image.baseCmdline),
        ("kernel_authenticode", cborBytes m.image.kernelAuthenticode)]
      ++ (if m.image.kernelHeaderNormalized then [("kernel_header_normalized", [0xf5])]
        else [])
      ++ [("initrd_sha384", cborBytes m.image.initrdSha384)])),
    ("tdvf", cborMap [
      ("ovmf", cborText "pre202505"),
      ("mrtd", cborMap [
        ("single_pass", cborBytes m.tdvf.mrtd.singlePass),
        ("two_pass", cborBytes m.tdvf.mrtd.twoPass)]),
      ("td_hob", cborBytes m.tdvf.tdHobWitness)])]

def sampleTdxCbor (m : CborTdxOsImageMeasurement) : TdxCbor where
  encode := cborEncode
  decode bytes :=
    if bytes = cborEncode m then .ok (m, bytes.length)
    else .error "failed to decode CBOR"

lemma sampleTdxCbor_roundTrips (m : CborTdxOsImageMeasurement) :
    (sampleTdxCbor m).RoundTrips m :=
  if_pos rfl

lemma holds_sample : sampleImages.Holds "/images/dstack" sampleFiles where
  metadata := by
    have htext : fromUtf8 (utf8 sampleMetadataJson) = some sampleMetadataJson := by
      decide +kernel
    have htrim : trim sampleCmdline ≠ "" := by decide +kernel
    have hread : sampleImages.readText "/images/dstack" "metadata.json"
        = .ok sampleMetadataJson := by
      unfold Images.readText
      rw [context_eq_ok, bind_eq_ok]
      exact ⟨_, rfl, ofOption_eq_ok.mpr htext⟩
    have hparse : sampleImages.parseMetadata sampleMetadataJson
        = .ok sampleImageMetadata := by
      simp only [sampleImages, if_true]
    unfold Images.metadata
    simp only [ok_iff]
    exact ⟨_, hread, _, hparse, sampleCmdline,
      Option.filter_eq_some_iff.mpr ⟨rfl, decide_eq_true htrim⟩, rfl⟩
  fwData := rfl
  kernel := rfl
  initrd := rfl

lemma measured_sample : ∃ measurement,
    sampleImages.tdxOsImageMeasurementForImageDir "/images/dstack" = .ok measurement := by
  obtain ⟨rootfs, hrootfs⟩ := Result.exists_of_isOk
    (show (Sev.rootfsHashFromCmdline (some sampleCmdline)).isOk = true by decide +kernel)
  obtain ⟨kernelHash, hkernel⟩ := Result.exists_of_isOk
    (show (Images.documentKernelHash samplePageKernel [1, 2, 3, 4] false).isOk = true by
      decide +kernel)
  obtain ⟨witness, hwitness⟩ := Result.exists_of_isOk
    (show sampleTdvf.tdHobWitnessV1.isOk = true by decide +kernel)
  have hwf := (Tdvf.parse_wellFormed parse_sample).2
  unfold Images.tdxOsImageMeasurementForImageDir
  simp only [ok_iff]
  exact ⟨_, _, holds_sample.metadata, _, hrootfs, _, holds_sample.fwData, _, parse_sample,
    _, holds_sample.initrd, _, holds_sample.kernel, _, hkernel, _,
    Tdvf.computeMrtd_eq hwf _, _, Tdvf.computeMrtd_eq hwf _, _, hwitness, rfl⟩

/-- Two gigabytes: the memory size below the stable range that the
kernel digest is also computed for. -/
def sampleVmConfig : VmConfig :=
  { cpuCount := 1, memorySize := 0x80000000, qemuVersion := some "8.2.2" }

lemma lite_sample {measurement : TdxOsImageMeasurement} {acpiHashes : TdxRtmr0AcpiHashes}
    (hm : Images.Measured sampleFiles sampleTdvf measurement) :
    ∃ m, tdxMeasurementsFromMeasurementDocument (sampleTdxCbor measurement.toCbor)
      (.fromMeasurement (sampleTdxCbor measurement.toCbor) [] measurement) sampleVmConfig
      acpiHashes = .ok m := by
  have hwf := (Tdvf.parse_wellFormed parse_sample).2
  obtain ⟨rootfs, hrootfs⟩ := Result.exists_of_isOk
    (show (Sev.rootfsHashFromCmdline (some sampleCmdline)).isOk = true by decide +kernel)
  obtain ⟨tdHob, htdHob⟩ := Result.exists_of_isOk
    (show (sampleTdvf.measureTdHob sampleVmConfig.memorySize).isOk = true by decide +kernel)
  rw [← Tdvf.measureTdHob_witness hwf hm.witness] at htdHob
  obtain ⟨log, hlog⟩ := Result.exists_of_isOk
    (show (rtmr0LogFromTdHobHashWithAcpiHashes tdHob measurement.tdvf.ovmfVariant
      acpiHashes).isOk = true from rfl)
  obtain ⟨opts, hopts⟩ := Result.exists_of_isOk
    (show (machineFromVmConfig sampleVmConfig
      measurement.tdvf.ovmfVariant).versionedOptions.isOk = true by
        cases measurement.tdvf.ovmfVariant
        decide +kernel)
  have hmem : tdxKernelHashUsesPrecomputedHighMem sampleVmConfig.memorySize = true := by
    decide
  have hkernel := measuredKernelHash_length (documentKernelHash_measured hm.kernel (.inr hmem))
  have hinitrd : measurement.image.initrdSha384.length = 48 := by
    rw [hm.initrd]
    exact sha384_length _
  have hcmdline : measurement.image.baseCmdline = sampleCmdline := hm.baseCmdline
  have hmrtd : ∃ d, selectMrtd measurement sampleVmConfig = .ok d := by
    unfold selectMrtd
    simp only [ok_iff, validateBytesField_ok]
    refine ⟨_, opts, hopts, ?_, rfl⟩
    have hsingle := hm.singlePass
    have htwo := hm.twoPass
    rw [Tdvf.mrtdSinglePass, Tdvf.computeMrtd_eq hwf] at hsingle
    rw [Tdvf.mrtdTwoPass, Tdvf.computeMrtd_eq hwf] at htwo
    split
    · rw [← Except.ok.inj htwo]
      exact sha384_length _
    · rw [← Except.ok.inj hsingle]
      exact sha384_length _
  obtain ⟨mrtd, hmrtd⟩ := hmrtd
  unfold tdxMeasurementsFromMeasurementDocument
  simp only [ok_iff, validateBytesField_ok]
  refine ⟨_, measurement, ?_, (), .inr hmem, mrtd, hmrtd, tdHob, htdHob, log, hlog, _,
    ⟨hkernel, rfl⟩, _, ⟨hinitrd, rfl⟩, rootfs, ?_, rfl⟩
  · rw [TdxOsImageMeasurementDocument.decodeMeasurement_fromMeasurement
      (sampleTdxCbor_roundTrips _), hcmdline]
    exact ⟨rfl, by decide +kernel⟩
  · rw [hcmdline]
    exact hrootfs

/-- The sample image has a document, which at two gigabytes yields the
registers the image directory does. -/
theorem document_computes_sample :
    ∃ measurement m,
      sampleImages.tdxOsImageMeasurementForImageDir "/images/dstack" = .ok measurement
      ∧ tdxMeasurementsFromMeasurementDocument (sampleTdxCbor measurement.toCbor)
        (.fromMeasurement (sampleTdxCbor measurement.toCbor) [] measurement)
        sampleVmConfig ⟨zeros 48, zeros 48, zeros 48⟩ = .ok m
      ∧ sampleImages.tdxMeasurementsForImageDirWithAcpiHashes "/images/dstack"
        sampleVmConfig ⟨zeros 48, zeros 48, zeros 48⟩ = .ok m := by
  obtain ⟨measurement, hdir⟩ := measured_sample
  obtain ⟨f, t, hf, hm⟩ := Images.tdxOsImageMeasurementForImageDir_ok hdir
  obtain rfl := hf.unique holds_sample
  cases parse_sample.symm.trans hm.parsed
  obtain ⟨m, hlite⟩ := lite_sample hm
  exact ⟨measurement, m, hdir, hlite, (document_computes_image hdir).1 _ _ _ _ m
    (sampleTdxCbor_roundTrips _) hlite⟩

end Dstack.Mr
