/-
Verifying an SEV-SNP launch against a hardware-verified report
(`dstack-mr/src/sev.rs`, from `validate_mr_config` on).

A VM configuration carries the launch inputs and the `MrConfigV3`
document. The inputs become trustworthy because the measurement
recomputed from them equals the signed one, the document because its
hash is the signed HOST_DATA, and the image hash because it commits to
the measurement file inside the inputs.
-/
import Dstack.Mr.Sev

namespace Dstack.Mr.Sev

open Lib

structure SevSnpMeasurementVmConfig where
  osImageHash : Bytes
  sevSnpMeasurement : Option String
  mrConfig : Option String
  deriving DecidableEq

structure SnpMeasurementDocument where
  checksumFile : Bytes
  measurement : Bytes
  vcpus : Nat
  vcpuType : Option String
  guestFeatures : Nat
  deriving DecidableEq

structure Formats where
  vmConfig : String → Result SevSnpMeasurementVmConfig
  measurementDocument : String → Result SnpMeasurementDocument
  mrConfigV3 : String → Result MrConfigV3
  cbor : MeasurementCbor

/-- `sha256(MEASUREMENT || HOST_DATA)`. -/
def snpMrAggregatedDigest (measurement hostData : Bytes) : Bytes :=
  sha256 (measurement ++ hostData)

def ensureLen (name : String) (value : Bytes) (expectedLen : Nat) :
    Result Unit :=
  Result.ensure (value.length = expectedLen)
    (name ++ " must be " ++ toString expectedLen ++ " bytes")

def ensureOptionLen (name : String) (value : Option Bytes)
    (expectedLen : Nat) : Result Unit :=
  match value with
  | some value => ensureLen name value expectedLen
  | none => .ok ()

def validateMrConfig (mrConfig : MrConfigV3) : Result Unit := do
  Result.ensure (mrConfig.version = 3) "mr_config version must be 3"
  ensureOptionLen "mr_config.app_id" mrConfig.appId 20
  ensureLen "mr_config.compose_hash" mrConfig.composeHash 32
  ensureOptionLen "mr_config.gpu_policy_hash" mrConfig.gpuPolicyHash 32
  ensureOptionLen "mr_config.instance_id" mrConfig.instanceId 20

def validateSnpMrConfigBinding (F : Formats) (hostData : Bytes)
    (mrConfigDocument : String) : Result MrConfigV3 := do
  let mrConfig ← (F.mrConfigV3 mrConfigDocument).context
    "invalid amd sev-snp mr_config document"
  let expected := MrConfigV3.snpHostDataFromDocument mrConfigDocument
  Result.ensure (expected = hostData) "amd sev-snp host_data mismatch"
  validateMrConfig mrConfig
  pure mrConfig

def measurementInputFromSnpDocument (F : Formats)
    (document : SnpMeasurementDocument) : Result MeasurementInput := do
  let image ← (SevOsImageMeasurement.fromCborSlice F.cbor
    document.measurement).context "invalid measurement.snp.cbor"
  pure {
    baseCmdline := image.baseCmdline
    ovmfHash := hexEncode image.ovmfHash
    kernelHash := hexEncode image.kernelHash
    initrdHash := hexEncode image.initrdHash
    sevHashesTableGpa := image.sevHashesTableGpa
    sevEsResetEip := image.sevEsResetEip
    vcpus := document.vcpus
    vcpuType := document.vcpuType
    guestFeatures := document.guestFeatures
    ovmfSections := image.ovmfSections }

structure SnpLaunchInputs where
  input : MeasurementInput
  measurementDocument : String
  osImageHash : Bytes
  mrConfigDocument : String
  deriving DecidableEq

def parseSnpInputsFromVmConfig (F : Formats) (vmConfig : String) :
    Result SnpLaunchInputs := do
  let parsed ← (F.vmConfig vmConfig).context
    "failed to parse vm_config for amd sev-snp"
  let measurementDocument ← Result.ofOption parsed.sevSnpMeasurement
    "sev_snp_measurement is required for amd sev-snp"
  let osImageHash := parsed.osImageHash
  Result.ensure (osImageHash ≠ []) "os_image_hash is required for amd sev-snp"
  let document ← (F.measurementDocument measurementDocument).context
    "invalid amd sev-snp measurement document"
  (SevOsImageMeasurementDocument.verify
    ⟨document.checksumFile, document.measurement⟩ osImageHash).context
    "amd sev-snp measurement material does not match os_image_hash"
  let input ← measurementInputFromSnpDocument F document
  validateMeasurementInput input
  let mrConfigDocument ← Result.ofOption parsed.mrConfig
    "mr_config is required for amd sev-snp"
  let _ ← (F.mrConfigV3 mrConfigDocument).context
    "invalid amd sev-snp mr_config document"
  pure { input, measurementDocument, osImageHash, mrConfigDocument }

structure SevImageBinding where
  osImageHash : Bytes
  mrConfig : MrConfigV3
  deriving DecidableEq

def verifySevLaunch (F : Formats) (verifiedMeasurement verifiedHostData : Bytes)
    (vmConfig : String) : Result SevImageBinding := do
  let inputs ← parseSnpInputsFromVmConfig F vmConfig
  validateMeasurementInput inputs.input
  let expected ← computeExpectedMeasurement inputs.input
  Result.ensure (expected = verifiedMeasurement)
    "amd sev-snp measurement mismatch"
  let mrConfig ← validateSnpMrConfigBinding F verifiedHostData
    inputs.mrConfigDocument
  pure { osImageHash := inputs.osImageHash, mrConfig }

-- == what a launch binds

variable {F : Formats} {m hd : Bytes} {vm : String}

lemma validateSnpMrConfigBinding_ok {doc : String} {c : MrConfigV3}
    (h : validateSnpMrConfigBinding F hd doc = .ok c) :
    F.mrConfigV3 doc = .ok c ∧ MrConfigV3.snpHostDataFromDocument doc = hd := by
  unfold validateSnpMrConfigBinding at h
  simp only [ok_iff] at h
  obtain ⟨c', hparse, _, hhost, _, -, rfl⟩ := h
  exact ⟨hparse, hhost⟩

lemma verifySevLaunch_ok {b : SevImageBinding} :
    verifySevLaunch F m hd vm = .ok b ↔
      ∃ inputs, parseSnpInputsFromVmConfig F vm = .ok inputs
        ∧ validateMeasurementInput inputs.input = .ok ()
        ∧ computeExpectedMeasurement inputs.input = .ok m
        ∧ validateSnpMrConfigBinding F hd inputs.mrConfigDocument = .ok b.mrConfig
        ∧ b.osImageHash = inputs.osImageHash := by
  unfold verifySevLaunch
  simp only [ok_iff]
  constructor
  · rintro ⟨inputs, hin, _, hvalid, expected, hexp, _, rfl, c, hc, rfl⟩
    exact ⟨inputs, hin, hvalid, hexp, hc, rfl⟩
  · rintro ⟨inputs, hin, hvalid, hexp, hc, himg⟩
    refine ⟨inputs, hin, (), hvalid, m, hexp, (), rfl, b.mrConfig, hc, ?_⟩
    rw [← himg]

end Dstack.Mr.Sev
