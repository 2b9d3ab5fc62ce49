/-
The verifier (`verifier/src/verification.rs`): the OS image identity of a
verified attestation is confirmed, and the application's identity is put
into what the authorisation policy sees.

The OS image check is what makes the configuration beside the quote
count: until then `os_image_hash` is the host's claim. Each platform
ties it to something signed in its own way. The two TDX checks measure
an image and are given as functions of the configuration and the
attestation.
-/
import Dstack.Attest.AppInfo
import Dstack.Mr.SevLaunch

namespace Dstack.Verifier

open Lib Attest

def variant : AttestationQuote → TeeVariant
  | .dstackTdx .. => .dstackTdx
  | .dstackAmdSevSnp .. => .dstackAmdSevSnp
  | .dstackGcpTdx .. => .dstackGcpTdx
  | .dstackNitroEnclave .. => .dstackNitroEnclave
  | .dstackAwsNitroTpm .. => .dstackAwsNitroTpm

def amdSnpReport : DstackVerifiedReport → Option SevSnp.VerifiedAmdSnpReport
  | .dstackAmdSevSnp report => some report
  | _ => none

-- == policy

structure PolicyBootInfo where
  teeVariant : TeeVariant
  mrAggregated : Bytes
  osImageHash : Bytes
  mrSystem : Bytes
  appId : Bytes
  composeHash : Bytes
  instanceId : Bytes
  deviceId : Bytes
  keyProviderInfo : Bytes
  tcbStatus : String
  advisoryIds : List String
  deriving DecidableEq

def PolicyBootInfo.fromAppInfo (teeVariant : TeeVariant) (appInfo : AppInfo)
    (tcbStatus : String) (advisoryIds : List String) : PolicyBootInfo where
  teeVariant
  mrAggregated := appInfo.mrAggregated
  osImageHash := appInfo.osImageHash
  mrSystem := appInfo.mrSystem
  appId := appInfo.appId
  composeHash := appInfo.composeHash
  instanceId := appInfo.instanceId
  deviceId := appInfo.deviceId
  keyProviderInfo := appInfo.keyProviderInfo
  tcbStatus
  advisoryIds

/-- The TCB status and advisories of a report. A NitroTPM has none and
counts as up to date, a Nitro Enclave has none and fails a policy that
asks for one. -/
def policyTcbFields (attestation : VerifiedAttestation) : String × List String :=
  match attestation.report with
  | .dstackTdx report => (report.status, report.advisoryIds)
  | .dstackGcpTdx tdxReport _ => (tdxReport.status, tdxReport.advisoryIds)
  | .dstackAmdSevSnp report => (report.tcbInfo.tcbStatus, report.advisoryIds)
  | .dstackAwsNitroTpm _ => ("UpToDate", [])
  | .dstackNitroEnclave _ => ("", [])

def policyBootInfoFromVerifiedAppInfo (attestation : VerifiedAttestation)
    (appInfo : AppInfo) : PolicyBootInfo :=
  .fromAppInfo (variant attestation.quote) appInfo
    (policyTcbFields attestation).1 (policyTcbFields attestation).2

-- == verifier

/-- A verifier and the libraries it runs on. Documents and reports are
decoded by one library each, whoever asks. -/
structure CvmVerifier where
  attestationVerifier : AttestationVerifier
  decoders : Decoders
  sev : Mr.Sev.Formats
  verifyTdxLegacy : VmConfig → VerifiedAttestation → Result Unit
  verifyTdxLite : VmConfig → VerifiedAttestation → Result Unit
  json_eq : decoders.json = attestationVerifier.json
  snp_eq : decoders.snp = attestationVerifier.sevSnp
  mrConfigV3_eq : sev.mrConfigV3 = attestationVerifier.json.mrConfigV3

def isDebug (pcrs : NitroPcrs) : Bool :=
  pcrs.pcr0.all (· = 0) && pcrs.pcr1.all (· = 0) && pcrs.pcr2.all (· = 0)

def verifyOsImageHashForNitroEnclave (vmConfig : VmConfig) (pcrs : NitroPcrs) :
    Result Unit := do
  Result.ensure (isDebug pcrs = false)
    "nitro enclave is in debug mode (PCR0/1/2 are zeroed); refusing to verify"
  let osImageHash := pcrs.imageHash
  Result.ensure (osImageHash = vmConfig.osImageHash)
    ("os_image_hash mismatch: expected=" ++ hexEncode vmConfig.osImageHash
      ++ ", computed=" ++ hexEncode osImageHash)

def awsNitroTpmBootPcrDigest (pcrs : List (Nat × Bytes)) : Result Bytes := do
  let values ← awsNitroTpmBootPcrValues pcrs
  pure (sha256 values.flatten)

def verifyOsImageHashForAwsNitroTpm (V : CvmVerifier) (vmConfig : VmConfig)
    (pcrs : List (Nat × Bytes)) : Result Unit := do
  let document ← Result.ofOption vmConfig.awsMeasurement
    "vm_config.aws_measurement is required on AWS NitroTPM"
  (AwsOsImageMeasurementDocument.verify document vmConfig.osImageHash).context
    "aws measurement material does not match os_image_hash"
  let bootPcrDigest ← (AwsOsImageMeasurement.fromCborSlice V.sev.cbor
    document.measurement).context "failed to decode vm_config.aws_measurement"
  let quotedDigest ← (awsNitroTpmBootPcrDigest pcrs).context
    "failed to compute NitroTPM boot_pcr_digest from attestation"
  Result.ensure (bootPcrDigest = quotedDigest)
    ("AWS boot_pcr_digest mismatch: expected=" ++ hexEncode bootPcrDigest
      ++ ", quoted=" ++ hexEncode quotedDigest)

def gcpExpectedPcr0 : Bytes :=
  [0x0c, 0xca, 0x9e, 0xc1, 0x61, 0xb0, 0x92, 0x88, 0x80, 0x2e, 0x5a, 0x11, 0x22,
    0x55, 0xd2, 0x13, 0x40, 0xed, 0x5b, 0x79, 0x7f, 0x5f, 0xe2, 0x9c, 0xec, 0xcc,
    0xfd, 0x8f, 0x67, 0xb9, 0xf8, 0x02]

def verifyOsImageHashForGcpTdx (V : CvmVerifier) (vmConfig : VmConfig)
    (tpmReport : Tpm.VerifiedReport) : Result Unit := do
  let pcr0 ← tpmReport.getPcr 0
  let document ← Result.ofOption vmConfig.gcpMeasurement
    "gcp tdx attestation requires vm_config.gcp_measurement"
  (GcpOsImageMeasurementDocument.verify document vmConfig.osImageHash).context
    "gcp measurement material does not match os_image_hash"
  let expectedUkiHash ← (GcpOsImageMeasurement.fromCborSlice V.sev.cbor
    document.measurement).context
    "failed to decode vm_config.gcp_measurement CBOR"
  let pcr2Events := tpmReport.eventLog.filter (·.pcrIndex = 2)
  Result.ensure (pcr0 = gcpExpectedPcr0)
    ("PCR 0 mismatch: expected GCP OVMF v2, got " ++ hexEncode pcr0)
  -- the third event is the boot of the unified kernel image
  let event28 ← Result.ofOption pcr2Events[2]? "Event 28 not found"
  Result.ensure (event28.digest = expectedUkiHash)
    ("UKI hash mismatch: expected=" ++ hexEncode expectedUkiHash ++ ", actual="
      ++ hexEncode event28.digest)

def verifyOsImageHashForDstackSev (V : CvmVerifier)
    (attestation : VerifiedAttestation) (rawConfig : String)
    (vmConfig : VmConfig) : Result VmConfig := do
  let report ← Result.ofOption (amdSnpReport attestation.report)
    "internal error: sev-snp quote without a verified sev-snp report"
  let binding ← (Mr.Sev.verifySevLaunch V.sev report.measurement report.hostData
    rawConfig).context "amd sev-snp launch verification failed"
  pure { vmConfig with osImageHash := binding.osImageHash }

def verifyOsImageHash (V : CvmVerifier) (vmConfig : String)
    (attestation : VerifiedAttestation) : Result VmConfig := do
  let rawConfig ← resolveVmConfig vmConfig attestation.config
  let vmConfig ← (decodeVmConfigWithFallback V.decoders rawConfig
    attestation.config).context "Failed to decode VM config"
  match attestation.quote, attestation.report with
  | .dstackGcpTdx .., .dstackGcpTdx _ tpmReport =>
    (fun _ => vmConfig) <$> verifyOsImageHashForGcpTdx V vmConfig tpmReport
  | .dstackGcpTdx .., _ => .error "GCP TDX quote without a GCP TDX report"
  | .dstackTdx .., _ =>
    match vmConfig.tdxAttestationVariant with
    | .legacy => (fun _ => vmConfig) <$> V.verifyTdxLegacy vmConfig attestation
    | .lite => (fun _ => vmConfig) <$> V.verifyTdxLite vmConfig attestation
  | .dstackNitroEnclave _, .dstackNitroEnclave report =>
    (fun _ => vmConfig) <$> verifyOsImageHashForNitroEnclave vmConfig report.pcrs
  | .dstackNitroEnclave _, _ =>
    .error "internal error: nitro quote without a verified nitro report"
  | .dstackAwsNitroTpm _, .dstackAwsNitroTpm report =>
    (fun _ => vmConfig) <$> verifyOsImageHashForAwsNitroTpm V vmConfig report.pcrs
  | .dstackAwsNitroTpm _, _ =>
    .error "internal error: NitroTPM quote without a verified NitroTPM report"
  | .dstackAmdSevSnp .., _ =>
    verifyOsImageHashForDstackSev V attestation rawConfig vmConfig

end Dstack.Verifier
