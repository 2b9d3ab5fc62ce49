/-
What the KMS authorises (`kms/src/main_service.rs`,
`kms/src/main_service/upgrade_authority.rs` and `amd_attest.rs`).

The boot information sent to the authorisation service is built from a
verified attestation. SEV-SNP has a builder of its own, which recomputes
the launch measurement and reads the identity from the document inside
the VM configuration; every other platform goes through the decoder the
verifier uses. Three platforms also need a local opt-in before keys are
released.
-/
import Dstack.Verifier.Verification

namespace Dstack.Kms

open Lib Attest Verifier

abbrev BootInfo := PolicyBootInfo

-- == widths

def ensureAppIdLen (appId : Bytes) : Result Unit :=
  Result.ensure (appId.length = 20) "app_id must be 20 bytes"

def ensureIdentityWidths (bootInfo : BootInfo) : Result Unit := do
  ensureAppIdLen bootInfo.appId
  Result.ensure (bootInfo.composeHash.length = 32)
    "compose_hash must be 32 bytes"
  Result.ensure (bootInfo.instanceId.length = 0 ∨ bootInfo.instanceId.length = 20)
    "instance_id must be 20 bytes or empty"

-- == SEV-SNP

def validateAmdSnpMeasurementBinding (verifiedMeasurement : Bytes)
    (input : Mr.Sev.MeasurementInput) : Result Unit := do
  Mr.Sev.validateMeasurementInput input
  let expectedMeasurement ← Mr.Sev.computeExpectedMeasurement input
  Result.ensure (expectedMeasurement = verifiedMeasurement)
    "amd sev-snp measurement mismatch"

def mrConfigKeyProviderInfo (mrConfig : MrConfigV3) : Bytes :=
  keyProviderInfoJson mrConfig.keyProviderName
    (hexEncode (mrConfig.keyProviderId.getD []))

def buildAmdSnpBootInfoWithTcbStatus (F : Mr.Sev.Formats)
    (verifiedMeasurement verifiedHostData verifiedChipId : Bytes)
    (tcbStatus : String) (advisoryIds : List String)
    (input : Mr.Sev.MeasurementInput) (osImageHash : Bytes)
    (mrConfigDocument : String) : Result BootInfo := do
  validateAmdSnpMeasurementBinding verifiedMeasurement input
  let mrConfig ← Mr.Sev.validateSnpMrConfigBinding F verifiedHostData
    mrConfigDocument
  pure {
    teeVariant := .dstackAmdSevSnp
    mrAggregated := Mr.Sev.snpMrAggregatedDigest verifiedMeasurement
      verifiedHostData
    osImageHash
    mrSystem := sha256 verifiedMeasurement
    appId := mrConfig.appId.getD []
    composeHash := mrConfig.composeHash
    instanceId := mrConfig.instanceId.getD []
    deviceId := sha256 verifiedChipId
    keyProviderInfo := mrConfigKeyProviderInfo mrConfig
    tcbStatus
    advisoryIds }

def buildAmdSnpBootInfoFromVerifiedAttestation (F : Mr.Sev.Formats)
    (attestation : VerifiedAttestation) (input : Mr.Sev.MeasurementInput)
    (mrConfigDocument : String) (osImageHash : Bytes) : Result BootInfo := do
  let verified ← Result.ofOption (amdSnpReport attestation.report)
    "verified attestation is not amd sev-snp"
  buildAmdSnpBootInfoWithTcbStatus F verified.measurement verified.hostData
    verified.chipId verified.tcbInfo.tcbStatus verified.advisoryIds input
    osImageHash mrConfigDocument

def buildAmdSnpBootInfoFromVerifiedAttestationAndVmConfig (F : Mr.Sev.Formats)
    (attestation : VerifiedAttestation) (vmConfig : String) :
    Result BootInfo := do
  let inputs ← Mr.Sev.parseSnpInputsFromVmConfig F vmConfig
  buildAmdSnpBootInfoFromVerifiedAttestation F attestation inputs.input
    inputs.mrConfigDocument inputs.osImageHash

-- == boot info

def buildBootInfo (D : Decoders) (att : VerifiedAttestation)
    (useBoottimeMr : Bool) (vmConfigStr : String) : Result BootInfo := do
  let appInfo ← att.decodeAppInfoEx D useBoottimeMr vmConfigStr
  pure (.fromAppInfo (variant att.quote) appInfo (policyTcbFields att).1
    (policyTcbFields att).2)

def buildBootInfoByPlatform (V : CvmVerifier) (att : VerifiedAttestation)
    (useBoottimeMr : Bool) (vmConfigStr : String) : Result BootInfo :=
  if (amdSnpReport att.report).isSome then do
    let vmConfig ← resolveVmConfig vmConfigStr att.config
    buildAmdSnpBootInfoFromVerifiedAttestationAndVmConfig V.sev att vmConfig
  else buildBootInfo V.decoders att useBoottimeMr vmConfigStr

def buildBootInfoForAttestation (V : CvmVerifier) (att : VerifiedAttestation)
    (useBoottimeMr : Bool) (vmConfigStr : String) : Result BootInfo := do
  let bootInfo ← buildBootInfoByPlatform V att useBoottimeMr vmConfigStr
  ensureAppIdLen bootInfo.appId
  pure bootInfo

-- == key release

structure KeyReleasePolicy where
  snp : Bool := false
  awsNitroTpm : Bool := false
  nitroEnclave : Bool := false
  deriving DecidableEq

def ensureKeyReleaseAllowed (bootInfo : BootInfo) (policy : KeyReleasePolicy) :
    Result Unit :=
  match bootInfo.teeVariant with
  | .dstackAmdSevSnp =>
    Result.ensure (policy.snp = true) "amd sev-snp key release is not enabled"
  | .dstackAwsNitroTpm =>
    Result.ensure (policy.awsNitroTpm = true)
      "aws nitro-tpm key release is not enabled"
  | .dstackNitroEnclave =>
    Result.ensure (policy.nitroEnclave = true)
      "aws nitro enclave key release is not enabled"
  | .dstackTdx | .dstackGcpTdx => .ok ()

end Dstack.Kms
