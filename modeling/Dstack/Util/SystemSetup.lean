/-
How a guest finds out who it is (`dstack-util`, `system_setup.rs`):
the platform it runs on, the measurement of its identity
(`measure_app_info`) and the check of that identity once it has its keys
(`verify_app`).

The guest does not take the instance id from the host. It derives one
from the seed it was given, or from a new seed where the disk cannot be
used again, and off SEV-SNP it mixes in what binds the platform's own
instance, if the platform has that.
-/
import Dstack.Tpm.Attest
import Dstack.Util.ConfigId

namespace Dstack.Util

open Lib

open Tpm (Platform)

/-- What a guest finds around it. -/
structure GuestEnv where
  hasNsm : Bool := false
  /-- `/dev/tpmrm0` or `/dev/tpm0`. -/
  hasTpm : Bool := false
  hasTdx : Bool := false
  hasSevSnp : Bool := false
  productName : Option String := none
  sysVendor : Option String := none
  gcpAkEcc : Result Bytes
  gcpAkRsa : Result Bytes
  openNitroTpm : Result Unit
  endorsementPublicArea : Result Bytes
  flushEndorsement : Result Unit
  getrandom : Result (Sized 20)
  emitRuntimeEvent : String → Bytes → Result Unit
  /-- `measure_gpu` after the policy: the event of an attested GPU. -/
  attestGpu : Result (Option Bytes)
  detectTpm : Result Unit
  pcrExtend : Bytes → Result Unit
  pcrRead : Result Bytes

-- == platforms

def detectFromDmi (productName sysVendor : Option String) : Option Platform :=
  match productName.map trim with
  | some "dstack" | some "qemu" => some .dstack
  | some "Google Compute Engine" => some .gcp
  | some "Nitro Enclave" => some .nitroEnclave
  | _ =>
    match sysVendor.map trim with
    | some "Amazon EC2" => some .awsEc2
    | _ => none

def chooseDstackTeeVariant (hasTdx hasSevSnp : Bool) : Result TeeVariant :=
  if hasTdx then .ok .dstackTdx
  else if hasSevSnp then .ok .dstackAmdSevSnp
  else .error "Unsupported platform: Dstack(-tdx/-amd-sev-snp)"

namespace GuestEnv

variable (env : GuestEnv)

/-- `Platform::detect`. The enclave device comes first: an enclave may
inherit the DMI strings of its parent. -/
def platform : Option Platform :=
  if env.hasNsm then some .nitroEnclave
  else detectFromDmi env.productName env.sysVendor

def detectTeeVariant : Result TeeVariant :=
  match env.platform.getD .dstack with
  | .dstack => chooseDstackTeeVariant env.hasTdx env.hasSevSnp
  | .gcp =>
    if env.hasTdx then .ok .dstackGcpTdx
    else .error "Unsupported platform: GCP(-tdx)"
  | .nitroEnclave =>
    if env.hasNsm then .ok .dstackNitroEnclave
    else .error "unsupported platform: Nitro Enclave without /dev/nsm"
  | .awsEc2 =>
    if env.hasTpm then .ok .dstackAwsNitroTpm
    else .error "unsupported platform: AWS EC2 without NitroTPM"

def isSnp : Bool :=
  match env.detectTeeVariant with
  | .ok mode => mode = .dstackAmdSevSnp
  | .error _ => false

def gcpAk : Result Bytes :=
  match env.gcpAkEcc with
  | .ok pubArea => .ok pubArea
  | .error eccErr =>
    env.gcpAkRsa.context ("failed to load gcp vTPM AK (ecc error: " ++ eccErr ++ ")")

def platformInstanceBinding : Result (Option Bytes) :=
  match env.platform with
  | some .gcp => do
      let pubArea ← env.gcpAk
      Result.ensure (pubArea ≠ []) "gcp vTPM AK public area is empty"
      pure (some (sha256 pubArea))
  | some .awsEc2 => do
      env.openNitroTpm.context "failed to open NitroTPM"
      let publicArea ← env.endorsementPublicArea.context
        "failed to create NitroTPM endorsement primary key"
      Result.ensure (publicArea ≠ []) "NitroTPM endorsement public area is empty"
      env.flushEndorsement.context "failed to flush NitroTPM endorsement primary key"
      pure (some (sha256 publicArea))
  | _ => pure none

def measureAwsConfigPcr (configId : Bytes) : Result Unit := do
  let mode ← env.detectTeeVariant
  if mode ≠ .dstackAwsNitroTpm then pure () else do
    env.detectTpm.context "Failed to detect TPM device"
    (env.pcrExtend configId).context "failed to extend AWS NitroTPM config PCR8"
    let quoted ← env.pcrRead.context "failed to read back AWS config PCR8"
    let expected := sha384 (zeros 48 ++ configId)
    Result.ensure (quoted = expected)
      ("invalid AWS config PCR8 after extend (polluted or double-extended), quoted: "
        ++ hexEncode quoted ++ ", expected: " ++ hexEncode expected)

end GuestEnv

-- == measurement

structure HostShared where
  composePath : String
  composeFile : Result Bytes
  appCompose : AppCompose
  instanceInfo : InstanceInfo

structure AppInfo where
  instanceInfo : InstanceInfo
  composeHash : Sized 32
  gpuPolicyHash : Sized 32
  initScriptHashes : List Bytes
  gpuAttestationEvent : Option Bytes

section Measure

variable (J : JsonLibrary) (env : GuestEnv) (shared : HostShared)

def sha256File (file : Result Bytes) : Result (Sized 32) := do
  let data ← file.context "Failed to read file"
  pure ⟨sha256 data, sha256_length _⟩

def measureGpuPolicy : Result (Sized 32) := do
  let composeJson ← shared.composeFile.context ("failed to read " ++ shared.composePath)
  let digest ← (gpuPolicyHash J composeJson).context "failed to hash raw GPU policy"
  (env.emitRuntimeEvent "gpu-policy-hash" digest.val).context
    "failed to emit GPU policy measurement"
  pure digest

def measureGpu : Result (Sized 32 × Option Bytes) := do
  let gpuPolicyHash ← measureGpuPolicy J env shared
  let event ← env.attestGpu
  pure (gpuPolicyHash, event)

/-- The seed of the instance id. Without a key provider the disk is not
reusable and the instance is a new one; SEV-SNP keeps the host's seed,
which the launch document commits to. -/
def guestSeed : Result Bytes :=
  if (shared.appCompose.keyProvider = .none ∧ ¬ env.isSnp)
      ∨ shared.instanceInfo.instanceIdSeed = [] then
    (·.val) <$> env.getrandom
  else pure shared.instanceInfo.instanceIdSeed

def mixedBinding : Result (Option Bytes) :=
  if env.isSnp then pure none else env.platformInstanceBinding

def guestInstanceId (seed appId : Bytes) : Result Bytes :=
  if shared.appCompose.noInstanceId then pure [] else do
    let binding ← mixedBinding env
    pure ((sha256 (seed ++ appId ++ binding.getD [])).take 20)

def measureAppInfo : Result AppInfo := do
  let composeHash ← sha256File shared.composeFile
  let appId :=
    if shared.instanceInfo.appId = [] then composeHash.val.take 20
    else shared.instanceInfo.appId
  Result.ensure (appId.length = 20)
    ("Invalid app id length: expected 20 bytes, got " ++ toString appId.length)
  let seed ← guestSeed env shared
  let instanceId ← guestInstanceId env shared seed appId
  env.emitRuntimeEvent "system-preparing" []
  env.emitRuntimeEvent "app-id" appId
  env.emitRuntimeEvent "compose-hash" composeHash.val
  let initScriptHashes :=
    shared.appCompose.initScript.map fun script => sha256 (utf8 script)
  initScriptHashes.forM (env.emitRuntimeEvent "init-script-hash")
  let (gpuPolicyHash, gpuAttestationEvent) ← (measureGpu J env shared).context
    "failed to verify GPU TEE attestation"
  env.emitRuntimeEvent "instance-id" instanceId
  env.emitRuntimeEvent "boot-mr-done" []
  -- the pinned provider id: the actual one is held to the pin later
  let awsConfigId := (MrConfig.v2 composeHash.val appId shared.appCompose.keyProvider
    shared.appCompose.keyProviderId).toMrConfigId
  (env.measureAwsConfigPcr awsConfigId).context "failed to measure AWS config into PCR8"
  pure ⟨⟨seed, instanceId, appId⟩, composeHash, gpuPolicyHash, initScriptHashes,
    gpuAttestationEvent⟩

end Measure

-- == verification

/-- The values of `verify_app`: those measured, and the key provider's. -/
def AppInfo.localValues (i : AppInfo) (provider : KeyProvider) :
    Result LocalMrConfigValues :=
  if h : i.instanceInfo.appId.length = 20 then
    pure ⟨i.composeHash, i.gpuPolicyHash, i.initScriptHashes, ⟨i.instanceInfo.appId, h⟩,
      i.instanceInfo.instanceId, provider.kind, provider.id⟩
  else .error "Invalid app id"

/-- Hold the provider to the compose file's pin. `hexFmt` is the hex
library's rendering of bytes. -/
def verifyKeyProviderId (hexFmt : Bytes → String) (expected providerId : Bytes) :
    Result Unit :=
  if expected = [] then pure ()
  else Result.ensure (expected = providerId)
    ("Unexpected key provider id: " ++ hexFmt providerId ++ ", expected: "
      ++ hexFmt expected)

def keyProviderInfo : KeyProvider → Bytes
  | .none _ => keyProviderInfoJson "none" ""
  | .local _ mr => keyProviderInfoJson "local-sgx" (hexEncode mr)
  | .tpm _ _ => keyProviderInfoJson "tpm" ""
  | .kms _ pubkey _ _ => keyProviderInfoJson "kms" (hexEncode pubkey)

def verifyApp (json : Json) (hexFmt : Bytes → String) (env : GuestEnv)
    (binding : LaunchBinding) (shared : HostShared) (i : AppInfo)
    (provider : KeyProvider) : Result Unit := do
  let l ← i.localValues provider
  let mode ← env.detectTeeVariant.context "Failed to detect attestation mode"
  verifyMrConfigIdForMode json binding mode l
  verifyKeyProviderId hexFmt shared.appCompose.keyProviderId provider.id
  env.emitRuntimeEvent "key-provider" (keyProviderInfo provider)

end Dstack.Util
