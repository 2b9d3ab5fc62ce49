/-
The launch document of a VM (`vmm/src/app/mr_config.rs`): which version a
launch is bound by, and the V3 document with the instance information
that is written beside it.

The document and the instance information come from one derivation, so
the guest, which is given the second and recomputes the first, has to
make the same choices: the application id that stands for an unset one,
when a seed is drawn anew, and what goes into the instance id.
-/
import Dstack.Types.AppCompose
import Dstack.Vmm.Launch

namespace Dstack.Vmm

open Lib

structure MrConfigDir where
  composeFile : Result Bytes
  /-- The instance information file, if there is one. -/
  instanceInfo : Result (Option InstanceInfo)
  writeInstanceInfo : InstanceInfo → Result Unit
  getrandom : Result (Sized 20)

def MrConfigDir.appComposeHash (dir : MrConfigDir) : Result Bytes :=
  sha256 <$> dir.composeFile.context "failed to read compose"

def MrConfigDir.instanceInfoOrDefault (dir : MrConfigDir) : Result InstanceInfo :=
  (·.getD {}) <$> dir.instanceInfo

def bindInitScriptHashes (mrConfig : MrConfigV3) (appCompose : Dstack.AppCompose) :
    MrConfigV3 :=
  if 3 ≤ appCompose.manifestVersionU32.getD 0 then
    mrConfig.withInitScriptHashes
      (appCompose.initScript.map fun script => sha256 (utf8 script))
  else mrConfig

inductive MrConfigVersion where
  | v1
  | v3
  deriving DecidableEq

def mrConfigVersion (manifest : Manifest) (platform : CvmPlatform)
    (useMrconfigid hasKeyProviderId : Bool) : Result (Option MrConfigVersion) :=
  -- a simulated SEV-SNP guest gets its document on any platform, and before
  -- `noTee` is looked at
  if manifest.simulatedTee = some .dstackAmdSevSnp then .ok (some .v3)
  else if manifest.noTee then .ok none
  else match platform with
    | .amdSevSnp => .ok (some .v3)
    | .tdx =>
      if hasKeyProviderId ∧ ¬ useMrconfigid then
        .error "key provider ID requires MrConfigV3, but use_mrconfigid is disabled"
      else if ¬ useMrconfigid then .ok none
      else if hasKeyProviderId then .ok (some .v3)
      else .ok (some .v1)

structure Prepared where
  mrConfig : MrConfigV3
  instanceInfo : InstanceInfo
  deriving DecidableEq

def Prepared.document (p : Prepared) : String := p.mrConfig.toCanonicalJson

section Prepare

variable (J : JsonLibrary) (dir : MrConfigDir) (appCompose : Dstack.AppCompose)

def launchGpuPolicyHash (hasGpus : Bool) : Result (Option Bytes) :=
  if hasGpus then do
    let composeJson ← dir.composeFile.context
      "failed to read app compose for GPU policy hash"
    let hash ← (gpuPolicyHash J composeJson).context "failed to hash raw GPU policy"
    pure (some hash.val)
  else pure none

/-- The seed of the instance id: without a key provider the disk is not
reusable, and the instance is a new one each time. -/
def launchSeed (info : InstanceInfo) : Result Bytes :=
  if appCompose.keyProvider = .none ∨ info.instanceIdSeed = [] then
    (·.val) <$> dir.getrandom.context "failed to generate instance ID seed"
  else pure info.instanceIdSeed

def launchInstanceId (seed appId : Bytes) : Bytes :=
  if appCompose.noInstanceId then [] else (sha256 (seed ++ appId)).take 20

def prepareMrConfigV3 (hasGpus : Bool) : Result Prepared := do
  let composeHash ← dir.appComposeHash.context "failed to get compose hash"
  let gpuPolicyHash ← launchGpuPolicyHash J dir hasGpus
  let info ← dir.instanceInfoOrDefault.context "failed to get instance info"
  let appId := if info.appId = [] then composeHash.take 20 else info.appId
  Result.ensure (appId.length = 20)
    ("invalid app ID length: expected 20 bytes, got " ++ toString appId.length)
  let seed ← launchSeed dir appCompose info
  let instanceId := launchInstanceId appCompose seed appId
  let info := ⟨seed, instanceId, appId⟩
  (dir.writeInstanceInfo info).context "failed to write instance info"
  let mrConfig := MrConfigV3.new appId composeHash gpuPolicyHash appCompose.keyProvider
    appCompose.keyProviderId instanceId
  pure ⟨bindInitScriptHashes mrConfig appCompose, info⟩

def prepareMrConfig (manifest : Manifest) (cfg : NodeConfig) (host : LaunchHost) :
    Result (Option Prepared) := do
  let version ← mrConfigVersion manifest (cfg.resolvedPlatform host) cfg.useMrconfigid
    (appCompose.keyProviderId ≠ [])
  match version with
  | some .v3 =>
    some <$> prepareMrConfigV3 J dir appCompose
      (manifest.gpus.any fun gpus => gpus.gpus ≠ [])
  | some .v1 | none => pure none

end Prepare

end Dstack.Vmm
