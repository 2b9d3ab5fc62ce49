/-
Shared configuration types (`dstack-types`): the VM configuration that
travels beside an attestation, and the `MrConfigV3` document that binds
an application's identity to a launch.

Both arrive as JSON text. `Json` collects the decoders, which are the
JSON library's work; a document is hashed as the text it arrived in,
never re-encoded (`snpHostDataFromDocument`).
-/
import Dstack.Types.Measurement

namespace Dstack

open Lib

inductive KeyProviderKind where
  | none
  | kms
  | local
  | tpm
  deriving DecidableEq

inductive OvmfVariant where
  | pre202505
  deriving DecidableEq

inductive TdxAttestationVariant where
  | legacy
  | lite
  deriving DecidableEq

inductive TeeVariant where
  | dstackTdx
  | dstackGcpTdx
  | dstackNitroEnclave
  | dstackAmdSevSnp
  | dstackAwsNitroTpm
  deriving DecidableEq

def TeeVariant.tpmEventPcrAndBank : TeeVariant → Option (Nat × String)
  | .dstackGcpTdx => some (14, "sha256")
  | .dstackAwsNitroTpm => some (14, "sha384")
  | .dstackTdx | .dstackAmdSevSnp | .dstackNitroEnclave => none

structure NumaNodeConfig where
  pxbBus : Option Nat
  deriving DecidableEq

inductive RootBusDevice where
  | endpoint
  | rootPort
  deriving DecidableEq

/-- The fields of a VM configuration that measurement reads, with the
defaults of a field that is left out. -/
structure VmConfig where
  osImageHash : Bytes := []
  cpuCount : Nat := 0
  memorySize : Nat := 0
  qemuSinglePassAddPages : Option Bool := none
  pic : Option Bool := none
  qemuVersion : Option String := none
  pciHole64Size : Nat := 0
  hugepages : Bool := false
  numaNodes : List NumaNodeConfig := []
  numGpus : Nat := 0
  numNvswitches : Nat := 0
  numNics : Nat := 1
  numVerityVolumes : Nat := 0
  extraRootDevices : List RootBusDevice := []
  swtpm : Bool := false
  hotplugOff : Bool := false
  hostShareMode : String := ""
  ovmfVariant : Option OvmfVariant := none
  tdxAttestationVariant : TdxAttestationVariant := .legacy
  tdxMeasurement : Option TdxOsImageMeasurementDocument := none
  gcpMeasurement : Option GcpOsImageMeasurementDocument := none
  awsMeasurement : Option AwsOsImageMeasurementDocument := none
  deriving DecidableEq

structure MrConfigV3 where
  version : Nat
  appId : Option Bytes
  composeHash : Bytes
  gpuPolicyHash : Option Bytes
  keyProvider : KeyProviderKind
  keyProviderId : Option Bytes
  instanceId : Option Bytes
  initScriptHashes : Option (List Bytes)
  deriving DecidableEq

def MrConfigV3.documentPreimage (document : String) : Bytes :=
  utf8 "dstack-mr-config-v3:" ++ [0] ++ utf8 document

def MrConfigV3.snpHostDataFromDocument (document : String) : Bytes :=
  sha256 (documentPreimage document)

lemma MrConfigV3.document_eq_of_hostData {d₁ d₂ : String}
    (hcf : Sha256.CollisionFreeOn [documentPreimage d₁, documentPreimage d₂])
    (h : snpHostDataFromDocument d₁ = snpHostDataFromDocument d₂) : d₁ = d₂ := by
  have hpre : documentPreimage d₁ = documentPreimage d₂ :=
    hcf _ (by simp) _ (by simp) h
  exact utf8_injective (List.append_cancel_left hpre)

def MrConfigV3.keyProviderName (c : MrConfigV3) : String :=
  match c.keyProvider with
  | .none => "none"
  | .local => "local-sgx"
  | .kms => "kms"
  | .tpm => "tpm"

def keyProviderInfoJson (name id : String) : Bytes :=
  utf8 ("\x7b\"name\":" ++ jsonString name ++ ",\"id\":" ++ jsonString id
    ++ "\x7d")

/-- The `mr_config` member of a JSON text: absent (also when the text is
not JSON), a string, or something else. -/
inductive MrConfigMember where
  | absent
  | document (s : String)
  | notString

/-- The JSON reader, for the types that are read. -/
structure Json where
  vmConfig : String → Result VmConfig
  mrConfigV3 : String → Result MrConfigV3
  mrConfigMember : String → MrConfigMember

end Dstack
