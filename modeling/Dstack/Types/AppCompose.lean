/-
The application's side of an identity (`dstack-types`): the app-compose
file, the instance information beside it, the key providers, and the
ways a measurement register stands for them (`mr_config.rs`).

An app-compose file is hashed as its bytes; only the GPU policy is hashed
in canonical form, because the policy is one member of the file. A V1 or
V2 configuration id is computed from the values themselves. A V3 id is
computed from a document, which the host writes in canonical form and
everybody else takes as the text it is.
-/
import Dstack.Lib.Keccak
import Dstack.Types

namespace Dstack

open Lib

abbrev Sized (n : Nat) := { b : Bytes // b.length = n }

-- == app-compose

def maxInitScripts : Nat := 5

/-- What an app-compose file says about identity. The reader refuses a
file with more than `maxInitScripts` scripts. -/
structure AppCompose where
  manifestVersion : String
  kmsEnabled : Bool := false
  localKeyProviderEnabled : Bool := false
  /-- The `key_provider` member; `keyProvider` is what it comes to. -/
  declaredKeyProvider : Option KeyProviderKind := none
  keyProviderId : Bytes := []
  noInstanceId : Bool := false
  initScript : List String := []
  initScript_length : initScript.length ≤ maxInitScripts := by decide

namespace AppCompose

def manifestVersionU32 (c : AppCompose) : Option Nat :=
  (parseU32 c.manifestVersion.toList).toOption

def keyProvider (c : AppCompose) : KeyProviderKind :=
  match c.declaredKeyProvider with
  | some p => p
  | none =>
    if c.kmsEnabled then .kms
    else if c.localKeyProviderEnabled then .local
    else .none

end AppCompose

structure InstanceInfo where
  instanceIdSeed : Bytes := []
  instanceId : Bytes := []
  appId : Bytes := []
  deriving DecidableEq

/-- A JSON library with canonical output. -/
structure JsonLibrary where
  Value : Type
  fromSlice : Bytes → Result Value
  pointer : Value → String → Option Value
  jcs : Value → Result Bytes

def defaultGpuPolicy : String := "\x7b\x7d"

def gpuPolicyHash (J : JsonLibrary) (composeJson : Bytes) : Result (Sized 32) := do
  let compose ← J.fromSlice composeJson
  let defaultPolicy ← J.fromSlice (utf8 defaultGpuPolicy)
  let policy := (J.pointer compose "/requirements/gpu_policy").getD defaultPolicy
  let canonical ← J.jcs policy
  pure ⟨sha256 canonical, sha256_length _⟩

-- == key providers

inductive KeyProvider where
  | none (key : String)
  | local (key : String) (mr : Bytes)
  | tpm (key : String) (pubkey : Bytes)
  | kms (url : String) (pubkey : Bytes) (tmpCaKey tmpCaCert : String)
  deriving DecidableEq

namespace KeyProvider

def kind : KeyProvider → KeyProviderKind
  | .none .. => .none
  | .local .. => .local
  | .tpm .. => .tpm
  | .kms .. => .kms

def id : KeyProvider → Bytes
  | .none .. => []
  | .local _ mr => mr
  | .tpm .. => []
  | .kms _ pubkey _ _ => pubkey

end KeyProvider

-- == configuration ids

def keyProviderKindByte : KeyProviderKind → UInt8
  | .none => 0
  | .local => 1
  | .kms => 2
  | .tpm => 3

inductive MrConfig where
  | v1 (composeHash : Bytes)
  | v2 (composeHash appId : Bytes) (keyProvider : KeyProviderKind) (keyProviderId : Bytes)

def configId (version : UInt8) (digest : Bytes) : Bytes :=
  version :: digest ++ zeros 15

def MrConfig.toMrConfigId : MrConfig → Bytes
  | .v1 composeHash => configId 1 composeHash
  | .v2 composeHash appId keyProvider keyProviderId =>
    let digest := keccak256
      (composeHash ++ appId ++ [keyProviderKindByte keyProvider] ++ keyProviderId)
    configId 2 (beBytes 32 digest.toNat)

-- == the document

def KeyProviderKind.asStr : KeyProviderKind → String
  | .none => "none"
  | .kms => "kms"
  | .local => "local"
  | .tpm => "tpm"

namespace MrConfigV3

/-- An empty value is left out (`(!v.is_empty()).then_some(v)`). -/
def nonEmpty (v : Bytes) : Option Bytes := if v = [] then none else some v

@[simp] lemma nonEmpty_getD (v : Bytes) : (nonEmpty v).getD [] = v := by
  by_cases h : v = []
  · simp [nonEmpty, h]
  · simp [nonEmpty, h]

lemma nonEmpty_eq_some {v w : Bytes} (h : nonEmpty v = some w) : w = v ∧ v ≠ [] := by
  unfold nonEmpty at h
  split at h
  · cases h
  · rename_i hv
    exact ⟨(Option.some.inj h).symm, hv⟩

def new (appId composeHash : Bytes) (gpuPolicyHash : Option Bytes)
    (keyProvider : KeyProviderKind) (keyProviderId instanceId : Bytes) : MrConfigV3 where
  version := 3
  appId := nonEmpty appId
  composeHash := composeHash
  gpuPolicyHash := gpuPolicyHash
  keyProvider := keyProvider
  keyProviderId := nonEmpty keyProviderId
  instanceId := nonEmpty instanceId
  initScriptHashes := none

def withInitScriptHashes (c : MrConfigV3) (hashes : List Bytes) : MrConfigV3 :=
  { c with initScriptHashes := some hashes }

private def hexText (b : Bytes) : String := jsonString (hexEncode b)

def members (c : MrConfigV3) : List (String × Option String) :=
  [("app_id", c.appId.map hexText),
   ("compose_hash", some (hexText c.composeHash)),
   ("gpu_policy_hash", c.gpuPolicyHash.map hexText),
   ("init_script_hashes", c.initScriptHashes.map fun hashes =>
      "[" ++ ",".intercalate (hashes.map hexText) ++ "]"),
   ("instance_id", c.instanceId.map hexText),
   ("key_provider", some (jsonString c.keyProvider.asStr)),
   ("key_provider_id", c.keyProviderId.map hexText),
   ("version", some (toString c.version))]

def toCanonicalJson (c : MrConfigV3) : String :=
  "\x7b" ++ ",".intercalate (c.members.filterMap fun (name, value) =>
    value.map fun text => jsonString name ++ ":" ++ text) ++ "\x7d"

def Readable (c : MrConfigV3) : Prop :=
  c.version < 256
    ∧ ∀ hashes, c.initScriptHashes = some hashes →
      hashes.length ≤ maxInitScripts ∧ ∀ h ∈ hashes, h.length = 32

def tdxMrConfigIdFromDocument (document : String) : Bytes :=
  configId 3 (sha256 (documentPreimage document))

example : (new [1] [2, 255] none .kms [] [3]).toCanonicalJson
    = "\x7b\"app_id\":\"01\",\"compose_hash\":\"02ff\",\"instance_id\":\"03\","
      ++ "\"key_provider\":\"kms\",\"version\":3\x7d" := by decide +kernel

end MrConfigV3

end Dstack
