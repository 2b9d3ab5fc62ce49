/-
The guest's check of the configuration it was launched with
(`system_setup/config_id_verifier.rs`).

The guest compares what it observed with what the measured register
stands for. A V3 document may leave out the application id, the key
provider id, the GPU policy and the init scripts, which are then not
checked; the instance id is always checked, an omitted one as empty.
-/
import Dstack.Types.AppCompose

namespace Dstack.Util

open Lib

structure LocalMrConfigValues where
  composeHash : Sized 32
  gpuPolicyHash : Sized 32
  initScriptHashes : List Bytes
  appId : Sized 20
  instanceId : Bytes
  keyProvider : KeyProviderKind
  keyProviderId : Bytes

/-- What the guest is given to compare with: the registers of its own
quote and the document in `sys-config`. -/
structure LaunchBinding where
  mrConfigId : Result Bytes
  mrConfigDocument : Result String
  snpHostData : Result Bytes

def declared {α : Type} [DecidableEq α] (d : Option α) (expected : α) : Bool :=
  d.all (· = expected)

def verifyMrConfigV3Document (json : Json) (mrConfigDocument : String)
    (l : LocalMrConfigValues) : Result MrConfigV3 := do
  let mrConfig ← (json.mrConfigV3 mrConfigDocument).context "Invalid mr_config document"
  Result.ensure (mrConfig.version = 3) "mr_config version must be 3"
  Result.ensure (mrConfig.composeHash = l.composeHash.val) "Invalid mr_config compose_hash"
  Result.ensure (declared mrConfig.gpuPolicyHash l.gpuPolicyHash.val)
    "Invalid mr_config gpu_policy_hash"
  Result.ensure (declared mrConfig.initScriptHashes l.initScriptHashes)
    "Invalid mr_config init_script_hashes"
  Result.ensure (declared mrConfig.appId l.appId.val) "Invalid mr_config app_id"
  -- absent means empty: an omitted id cannot be told from `no_instance_id`
  Result.ensure (mrConfig.instanceId.getD [] = l.instanceId)
    "Invalid mr_config instance_id"
  Result.ensure (mrConfig.keyProvider = l.keyProvider) "Invalid mr_config key_provider"
  Result.ensure (declared mrConfig.keyProviderId l.keyProviderId)
    "Invalid mr_config key_provider_id"
  pure mrConfig

def expectedMrConfigId (json : Json) (version : UInt8) (mrConfigDocument : Option String)
    (l : LocalMrConfigValues) : Result Bytes :=
  if version = 1 then pure (MrConfig.v1 l.composeHash.val).toMrConfigId
  else if version = 2 then
    pure (MrConfig.v2 l.composeHash.val l.appId.val l.keyProvider l.keyProviderId).toMrConfigId
  else if version = 3 then do
    let document ← Result.ofOption mrConfigDocument
      "mr_config is required for TDX MR_CONFIG_ID v3"
    let _ ← verifyMrConfigV3Document json document l
    pure (MrConfigV3.tdxMrConfigIdFromDocument document)
  else .error "Invalid mr_config_id version"

def verifyTdxMrConfigIdValue (json : Json) (readMrConfigId : Bytes)
    (mrConfigDocument : Option String) (l : LocalMrConfigValues) : Result Unit :=
  if readMrConfigId = zeros 48 then pure () else do
    let expected ← expectedMrConfigId json (readMrConfigId.headD 0) mrConfigDocument l
    Result.ensure (expected = readMrConfigId) "Invalid mr_config_id"

def tdxMrConfigDocument (binding : LaunchBinding) (readMrConfigId : Bytes) :
    Result (Option String) :=
  if readMrConfigId.headD 0 = 3 then
    some <$> (binding.mrConfigDocument.context "Failed to read mr_config")
  else pure none

def verifyTdxMrConfigId (json : Json) (binding : LaunchBinding)
    (l : LocalMrConfigValues) : Result Unit := do
  let readMrConfigId ← binding.mrConfigId.context "Failed to read mr_config_id"
  let document ← tdxMrConfigDocument binding readMrConfigId
  verifyTdxMrConfigIdValue json readMrConfigId document l

def verifySnpMrConfig (json : Json) (binding : LaunchBinding) (l : LocalMrConfigValues) :
    Result Unit := do
  let document ← binding.mrConfigDocument.context "Failed to read SNP mr_config"
  let _ ← verifyMrConfigV3Document json document l
  let readHostData ← binding.snpHostData.context "Failed to read SNP HOST_DATA"
  Result.ensure (MrConfigV3.snpHostDataFromDocument document = readHostData)
    "Invalid SNP HOST_DATA"

def verifyMrConfigIdForMode (json : Json) (binding : LaunchBinding) (mode : TeeVariant)
    (l : LocalMrConfigValues) : Result Unit :=
  match mode with
  | .dstackAmdSevSnp => verifySnpMrConfig json binding l
  -- no host-supplied claim to cross-check: the guest measures PCR 8 itself,
  -- and an enclave is bound through its signed document
  | .dstackAwsNitroTpm | .dstackNitroEnclave => pure ()
  | .dstackTdx | .dstackGcpTdx => verifyTdxMrConfigId json binding l

-- == what is accepted

structure Agrees (c : MrConfigV3) (l : LocalMrConfigValues) : Prop where
  version : c.version = 3
  composeHash : c.composeHash = l.composeHash.val
  gpuPolicyHash : ∀ h, c.gpuPolicyHash = some h → h = l.gpuPolicyHash.val
  initScriptHashes : ∀ hs, c.initScriptHashes = some hs → hs = l.initScriptHashes
  appId : ∀ i, c.appId = some i → i = l.appId.val
  instanceId : c.instanceId.getD [] = l.instanceId
  keyProvider : c.keyProvider = l.keyProvider
  keyProviderId : ∀ i, c.keyProviderId = some i → i = l.keyProviderId

lemma declared_iff {α : Type} [DecidableEq α] {d : Option α} {expected : α} :
    declared d expected = true ↔ ∀ a, d = some a → a = expected := by
  cases d with
  | none => simp [declared]
  | some a => simp [declared]

variable {l : LocalMrConfigValues} {json : Json}

lemma verifyMrConfigV3Document_eq_ok {document : String} {c : MrConfigV3} :
    verifyMrConfigV3Document json document l = .ok c
      ↔ json.mrConfigV3 document = .ok c ∧ Agrees c l := by
  simp only [verifyMrConfigV3Document, ok_iff, declared_iff]
  constructor
  · rintro ⟨c', hc, _, hversion, _, hcompose, _, hgpu, _, hscripts, _, happ, _, hinst, _,
      hkind, _, hid, rfl⟩
    exact ⟨hc, hversion, hcompose, hgpu, hscripts, happ, hinst, hkind, hid⟩
  · rintro ⟨hc, h⟩
    exact ⟨c, hc, (), h.version, (), h.composeHash, (), h.gpuPolicyHash, (),
      h.initScriptHashes, (), h.appId, (), h.instanceId, (), h.keyProvider, (),
      h.keyProviderId, rfl⟩

lemma verifySnpMrConfig_eq_ok {binding : LaunchBinding} :
    verifySnpMrConfig json binding l = .ok ()
      ↔ ∃ document c, binding.mrConfigDocument = .ok document
        ∧ json.mrConfigV3 document = .ok c ∧ Agrees c l
        ∧ binding.snpHostData = .ok (MrConfigV3.snpHostDataFromDocument document) := by
  simp only [verifySnpMrConfig, ok_iff, verifyMrConfigV3Document_eq_ok]
  constructor
  · rintro ⟨document, hdoc, c, ⟨hc, hagrees⟩, hostData, hhost, rfl⟩
    exact ⟨document, c, hdoc, hc, hagrees, hhost⟩
  · rintro ⟨document, c, hdoc, hc, hagrees, hhost⟩
    exact ⟨document, hdoc, c, ⟨hc, hagrees⟩, _, hhost, rfl⟩

lemma expectedMrConfigId_v3 {document : String} {id : Bytes} :
    expectedMrConfigId json 3 (some document) l = .ok id
      ↔ (∃ c, json.mrConfigV3 document = .ok c ∧ Agrees c l)
        ∧ MrConfigV3.tdxMrConfigIdFromDocument document = id := by
  have hbranch : expectedMrConfigId json 3 (some document) l
      = (do
        let _ ← verifyMrConfigV3Document json document l
        pure (MrConfigV3.tdxMrConfigIdFromDocument document)) := rfl
  rw [hbranch, bind_eq_ok]
  simp only [verifyMrConfigV3Document_eq_ok, pure_eq_ok, exists_and_right]

lemma verifyTdxMrConfigId_v3 {binding : LaunchBinding} {document : String} {c : MrConfigV3}
    (hid : binding.mrConfigId = .ok (MrConfigV3.tdxMrConfigIdFromDocument document))
    (hdoc : binding.mrConfigDocument = .ok document) (hc : json.mrConfigV3 document = .ok c) :
    verifyTdxMrConfigId json binding l = .ok () ↔ Agrees c l := by
  have hversion : (MrConfigV3.tdxMrConfigIdFromDocument document).headD 0 = 3 := rfl
  have hzero : MrConfigV3.tdxMrConfigIdFromDocument document ≠ zeros 48 := by
    intro h
    have hhead := congrArg (List.headD · 0) h
    rw [hversion] at hhead
    revert hhead
    decide
  have hread : tdxMrConfigDocument binding (MrConfigV3.tdxMrConfigIdFromDocument document)
      = .ok (some document) := by
    rw [tdxMrConfigDocument, if_pos hversion, hdoc]
    rfl
  simp only [verifyTdxMrConfigId, ok_iff, hid, Except.ok.injEq, exists_eq_left', hread,
    verifyTdxMrConfigIdValue, if_neg hzero, hversion, expectedMrConfigId_v3, hc]
  constructor
  · rintro ⟨_, ⟨hagrees, -⟩, -⟩
    exact hagrees
  · intro hagrees
    exact ⟨_, ⟨hagrees, rfl⟩, rfl⟩

end Dstack.Util
