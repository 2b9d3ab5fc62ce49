/-
What a Nitro Enclave's signed document says about the identity decoded
next to it.

The document fixes the PCRs, and the OS image check makes the
configuration's image hash the hash of three of them. So everything
measured about the enclave is a function of the document
(`enclave_measured`). The platform extends no runtime register: the
application and instance identifiers and the key provider are whatever
the events beside the document spell, and the KMS hands out keys on them
only behind an opt-in (`enclave_identity_split`).
-/
import Dstack.Attest.Proofs.Identity
import Dstack.Kms.BootInfo

namespace Dstack.Kms

open Lib EventLog Attest Verifier

variable {V : CvmVerifier} {vm : String} {va : VerifiedAttestation}

-- == one enclave

variable {q : Bytes}

lemma verifyNitroEnclave_ok {v : AttestationVerifier} {rd : Bytes} {now : Nat}
    {r : NitroVerifiedReport} (h : verifyNitroEnclave v q rd now = .ok r) :
    ∃ doc, Nsm.decodeDocument v.awsNitroEnclave.cbor q = .ok doc
      ∧ NitroPcrs.fromPcrs doc.pcrs = .ok r.pcrs := by
  unfold verifyNitroEnclave Nsm.QuoteVerifier.verify at h
  simp only [ok_iff] at h
  obtain ⟨report, hreport, userData, -, _, -, pcrs, hpcrs, rfl⟩ := h
  obtain ⟨doc, hdoc, -, hrep⟩ := Nsm.verifyAttestation_ok hreport
  refine ⟨doc, hdoc, ?_⟩
  rw [hrep] at hpcrs
  exact hpcrs

lemma verifyWithTime_enclave {s : StackEvidence} {v : AttestationVerifier} {now : Option Nat}
    (h : AttestationV1.verifyWithTime ⟨.nitroEnclave q, s⟩ v now = .ok va) :
    ∃ r, va.quote = .dstackNitroEnclave q ∧ va.report = .dstackNitroEnclave r
      ∧ va.runtimeEvents = s.runtimeEvents ∧ va.config = s.config
      ∧ ∃ doc, Nsm.decodeDocument v.awsNitroEnclave.cbor q = .ok doc
        ∧ NitroPcrs.fromPcrs doc.pcrs = .ok r.pcrs := by
  obtain ⟨hplat, hquote, hevents, -, hconfig⟩ := AttestationV1.verifyWithTime_ok h
  simp only [verifyPlatform, ok_iff] at hplat
  obtain ⟨r, hr, hrep⟩ := hplat
  exact ⟨r, hquote, hrep.symm, hevents, hconfig, verifyNitroEnclave_ok hr⟩

lemma verifyOsImageHash_enclave {r : NitroVerifiedReport}
    {cfg : VmConfig} (hquote : va.quote = .dstackNitroEnclave q)
    (hreport : va.report = .dstackNitroEnclave r) (h : verifyOsImageHash V vm va = .ok cfg) :
    decodeVmConfigWithFallback V.decoders vm va.config = .ok cfg
      ∧ cfg.osImageHash = r.pcrs.imageHash := by
  unfold verifyOsImageHash at h
  rw [hquote, hreport] at h
  simp only [ok_iff, map_eq_ok] at h
  obtain ⟨raw, hraw, cfg', hcfg, _, hcheck, rfl⟩ := h
  rw [decodeVmConfig_resolved hraw] at hcfg
  unfold verifyOsImageHashForNitroEnclave at hcheck
  simp only [ok_iff] at hcheck
  obtain ⟨_, -, himage⟩ := hcheck
  exact ⟨hcfg, himage.symm⟩

lemma decodeAppInfoEx_enclave {D : Decoders} {boot : Bool}
    {r : NitroVerifiedReport} {cfg : VmConfig} {i : AppInfo}
    (hquote : va.quote = .dstackNitroEnclave q) (hreport : va.report = .dstackNitroEnclave r)
    (hcfg : decodeVmConfigWithFallback D vm va.config = .ok cfg)
    (h : va.decodeAppInfoEx D boot vm = .ok i) :
    i = {
      appId := payloadOrDefault va.runtimeEvents "app-id"
      composeHash := cfg.osImageHash
      instanceId := payloadOrDefault va.runtimeEvents "instance-id"
      deviceId := sha256 r.pcrs.pcr4
      mrSystem := r.pcrs.imageHash
      mrAggregated := r.pcrs.imageHash
      osImageHash := cfg.osImageHash
      keyProviderInfo :=
        if boot then [] else payloadOrDefault va.runtimeEvents "key-provider"
      initScriptHashes :=
        some (findEventPayloads va.runtimeEvents "init-script-hash") } := by
  unfold Attestation.decodeAppInfoEx decodeAppInfoWith at h
  rw [context_eq_ok, hquote, hreport] at h
  simp only [ok_iff, nonSnpContext, hcfg, nitroPcrsOf, DstackVerifiedReport.view,
    Except.ok.injEq] at h
  obtain ⟨ctx, ⟨_, rfl, rfl⟩, pcrs, rfl, rfl⟩ := h
  rfl

/-- An attestation that verifies, passes the OS image check and decodes
to an identity, all with one VM configuration. -/
def Accepts (V : CvmVerifier) (a : AttestationV1) (vm : String) (boot : Bool)
    (i : AppInfo) : Prop :=
  ∃ now va cfg, a.verifyWithTime V.attestationVerifier now = .ok va
    ∧ verifyOsImageHash V vm va = .ok cfg
    ∧ va.decodeAppInfoEx V.decoders boot vm = .ok i

lemma enclave_measured {s : StackEvidence} {boot : Bool}
    {i : AppInfo} (h : Accepts V ⟨.nitroEnclave q, s⟩ vm boot i) :
    ∃ doc pcrs,
      Nsm.decodeDocument V.attestationVerifier.awsNitroEnclave.cbor q = .ok doc
      ∧ NitroPcrs.fromPcrs doc.pcrs = .ok pcrs
      ∧ i = {
        appId := payloadOrDefault s.runtimeEvents "app-id"
        composeHash := pcrs.imageHash
        instanceId := payloadOrDefault s.runtimeEvents "instance-id"
        deviceId := sha256 pcrs.pcr4
        mrSystem := pcrs.imageHash
        mrAggregated := pcrs.imageHash
        osImageHash := pcrs.imageHash
        keyProviderInfo :=
          if boot then [] else payloadOrDefault s.runtimeEvents "key-provider"
        initScriptHashes :=
          some (findEventPayloads s.runtimeEvents "init-script-hash") } := by
  obtain ⟨now, va, cfg, hverify, himage, hdecode⟩ := h
  obtain ⟨r, hquote, hreport, hevents, -, doc, hdoc, hpcrs⟩ :=
    verifyWithTime_enclave hverify
  obtain ⟨hcfg, hhash⟩ := verifyOsImageHash_enclave hquote hreport himage
  refine ⟨doc, r.pcrs, hdoc, hpcrs, ?_⟩
  rw [decodeAppInfoEx_enclave hquote hreport hcfg hdecode, hhash, hevents]

lemma enclave_keyRelease_optIn {s : StackEvidence}
    {now : Option Nat} {boot : Bool} {b : BootInfo} {policy : KeyReleasePolicy}
    (hverify : AttestationV1.verifyWithTime ⟨.nitroEnclave q, s⟩
      V.attestationVerifier now = .ok va)
    (hbuild : buildBootInfoForAttestation V va boot vm = .ok b)
    (hrelease : ensureKeyReleaseAllowed b policy = .ok ()) :
    policy.nitroEnclave = true := by
  obtain ⟨r, hquote, hreport, -⟩ := verifyWithTime_enclave hverify
  unfold buildBootInfoForAttestation buildBootInfoByPlatform at hbuild
  rw [hreport, if_neg (by simp [amdSnpReport])] at hbuild
  unfold buildBootInfo at hbuild
  simp only [ok_iff] at hbuild
  obtain ⟨_, ⟨i, -, rfl⟩, _, -, rfl⟩ := hbuild
  have hvariant : (variant va.quote) = .dstackNitroEnclave := by
    rw [hquote]
    rfl
  unfold ensureKeyReleaseAllowed at hrelease
  simpa [PolicyBootInfo.fromAppInfo, hvariant] using hrelease

-- == the main theorem

/-- Two accepted attestations that carry one signed document agree on
everything measured: the compose hash, the image hash, the device and
the measurement registers. The application, the instance and the key
provider are read from each one's own events, and keys are released on
them only behind the opt-in. -/
theorem enclave_identity_split {V₁ V₂ : CvmVerifier}
    (hcbor : V₁.attestationVerifier.awsNitroEnclave.cbor
      = V₂.attestationVerifier.awsNitroEnclave.cbor)
    {q : Bytes} {s₁ s₂ : StackEvidence} {vm₁ vm₂ : String} {boot₁ boot₂ : Bool}
    {i₁ i₂ : AppInfo} (h₁ : Accepts V₁ ⟨.nitroEnclave q, s₁⟩ vm₁ boot₁ i₁)
    (h₂ : Accepts V₂ ⟨.nitroEnclave q, s₂⟩ vm₂ boot₂ i₂) :
    (i₁.composeHash = i₂.composeHash ∧ i₁.osImageHash = i₂.osImageHash
        ∧ i₁.deviceId = i₂.deviceId ∧ i₁.mrSystem = i₂.mrSystem
        ∧ i₁.mrAggregated = i₂.mrAggregated)
      ∧ (∃ doc pcrs,
          Nsm.decodeDocument V₁.attestationVerifier.awsNitroEnclave.cbor q = .ok doc
          ∧ NitroPcrs.fromPcrs doc.pcrs = .ok pcrs
          ∧ i₁.osImageHash = sha256 (pcrs.pcr0 ++ pcrs.pcr1 ++ pcrs.pcr2)
          ∧ i₁.composeHash = i₁.osImageHash)
      ∧ (i₁.appId = payloadOrDefault s₁.runtimeEvents "app-id"
        ∧ i₁.instanceId = payloadOrDefault s₁.runtimeEvents "instance-id"
        ∧ i₁.keyProviderInfo =
          if boot₁ then [] else payloadOrDefault s₁.runtimeEvents "key-provider")
      ∧ (∀ (now : Option Nat) (va : VerifiedAttestation) (b : BootInfo)
          (policy : KeyReleasePolicy),
          AttestationV1.verifyWithTime ⟨.nitroEnclave q, s₁⟩
            V₁.attestationVerifier now = .ok va →
          buildBootInfoForAttestation V₁ va boot₁ vm₁ = .ok b →
          ensureKeyReleaseAllowed b policy = .ok () →
          policy.nitroEnclave = true) := by
  obtain ⟨doc₁, pcrs₁, hdoc₁, hpcrs₁, hi₁⟩ := enclave_measured h₁
  obtain ⟨doc₂, pcrs₂, hdoc₂, hpcrs₂, hi₂⟩ := enclave_measured h₂
  have hdoc : doc₁ = doc₂ := by
    rw [hcbor, hdoc₂] at hdoc₁
    exact (Except.ok.inj hdoc₁).symm
  have hpcrs : pcrs₁ = pcrs₂ := by
    rw [hdoc, hpcrs₂] at hpcrs₁
    exact (Except.ok.inj hpcrs₁).symm
  refine ⟨?_, ⟨doc₁, pcrs₁, hdoc₁, hpcrs₁, ?_⟩, ?_, ?_⟩
  · rw [hi₁, hi₂, hpcrs]
    exact ⟨rfl, rfl, rfl, rfl, rfl⟩
  · rw [hi₁]
    exact ⟨rfl, rfl⟩
  · rw [hi₁]
    exact ⟨rfl, rfl, rfl⟩
  · intro now va b policy hverify hbuild hrelease
    exact enclave_keyRelease_optIn hverify hbuild hrelease

-- == one document, two applications

def samplePcrs : NitroPcrs where
  pcr0 := List.replicate 48 0x10
  pcr1 := List.replicate 48 0x11
  pcr2 := List.replicate 48 0x12
  pcr4 := List.replicate 48 0x14

def sampleDocument : Nsm.AttestationDocument where
  moduleId := "i-0-enc0"
  digest := "SHA384"
  timestamp := 0
  pcrs := [(0, samplePcrs.pcr0), (1, samplePcrs.pcr1), (2, samplePcrs.pcr2),
    (4, samplePcrs.pcr4)]
  certificate := []
  cabundle := []
  publicKey := none
  userData := some (zeros 64)
  nonce := none

/-- One COSE document, `[0xd2]`, with one signed payload, `[0xa9]`. -/
def enclaveCbor : Nsm.Cbor where
  readValue data :=
    if data = [0xd2] then
      .ok (.array [.bytes [0xa1], .map [], .bytes [0xa9], .bytes (zeros 96)], 1)
    else .error "not CBOR"
  readHeaders data :=
    if data = [0xa1] then .ok ([(1, .integer (-35))], 1) else .error "not a map"
  readDocument data :=
    if data = [0xa9] then .ok (sampleDocument, 1) else .error "no document"
  writeValue _ := .ok [0x84]

def enclaveNsm : Nsm.QuoteVerifier where
  cbor := enclaveCbor
  crypto := ⟨Unit, Unit, fun _ _ _ _ => .ok (), fun _ => .ok (), fun _ => .ok (),
    fun _ _ _ => .ok ()⟩
  rootCaPem := ""

def enclaveJson : Json where
  vmConfig _ := .ok { osImageHash := samplePcrs.imageHash }
  mrConfigV3 _ := .error ""
  mrConfigMember _ := .absent

def enclaveVerifier : CvmVerifier where
  attestationVerifier :=
    { sampleVerifier with awsNitroEnclave := enclaveNsm, json := enclaveJson }
  decoders := { sampleDecoders with json := enclaveJson }
  sev := ⟨fun _ => .error "", fun _ => .error "", enclaveJson.mrConfigV3,
    ⟨fun _ => .error "", fun _ => .error "", fun _ => .error ""⟩⟩
  verifyTdxLegacy _ _ := .error ""
  verifyTdxLite _ _ := .error ""
  json_eq := rfl
  snp_eq := rfl
  mrConfigV3_eq := rfl

def enclaveAttestation (appId : Bytes) : AttestationV1 :=
  ⟨.nitroEnclave [0xd2], ⟨zeros 64, [⟨"app-id", appId, .V2⟩], "", none⟩⟩

def enclaveVerified (appId : Bytes) : VerifiedAttestation where
  quote := .dstackNitroEnclave [0xd2]
  runtimeEvents := [⟨"app-id", appId, .V2⟩]
  reportData := zeros 64
  config := ""
  report := .dstackNitroEnclave ⟨"i-0-enc0", samplePcrs, zeros 64, 0⟩

def enclaveAppInfo (appId : Bytes) : AppInfo where
  appId
  composeHash := samplePcrs.imageHash
  instanceId := []
  deviceId := sha256 samplePcrs.pcr4
  mrSystem := samplePcrs.imageHash
  mrAggregated := samplePcrs.imageHash
  osImageHash := samplePcrs.imageHash
  keyProviderInfo := []
  initScriptHashes := some []

lemma accepts_aa :
    Accepts enclaveVerifier ⟨.nitroEnclave [0xd2],
        (enclaveAttestation (List.replicate 20 0xaa)).stack⟩ "" false
      (enclaveAppInfo (List.replicate 20 0xaa)) :=
  ⟨none, enclaveVerified (List.replicate 20 0xaa),
    { osImageHash := samplePcrs.imageHash }, by decide +kernel⟩

lemma accepts_bb :
    Accepts enclaveVerifier ⟨.nitroEnclave [0xd2],
        (enclaveAttestation (List.replicate 20 0xbb)).stack⟩ "" false
      (enclaveAppInfo (List.replicate 20 0xbb)) :=
  ⟨none, enclaveVerified (List.replicate 20 0xbb),
    { osImageHash := samplePcrs.imageHash }, by decide +kernel⟩

/-- One signed document is accepted for two applications: only the
unreplayed events differ. -/
theorem one_document_two_applications :
    Accepts enclaveVerifier ⟨.nitroEnclave [0xd2],
        (enclaveAttestation (List.replicate 20 0xaa)).stack⟩ "" false
        (enclaveAppInfo (List.replicate 20 0xaa))
      ∧ Accepts enclaveVerifier ⟨.nitroEnclave [0xd2],
        (enclaveAttestation (List.replicate 20 0xbb)).stack⟩ "" false
        (enclaveAppInfo (List.replicate 20 0xbb))
      ∧ (enclaveAppInfo (List.replicate 20 0xaa)).appId
        ≠ (enclaveAppInfo (List.replicate 20 0xbb)).appId :=
  ⟨accepts_aa, accepts_bb, by decide⟩

/-- The two applications of the one document share everything it
measures. -/
theorem sample_document_measured :
    (enclaveAppInfo (List.replicate 20 0xaa)).osImageHash
      = (enclaveAppInfo (List.replicate 20 0xbb)).osImageHash :=
  (enclave_identity_split rfl accepts_aa accepts_bb).1.2.1

end Dstack.Kms
