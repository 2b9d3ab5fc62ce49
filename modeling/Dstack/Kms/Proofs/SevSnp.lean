/-
The KMS and the verifier see one SEV-SNP guest.

They reach its identity through different documents: the KMS through the
one inside the VM configuration, the verifier through the one inside the
quote. Both documents were hashed and compared with the HOST_DATA of the
same signed report, so they are one document, and every other field is
computed from the report or taken from the verified launch
(`kms_verifier_agree`). The KMS builds its boot information exactly when
the launch verifies (`buildAmdSnp_ok`).
-/
import Dstack.Attest.Proofs.Identity
import Dstack.Kms.BootInfo

namespace Dstack.Kms

open Lib Attest Verifier Mr.Sev

-- == the KMS's side

/-- The boot information of a verified report and the launch it was checked
against. -/
def snpBootInfo (r : SevSnp.VerifiedAmdSnpReport) (launch : SevImageBinding) :
    BootInfo where
  teeVariant := .dstackAmdSevSnp
  mrAggregated := sha256 (r.measurement ++ r.hostData)
  osImageHash := launch.osImageHash
  mrSystem := sha256 r.measurement
  appId := launch.mrConfig.appId.getD []
  composeHash := launch.mrConfig.composeHash
  instanceId := launch.mrConfig.instanceId.getD []
  deviceId := sha256 r.chipId
  keyProviderInfo := keyProviderInfoFromMrConfig launch.mrConfig
  tcbStatus := r.tcbInfo.tcbStatus
  advisoryIds := r.advisoryIds

variable {V : CvmVerifier} {F : Formats} {va : VerifiedAttestation}
  {r : SevSnp.VerifiedAmdSnpReport} {vm raw : String}

lemma validateAmdSnpMeasurementBinding_ok {m : Bytes} {input : MeasurementInput} {u : Unit} :
    validateAmdSnpMeasurementBinding m input = .ok u ↔
      validateMeasurementInput input = .ok ()
        ∧ computeExpectedMeasurement input = .ok m := by
  unfold validateAmdSnpMeasurementBinding
  simp only [ok_iff]
  constructor
  · rintro ⟨_, hvalid, expected, hexp, rfl⟩
    exact ⟨hvalid, hexp⟩
  · rintro ⟨hvalid, hexp⟩
    exact ⟨(), hvalid, m, hexp, rfl⟩

lemma buildAmdSnp_ok (hreport : va.report = .dstackAmdSevSnp r) {b : BootInfo} :
    buildAmdSnpBootInfoFromVerifiedAttestationAndVmConfig F va raw = .ok b ↔
      ∃ launch, verifySevLaunch F r.measurement r.hostData raw = .ok launch
        ∧ b = snpBootInfo r launch := by
  unfold buildAmdSnpBootInfoFromVerifiedAttestationAndVmConfig
    buildAmdSnpBootInfoFromVerifiedAttestation buildAmdSnpBootInfoWithTcbStatus
  simp only [ok_iff, hreport, amdSnpReport, Option.some.injEq, verifySevLaunch_ok,
    validateAmdSnpMeasurementBinding_ok]
  constructor
  · rintro ⟨inputs, hin, r', rfl, _, ⟨hvalid, hexp⟩, c, hc, rfl⟩
    exact ⟨⟨inputs.osImageHash, c⟩, ⟨inputs, hin, hvalid, hexp, hc, rfl⟩, rfl⟩
  · rintro ⟨launch, ⟨inputs, hin, hvalid, hexp, hc, himg⟩, rfl⟩
    refine ⟨inputs, hin, r, rfl, (), ⟨hvalid, hexp⟩, launch.mrConfig, hc, ?_⟩
    rw [← himg]
    rfl

-- == the verifier's side

def launchDocument (F : Formats) (raw : String) : Option String :=
  match F.vmConfig raw with
  | .ok config => config.mrConfig
  | .error _ => none

def decodedDocument (D : Decoders) (mrConfig : Option String) (raw : String) :
    Option String :=
  match mrConfig with
  | some document => some document
  | none =>
    match D.json.mrConfigMember raw with
    | .document document => some document
    | .absent | .notString => none

/-- The documents that the checks of a report hash. -/
def hashedDocuments (V : CvmVerifier) (mrConfig : Option String) (raw : String) :
    List Bytes :=
  ((launchDocument V.sev raw).toList
    ++ (decodedDocument V.decoders mrConfig raw).toList).map
      MrConfigV3.documentPreimage

lemma verifySevLaunch_document {m hd : Bytes} {launch : SevImageBinding}
    (h : verifySevLaunch F m hd raw = .ok launch) :
    ∃ doc, launchDocument F raw = some doc
      ∧ F.mrConfigV3 doc = .ok launch.mrConfig
      ∧ MrConfigV3.snpHostDataFromDocument doc = hd := by
  obtain ⟨inputs, hin, -, -, hc, -⟩ := verifySevLaunch_ok.mp h
  refine ⟨inputs.mrConfigDocument, ?_, validateSnpMrConfigBinding_ok hc⟩
  unfold parseSnpInputsFromVmConfig at hin
  simp only [ok_iff] at hin
  obtain ⟨config, hconfig, _, -, _, -, _, -, _, -, _, -, _, -, doc, hdoc, _, -,
    rfl⟩ := hin
  rw [launchDocument, hconfig]
  exact hdoc

variable {doc : String}

lemma mrConfigDocumentFromConfig_ok {D : Decoders}
    (h : mrConfigDocumentFromConfig D raw = .ok (some doc)) :
    D.json.mrConfigMember raw = .document doc := by
  unfold mrConfigDocumentFromConfig at h
  split at h
  next => cases h
  next => cases h
  next d hd =>
    simp only [ok_iff, Option.some.injEq] at h
    obtain ⟨_, -, rfl⟩ := h
    exact hd

variable {bytes : Bytes}

lemma decodeAppInfoSevSnp_ok {D : Decoders}
    {mrConfig : Option String} {embedded : String} {i : AppInfo}
    (hparse : SevSnp.parseUnverifiedAmdSnpReport D.snp bytes
      = .ok ⟨r.measurement, r.reportData, r.hostData, r.chipId⟩)
    (hraw : resolveVmConfig vm embedded = .ok raw)
    (h : decodeAppInfoSevSnp D bytes mrConfig embedded vm = .ok i) :
    ∃ doc c, decodedDocument D mrConfig raw = some doc
      ∧ D.json.mrConfigV3 doc = .ok c
      ∧ MrConfigV3.snpHostDataFromDocument doc = r.hostData
      ∧ i = {
        appId := c.appId.getD []
        composeHash := c.composeHash
        instanceId := c.instanceId.getD []
        deviceId := sha256 r.chipId
        mrSystem := sha256 r.measurement
        mrAggregated := sha256 (r.measurement ++ r.hostData)
        osImageHash := i.osImageHash
        keyProviderInfo := keyProviderInfoFromMrConfig c
        initScriptHashes := c.initScriptHashes } := by
  unfold decodeAppInfoSevSnp verifySnpMrConfigHostData at h
  simp only [ok_iff, hparse, hraw, Except.ok.injEq, exists_eq_left'] at h
  obtain ⟨o, ho, doc, rfl, c, ⟨c', hc, _, hhost, rfl⟩, cfg, -, rfl⟩ := h
  refine ⟨doc, c', ?_, hc, hhost, rfl⟩
  cases mrConfig with
  | some d => exact Except.ok.inj ho
  | none => rw [decodedDocument, mrConfigDocumentFromConfig_ok ho]

-- == agreement

lemma mrConfig_eq {mrConfig : Option String} {d₁ d₂ : String} {hd : Bytes} {c₁ c₂ : MrConfigV3}
    (hcf : Sha256.CollisionFreeOn (hashedDocuments V mrConfig raw))
    (hd₁ : launchDocument V.sev raw = some d₁)
    (hd₂ : decodedDocument V.decoders mrConfig raw = some d₂)
    (hh₁ : MrConfigV3.snpHostDataFromDocument d₁ = hd)
    (hh₂ : MrConfigV3.snpHostDataFromDocument d₂ = hd) (hc₁ : V.sev.mrConfigV3 d₁ = .ok c₁)
    (hc₂ : V.decoders.json.mrConfigV3 d₂ = .ok c₂) : c₁ = c₂ := by
  have hdocs : d₁ = d₂ := by
    refine MrConfigV3.document_eq_of_hostData (hcf.mono ?_) (hh₁.trans hh₂.symm)
    simp [hashedDocuments, hd₁, hd₂]
  rw [V.mrConfigV3_eq, hdocs, ← V.json_eq, hc₂] at hc₁
  exact (Except.ok.inj hc₁).symm

lemma verifyWithTime_sevSnp {chain : List Bytes} {s : StackEvidence} {now : Option Nat}
    (hreport : va.report = .dstackAmdSevSnp r)
    (h : AttestationV1.verifyWithTime ⟨.sevSnp bytes chain doc, s⟩
      V.attestationVerifier now = .ok va) :
    va.quote = .dstackAmdSevSnp bytes chain doc
      ∧ SevSnp.parseUnverifiedAmdSnpReport V.decoders.snp bytes
        = .ok ⟨r.measurement, r.reportData, r.hostData, r.chipId⟩ := by
  obtain ⟨hplat, hquote, -, -, -⟩ := AttestationV1.verifyWithTime_ok h
  refine ⟨hquote, ?_⟩
  simp only [verifyPlatform, verifySevSnp, ok_iff, hreport,
    DstackVerifiedReport.dstackAmdSevSnp.injEq] at hplat
  obtain ⟨_, ⟨verified, hfetch, _, -, rfl⟩, rfl⟩ := hplat
  rw [V.snp_eq]
  exact SevSnp.fetchAndVerify_ok hfetch

lemma verifyOsImageHash_sevSnp {chain : List Bytes} {cfg : VmConfig}
    (hquote : va.quote = .dstackAmdSevSnp bytes chain doc)
    (hreport : va.report = .dstackAmdSevSnp r) (hraw : resolveVmConfig vm va.config = .ok raw)
    (h : verifyOsImageHash V vm va = .ok cfg) :
    ∃ launch, verifySevLaunch V.sev r.measurement r.hostData raw = .ok launch
      ∧ cfg.osImageHash = launch.osImageHash := by
  unfold verifyOsImageHash verifyOsImageHashForDstackSev at h
  rw [hquote, hreport, hraw] at h
  simp only [ok_iff, Except.ok.injEq, exists_eq_left', amdSnpReport, Option.some.injEq] at h
  obtain ⟨vmConfig, -, launch, hlaunch, rfl⟩ := h
  exact ⟨launch, hlaunch, rfl⟩

lemma policyBootInfo_eq_build {chain : List Bytes}
    {s : StackEvidence} {now : Option Nat} {mrConfig : Option String}
    {cfg : VmConfig} {i : AppInfo} {b : BootInfo} (hreport : va.report = .dstackAmdSevSnp r)
    (hverify : AttestationV1.verifyWithTime ⟨.sevSnp bytes chain doc, s⟩
      V.attestationVerifier now = .ok va) (hraw : resolveVmConfig vm va.config = .ok raw)
    (hcf : Sha256.CollisionFreeOn (hashedDocuments V mrConfig raw))
    (hdecode : decodeAppInfoSevSnp V.decoders bytes mrConfig va.config vm = .ok i)
    (himage : verifyOsImageHash V vm va = .ok cfg)
    (hbuild : buildAmdSnpBootInfoFromVerifiedAttestationAndVmConfig V.sev va raw
      = .ok b) :
    policyBootInfoFromVerifiedAppInfo va { i with osImageHash := cfg.osImageHash }
      = b := by
  obtain ⟨hquote, hparse⟩ := verifyWithTime_sevSnp hreport hverify
  obtain ⟨launch, hlaunch, rfl⟩ := (buildAmdSnp_ok hreport).mp hbuild
  obtain ⟨launch', hlaunch', himg⟩ :=
    verifyOsImageHash_sevSnp hquote hreport hraw himage
  have hsame : launch' = launch := by
    rw [hlaunch] at hlaunch'
    exact (Except.ok.inj hlaunch').symm
  obtain ⟨d₁, hd₁, hc₁, hh₁⟩ := verifySevLaunch_document hlaunch
  obtain ⟨d₂, c, hd₂, hc₂, hh₂, hi⟩ := decodeAppInfoSevSnp_ok hparse hraw hdecode
  have hconfig : launch.mrConfig = c := mrConfig_eq hcf hd₁ hd₂ hh₁ hh₂ hc₁ hc₂
  rw [hi, himg, hsame, ← hconfig]
  simp only [policyBootInfoFromVerifiedAppInfo, PolicyBootInfo.fromAppInfo,
    policyTcbFields, hreport, hquote, variant, snpBootInfo]

/-- The KMS builds boot information for an SEV-SNP guest exactly when
the launch verifies, and then it is the verifier's policy input in every
field: with the document of the verified quote, or with none. -/
theorem kms_verifier_agree (hreport : va.report = .dstackAmdSevSnp r) :
    (∀ raw, (∃ b, buildAmdSnpBootInfoFromVerifiedAttestationAndVmConfig V.sev va raw
          = .ok b)
        ↔ ∃ launch, verifySevLaunch V.sev r.measurement r.hostData raw = .ok launch)
      ∧ ∀ (bytes : Bytes) (chain : List Bytes) (doc : String) (s : StackEvidence)
          (now : Option Nat),
        AttestationV1.verifyWithTime ⟨.sevSnp bytes chain doc, s⟩
          V.attestationVerifier now = .ok va →
        ∀ (vm raw : String) (cfg : VmConfig) (i : AppInfo) (b : BootInfo),
          resolveVmConfig vm va.config = .ok raw →
          verifyOsImageHash V vm va = .ok cfg →
          buildAmdSnpBootInfoFromVerifiedAttestationAndVmConfig V.sev va raw = .ok b →
          (Sha256.CollisionFreeOn (hashedDocuments V (some doc) raw) →
            va.decodeAppInfoEx V.decoders false vm = .ok i →
            policyBootInfoFromVerifiedAppInfo va
              { i with osImageHash := cfg.osImageHash } = b)
          ∧ (Sha256.CollisionFreeOn (hashedDocuments V none raw) →
            decodeAppInfoSevSnp V.decoders bytes none va.config vm = .ok i →
            policyBootInfoFromVerifiedAppInfo va
              { i with osImageHash := cfg.osImageHash } = b) := by
  refine ⟨fun raw => ?_, ?_⟩
  · simp only [buildAmdSnp_ok hreport]
    constructor
    · rintro ⟨b, launch, hlaunch, -⟩
      exact ⟨launch, hlaunch⟩
    · rintro ⟨launch, hlaunch⟩
      exact ⟨_, launch, hlaunch, rfl⟩
  · intro bytes chain doc s now hverify vm raw cfg i b hraw himage hbuild
    refine ⟨fun hcf hdecode => ?_, fun hcf hdecode => ?_⟩
    · have hquote := (verifyWithTime_sevSnp hreport hverify).1
      unfold Attestation.decodeAppInfoEx decodeAppInfoWith at hdecode
      rw [context_eq_ok, hquote] at hdecode
      exact policyBootInfo_eq_build hreport hverify hraw hcf hdecode himage hbuild
    · exact policyBootInfo_eq_build hreport hverify hraw hcf hdecode himage hbuild

-- == a sample launch

/-- `measurement.snp.cbor` of a sample image. -/
def sampleMeasurementCbor : Bytes :=
  [0xa8, 0x67] ++ utf8 "version" ++ [0x03, 0x67] ++ utf8 "cmdline"
    ++ [0x78, 0x53] ++ utf8 "dstack.rootfs_hash=" ++ List.replicate 64 0x61
    ++ [0x69] ++ utf8 "ovmf_hash" ++ [0x58, 0x30] ++ List.replicate 48 0x01
    ++ [0x6b] ++ utf8 "kernel_hash" ++ [0x58, 0x20] ++ List.replicate 32 0x02
    ++ [0x6b] ++ utf8 "initrd_hash" ++ [0x58, 0x20] ++ List.replicate 32 0x03
    ++ [0x70] ++ utf8 "hashes_table_gpa" ++ [0x19, 0x10, 0x00]
    ++ [0x69] ++ utf8 "reset_eip" ++ [0x19, 0x20, 0x00]
    ++ [0x6d] ++ utf8 "ovmf_sections" ++ [0x81, 0xa3, 0x63] ++ utf8 "gpa"
    ++ [0x19, 0x10, 0x00, 0x64] ++ utf8 "size" ++ [0x19, 0x10, 0x00, 0x64]
    ++ utf8 "type" ++ [0x10]

def sampleImage : SevOsImageMeasurement where
  baseCmdline := "dstack.rootfs_hash=" ++ String.ofList (List.replicate 64 'a')
  ovmfHash := List.replicate 48 0x01
  kernelHash := List.replicate 32 0x02
  initrdHash := List.replicate 32 0x03
  sevHashesTableGpa := 0x1000
  sevEsResetEip := 0x2000
  ovmfSections := [⟨0x1000, 0x1000, 0x10⟩]

/-- `sha256sum.txt` of the image, listing the measurement. -/
def sampleChecksumFile : Bytes :=
  utf8 ("d7d05d4aee29e5c403d90ae1ae0411a8f6c9bfdd1a80d1d030b6ad4ef301bd68"
    ++ "  measurement.snp.cbor\n")

def sampleMeasurementText : String :=
  "\x7b\"checksum_file\":\"" ++
    "ZDdkMDVkNGFlZTI5ZTVjNDAzZDkwYWUxYWUwNDExYThmNmM5YmZkZDFhODBkMWQwMzBiNmFk" ++
    "NGVmMzAxYmQ2OCAgbWVhc3VyZW1lbnQuc25wLmNib3IK" ++
    "\",\"measurement\":\"" ++
    "qGd2ZXJzaW9uA2djbWRsaW5leFNkc3RhY2sucm9vdGZzX2hhc2g9YWFhYWFhYWFhYWFhYWFh" ++
    "YWFhYWFhYWFhYWFhYWFhYWFhYWFhYWFhYWFhYWFhYWFhYWFhYWFhYWFhYWFhYWFhYWlvdm1m" ++
    "X2hhc2hYMAEBAQEBAQEBAQEBAQEBAQEBAQEBAQEBAQEBAQEBAQEBAQEBAQEBAQEBAQEBAQEB" ++
    "AWtrZXJuZWxfaGFzaFggAgICAgICAgICAgICAgICAgICAgICAgICAgICAgICAgJraW5pdHJk" ++
    "X2hhc2hYIAMDAwMDAwMDAwMDAwMDAwMDAwMDAwMDAwMDAwMDAwMDcGhhc2hlc190YWJsZV9n" ++
    "cGEZEABpcmVzZXRfZWlwGSAAbW92bWZfc2VjdGlvbnOBo2NncGEZEABkc2l6ZRkQAGR0eXBl" ++
    "EA==" ++
    "\",\"vcpus\":1,\"vcpu_type\":\"EPYC-v4\",\"guest_features\":1\x7d"

def sampleDocumentText : String :=
  "\x7b\"app_id\":" ++ jsonString (hexEncode (List.replicate 20 0x11)) ++
    ",\"compose_hash\":" ++ jsonString (hexEncode (List.replicate 32 0x22)) ++
    ",\"instance_id\":" ++ jsonString (hexEncode (List.replicate 20 0x33)) ++
    ",\"key_provider\":\"none\",\"version\":3\x7d"

def sampleVmConfig : String :=
  "\x7b\"os_image_hash\":" ++ jsonString (hexEncode (sha256 sampleChecksumFile)) ++
    ",\"sev_snp_measurement\":" ++ jsonString sampleMeasurementText ++
    ",\"mr_config\":" ++ jsonString sampleDocumentText ++ "\x7d"

def sampleMrConfig : MrConfigV3 where
  version := 3
  appId := some (List.replicate 20 0x11)
  composeHash := List.replicate 32 0x22
  gpuPolicyHash := none
  keyProvider := .none
  keyProviderId := none
  instanceId := some (List.replicate 20 0x33)
  initScriptHashes := none

def sampleFormats : Formats where
  vmConfig _ := .ok ⟨sha256 sampleChecksumFile, some sampleMeasurementText,
    some sampleDocumentText⟩
  measurementDocument _ :=
    .ok ⟨sampleChecksumFile, sampleMeasurementCbor, 1, some "EPYC-v4", 1⟩
  mrConfigV3 _ := .ok sampleMrConfig
  cbor := ⟨fun _ => .error "not CBOR", fun _ => .error "not CBOR",
    fun bytes => .ok ((3, sampleImage), bytes.length)⟩

def sampleInput : MeasurementInput where
  baseCmdline := sampleImage.baseCmdline
  ovmfHash := hexEncode sampleImage.ovmfHash
  kernelHash := hexEncode sampleImage.kernelHash
  initrdHash := hexEncode sampleImage.initrdHash
  sevHashesTableGpa := 0x1000
  sevEsResetEip := 0x2000
  vcpus := 1
  vcpuType := some "EPYC-v4"
  guestFeatures := 1
  ovmfSections := sampleImage.ovmfSections

def sampleMeasurement : Bytes :=
  (computeExpectedMeasurement sampleInput).toOption.getD []

lemma computeExpectedMeasurement_sample :
    computeExpectedMeasurement sampleInput = .ok sampleMeasurement := by
  have hsome : (computeExpectedMeasurement sampleInput).toOption.isSome = true := by
    decide +kernel
  unfold sampleMeasurement
  cases h : computeExpectedMeasurement sampleInput with
  | error e => rw [h] at hsome; cases hsome
  | ok m => rfl

lemma entryHash_sample :
    Sha256sum.entryHash sampleChecksumFile "measurement.snp.cbor"
      = .ok (sha256 sampleMeasurementCbor) := by
  decide +kernel

lemma validateMeasurementInput_sample :
    validateMeasurementInput sampleInput = .ok () := by
  decide +kernel

lemma measurementInput_sample (checksumFile measurement : Bytes) :
    measurementInputFromSnpDocument sampleFormats
      ⟨checksumFile, measurement, 1, some "EPYC-v4", 1⟩ = .ok sampleInput := by
  unfold measurementInputFromSnpDocument SevOsImageMeasurement.fromCborSlice
    cborFromSlice
  simp only [ok_iff]
  exact ⟨sampleImage, ⟨(3, sampleImage), ⟨((3, sampleImage), measurement.length),
    rfl, (), Nat.sub_self _, rfl⟩, (), rfl, rfl⟩, rfl⟩

lemma parseSnpInputs_sample :
    parseSnpInputsFromVmConfig sampleFormats sampleVmConfig
      = .ok ⟨sampleInput, sampleMeasurementText, sha256 sampleChecksumFile,
        sampleDocumentText⟩ := by
  have hnonempty : sha256 sampleChecksumFile ≠ [] := by
    intro h
    have hlen := sha256_length sampleChecksumFile
    rw [h] at hlen
    simp at hlen
  have hverify : SevOsImageMeasurementDocument.verify
      ⟨sampleChecksumFile, sampleMeasurementCbor⟩ (sha256 sampleChecksumFile)
      = .ok () := by
    unfold SevOsImageMeasurementDocument.verify verifyMeasurementMaterial
    simp [entryHash_sample, imageHashFromSha256sum, bind_eq_ok]
  unfold parseSnpInputsFromVmConfig
  simp only [ok_iff]
  exact ⟨_, rfl, _, rfl, (), hnonempty, _, rfl, (), hverify, _,
    measurementInput_sample _ _, (),
    validateMeasurementInput_sample, _, rfl, _, rfl, rfl⟩

def sampleHostData : Bytes :=
  MrConfigV3.snpHostDataFromDocument sampleDocumentText

def sampleTcb : SevSnp.AmdSnpTcbVersion := ⟨none, 4, 0, 22, 213⟩

def sampleReport : SevSnp.AttestationReport where
  version := 2
  vmpl := 0
  cpuidFamId := none
  cpuidModId := none
  policyDebugAllowed := false
  policyMigrateMaAllowed := false
  policySmtAllowed := true
  policyRaplDis := false
  policyCiphertextHiding := false
  keyInfoMaskChipKey := false
  keyInfoSigningKey := 0
  platSmtEnabled := true
  platRaplDisabled := false
  platCiphertextHidingEnabled := false
  measurement := sampleMeasurement
  reportData := zeros 64
  hostData := sampleHostData
  chipId := zeros 64
  tcbInfo := ⟨sampleTcb, sampleTcb, sampleTcb, sampleTcb⟩

def sampleSnpReport : SevSnp.VerifiedAmdSnpReport :=
  ⟨sampleMeasurement, zeros 64, sampleHostData, zeros 64, sampleReport.tcbInfo, []⟩

def sampleSnpLibrary : SevSnp.Library :=
  ⟨Unit, fun _ => .ok sampleReport, fun _ => .error "", fun _ _ => .ok ((), ()),
    fun _ _ _ => .ok ()⟩

def sampleSnpJson : Json where
  vmConfig _ := .ok { osImageHash := sha256 sampleChecksumFile }
  mrConfigV3 := sampleFormats.mrConfigV3
  mrConfigMember _ := .document sampleDocumentText

def sampleSnpVerifier : CvmVerifier where
  attestationVerifier :=
    { sampleVerifier with sevSnp := sampleSnpLibrary, json := sampleSnpJson }
  decoders := { sampleDecoders with snp := sampleSnpLibrary, json := sampleSnpJson }
  sev := sampleFormats
  verifyTdxLegacy _ _ := .error ""
  verifyTdxLite _ _ := .error ""
  json_eq := rfl
  snp_eq := rfl
  mrConfigV3_eq := rfl

def sampleStack : StackEvidence := ⟨zeros 64, [], sampleVmConfig, none⟩

def sampleVerifiedSnp (bytes : Bytes) : VerifiedAttestation where
  quote := .dstackAmdSevSnp bytes [] sampleDocumentText
  runtimeEvents := []
  reportData := zeros 64
  config := sampleVmConfig
  report := .dstackAmdSevSnp sampleSnpReport

lemma fieldPrefix_full {field : Bytes} {n : Nat} (h : field.length = n)
    (name : String) : SevSnp.fieldPrefix field n name = .ok field := by
  unfold SevSnp.fieldPrefix
  simp only [ok_iff]
  exact ⟨(), Nat.le_of_eq h.symm, List.take_of_length_le (Nat.le_of_eq h)⟩

lemma parsedReport_sample :
    SevSnp.parsedAmdSnpReportFromReport sampleReport
      = .ok ⟨sampleMeasurement, zeros 64, sampleHostData, zeros 64⟩ := by
  unfold SevSnp.parsedAmdSnpReportFromReport
  simp only [ok_iff]
  exact ⟨_, fieldPrefix_full
      (computeExpectedMeasurement_length computeExpectedMeasurement_sample) _,
    _, fieldPrefix_full (by simp [sampleReport]) _,
    _, fieldPrefix_full (sha256_length _) _,
    _, fieldPrefix_full (by simp [sampleReport]) _, rfl⟩

lemma decodeReport_sample (hlen : bytes.length = 1184) :
    SevSnp.decodeAmdSnpReport sampleSnpLibrary bytes = .ok sampleReport := by
  unfold SevSnp.decodeAmdSnpReport
  simp only [ok_iff]
  exact ⟨(), hlen, rfl⟩

lemma fetchAndVerify_sample (hlen : bytes.length = 1184) :
    SevSnp.fetchAndVerify sampleSnpLibrary bytes [] (zeros 64)
      = .ok sampleSnpReport := by
  have hchain : SevSnp.verifyAmdSnpAttestationWithCertChain sampleSnpLibrary
      bytes .genoa ((), ()) = .ok sampleSnpReport := by
    unfold SevSnp.verifyAmdSnpAttestationWithCertChain
    simp only [ok_iff]
    exact ⟨_, decodeReport_sample hlen, (), rfl, (), rfl, _, parsedReport_sample,
      rfl⟩
  unfold SevSnp.fetchAndVerify SevSnp.verifyAgainstProducts
  rw [if_pos rfl]
  simp only [ok_iff]
  refine ⟨_, ⟨_, decodeReport_sample hlen, [.genoa, .milan, .turin], rfl, ?_⟩, (),
    rfl, rfl⟩
  have hfirst : (sampleSnpLibrary.fetchCollateralForProduct .genoa sampleReport >>= fun certs =>
      SevSnp.verifyAmdSnpAttestationWithCertChain sampleSnpLibrary bytes .genoa certs)
      = .ok sampleSnpReport := hchain
  rw [SevSnp.verifyCandidates, hfirst]

lemma hostDataCheck_sample :
    verifySnpMrConfigHostData sampleSnpJson sampleDocumentText sampleHostData
      = .ok sampleMrConfig := by
  unfold verifySnpMrConfigHostData
  simp only [ok_iff]
  exact ⟨_, rfl, (), rfl, rfl⟩

lemma verifyWithTime_sample (hlen : bytes.length = 1184) :
    AttestationV1.verifyWithTime
      ⟨.sevSnp bytes [] sampleDocumentText, sampleStack⟩
      sampleSnpVerifier.attestationVerifier none = .ok (sampleVerifiedSnp bytes) := by
  have hplat : verifyPlatform sampleSnpVerifier.attestationVerifier
      ⟨.sevSnp bytes [] sampleDocumentText, sampleStack⟩ (zeros 64) 0
      = .ok (.dstackAmdSevSnp sampleSnpReport) := by
    simp only [verifyPlatform, verifySevSnp, ok_iff]
    exact ⟨_, ⟨_, fetchAndVerify_sample hlen, _, hostDataCheck_sample, rfl⟩, rfl⟩
  unfold AttestationV1.verifyWithTime StackEvidence.decodeReportData
  simp only [ok_iff]
  exact ⟨(), rfl, _, ⟨(), by simp [sampleStack], rfl⟩, _, hplat, (), rfl, rfl⟩

lemma verifySevLaunch_sample :
    verifySevLaunch sampleFormats sampleMeasurement sampleHostData sampleVmConfig
      = .ok ⟨sha256 sampleChecksumFile, sampleMrConfig⟩ := by
  have hbinding : validateSnpMrConfigBinding sampleFormats sampleHostData
      sampleDocumentText = .ok sampleMrConfig := by
    unfold validateSnpMrConfigBinding
    simp only [ok_iff]
    exact ⟨_, rfl, (), rfl, (), by decide, rfl⟩
  exact verifySevLaunch_ok.mpr ⟨_, parseSnpInputs_sample,
    validateMeasurementInput_sample, computeExpectedMeasurement_sample, hbinding, rfl⟩

lemma resolveVmConfig_sample :
    resolveVmConfig "" sampleVmConfig = .ok sampleVmConfig := by
  rw [resolveVmConfig, if_pos rfl]

lemma verifyOsImageHash_sample (bytes : Bytes) :
    verifyOsImageHash sampleSnpVerifier "" (sampleVerifiedSnp bytes)
      = .ok { osImageHash := sha256 sampleChecksumFile } := by
  have hconfig : decodeVmConfigWithFallback sampleSnpVerifier.decoders
      sampleVmConfig sampleVmConfig
      = .ok { osImageHash := sha256 sampleChecksumFile } := by
    unfold decodeVmConfigWithFallback
    rw [resolveVmConfig_idem resolveVmConfig_sample]
    rfl
  unfold verifyOsImageHash
  simp only [ok_iff]
  refine ⟨_, resolveVmConfig_sample, _, hconfig, ?_⟩
  show verifyOsImageHashForDstackSev _ _ _ _ = _
  unfold verifyOsImageHashForDstackSev
  simp only [ok_iff]
  exact ⟨_, rfl, _, verifySevLaunch_sample, rfl⟩

def sampleAppInfo : AppInfo where
  appId := List.replicate 20 0x11
  composeHash := List.replicate 32 0x22
  instanceId := List.replicate 20 0x33
  deviceId := sha256 (zeros 64)
  mrSystem := sha256 sampleMeasurement
  mrAggregated := sha256 (sampleMeasurement ++ sampleHostData)
  osImageHash := sha256 sampleChecksumFile
  keyProviderInfo := keyProviderInfoFromMrConfig sampleMrConfig
  initScriptHashes := none

lemma decodeAppInfoEx_sample (hlen : bytes.length = 1184) :
    (sampleVerifiedSnp bytes).decodeAppInfoEx sampleSnpVerifier.decoders false ""
      = .ok sampleAppInfo := by
  have hparse : SevSnp.parseUnverifiedAmdSnpReport sampleSnpLibrary bytes
      = .ok ⟨sampleMeasurement, zeros 64, sampleHostData, zeros 64⟩ := by
    unfold SevSnp.parseUnverifiedAmdSnpReport
    rw [bind_eq_ok]
    exact ⟨_, decodeReport_sample hlen, parsedReport_sample⟩
  unfold Attestation.decodeAppInfoEx
  rw [context_eq_ok]
  show decodeAppInfoSevSnp _ bytes (some sampleDocumentText) sampleVmConfig "" = _
  unfold decodeAppInfoSevSnp
  simp only [ok_iff]
  exact ⟨_, hparse, _, resolveVmConfig_sample, _, rfl, _, rfl, _,
    hostDataCheck_sample, _, rfl, rfl⟩

/-- The KMS and the verifier on one sample guest. -/
theorem sample_launch_agrees :
    policyBootInfoFromVerifiedAppInfo (sampleVerifiedSnp (zeros 1184))
        { sampleAppInfo with osImageHash := sha256 sampleChecksumFile }
      = snpBootInfo sampleSnpReport ⟨sha256 sampleChecksumFile, sampleMrConfig⟩ := by
  have hlen : (zeros 1184).length = 1184 := zeros_length _
  have hreport : (sampleVerifiedSnp (zeros 1184)).report
      = .dstackAmdSevSnp sampleSnpReport := rfl
  have hbuild : buildAmdSnpBootInfoFromVerifiedAttestationAndVmConfig
      sampleSnpVerifier.sev (sampleVerifiedSnp (zeros 1184)) sampleVmConfig
      = .ok (snpBootInfo sampleSnpReport
        ⟨sha256 sampleChecksumFile, sampleMrConfig⟩) :=
    (buildAmdSnp_ok hreport).mpr ⟨_, verifySevLaunch_sample, rfl⟩
  have hcf : Sha256.CollisionFreeOn
      (hashedDocuments sampleSnpVerifier (some sampleDocumentText)
        sampleVmConfig) := by
    -- both sides hash the one document
    show Sha256.CollisionFreeOn [MrConfigV3.documentPreimage sampleDocumentText,
      MrConfigV3.documentPreimage sampleDocumentText]
    intro a ha b hb _
    simp only [List.mem_cons, List.not_mem_nil, or_false, or_self] at ha hb
    rw [ha, hb]
  exact ((kms_verifier_agree hreport).2 _ _ _ _ _ (verifyWithTime_sample hlen) _ _ _ _ _
    resolveVmConfig_sample (verifyOsImageHash_sample _) hbuild).1 hcf
    (decodeAppInfoEx_sample hlen)

end Dstack.Kms
