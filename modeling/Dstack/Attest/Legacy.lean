/-
The legacy attestation and its own decoder and verifier
(`impl Attestation` in `dstack-attest/src/attestation.rs`).

The source has decoding and verification twice: on the legacy schema,
matching on its quote, and on the current one, matching on the platform
evidence. `AppInfo.lean` states decoding once for both; here each copy
is written out as the source has it. What is shared below is what the
source shares: the free functions both copies call.
-/
import Dstack.Attest.AppInfo

namespace Dstack.Attest

open Lib EventLog

-- == the two schemas

/-- A legacy attestation: its report data is a `[u8; 64]`. -/
structure LegacyAttestation extends Attestation Unit where
  reportData_length : reportData.length = 64

def platformFromLegacyQuote : AttestationQuote → PlatformEvidence
  | .dstackTdx quote eventLog => .tdx quote eventLog
  | .dstackAmdSevSnp report certChain mrConfig => .sevSnp report certChain mrConfig
  | .dstackGcpTdx quote eventLog tpmQuote => .gcpTdx quote eventLog tpmQuote
  | .dstackNitroEnclave nsmQuote => .nitroEnclave nsmQuote
  | .dstackAwsNitroTpm attestationDoc => .awsNitroTpm attestationDoc

/-- The current form of a legacy attestation (`into_v1`). -/
def LegacyAttestation.intoV1 (a : LegacyAttestation) : AttestationV1 where
  platform := platformFromLegacyQuote a.quote
  stack := {
    reportData := a.reportData
    runtimeEvents := a.runtimeEvents
    config := a.config
    reportDataPayload := none }

@[simp] lemma platformIntoLegacyQuote_from (q : AttestationQuote) :
    platformIntoLegacyQuote (platformFromLegacyQuote q) = q := by
  cases q <;> rfl

@[simp] lemma platformFromLegacyQuote_into (p : PlatformEvidence) :
    platformFromLegacyQuote (platformIntoLegacyQuote p) = p := by
  cases p <;> rfl

-- == the decoder's own quotes

/-- The PCRs of an enclave's raw document
(`DstackNitroQuote::decode_pcrs`). -/
def decodeNitroPcrs (D : Decoders) (nsmQuote : Bytes) : Result NitroPcrs := do
  let pcrs ← (D.nsmPcrs nsmQuote).context
    "Failed to decode NSM attestation document"
  let pcr0 ← Result.ofOption (pcrs.lookup 0) "PCR 0 not found"
  let pcr1 ← Result.ofOption (pcrs.lookup 1) "PCR 1 not found"
  let pcr2 ← Result.ofOption (pcrs.lookup 2) "PCR 2 not found"
  let pcr4 ← Result.ofOption (pcrs.lookup 4) "PCR 4 not found"
  pure { pcr0, pcr1, pcr2, pcr4 }

/-- The PCRs of a NitroTPM's raw document
(`DstackAwsNitroTpmQuote::decode_pcrs`). -/
def decodeAwsNitroTpmPcrs (D : Decoders) (attestationDoc : Bytes) :
    Result (List (Nat × Bytes)) := do
  let cose ← (Nsm.CoseSign1.fromBytes D.cbor attestationDoc).context
    "failed to decode NitroTPM COSE document"
  let doc ← (Nsm.AttestationDocument.fromCbor D.cbor cose.payload).context
    "failed to decode NitroTPM attestation document"
  pure doc.pcrs

-- == V1's decoder

namespace V1

def decodeMrNitroNsmFromV1 (D : Decoders) (nsmQuote : Bytes) : Result Mrs := do
  let pcrs ← decodeNitroPcrs D nsmQuote
  let mrSystem := sha256 (pcrs.pcr0 ++ pcrs.pcr1 ++ pcrs.pcr2)
  let mrAggregated := mrSystem
  pure { mrSystem, mrAggregated }

def buildAppInfo (runtimeEvents : List RuntimeEvent) (mrs : Mrs)
    (keyProviderInfo osImageHash composeHash : Bytes) : AppInfo where
  appId := payloadOrDefault runtimeEvents "app-id"
  instanceId := payloadOrDefault runtimeEvents "instance-id"
  deviceId := sha256 []
  mrSystem := mrs.mrSystem
  mrAggregated := mrs.mrAggregated
  keyProviderInfo := keyProviderInfo
  osImageHash := osImageHash
  composeHash := composeHash
  initScriptHashes := some (findEventPayloads runtimeEvents "init-script-hash")

/-- The `match &self.platform` of the current decoder. -/
def decodePlatform (D : Decoders) (a : AttestationV1) (boottimeMr : Bool)
    (vmConfig : String) : Result AppInfo :=
  let runtimeEvents := a.stack.runtimeEvents
  let context := nonSnpContext D runtimeEvents a.stack.config boottimeMr vmConfig
  let composeHash := payloadOrDefault runtimeEvents "compose-hash"
  match a.platform with
  | .sevSnp report _ mrConfig =>
    decodeAppInfoSevSnp D report (some mrConfig) a.stack.config vmConfig
  | .tdx quote _ => do
      let ctx ← context
      let mrs ← decodeMrTdx D boottimeMr ctx.mrKeyProvider quote runtimeEvents
      pure (buildAppInfo runtimeEvents mrs ctx.keyProviderInfo ctx.osImageHash
        composeHash)
  | .gcpTdx _ _ tpmQuote => do
      let ctx ← context
      let mrs ← decodeMrGcpTpm boottimeMr ctx.mrKeyProvider ctx.osImageHash
        tpmQuote runtimeEvents
      pure (buildAppInfo runtimeEvents mrs ctx.keyProviderInfo ctx.osImageHash
        composeHash)
  | .nitroEnclave nsmQuote => do
      let ctx ← context
      let mrs ← decodeMrNitroNsmFromV1 D nsmQuote
      pure (buildAppInfo runtimeEvents mrs ctx.keyProviderInfo ctx.osImageHash
        ctx.osImageHash)
  | .awsNitroTpm attestationDoc => do
      let ctx ← context
      let pcrs ← decodeAwsNitroTpmPcrs D attestationDoc
      let mrs ← decodeMrAwsNitroTpmFromPcrs boottimeMr ctx.mrKeyProvider pcrs
        runtimeEvents
      pure (buildAppInfo runtimeEvents mrs ctx.keyProviderInfo ctx.osImageHash
        composeHash)

/-- `AttestationV1::decode_app_info_ex`. -/
def decodeAppInfoEx (D : Decoders) (a : AttestationV1) (boottimeMr : Bool)
    (vmConfig : String) : Result AppInfo :=
  (decodePlatform D a boottimeMr vmConfig).context "decode app info"

end V1

-- == legacy's decoder

/-- What decoding asks of the report type (`trait GetDeviceId`). -/
class GetDeviceId (R : Type) where
  getDeviceId : R → Bytes
  verifiedNitroPcrs : R → Option NitroPcrs := fun _ => none
  verifiedAwsNitroTpmPcrs : R → Option (List (Nat × Bytes)) := fun _ => none

instance : GetDeviceId Unit where
  getDeviceId _ := []

namespace Legacy

open GetDeviceId

section Decode

variable {R : Type}

/-- The loop of the method `find_event`. -/
def findEventIn (name : String) : List RuntimeEvent → Result RuntimeEvent
  | [] => .error ("event " ++ name ++ " not found")
  | e :: es =>
    if e.event = "system-ready" then .error ("event " ++ name ++ " not found")
    else if e.event = name then .ok e
    else findEventIn name es

def findEvent (a : Attestation R) (name : String) : Result RuntimeEvent :=
  findEventIn name a.runtimeEvents

def findEventPayload (a : Attestation R) (event : String) : Result Bytes :=
  (·.payload) <$> findEvent a event

/-- `self.find_event_payload(…).unwrap_or_default()`. -/
def payloadOrDefault (a : Attestation R) (event : String) : Bytes :=
  match findEventPayload a event with
  | .ok payload => payload
  | .error _ => []

def replayRuntimeEvents (H : Hasher) (a : Attestation R)
    (toEvent : Option String) : Bytes :=
  replayEvents H a.runtimeEvents toEvent

def decodeMrGcpTpm (a : Attestation R) (boottimeMr : Bool)
    (mrKeyProvider osImageHash : Bytes) (tpmQuote : Tpm.TpmQuote) :
    Result Mrs := do
  let mrSystem := sha256 (osImageHash ++ mrKeyProvider)
  let pcr0 ← Result.ofOption (tpmQuote.pcrValues.find? (·.index = 0))
    "PCR 0 not found"
  let pcr2 ← Result.ofOption (tpmQuote.pcrValues.find? (·.index = 2))
    "PCR 2 not found"
  let runtimePcr := replayRuntimeEvents Sha256 a (bootMrStop boottimeMr)
  let mrAggregated := sha256 (pcr0.value ++ pcr2.value ++ runtimePcr)
  pure { mrSystem, mrAggregated }

def decodeMrTdx (D : Decoders) (a : Attestation R) (boottimeMr : Bool)
    (mrKeyProvider quote : Bytes) : Result Mrs := do
  let report ← (D.parseTdxQuote quote).context "Failed to parse quote"
  let rtmr3 := replayRuntimeEvents Sha384 a (bootMrStop boottimeMr)
  let td ← Result.ofOption report.asTd10 "TDX report not found"
  let mrSystem := sha256
    (td.mrTd ++ td.rtMr0 ++ td.rtMr1 ++ td.rtMr2 ++ mrKeyProvider)
  let config :=
    if td.mrConfigId ≠ zeros 48 ∨ td.mrOwner ≠ zeros 48
        ∨ td.mrOwnerConfig ≠ zeros 48
    then td.mrConfigId ++ td.mrOwner ++ td.mrOwnerConfig else []
  let mrAggregated := sha256
    (td.mrTd ++ td.rtMr0 ++ td.rtMr1 ++ td.rtMr2 ++ rtmr3 ++ config)
  pure { mrSystem, mrAggregated }

def decodeVmConfig (D : Decoders) (a : Attestation R) (config : String) :
    Result VmConfig :=
  decodeVmConfigWithFallback D config a.config

def nonSnpContext (D : Decoders) (a : Attestation R) (boottimeMr : Bool)
    (vmConfig : String) : Result EventContext := do
  let keyProviderInfo :=
    if boottimeMr then [] else payloadOrDefault a "key-provider"
  let mrKeyProvider :=
    if keyProviderInfo = [] then zeros 32 else sha256 keyProviderInfo
  let vmConfig ← (decodeVmConfig D a vmConfig).context
    "Failed to decode os image hash"
  pure { keyProviderInfo, mrKeyProvider, osImageHash := vmConfig.osImageHash }

variable [GetDeviceId R]

/-- The PCRs the report vouches for; a report that was not verified has
none, and the raw document is parsed. -/
def decodeMrNitroNsm (D : Decoders) (a : Attestation R) (nsmQuote : Bytes) :
    Result Mrs := do
  let pcrs ← match verifiedNitroPcrs a.report with
    | some pcrs => .ok pcrs
    | none => decodeNitroPcrs D nsmQuote
  let mrSystem := sha256 (pcrs.pcr0 ++ pcrs.pcr1 ++ pcrs.pcr2)
  let mrAggregated := mrSystem
  pure { mrSystem, mrAggregated }

def decodeMrAwsNitroTpm (D : Decoders) (a : Attestation R) (boottimeMr : Bool)
    (mrKeyProvider attestationDoc : Bytes) : Result Mrs := do
  let pcrs ← match verifiedAwsNitroTpmPcrs a.report with
    | some pcrs => .ok pcrs
    | none => decodeAwsNitroTpmPcrs D attestationDoc
  decodeMrAwsNitroTpmFromPcrs boottimeMr mrKeyProvider pcrs a.runtimeEvents

def buildAppInfo (a : Attestation R) (mrs : Mrs)
    (keyProviderInfo osImageHash composeHash : Bytes) : AppInfo where
  appId := payloadOrDefault a "app-id"
  instanceId := payloadOrDefault a "instance-id"
  deviceId := sha256 (getDeviceId a.report)
  mrSystem := mrs.mrSystem
  mrAggregated := mrs.mrAggregated
  keyProviderInfo := keyProviderInfo
  osImageHash := osImageHash
  composeHash := composeHash
  initScriptHashes := some (findEventPayloads a.runtimeEvents "init-script-hash")

/-- The `match &self.quote` of the legacy decoder. -/
def decodeQuote (D : Decoders) (a : Attestation R) (boottimeMr : Bool)
    (vmConfig : String) : Result AppInfo :=
  let context := nonSnpContext D a boottimeMr vmConfig
  let composeHash := payloadOrDefault a "compose-hash"
  match a.quote with
  | .dstackAmdSevSnp report _ mrConfig =>
    decodeAppInfoSevSnp D report (some mrConfig) a.config vmConfig
  | .dstackTdx quote _ => do
      let ctx ← context
      let mrs ← decodeMrTdx D a boottimeMr ctx.mrKeyProvider quote
      pure (buildAppInfo a mrs ctx.keyProviderInfo ctx.osImageHash composeHash)
  | .dstackGcpTdx _ _ tpmQuote => do
      let ctx ← context
      let mrs ← decodeMrGcpTpm a boottimeMr ctx.mrKeyProvider ctx.osImageHash
        tpmQuote
      pure (buildAppInfo a mrs ctx.keyProviderInfo ctx.osImageHash composeHash)
  | .dstackNitroEnclave nsmQuote => do
      let ctx ← context
      let mrs ← decodeMrNitroNsm D a nsmQuote
      pure (buildAppInfo a mrs ctx.keyProviderInfo ctx.osImageHash ctx.osImageHash)
  | .dstackAwsNitroTpm attestationDoc => do
      let ctx ← context
      let mrs ← decodeMrAwsNitroTpm D a boottimeMr ctx.mrKeyProvider attestationDoc
      pure (buildAppInfo a mrs ctx.keyProviderInfo ctx.osImageHash composeHash)

/-- `Attestation::decode_app_info_ex`. -/
def decodeAppInfoEx (D : Decoders) (a : Attestation R) (boottimeMr : Bool)
    (vmConfig : String) : Result AppInfo :=
  (decodeQuote D a boottimeMr vmConfig).context "decode app info"

end Decode

-- == legacy's verifier

def variant : AttestationQuote → TeeVariant
  | .dstackTdx _ _ => .dstackTdx
  | .dstackAmdSevSnp _ _ _ => .dstackAmdSevSnp
  | .dstackGcpTdx _ _ _ => .dstackGcpTdx
  | .dstackNitroEnclave _ => .dstackNitroEnclave
  | .dstackAwsNitroTpm _ => .dstackAwsNitroTpm

def verifyTdx (v : AttestationVerifier) (a : Attestation Unit) (quote : Bytes) :
    Result TdxVerifiedReport := do
  let tdxReport ← (v.verifyTdxQuote quote).context "failed to verify TDX quote"
  validateTcb tdxReport
  let tdReport ← Result.ofOption tdxReport.report.asTd10 "no td report"
  let replayedRtmr := replayRuntimeEvents Sha384 a none
  Result.ensure (replayedRtmr = tdReport.rtMr3)
    ("RTMR3 mismatch, quoted: " ++ hexEncode tdReport.rtMr3 ++ ", replayed: "
      ++ hexEncode replayedRtmr)
  Result.ensure (tdReport.reportData = a.reportData) "tdx report_data mismatch"
  pure tdxReport

def verifyTpm (v : AttestationVerifier) (a : Attestation Unit)
    (quote : Tpm.TpmQuote) (qualifyingData : Bytes) :
    Result Tpm.VerifiedReport := do
  let report ← fetchAndVerifyTpm v quote
  let pcrInd ← Result.ofOption
    ((variant a.quote).tpmEventPcrAndBank.map (·.1)) "Failed to get event PCR no"
  let replayedRtPcr := replayRuntimeEvents Sha256 a none
  let quotedRtPcr ← (report.getPcr pcrInd).context "No runtime PCR in TPM report"
  Result.ensure (replayedRtPcr = quotedRtPcr)
    ("PCR" ++ toString pcrInd ++ " mismatch, quoted: " ++ hexEncode quotedRtPcr
      ++ ", replayed: " ++ hexEncode replayedRtPcr)
  Result.ensure (report.attest.qualifiedData = qualifyingData)
    "tpm qualified_data mismatch"
  pure report

def verifyNitroEnclaveWithTime (v : AttestationVerifier) (a : Attestation Unit)
    (nsmQuote : Bytes) (now : Nat) : Result NitroVerifiedReport := do
  let verifiedReport ← (v.awsNitroEnclave.verify nsmQuote none now).context
    "NSM attestation verification failed"
  let userData ← Result.ofOption verifiedReport.userData
    "NSM attestation document does not contain user_data"
  Result.ensure (userData = a.reportData) "NSM user_data does not match report_data"
  let pcrs ← (NitroPcrs.fromPcrs verifiedReport.pcrs).context
    "verified NSM report missing PCR0/1/2/4"
  pure {
    moduleId := verifiedReport.moduleId
    pcrs
    userData
    timestamp := verifiedReport.timestamp }

/-- The `match &self.quote` of the legacy verifier. -/
def verifyQuote (v : AttestationVerifier) (a : Attestation Unit) (now : Nat) :
    Result DstackVerifiedReport :=
  match a.quote with
  | .dstackTdx quote _ => do
      let report ← verifyTdx v a quote
      pure (.dstackTdx report)
  | .dstackAmdSevSnp report certChain mrConfig => do
      let verified ← SevSnp.fetchAndVerify v.sevSnp report certChain a.reportData
      let _ ← verifySnpMrConfigHostData v.json mrConfig verified.hostData
      pure (.dstackAmdSevSnp verified)
  | .dstackGcpTdx quote _ tpmQuote => do
      let tdxReport ← verifyTdx v a quote
      let tpmReport ← (verifyTpm v a tpmQuote (sha256 quote)).context
        "Failed to verify TPM quote"
      pure (.dstackGcpTdx tdxReport tpmReport)
  | .dstackNitroEnclave nsmQuote => do
      let report ← (verifyNitroEnclaveWithTime v a nsmQuote now).context
        "Failed to verify Nitro Enclave"
      pure (.dstackNitroEnclave report)
  | .dstackAwsNitroTpm attestationDoc => do
      let report ← (verifyAwsNitroTpmAttestationDoc v attestationDoc
        a.runtimeEvents a.reportData now).context
        "failed to verify NitroTPM attestation document"
      pure (.dstackAwsNitroTpm report)

def validateQuoteEventLog : AttestationQuote → Result Unit
  | .dstackTdx _ eventLog =>
    (validateV2Preimages eventLog).context
      "Failed to validate TDX V2 event digest preimages"
  | .dstackGcpTdx _ eventLog _ =>
    (validateV2Preimages eventLog).context
      "Failed to validate TDX V2 event digest preimages"
  | _ => .ok ()

/-- `Attestation::verify_with_time`. -/
def verifyWithTime (a : Attestation Unit) (v : AttestationVerifier)
    (now : Option Nat) : Result VerifiedAttestation := do
  let report ← verifyQuote v a (now.getD v.clock)
  validateQuoteEventLog a.quote
  pure {
    quote := a.quote
    runtimeEvents := a.runtimeEvents
    reportData := a.reportData
    config := a.config
    report }

end Legacy

end Dstack.Attest
