/-
Attestation verification (`AttestationV1::verify_with_time`).

The platforms differ in what ties the runtime events to the quote. TDX
replays them against RTMR3, GCP against RTMR3 and the TPM's PCR 14,
NitroTPM against the signed PCR 14. A Nitro Enclave has no such
register and an SEV-SNP guest's identity is in its launch document, so
there the events are not replayed at all.
-/
import Dstack.Attest.Evidence

namespace Dstack.Attest

open Lib EventLog

-- == report data

inductive QuoteContentType where
  | kmsRootCa
  | raTlsCert
  | appData
  | custom (tag : String)

def QuoteContentType.tag : QuoteContentType → String
  | .kmsRootCa => "kms-root-ca"
  | .raTlsCert => "ratls-cert"
  | .appData => "app-data"
  | .custom tag => tag

def QuoteContentType.toReportData (t : QuoteContentType) (content : Bytes) :
    Bytes :=
  sha512 (utf8 t.tag ++ utf8 ":" ++ content)

def StackEvidence.decodeReportData (s : StackEvidence) : Result Bytes := do
  Result.ensure (s.reportData.length = 64) "stack.report_data must be 64 bytes"
  pure s.reportData

-- == TDX

def validateTd10 (report : TDReport10) : Result Unit := do
  Result.ensure (((report.tdAttributes.getD 0 0).toNat &&& 0x01) = 0)
    "Debug mode is not allowed"
  Result.ensure (report.mrSignerSeam = zeros 48) "Invalid mr signer seam"

def validateTcb (report : TdxVerifiedReport) : Result Unit :=
  match report.report with
  | .td15 base mrServiceTd => do
      Result.ensure (mrServiceTd = zeros 48) "Invalid mr service td"
      validateTd10 base
  | .td10 report => validateTd10 report
  | .sgxEnclave attributes =>
    Result.ensure (((attributes.getD 0 0).toNat &&& 0x02) = 0)
      "Debug mode is not allowed"

def verifyTdxQuoteWithEvents (v : AttestationVerifier) (quote : Bytes)
    (runtimeEvents : List RuntimeEvent) (reportData : Bytes) :
    Result TdxVerifiedReport := do
  let tdxReport ← (v.verifyTdxQuote quote).context "failed to verify TDX quote"
  validateTcb tdxReport
  let tdReport ← Result.ofOption tdxReport.report.asTd10 "no td report"
  let replayedRtmr := replayEvents Sha384 runtimeEvents none
  Result.ensure (replayedRtmr = tdReport.rtMr3)
    ("RTMR3 mismatch, quoted: " ++ hexEncode tdReport.rtMr3 ++ ", replayed: "
      ++ hexEncode replayedRtmr)
  Result.ensure (tdReport.reportData = reportData) "tdx report_data mismatch"
  pure tdxReport

-- == TPM

def fetchAndVerifyTpm (v : AttestationVerifier) (quote : Tpm.TpmQuote) :
    Result Tpm.VerifiedReport := do
  let collateral ← v.tpmCollateral quote
  (Tpm.verifyQuoteWithCa v.tpmCrypto quote collateral v.tpmRootCaPem).mapError
    fun e => "verification failed: " ++ e.error

def gcpRuntimePcr : Nat := 14

def awsNitroTpmEventPcr : Nat := 14

/-- Verify the TPM quote of a GCP guest: it must vouch for the TDX quote
and its PCR 14 must be the replayed runtime events. -/
def verifyGcpTpm (v : AttestationVerifier) (quote : Bytes)
    (tpmQuote : Tpm.TpmQuote) (runtimeEvents : List RuntimeEvent) :
    Result Tpm.VerifiedReport := do
  let tpmReport ← (fetchAndVerifyTpm v tpmQuote).context
    "failed to verify TPM quote"
  Result.ensure (tpmReport.attest.qualifiedData = sha256 quote)
    "tpm qualified_data mismatch"
  let replayedRtPcr := replayEvents Sha256 runtimeEvents none
  let quotedRtPcr ← (tpmReport.getPcr gcpRuntimePcr).context
    "no runtime PCR in TPM report"
  Result.ensure (replayedRtPcr = quotedRtPcr)
    ("PCR" ++ toString gcpRuntimePcr ++ " mismatch, quoted: "
      ++ hexEncode quotedRtPcr ++ ", replayed: " ++ hexEncode replayedRtPcr)
  pure tpmReport

-- == Nitro

def NitroPcrs.fromPcrs (pcrs : List (Nat × Bytes)) : Result NitroPcrs := do
  let pcr0 ← Result.ofOption (pcrs.lookup 0) "PCR 0 not found"
  let pcr1 ← Result.ofOption (pcrs.lookup 1) "PCR 1 not found"
  let pcr2 ← Result.ofOption (pcrs.lookup 2) "PCR 2 not found"
  let pcr4 ← Result.ofOption (pcrs.lookup 4) "PCR 4 not found"
  pure { pcr0, pcr1, pcr2, pcr4 }

def verifyNitroEnclave (v : AttestationVerifier) (nsmQuote reportData : Bytes)
    (now : Nat) : Result NitroVerifiedReport := do
  let verifiedReport ← (v.awsNitroEnclave.verify nsmQuote none now).context
    "NSM attestation verification failed"
  let userData ← Result.ofOption verifiedReport.userData
    "NSM attestation document does not contain user_data"
  Result.ensure (userData = reportData)
    "NSM user_data does not match report_data"
  let pcrs ← (NitroPcrs.fromPcrs verifiedReport.pcrs).context
    "verified NSM report missing PCR0/1/2/4"
  pure {
    moduleId := verifiedReport.moduleId
    pcrs
    userData
    timestamp := verifiedReport.timestamp }

def awsNitroTpmPcr (pcrs : List (Nat × Bytes)) (index : Nat) : Result Bytes :=
  Result.ofOption (pcrs.lookup index) ("PCR " ++ toString index ++ " not found")

def awsNitroTpmReplayedEventPcr (runtimeEvents : List RuntimeEvent)
    (boottimeMr : Bool) : Bytes :=
  replayEvents Sha384 runtimeEvents (if boottimeMr then some "boot-mr-done" else none)

def awsNitroTpmVerifyEventPcr (pcrs : List (Nat × Bytes))
    (runtimeEvents : List RuntimeEvent) : Result Unit := do
  let quoted ← awsNitroTpmPcr pcrs awsNitroTpmEventPcr
  let replayed := awsNitroTpmReplayedEventPcr runtimeEvents false
  Result.ensure (quoted = replayed)
    ("PCR" ++ toString awsNitroTpmEventPcr ++ " mismatch, quoted: "
      ++ hexEncode quoted ++ ", replayed: " ++ hexEncode replayed)

def verifyAwsNitroTpmAttestationDoc (v : AttestationVerifier)
    (attestationDoc : Bytes) (runtimeEvents : List RuntimeEvent)
    (reportData : Bytes) (now : Nat) : Result AwsNitroTpmVerifiedReport := do
  let verifiedReport ← (v.awsNitroTpm.verify attestationDoc none now).context
    "COSE attestation document verification failed"
  let userData ← Result.ofOption verifiedReport.userData
    "NitroTPM attestation document does not contain user_data"
  Result.ensure (userData = reportData)
    "NitroTPM user_data does not match report_data"
  awsNitroTpmVerifyEventPcr verifiedReport.pcrs runtimeEvents
  pure {
    moduleId := verifiedReport.moduleId
    pcrs := verifiedReport.pcrs
    publicKey := verifiedReport.publicKey
    userData
    nonce := verifiedReport.nonce
    timestamp := verifiedReport.timestamp }

-- == SEV-SNP

def verifySnpMrConfigHostData (json : Json) (document : String)
    (hostData : Bytes) : Result MrConfigV3 := do
  let mrConfig ← (json.mrConfigV3 document).context
    "Invalid amd sev-snp mr_config document"
  let expected := MrConfigV3.snpHostDataFromDocument document
  Result.ensure (expected = hostData)
    ("amd sev-snp HOST_DATA mismatch, quoted: " ++ hexEncode hostData
      ++ ", expected: " ++ hexEncode expected)
  pure mrConfig

def verifySevSnp (v : AttestationVerifier) (report : Bytes)
    (certChain : List Bytes) (mrConfig : String) (reportData : Bytes) :
    Result SevSnp.VerifiedAmdSnpReport := do
  let verified ← SevSnp.fetchAndVerify v.sevSnp report certChain reportData
  let _ ← verifySnpMrConfigHostData v.json mrConfig verified.hostData
  pure verified

-- == verification

def checkReportDataPayload (stack : StackEvidence) : Result Unit :=
  match stack.reportDataPayload with
  | none => .ok ()
  | some payload => do
      let reportData ← stack.decodeReportData
      Result.ensure (reportData = QuoteContentType.appData.toReportData (utf8 payload))
        "report_data does not match report_data_payload"

def verifyPlatform (v : AttestationVerifier) (a : AttestationV1)
    (reportData : Bytes) (now : Nat) : Result DstackVerifiedReport :=
  match a.platform with
  | .tdx quote _ => do
      let report ← verifyTdxQuoteWithEvents v quote a.stack.runtimeEvents reportData
      pure (.dstackTdx report)
  | .gcpTdx quote _ tpmQuote => do
      let tdxReport ←
        verifyTdxQuoteWithEvents v quote a.stack.runtimeEvents reportData
      let tpmReport ← verifyGcpTpm v quote tpmQuote a.stack.runtimeEvents
      pure (.dstackGcpTdx tdxReport tpmReport)
  | .nitroEnclave nsmQuote => do
      let report ← verifyNitroEnclave v nsmQuote reportData now
      pure (.dstackNitroEnclave report)
  | .awsNitroTpm attestationDoc => do
      let report ← (verifyAwsNitroTpmAttestationDoc v attestationDoc
        a.stack.runtimeEvents reportData now).context
        "NitroTPM attestation verification failed"
      pure (.dstackAwsNitroTpm report)
  | .sevSnp report certChain mrConfig => do
      let verified ← verifySevSnp v report certChain mrConfig reportData
      pure (.dstackAmdSevSnp verified)

def validateEventLog : PlatformEvidence → Result Unit
  | .tdx _ eventLog | .gcpTdx _ eventLog _ =>
    (validateV2Preimages eventLog).context
      "Failed to validate TDX V2 event digest preimages"
  | _ => .ok ()

def AttestationV1.verifyWithTime (a : AttestationV1) (v : AttestationVerifier)
    (now : Option Nat) : Result VerifiedAttestation := do
  checkReportDataPayload a.stack
  let reportData ← a.stack.decodeReportData
  let report ← verifyPlatform v a reportData (now.getD v.clock)
  validateEventLog a.platform
  pure {
    quote := platformIntoLegacyQuote a.platform
    runtimeEvents := a.stack.runtimeEvents
    reportData
    config := a.stack.config
    report }

/-- A successful verification, inverted: the platform evidence verified
against the stack evidence, and the result repeats what it verified. -/
lemma AttestationV1.verifyWithTime_ok {a : AttestationV1}
    {v : AttestationVerifier} {now : Option Nat} {va : VerifiedAttestation}
    (h : a.verifyWithTime v now = .ok va) :
    verifyPlatform v a a.stack.reportData (now.getD v.clock) = .ok va.report
      ∧ va.quote = platformIntoLegacyQuote a.platform
      ∧ va.runtimeEvents = a.stack.runtimeEvents
      ∧ va.reportData = a.stack.reportData
      ∧ va.config = a.stack.config := by
  unfold AttestationV1.verifyWithTime StackEvidence.decodeReportData at h
  simp only [ok_iff] at h
  obtain ⟨_, -, reportData, ⟨_, -, rfl⟩, report, hreport, _, -, rfl⟩ := h
  exact ⟨hreport, rfl, rfl, rfl, rfl⟩

end Dstack.Attest
