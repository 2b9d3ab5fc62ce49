/-
Legacy and current attestations mean the same.

Both copies of the decoder are instances of one body
(`decodeAppInfoWith`): the legacy copy at the view its report type
gives, the current copy at the view of no report. A legacy attestation
that has not been verified gives the same view, so the two answers are
equal, error texts included.

The verifiers differ in more than names. For GCP the current copy checks
the qualifying data before the runtime PCR and the legacy copy after it,
and the contexts they put in front of an error differ on three
platforms. So they fail on the same attestations, but not with the same
text: the comparison is of what they accept.
-/
import Dstack.Attest.Legacy

namespace Dstack.Attest

open Lib EventLog

-- == decoding

namespace Legacy

open GetDeviceId

variable {R : Type} {D : Decoders} {boottimeMr : Bool} {vmConfig : String}

lemma findEventIn_eq (name : String) (es : List RuntimeEvent) :
    findEventIn name es = Attest.findEvent name es := by
  induction es with
  | nil => rfl
  | cons e es ih => rw [findEventIn, Attest.findEvent, ih]

lemma payloadOrDefault_eq (a : Attestation R) (name : String) :
    payloadOrDefault a name = Attest.payloadOrDefault a.runtimeEvents name := by
  unfold payloadOrDefault findEventPayload findEvent
  rw [findEventIn_eq]
  rfl

lemma nonSnpContext_eq (a : Attestation R) :
    nonSnpContext D a boottimeMr vmConfig
      = Attest.nonSnpContext D a.runtimeEvents a.config boottimeMr vmConfig := by
  unfold nonSnpContext Attest.nonSnpContext decodeVmConfig
  rw [payloadOrDefault_eq]

variable [GetDeviceId R]

def view (a : Attestation R) : ReportView where
  deviceId := getDeviceId a.report
  nitroPcrs := verifiedNitroPcrs a.report
  awsNitroTpmPcrs := verifiedAwsNitroTpmPcrs a.report

lemma buildAppInfo_eq (a : Attestation R) (ctx : EventContext) (mrs : Mrs)
    (composeHash : Bytes) :
    buildAppInfo a mrs ctx.keyProviderInfo ctx.osImageHash composeHash
      = Attest.buildAppInfo (view a) a.runtimeEvents ctx mrs composeHash := by
  unfold buildAppInfo Attest.buildAppInfo
  rw [payloadOrDefault_eq, payloadOrDefault_eq]
  rfl

lemma decodeMrNitroNsm_eq (a : Attestation R) (nsmQuote : Bytes) :
    decodeMrNitroNsm D a nsmQuote = (do
      let pcrs ← nitroPcrsOf D (view a) nsmQuote
      pure (Attest.decodeMrNitroNsm pcrs)) := by
  unfold decodeMrNitroNsm nitroPcrsOf view
  cases verifiedNitroPcrs a.report <;> rfl

lemma decodeMrAwsNitroTpm_eq (a : Attestation R)
    (mrKeyProvider attestationDoc : Bytes) :
    decodeMrAwsNitroTpm D a boottimeMr mrKeyProvider attestationDoc = (do
      let pcrs ← awsNitroTpmPcrsOf D (view a) attestationDoc
      decodeMrAwsNitroTpmFromPcrs boottimeMr mrKeyProvider pcrs
        a.runtimeEvents) := by
  unfold decodeMrAwsNitroTpm awsNitroTpmPcrsOf view
  cases verifiedAwsNitroTpmPcrs a.report <;> rfl

lemma decodeQuote_eq (a : Attestation R) :
    decodeQuote D a boottimeMr vmConfig
      = decodeAppInfoWith D (view a) a.quote a.runtimeEvents a.config boottimeMr
          vmConfig := by
  unfold decodeQuote decodeAppInfoWith
  simp only [nonSnpContext_eq, payloadOrDefault_eq, buildAppInfo_eq,
    decodeMrNitroNsm_eq, decodeMrAwsNitroTpm_eq, bind_assoc, pure_bind]
  cases a.quote <;> rfl

end Legacy

lemma V1.decodePlatform_eq (D : Decoders) (a : AttestationV1)
    (boottimeMr : Bool) (vmConfig : String) :
    V1.decodePlatform D a boottimeMr vmConfig
      = decodeAppInfoWith D .unverified (platformIntoLegacyQuote a.platform)
          a.stack.runtimeEvents a.stack.config boottimeMr vmConfig := by
  obtain ⟨platform, stack⟩ := a
  unfold V1.decodePlatform decodeAppInfoWith
  cases platform with
  | nitroEnclave nsmQuote =>
    simp only [V1.decodeMrNitroNsmFromV1, bind_assoc, pure_bind]
    rfl
  | _ => rfl

lemma LegacyAttestation.decode_intoV1 (D : Decoders) (a : LegacyAttestation)
    (boottimeMr : Bool) (vmConfig : String) :
    V1.decodeAppInfoEx D a.intoV1 boottimeMr vmConfig
      = Legacy.decodeAppInfoEx D a.toAttestation boottimeMr vmConfig := by
  unfold V1.decodeAppInfoEx Legacy.decodeAppInfoEx
  rw [V1.decodePlatform_eq, Legacy.decodeQuote_eq]
  unfold LegacyAttestation.intoV1
  rw [platformIntoLegacyQuote_from]
  rfl

-- == verification

lemma Legacy.verifyTpm_ok_iff {v : AttestationVerifier} (a : Attestation Unit)
    {quote : Bytes} {eventLog : List TdxEvent} {tpmQuote : Tpm.TpmQuote}
    (hquote : a.quote = .dstackGcpTdx quote eventLog tpmQuote)
    {report : Tpm.VerifiedReport} :
    verifyTpm v a tpmQuote (sha256 quote) = .ok report
      ↔ verifyGcpTpm v quote tpmQuote a.runtimeEvents = .ok report := by
  unfold verifyTpm verifyGcpTpm
  rw [hquote]
  simp only [ok_iff]
  constructor
  · rintro ⟨r, hr, pcr, hpcr, quoted, hquoted, _, hreplay, _, hdata, rfl⟩
    cases hpcr
    exact ⟨r, hr, (), hdata, quoted, hquoted, (), hreplay, rfl⟩
  · rintro ⟨r, hr, _, hdata, quoted, hquoted, _, hreplay, rfl⟩
    exact ⟨r, hr, 14, rfl, quoted, hquoted, (), hreplay, (), hdata, rfl⟩

lemma Legacy.verifyQuote_ok_iff {v : AttestationVerifier}
    {a : LegacyAttestation} {now : Nat} {report : DstackVerifiedReport} :
    verifyQuote v a.toAttestation now = .ok report
      ↔ verifyPlatform v a.intoV1 a.reportData now = .ok report := by
  obtain ⟨⟨quote, runtimeEvents, reportData, config, unverified⟩, hlength⟩ := a
  unfold verifyQuote verifyPlatform LegacyAttestation.intoV1
  cases quote with
  | dstackTdx quote eventLog => exact Iff.rfl
  | dstackGcpTdx quote eventLog tpmQuote =>
    simp only [platformFromLegacyQuote, ok_iff,
      Legacy.verifyTpm_ok_iff ⟨.dstackGcpTdx quote eventLog tpmQuote, runtimeEvents, reportData,
      config, unverified⟩ rfl]
    exact Iff.rfl
  | dstackNitroEnclave nsmQuote =>
    simp only [platformFromLegacyQuote, ok_iff]
    exact Iff.rfl
  | dstackAwsNitroTpm attestationDoc =>
    simp only [platformFromLegacyQuote, ok_iff]
  | dstackAmdSevSnp report certChain mrConfig =>
    simp only [platformFromLegacyQuote, verifySevSnp, bind_assoc, pure_bind]

lemma Legacy.validateQuoteEventLog_eq (q : AttestationQuote) :
    validateQuoteEventLog q = validateEventLog (platformFromLegacyQuote q) := by
  cases q <;> rfl

lemma LegacyAttestation.verify_intoV1 (a : LegacyAttestation)
    (v : AttestationVerifier) (now : Option Nat) (va : VerifiedAttestation) :
    Legacy.verifyWithTime a.toAttestation v now = .ok va
      ↔ a.intoV1.verifyWithTime v now = .ok va := by
  -- the current copy asks for the length the legacy type has
  have hdata : a.intoV1.stack.decodeReportData = .ok a.reportData := by
    unfold StackEvidence.decodeReportData
    simp only [ok_iff]
    exact ⟨(), a.reportData_length, rfl⟩
  have hpayload : checkReportDataPayload a.intoV1.stack = .ok () := rfl
  unfold Legacy.verifyWithTime AttestationV1.verifyWithTime
  rw [hpayload, hdata, Legacy.validateQuoteEventLog_eq]
  simp only [bind_eq_ok, Legacy.verifyQuote_ok_iff]
  simp [LegacyAttestation.intoV1]

/-- Legacy and current attestations mean the same: a legacy attestation
and its current form decode to the same identity, or fail to decode with
the same error, and verify to the same result, or both fail. -/
theorem legacy_means_the_same (D : Decoders) (v : AttestationVerifier)
    (now : Option Nat) (a : LegacyAttestation) (boottimeMr : Bool)
    (vmConfig : String) :
    V1.decodeAppInfoEx D a.intoV1 boottimeMr vmConfig
        = Legacy.decodeAppInfoEx D a.toAttestation boottimeMr vmConfig
      ∧ (a.intoV1.verifyWithTime v now).toOption
        = (Legacy.verifyWithTime a.toAttestation v now).toOption :=
  ⟨a.decode_intoV1 D boottimeMr vmConfig,
    Result.toOption_eq_iff.mpr fun va => (a.verify_intoV1 v now va).symm⟩

end Dstack.Attest
