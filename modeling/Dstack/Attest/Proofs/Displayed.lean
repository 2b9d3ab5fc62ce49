/-
Displayed and measured events.

A TDX attestation carries its runtime events twice. `runtime_events` is
replayed against RTMR3. The platform's `event_log` is what a relying
party is shown, and verification only asks of it that each V2 entry
comes with its own canonical preimage: nothing compares the two lists,
and nothing replays the second.

So the two agree exactly when the displayed entries would themselves
have passed the replay, up to the one thing a replay cannot see: where
the name of a V1 event ends.
-/
import Dstack.Attest.Proofs.Identity

namespace Dstack.Attest

open Lib EventLog

/-- The runtime events that an event log shows for RTMR3. -/
def displayedEvents (eventLog : List TdxEvent) : List RuntimeEvent :=
  (eventLog.filter fun e => e.imr = 3).filterMap (·.toRuntimeEvent)

/-- RTMR3 of a verified TDX quote. -/
def DstackVerifiedReport.rtmr3 (r : DstackVerifiedReport) : Option Bytes :=
  (r.tdxReport.bind (·.report.asTd10)).map (·.rtMr3)

-- == one preimage

lemma eq_of_preimage_eq {e e' : RuntimeEvent} (hpre : e.preimage = e'.preimage)
    (hname : e.event = e'.event) : e = e' := by
  obtain ⟨name, payload, version⟩ := e
  obtain ⟨name', payload', version'⟩ := e'
  obtain rfl : version = version' := version_eq_of_preimage_eq hpre
  obtain rfl : name = name' := hname
  have hpayload : payload = payload' := by
    cases version with
    | V1 => exact List.append_cancel_left hpre
    | V2 => exact congrArg Prod.snd (v2_preimage_inj rfl rfl hpre)
  rw [hpayload]

lemma events_eq_of_preimages_eq :
    ∀ {l l' : List RuntimeEvent}, l.map (·.preimage) = l'.map (·.preimage) →
      l.map (·.event) = l'.map (·.event) → l = l' := by
  intro l
  induction l with
  | nil =>
    intro l' hpre _
    exact (List.map_eq_nil_iff.mp hpre.symm).symm
  | cons e l ih =>
    intro l' hpre hnames
    cases l' with
    | nil => simp at hpre
    | cons e' l' =>
      simp only [List.map_cons, List.cons.injEq] at hpre hnames
      rw [eq_of_preimage_eq hpre.1 hnames.1, ih hpre.2 hnames.2]

-- == the quoted register

lemma verifyWithTime_rtmr3 {a : AttestationV1} {v : AttestationVerifier}
    {now : Option Nat} {va : VerifiedAttestation} {log : List TdxEvent}
    (hlog : a.platform.tdxEventLog = some log)
    (h : a.verifyWithTime v now = .ok va) :
    va.report.rtmr3 = some (replayEvents Sha384 va.runtimeEvents none) := by
  have htdx : ∀ {quote rd : Bytes} {events : List RuntimeEvent}
      {r : TdxVerifiedReport},
      verifyTdxQuoteWithEvents v quote events rd = .ok r →
      r.report.asTd10.map (·.rtMr3) = some (replayEvents Sha384 events none) := by
    intro quote rd events r hr
    unfold verifyTdxQuoteWithEvents at hr
    simp only [ok_iff] at hr
    obtain ⟨r', -, _, -, td, htd, _, hreplay, _, -, rfl⟩ := hr
    rw [htd, hreplay]
    rfl
  obtain ⟨hplat, -, hevents, -, -⟩ := AttestationV1.verifyWithTime_ok h
  unfold verifyPlatform at hplat
  rw [hevents]
  cases hp : a.platform with
  | tdx quote eventLog =>
    simp only [hp, ok_iff] at hplat
    obtain ⟨r, hr, hrep⟩ := hplat
    rw [← hrep]
    exact htdx hr
  | gcpTdx quote eventLog tpmQuote =>
    simp only [hp, ok_iff] at hplat
    obtain ⟨r, hr, tpm, -, hrep⟩ := hplat
    rw [← hrep]
    exact htdx hr
  | nitroEnclave nsmQuote => rw [hp] at hlog; cases hlog
  | awsNitroTpm attestationDoc => rw [hp] at hlog; cases hlog
  | sevSnp report certChain mrConfig => rw [hp] at hlog; cases hlog

-- == agreement

/-- What a verified TDX attestation displays is what was measured,
exactly when the displayed events replay to the quoted RTMR3 as well and
have the measured names. -/
theorem displayed_agree_iff {a : AttestationV1} {v : AttestationVerifier}
    {now : Option Nat} {va : VerifiedAttestation} {log : List TdxEvent}
    (hlog : a.platform.tdxEventLog = some log)
    (h : a.verifyWithTime v now = .ok va)
    (hcf : Sha384.CollisionFreeOn (replayEventsInputs Sha384 (displayedEvents log)
      ++ replayEventsInputs Sha384 va.runtimeEvents))
    (hz : Sha384.NoZeroOn (replayEventsInputs Sha384 (displayedEvents log)
      ++ replayEventsInputs Sha384 va.runtimeEvents)) :
    displayedEvents log = va.runtimeEvents
      ↔ va.report.rtmr3 = some (replayEvents Sha384 (displayedEvents log) none)
        ∧ (displayedEvents log).map (·.event) = va.runtimeEvents.map (·.event) := by
  have hquoted := verifyWithTime_rtmr3 hlog h
  constructor
  · intro heq
    rw [heq]
    exact ⟨hquoted, rfl⟩
  · intro ⟨hreplay, hnames⟩
    have hsame : replayEvents Sha384 (displayedEvents log) none
        = replayEvents Sha384 va.runtimeEvents none :=
      Option.some.inj (hreplay.symm.trans hquoted)
    exact events_eq_of_preimages_eq
      (preimages_eq_of_replayEvents_eq hcf hz hsame) hnames

def displaying (log : List TdxEvent) : AttestationV1 :=
  ⟨.tdx [0x04] log, ⟨zeros 64, sampleEvents, "", none⟩⟩

def displayingVerified (log : List TdxEvent) : VerifiedAttestation :=
  { sampleVerified sampleEvents with quote := .dstackTdx [0x04] log }

def honestLog : List TdxEvent :=
  [⟨0, 10, zeros 48, "acpi-loader", utf8 "ACPI DATA", .V1, none⟩,
    ⟨3, dstackRuntimeEventType,
      RuntimeEvent.digest Sha384 ⟨"instance-id", 0x3a :: List.replicate 19 0x11, .V1⟩,
      "instance-id", 0x3a :: List.replicate 19 0x11, .V1, none⟩]

/-- A log with a boot event and the replayed event shows what was replayed. -/
theorem honest_log_agrees :
    (displaying honestLog).verifyWithTime sampleVerifier none
        = .ok (displayingVerified honestLog)
      ∧ displayedEvents honestLog = (displayingVerified honestLog).runtimeEvents := by
  have hrun : (displaying honestLog).verifyWithTime sampleVerifier none
        = .ok (displayingVerified honestLog)
      ∧ Sha384.CollisionFreeOn (replayEventsInputs Sha384 (displayedEvents honestLog)
        ++ replayEventsInputs Sha384 sampleEvents)
      ∧ Sha384.NoZeroOn (replayEventsInputs Sha384 (displayedEvents honestLog)
        ++ replayEventsInputs Sha384 sampleEvents)
      ∧ (displayedEvents honestLog).map (·.event) = sampleEvents.map (·.event) := by
    decide +kernel
  obtain ⟨hverify, hcf, hz, hnames⟩ := hrun
  exact ⟨hverify, (displayed_agree_iff rfl hverify hcf hz).mpr ⟨rfl, hnames⟩⟩

/-- A V2 event that was never measured, with the canonical preimage and
digest of its own fields. -/
def unmeasured : RuntimeEvent := ⟨"app-id", List.replicate 20 0x22, .V2⟩

def forgedLog : List TdxEvent :=
  [⟨3, dstackRuntimeEventType, sha384 unmeasured.preimage, unmeasured.event,
    unmeasured.payload, .V2, some (hexEncode unmeasured.preimage)⟩]

/-- An attestation that verifies and displays an application identifier
that was never extended into RTMR3, in place of the event that was. -/
theorem forged_log_verifies :
    (displaying forgedLog).verifyWithTime sampleVerifier none
        = .ok (displayingVerified forgedLog)
      ∧ displayedEvents forgedLog = [unmeasured]
      ∧ (displayingVerified forgedLog).runtimeEvents = sampleEvents
      ∧ displayedEvents forgedLog ≠ (displayingVerified forgedLog).runtimeEvents := by
  decide +kernel

end Dstack.Attest
