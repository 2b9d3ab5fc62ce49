/-
What a quoted register says about the identity decoded next to it.

On TDX, GCP and NitroTPM verification replays the runtime events against
registers of the quote (`verifyWithTime_replays`), and everything an
identity is decoded from on those platforms is a function of the events'
contents (`payloadOrDefault_congr`, `findEventPayloads_congr`). So two
attestations that verified against one register decode to one identity
as soon as the register binds the contents, and `replay_binds_identity`
puts that together with the exact condition under which it does.
-/
import Dstack.Attest.AppInfo
import Dstack.EventLog.Proofs.Binding

namespace Dstack.Attest

open Lib EventLog

-- == decoding depends on contents

variable {l l' : List RuntimeEvent}

lemma payloadOrDefault_cons (e : RuntimeEvent) (l : List RuntimeEvent) (name : String) :
    payloadOrDefault (e :: l) name
      = if e.event = "system-ready" then []
        else if e.event = name then e.payload
        else payloadOrDefault l name := by
  unfold payloadOrDefault findEventPayload
  rw [findEvent]
  by_cases hready : e.event = "system-ready"
  · rw [if_pos hready, if_pos hready]
    rfl
  · rw [if_neg hready, if_neg hready]
    by_cases hname : e.event = name
    · rw [if_pos hname, if_pos hname]
      rfl
    · rw [if_neg hname, if_neg hname]

lemma findEventPayloads_cons (e : RuntimeEvent) (l : List RuntimeEvent) (name : String) :
    findEventPayloads (e :: l) name
      = if e.event = "system-ready" then []
        else if e.event = name then e.payload :: findEventPayloads l name
        else findEventPayloads l name := by
  unfold findEventPayloads
  by_cases hready : e.event = "system-ready"
  · simp [hready]
  · by_cases hname : e.event = name
    · simp [hname ▸ hready, hname]
    · simp [hready, hname]

private lemma content_congr {α : Type} (f : List RuntimeEvent → α)
    (step : String → Bytes → α → α) (hstep : ∀ e l, f (e :: l) = step e.event e.payload (f l)) :
    ∀ {l l' : List RuntimeEvent}, l.map (·.content) = l'.map (·.content) →
      f l = f l' := by
  intro l
  induction l with
  | nil =>
    intro l' h
    rw [List.map_eq_nil_iff.mp h.symm]
  | cons e l ih =>
    intro l' h
    cases l' with
    | nil => simp at h
    | cons e' l' =>
      simp only [List.map_cons, List.cons.injEq] at h
      have hcontent := Prod.mk.inj h.1
      rw [hstep, hstep, hcontent.1, hcontent.2, ih h.2]

lemma payloadOrDefault_congr (name : String) (h : l.map (·.content) = l'.map (·.content)) :
    payloadOrDefault l name = payloadOrDefault l' name :=
  content_congr (payloadOrDefault · name)
    (fun event payload rest => if event = "system-ready" then []
      else if event = name then payload else rest)
    (fun e l => payloadOrDefault_cons e l name) h

lemma findEventPayloads_congr (name : String) (h : l.map (·.content) = l'.map (·.content)) :
    findEventPayloads l name = findEventPayloads l' name :=
  content_congr (findEventPayloads · name)
    (fun event payload rest => if event = "system-ready" then []
      else if event = name then payload :: rest else rest)
    (fun e l => findEventPayloads_cons e l name) h

/-- The fields of an identity that come from runtime events. -/
structure EventIdentity where
  appId : Bytes
  composeHash : Bytes
  instanceId : Bytes
  keyProviderInfo : Bytes
  initScriptHashes : Option (List Bytes)
  deriving DecidableEq

/-- These fields of an application information. -/
def AppInfo.identity (i : AppInfo) : EventIdentity :=
  ⟨i.appId, i.composeHash, i.instanceId, i.keyProviderInfo,
    i.initScriptHashes⟩

def eventIdentity (events : List RuntimeEvent) (boottimeMr : Bool) :
    EventIdentity where
  appId := payloadOrDefault events "app-id"
  composeHash := payloadOrDefault events "compose-hash"
  instanceId := payloadOrDefault events "instance-id"
  keyProviderInfo :=
    if boottimeMr then [] else payloadOrDefault events "key-provider"
  initScriptHashes := some (findEventPayloads events "init-script-hash")

lemma eventIdentity_congr (boottimeMr : Bool) (h : l.map (·.content) = l'.map (·.content)) :
    eventIdentity l boottimeMr = eventIdentity l' boottimeMr := by
  simp only [eventIdentity, payloadOrDefault_congr _ h,
    findEventPayloads_congr _ h]

variable {events : List RuntimeEvent}

lemma nonSnpContext_ok {D : Decoders} {config vm : String} {boot : Bool} {ctx : EventContext}
    (h : nonSnpContext D events config boot vm = .ok ctx) :
    ctx.keyProviderInfo
      = if boot then [] else payloadOrDefault events "key-provider" := by
  unfold nonSnpContext at h
  simp only [ok_iff] at h
  obtain ⟨vmConfig, -, rfl⟩ := h
  rfl

-- == quoted registers

/-- The registers of a verified quote that the runtime events were
replayed against, each with its hash. -/
def DstackVerifiedReport.eventRegisters :
    DstackVerifiedReport → List (Hasher × Bytes)
  | .dstackTdx r => r.report.asTd10.toList.map fun td => (Sha384, td.rtMr3)
  | .dstackGcpTdx r tpm =>
    (r.report.asTd10.toList.map fun td => (Sha384, td.rtMr3))
      ++ ((tpm.getPcr gcpRuntimePcr).toOption.toList.map fun v => (Sha256, v))
  | .dstackAwsNitroTpm r =>
    (r.pcrs.lookup awsNitroTpmEventPcr).toList.map fun v => (Sha384, v)
  | .dstackNitroEnclave _ => []
  | .dstackAmdSevSnp _ => []

lemma verifyTdxQuoteWithEvents_ok {v : AttestationVerifier} {quote rd : Bytes}
    {r : TdxVerifiedReport} (h : verifyTdxQuoteWithEvents v quote events rd = .ok r) :
    ∀ td, r.report.asTd10 = some td → replayEvents Sha384 events none = td.rtMr3 := by
  unfold verifyTdxQuoteWithEvents at h
  simp only [ok_iff] at h
  obtain ⟨r', -, _, -, td, htd, _, hreplay, _, -, rfl⟩ := h
  intro td' htd'
  rw [htd, Option.some.injEq] at htd'
  rw [← htd', hreplay]

lemma verifyGcpTpm_ok {v : AttestationVerifier} {quote : Bytes} {tpmQuote : Tpm.TpmQuote}
    {r : Tpm.VerifiedReport} (h : verifyGcpTpm v quote tpmQuote events = .ok r) :
    r.getPcr gcpRuntimePcr = .ok (replayEvents Sha256 events none) := by
  unfold verifyGcpTpm at h
  simp only [ok_iff] at h
  obtain ⟨r', -, _, -, quoted, hquoted, _, hreplay, rfl⟩ := h
  rw [hreplay, hquoted]

lemma verifyAwsNitroTpm_ok {v : AttestationVerifier} {doc rd : Bytes}
    {now : Nat} {r : AwsNitroTpmVerifiedReport}
    (h : verifyAwsNitroTpmAttestationDoc v doc events rd now = .ok r) :
    r.pcrs.lookup awsNitroTpmEventPcr
      = some (replayEvents Sha384 events none) := by
  unfold verifyAwsNitroTpmAttestationDoc awsNitroTpmVerifyEventPcr
    awsNitroTpmPcr at h
  simp only [ok_iff] at h
  obtain ⟨report, -, userData, -, _, -, _, ⟨quoted, hquoted, hreplay⟩, rfl⟩ := h
  rw [hquoted, hreplay]
  rfl

variable {a : AttestationV1} {v : AttestationVerifier} {now : Option Nat}
  {va : VerifiedAttestation}

lemma verifyWithTime_replays (h : a.verifyWithTime v now = .ok va) :
    ∀ x ∈ va.report.eventRegisters,
      replayEvents x.1 va.runtimeEvents none = x.2 := by
  obtain ⟨hplat, -, hevents, -, -⟩ := AttestationV1.verifyWithTime_ok h
  rw [hevents]
  unfold verifyPlatform at hplat
  intro x hx
  split at hplat
  · -- TDX
    simp only [ok_iff] at hplat
    obtain ⟨r, hr, hrep⟩ := hplat
    rw [← hrep] at hx
    simp only [DstackVerifiedReport.eventRegisters, List.mem_map,
      Option.mem_toList] at hx
    obtain ⟨td, htd, rfl⟩ := hx
    exact verifyTdxQuoteWithEvents_ok hr td htd
  · -- GCP: RTMR3 and the TPM's PCR
    simp only [ok_iff] at hplat
    obtain ⟨r, hr, tpm, htpm, hrep⟩ := hplat
    rw [← hrep] at hx
    simp only [DstackVerifiedReport.eventRegisters, List.mem_append,
      List.mem_map, Option.mem_toList] at hx
    rcases hx with ⟨td, htd, rfl⟩ | ⟨value, hvalue, rfl⟩
    · exact verifyTdxQuoteWithEvents_ok hr td htd
    · rw [verifyGcpTpm_ok htpm] at hvalue
      exact Option.some.inj hvalue
  · -- a Nitro Enclave has no event register
    simp only [ok_iff] at hplat
    obtain ⟨r, -, hrep⟩ := hplat
    rw [← hrep] at hx
    simp [DstackVerifiedReport.eventRegisters] at hx
  · -- NitroTPM
    simp only [ok_iff] at hplat
    obtain ⟨r, hr, hrep⟩ := hplat
    rw [← hrep] at hx
    simp only [DstackVerifiedReport.eventRegisters, verifyAwsNitroTpm_ok hr,
      Option.toList_some, List.map_cons, List.map_nil, List.mem_singleton] at hx
    rw [hx]
  · -- SEV-SNP has no event register
    simp only [ok_iff] at hplat
    obtain ⟨r, -, hrep⟩ := hplat
    rw [← hrep] at hx
    simp [DstackVerifiedReport.eventRegisters] at hx

def AttestationQuote.hasEventRegister : AttestationQuote → Bool
  | .dstackTdx .. | .dstackGcpTdx .. | .dstackAwsNitroTpm .. => true
  | .dstackNitroEnclave .. | .dstackAmdSevSnp .. => false

lemma hasEventRegister_of_mem (h : a.verifyWithTime v now = .ok va)
    {x : Hasher × Bytes} (hx : x ∈ va.report.eventRegisters) :
    va.quote.hasEventRegister = true := by
  obtain ⟨hplat, hquote, -, -, -⟩ := AttestationV1.verifyWithTime_ok h
  rw [hquote]
  unfold verifyPlatform at hplat
  split at hplat
  next heq => rw [heq]; rfl
  next heq => rw [heq]; rfl
  next heq =>
    simp only [ok_iff] at hplat
    obtain ⟨r, -, hrep⟩ := hplat
    rw [← hrep] at hx
    simp [DstackVerifiedReport.eventRegisters] at hx
  next heq => rw [heq]; rfl
  next heq =>
    simp only [ok_iff] at hplat
    obtain ⟨r, -, hrep⟩ := hplat
    rw [← hrep] at hx
    simp [DstackVerifiedReport.eventRegisters] at hx

lemma decodeAppInfoEx_identity {D : Decoders} {boot : Bool} {vm : String}
    {i : AppInfo} (hreg : va.quote.hasEventRegister = true)
    (h : va.decodeAppInfoEx D boot vm = .ok i) :
    i.identity = eventIdentity va.runtimeEvents boot := by
  unfold Attestation.decodeAppInfoEx decodeAppInfoWith at h
  rw [context_eq_ok] at h
  split at h
  next heq => rw [heq] at hreg; cases hreg
  next =>
    simp only [ok_iff] at h
    obtain ⟨ctx, hctx, mrs, -, rfl⟩ := h
    simp only [AppInfo.identity, buildAppInfo, nonSnpContext_ok hctx,
      eventIdentity]
  next =>
    simp only [ok_iff] at h
    obtain ⟨ctx, hctx, mrs, -, rfl⟩ := h
    simp only [AppInfo.identity, buildAppInfo, nonSnpContext_ok hctx,
      eventIdentity]
  next heq => rw [heq] at hreg; cases hreg
  next =>
    simp only [ok_iff] at h
    obtain ⟨ctx, hctx, pcrs, -, mrs, -, rfl⟩ := h
    simp only [AppInfo.identity, buildAppInfo, nonSnpContext_ok hctx,
      eventIdentity]

-- == the main theorem

lemma identity_eq_of_unsplittable {H : Hasher} {reg : Bytes}
    {a₁ a₂ : AttestationV1} {v₁ v₂ : AttestationVerifier}
    {now₁ now₂ : Option Nat} {va₁ va₂ : VerifiedAttestation}
    (h₁ : a₁.verifyWithTime v₁ now₁ = .ok va₁) (h₂ : a₂.verifyWithTime v₂ now₂ = .ok va₂)
    (hr₁ : (H, reg) ∈ va₁.report.eventRegisters) (hr₂ : (H, reg) ∈ va₂.report.eventRegisters)
    (hcf : H.CollisionFreeOn (replayEventsInputs H va₁.runtimeEvents
      ++ replayEventsInputs H va₂.runtimeEvents))
    (hz : H.NoZeroOn (replayEventsInputs H va₁.runtimeEvents
      ++ replayEventsInputs H va₂.runtimeEvents)) (hl : Unsplittable va₁.runtimeEvents)
    {D₁ D₂ : Decoders} {boot : Bool} {vm₁ vm₂ : String} {i₁ i₂ : AppInfo}
    (hd₁ : va₁.decodeAppInfoEx D₁ boot vm₁ = .ok i₁)
    (hd₂ : va₂.decodeAppInfoEx D₂ boot vm₂ = .ok i₂) :
    i₁.identity = i₂.identity := by
  have hreplay : replayEvents H va₁.runtimeEvents none
      = replayEvents H va₂.runtimeEvents none := by
    rw [verifyWithTime_replays h₁ _ hr₁, verifyWithTime_replays h₂ _ hr₂]
  have hcontents := hl.boundByReplay _ hcf hz hreplay
  rw [decodeAppInfoEx_identity (hasEventRegister_of_mem h₁ hr₁) hd₁,
    decodeAppInfoEx_identity (hasEventRegister_of_mem h₂ hr₂) hd₂]
  exact eventIdentity_congr boot hcontents

/-- A replayed register binds the log exactly when no V1 event of the log
can be cut elsewhere, and then any two attestations verified against the
register decode to the same identity. -/
theorem replay_binds_identity {H : Hasher} {l : List RuntimeEvent}
    (hcf : H.CollisionFreeOn (replayEventsInputs H l))
    (hz : H.NoZeroOn (replayEventsInputs H l)) :
    (BoundByReplay H l ↔ Unsplittable l)
      ∧ (Unsplittable l → ∀ (a₁ a₂ : AttestationV1)
          (v₁ v₂ : AttestationVerifier) (now₁ now₂ : Option Nat)
          (va₁ va₂ : VerifiedAttestation) (reg : Bytes),
          a₁.verifyWithTime v₁ now₁ = .ok va₁ →
          a₂.verifyWithTime v₂ now₂ = .ok va₂ →
          va₁.runtimeEvents = l →
          (H, reg) ∈ va₁.report.eventRegisters →
          (H, reg) ∈ va₂.report.eventRegisters →
          H.CollisionFreeOn (replayEventsInputs H va₁.runtimeEvents
            ++ replayEventsInputs H va₂.runtimeEvents) →
          H.NoZeroOn (replayEventsInputs H va₁.runtimeEvents
            ++ replayEventsInputs H va₂.runtimeEvents) →
          ∀ (D₁ D₂ : Decoders) (boot : Bool) (vm₁ vm₂ : String)
            (i₁ i₂ : AppInfo),
            va₁.decodeAppInfoEx D₁ boot vm₁ = .ok i₁ →
            va₂.decodeAppInfoEx D₂ boot vm₂ = .ok i₂ →
            i₁.identity = i₂.identity) := by
  refine ⟨unsplittable_iff_bound hcf hz, ?_⟩
  rintro hl a₁ a₂ v₁ v₂ now₁ now₂ va₁ va₂ reg h₁ h₂ rfl hr₁ hr₂ hcf' hz'
    D₁ D₂ boot vm₁ vm₂ i₁ i₂ hd₁ hd₂
  exact identity_eq_of_unsplittable h₁ h₂ hr₁ hr₂ hcf' hz' hl hd₁ hd₂

-- == one register, two logs

def sampleEvents : List RuntimeEvent :=
  [⟨"instance-id", 0x3a :: List.replicate 19 0x11, .V1⟩]

def resplitEvents : List RuntimeEvent :=
  [⟨"instance-id:", List.replicate 19 0x11, .V1⟩]

def sampleTd : TDReport10 where
  mrTd := zeros 48
  rtMr0 := zeros 48
  rtMr1 := zeros 48
  rtMr2 := zeros 48
  rtMr3 := replayEvents Sha384 sampleEvents none
  mrConfigId := zeros 48
  mrOwner := zeros 48
  mrOwnerConfig := zeros 48
  mrSignerSeam := zeros 48
  tdAttributes := zeros 8
  reportData := zeros 64

def sampleCbor : Nsm.Cbor :=
  ⟨fun _ => .error "", fun _ => .error "", fun _ => .error "", fun _ => .error ""⟩

def sampleNsm : Nsm.QuoteVerifier where
  cbor := sampleCbor
  crypto := ⟨Unit, Unit, fun _ _ _ _ => .error "", fun _ => .error "",
    fun _ => .error "", fun _ _ _ => .error ""⟩
  rootCaPem := ""

def sampleSnp : SevSnp.Library :=
  ⟨Unit, fun _ => .error "", fun _ => .error "", fun _ _ => .error "",
    fun _ _ _ => .error ""⟩

def sampleJson : Json :=
  ⟨fun _ => .ok {}, fun _ => .error "", fun _ => .absent⟩

def sampleVerifier : AttestationVerifier where
  verifyTdxQuote quote :=
    if quote = [0x04] then .ok ⟨"UpToDate", [], .td10 sampleTd, []⟩
    else .error "bad quote"
  tpmCrypto := ⟨Unit, Unit, fun _ => .error "", fun _ _ _ => false,
    fun _ => .error "", fun _ _ _ => false, fun _ _ _ => .error ""⟩
  tpmRootCaPem := ""
  tpmCollateral _ := .error ""
  awsNitroEnclave := sampleNsm
  awsNitroTpm := sampleNsm
  sevSnp := sampleSnp
  json := sampleJson
  clock := 0

def sampleDecoders : Decoders where
  json := sampleJson
  parseTdxQuote quote :=
    if quote = [0x04] then .ok (.td10 sampleTd) else .error "bad quote"
  nsmPcrs _ := .error ""
  cbor := sampleCbor
  snp := sampleSnp

def sampleAttestation (events : List RuntimeEvent) : AttestationV1 :=
  ⟨.tdx [0x04] [], ⟨zeros 64, events, "", none⟩⟩

def sampleVerified (events : List RuntimeEvent) : VerifiedAttestation where
  quote := .dstackTdx [0x04] []
  runtimeEvents := events
  reportData := zeros 64
  config := ""
  report := .dstackTdx ⟨"UpToDate", [], .td10 sampleTd, []⟩

/-- One quoted RTMR3, two logs that replay to it without any collision,
two identities: the instance identifier disappears. -/
theorem one_register_two_identities :
    Sha384.CollisionFreeOn (replayEventsInputs Sha384 sampleEvents
        ++ replayEventsInputs Sha384 resplitEvents)
      ∧ Sha384.NoZeroOn (replayEventsInputs Sha384 sampleEvents
        ++ replayEventsInputs Sha384 resplitEvents)
      ∧ replayEvents Sha384 sampleEvents none
        = replayEvents Sha384 resplitEvents none
      ∧ sampleEvents.map (·.content) ≠ resplitEvents.map (·.content)
      ∧ (sampleAttestation sampleEvents).verifyWithTime sampleVerifier none
        = .ok (sampleVerified sampleEvents)
      ∧ (sampleAttestation resplitEvents).verifyWithTime sampleVerifier none
        = .ok (sampleVerified resplitEvents)
      ∧ ((sampleVerified sampleEvents).decodeAppInfoEx sampleDecoders false "").map
          (·.instanceId) = .ok (0x3a :: List.replicate 19 0x11)
      ∧ ((sampleVerified resplitEvents).decodeAppInfoEx sampleDecoders false "").map
          (·.instanceId) = .ok [] := by
  decide +kernel

/-- Events of both versions. The payload of the V1 event has no colon. -/
def boundEvents : List RuntimeEvent :=
  [⟨"app-id", List.replicate 20 0x3a, .V2⟩, ⟨"compose-hash", List.replicate 32 0x22, .V1⟩,
    ⟨"instance-id", List.replicate 20 0x11, .V2⟩]

def boundTd : TDReport10 := { sampleTd with rtMr3 := replayEvents Sha384 boundEvents none }

def boundVerifier : AttestationVerifier :=
  { sampleVerifier with
    verifyTdxQuote := fun _ => .ok ⟨"UpToDate", [], .td10 boundTd, []⟩ }

def boundDecoders : Decoders :=
  { sampleDecoders with parseTdxQuote := fun _ => .ok (.td10 boundTd) }

def boundVerified : VerifiedAttestation :=
  { sampleVerified boundEvents with report := .dstackTdx ⟨"UpToDate", [], .td10 boundTd, []⟩ }

lemma boundEvents_unsplittable : Unsplittable boundEvents := by
  intro e he hv
  have hcolon : ':' ∉ e.event.toList ∧ (0x3a : UInt8) ∉ e.payload := by
    simp only [boundEvents, List.mem_cons, List.not_mem_nil, or_false] at he
    rcases he with rfl | rfl | rfl
    · cases hv
    · decide
    · cases hv
  refine ⟨fun s t heq => hcolon.1 ?_, fun q p heq => hcolon.2 ?_⟩
  · simp [heq]
  · rw [heq]
    exact List.mem_append_left _ (List.mem_append_right _ (by decide))

/-- The register of such a log binds it, and what verified against it
decodes to one identity, whenever it is verified. -/
theorem replay_binds_sample_identity :
    BoundByReplay Sha384 boundEvents
      ∧ ∃ i₁ i₂, (sampleAttestation boundEvents).verifyWithTime boundVerifier none
          = .ok boundVerified
        ∧ (sampleAttestation boundEvents).verifyWithTime boundVerifier (some 5)
          = .ok boundVerified
        ∧ boundVerified.decodeAppInfoEx boundDecoders false "" = .ok i₁
        ∧ boundVerified.decodeAppInfoEx boundDecoders false "\x7b\x7d" = .ok i₂
        ∧ i₁.identity = i₂.identity := by
  have hcf : Sha384.CollisionFreeOn (replayEventsInputs Sha384 boundEvents) := by decide +kernel
  have hz : Sha384.NoZeroOn (replayEventsInputs Sha384 boundEvents) := by decide +kernel
  obtain ⟨hbound, hidentity⟩ := replay_binds_identity hcf hz
  obtain ⟨i₁, h₁⟩ := Result.exists_of_isOk
    (r := boundVerified.decodeAppInfoEx boundDecoders false "") (by decide +kernel)
  obtain ⟨i₂, h₂⟩ := Result.exists_of_isOk
    (r := boundVerified.decodeAppInfoEx boundDecoders false "\x7b\x7d") (by decide +kernel)
  have hrun : ∀ now ∈ [none, some 5],
      (sampleAttestation boundEvents).verifyWithTime boundVerifier now = .ok boundVerified := by
    decide +kernel
  have hreg :
      (Sha384, replayEvents Sha384 boundEvents none) ∈ boundVerified.report.eventRegisters :=
    List.mem_singleton.mpr rfl
  refine ⟨hbound.mpr boundEvents_unsplittable, i₁, i₂, hrun none (by decide),
    hrun (some 5) (by decide), h₁, h₂, ?_⟩
  exact hidentity boundEvents_unsplittable _ _ _ _ _ _ _ _ (replayEvents Sha384 boundEvents none)
    (hrun none (by decide)) (hrun (some 5) (by decide)) rfl hreg hreg
    (by decide +kernel) (by decide +kernel) _ _ _ _ _ _ _ h₁ h₂

end Dstack.Attest
