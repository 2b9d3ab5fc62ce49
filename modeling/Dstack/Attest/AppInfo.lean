/-
Decoding the application's identity from an attestation
(`decode_app_info_ex`).

The identity comes from the runtime events on every platform but
SEV-SNP, where the launch document carries it. Only events before
`system-ready` count: later ones are the application's own. A missing
event decodes to an empty field, never to an error.
-/
import Dstack.Attest.Verify

namespace Dstack.Attest

open Lib EventLog

/-- The parsers that decoding relies on. -/
structure Decoders where
  json : Json
  parseTdxQuote : Bytes → Result Report
  nsmPcrs : Bytes → Result (List (Nat × Bytes))
  cbor : Nsm.Cbor
  snp : SevSnp.Library

structure AppInfo where
  appId : Bytes
  composeHash : Bytes
  instanceId : Bytes
  deviceId : Bytes
  mrSystem : Bytes
  mrAggregated : Bytes
  osImageHash : Bytes
  keyProviderInfo : Bytes
  initScriptHashes : Option (List Bytes)
  deriving DecidableEq

-- == events

/-- The first event of a name before `system-ready`. -/
def findEvent (name : String) : List RuntimeEvent → Result RuntimeEvent
  | [] => .error ("event " ++ name ++ " not found")
  | e :: es =>
    if e.event = "system-ready" then .error ("event " ++ name ++ " not found")
    else if e.event = name then .ok e
    else findEvent name es

def findEventPayload (runtimeEvents : List RuntimeEvent) (name : String) :
    Result Bytes :=
  (·.payload) <$> findEvent name runtimeEvents

/-- A payload, or nothing when the event is missing
(`unwrap_or_default`). -/
def payloadOrDefault (runtimeEvents : List RuntimeEvent) (name : String) :
    Bytes :=
  match findEventPayload runtimeEvents name with
  | .ok payload => payload
  | .error _ => []

/-- Every payload of a name before `system-ready`, in order. -/
def findEventPayloads (runtimeEvents : List RuntimeEvent) (name : String) :
    List Bytes :=
  ((runtimeEvents.takeWhile fun e => e.event ≠ "system-ready").filter
    fun e => e.event = name).map (·.payload)

-- == configuration

def resolveVmConfig (external embedded : String) : Result String :=
  if external = "" then .ok embedded
  else if embedded ≠ "" ∧ external ≠ embedded then
    .error "vm_config does not match the config carried in the attestation"
  else .ok external

def parseVmConfig (D : Decoders) (config : String) : Result VmConfig :=
  (D.json.vmConfig (if config = "" then "\x7b\x7d" else config)).context
    "Failed to parse vm config"

def decodeVmConfigWithFallback (D : Decoders) (config fallbackConfig : String) :
    Result VmConfig := do
  let config ← resolveVmConfig config fallbackConfig
  parseVmConfig D config

lemma resolveVmConfig_idem {external embedded raw : String}
    (h : resolveVmConfig external embedded = .ok raw) :
    resolveVmConfig raw embedded = .ok raw := by
  have hself : resolveVmConfig embedded embedded = .ok embedded := by
    unfold resolveVmConfig
    split
    · rfl
    · rw [if_neg (by simp)]
  by_cases hext : external = ""
  · have hraw : embedded = raw := by
      rw [resolveVmConfig, if_pos hext] at h
      exact Except.ok.inj h
    rw [← hraw]
    exact hself
  · have hraw : external = raw := by
      rw [resolveVmConfig, if_neg hext] at h
      split at h
      · cases h
      · exact Except.ok.inj h
    rw [← hraw] at h ⊢
    exact h

lemma decodeVmConfig_resolved {D : Decoders} {vm embedded raw : String}
    (h : resolveVmConfig vm embedded = .ok raw) :
    decodeVmConfigWithFallback D raw embedded
      = decodeVmConfigWithFallback D vm embedded := by
  unfold decodeVmConfigWithFallback
  rw [h, resolveVmConfig_idem h]

-- == measurements

structure Mrs where
  mrSystem : Bytes
  mrAggregated : Bytes
  deriving DecidableEq

def bootMrStop (boottimeMr : Bool) : Option String :=
  if boottimeMr then some "boot-mr-done" else none

def decodeMrTdx (D : Decoders) (boottimeMr : Bool) (mrKeyProvider quote : Bytes)
    (runtimeEvents : List RuntimeEvent) : Result Mrs := do
  let report ← (D.parseTdxQuote quote).context "Failed to parse quote"
  let rtmr3 := replayEvents Sha384 runtimeEvents (bootMrStop boottimeMr)
  let td ← Result.ofOption report.asTd10 "TDX report not found"
  let mrSystem := sha256
    (td.mrTd ++ td.rtMr0 ++ td.rtMr1 ++ td.rtMr2 ++ mrKeyProvider)
  -- the three configuration registers enter only when one of them is set
  let config :=
    if td.mrConfigId ≠ zeros 48 ∨ td.mrOwner ≠ zeros 48
        ∨ td.mrOwnerConfig ≠ zeros 48
    then td.mrConfigId ++ td.mrOwner ++ td.mrOwnerConfig else []
  let mrAggregated := sha256
    (td.mrTd ++ td.rtMr0 ++ td.rtMr1 ++ td.rtMr2 ++ rtmr3 ++ config)
  pure { mrSystem, mrAggregated }

def decodeMrGcpTpm (boottimeMr : Bool) (mrKeyProvider osImageHash : Bytes)
    (tpmQuote : Tpm.TpmQuote) (runtimeEvents : List RuntimeEvent) :
    Result Mrs := do
  let mrSystem := sha256 (osImageHash ++ mrKeyProvider)
  let pcr0 ← Result.ofOption (tpmQuote.pcrValues.find? (·.index = 0))
    "PCR 0 not found"
  let pcr2 ← Result.ofOption (tpmQuote.pcrValues.find? (·.index = 2))
    "PCR 2 not found"
  let runtimePcr := replayEvents Sha256 runtimeEvents (bootMrStop boottimeMr)
  let mrAggregated := sha256 (pcr0.value ++ pcr2.value ++ runtimePcr)
  pure { mrSystem, mrAggregated }

def awsNitroTpmBootPcrs : List Nat := [4, 7, 12]

def awsNitroTpmBootPcrValues (pcrs : List (Nat × Bytes)) :
    Result (List Bytes) :=
  awsNitroTpmBootPcrs.mapM (awsNitroTpmPcr pcrs)

def decodeMrAwsNitroTpmFromPcrs (boottimeMr : Bool) (mrKeyProvider : Bytes)
    (pcrs : List (Nat × Bytes)) (runtimeEvents : List RuntimeEvent) :
    Result Mrs := do
  let bootPcrs ← awsNitroTpmBootPcrValues pcrs
  let mrSystem := sha256 (bootPcrs.flatten ++ mrKeyProvider)
  awsNitroTpmVerifyEventPcr pcrs runtimeEvents
  let launchPcr := awsNitroTpmReplayedEventPcr runtimeEvents boottimeMr
  let mrAggregated := sha256 (bootPcrs.flatten ++ launchPcr)
  pure { mrSystem, mrAggregated }

def NitroPcrs.imageHash (p : NitroPcrs) : Bytes :=
  sha256 (p.pcr0 ++ p.pcr1 ++ p.pcr2)

def decodeMrNitroNsm (pcrs : NitroPcrs) : Mrs :=
  ⟨pcrs.imageHash, pcrs.imageHash⟩

def decodeMrSevSnp (measurement hostData : Bytes) : Mrs :=
  ⟨sha256 measurement, sha256 (measurement ++ hostData)⟩

-- == SEV-SNP

def keyProviderInfoFromMrConfig (mrConfig : MrConfigV3) : Bytes :=
  keyProviderInfoJson mrConfig.keyProviderName
    (hexEncode (mrConfig.keyProviderId.getD []))

def mrConfigDocumentFromConfig (D : Decoders) (config : String) :
    Result (Option String) :=
  match D.json.mrConfigMember config with
  | .absent => .ok none
  | .notString => .error "amd sev-snp mr_config must be a JSON string"
  | .document document => do
      let _ ← (D.json.mrConfigV3 document).context
        "Invalid amd sev-snp mr_config document"
      pure (some document)

def chooseMrConfigDocument (D : Decoders) (mrConfig : Option String)
    (config : String) : Result (Option String) :=
  match mrConfig with
  | some document => .ok (some document)
  | none => mrConfigDocumentFromConfig D config

def decodeAppInfoSevSnp (D : Decoders) (report : Bytes)
    (mrConfig : Option String) (embeddedConfig externalVmConfig : String) :
    Result AppInfo := do
  let parsed ← SevSnp.parseUnverifiedAmdSnpReport D.snp report
  let config ← resolveVmConfig externalVmConfig embeddedConfig
  let document ← chooseMrConfigDocument D mrConfig config
  let document ← Result.ofOption document "amd sev-snp mr_config is missing"
  let mrConfig ← verifySnpMrConfigHostData D.json document parsed.hostData
  let vmConfig ← parseVmConfig D config
  let mrs := decodeMrSevSnp parsed.measurement parsed.hostData
  pure {
    appId := mrConfig.appId.getD []
    instanceId := mrConfig.instanceId.getD []
    deviceId := sha256 parsed.chipId
    mrSystem := mrs.mrSystem
    mrAggregated := mrs.mrAggregated
    keyProviderInfo := keyProviderInfoFromMrConfig mrConfig
    osImageHash := vmConfig.osImageHash
    composeHash := mrConfig.composeHash
    initScriptHashes := mrConfig.initScriptHashes }

-- == decoding

/-- What decoding takes from an attached report: the device identifier,
and the PCRs a verified Nitro report vouches for. -/
structure ReportView where
  deviceId : Bytes
  nitroPcrs : Option NitroPcrs
  awsNitroTpmPcrs : Option (List (Nat × Bytes))

def ReportView.unverified : ReportView := ⟨[], none, none⟩

def DstackVerifiedReport.view : DstackVerifiedReport → ReportView
  | .dstackTdx report => ⟨report.ppid, none, none⟩
  | .dstackGcpTdx tdxReport _ => ⟨tdxReport.ppid, none, none⟩
  | .dstackAmdSevSnp report => ⟨report.chipId, none, none⟩
  | .dstackNitroEnclave report => ⟨report.pcrs.pcr4, some report.pcrs, none⟩
  | .dstackAwsNitroTpm report =>
    ⟨utf8 report.moduleId, none, some report.pcrs⟩

def nitroPcrsOf (D : Decoders) (view : ReportView) (nsmQuote : Bytes) :
    Result NitroPcrs :=
  match view.nitroPcrs with
  | some pcrs => .ok pcrs
  | none => do
      let pcrs ← (D.nsmPcrs nsmQuote).context
        "Failed to decode NSM attestation document"
      NitroPcrs.fromPcrs pcrs

def awsNitroTpmPcrsOf (D : Decoders) (view : ReportView)
    (attestationDoc : Bytes) : Result (List (Nat × Bytes)) :=
  match view.awsNitroTpmPcrs with
  | some pcrs => .ok pcrs
  | none => do
      let cose ← (Nsm.CoseSign1.fromBytes D.cbor attestationDoc).context
        "failed to decode NitroTPM COSE document"
      let doc ← (Nsm.AttestationDocument.fromCbor D.cbor cose.payload).context
        "failed to decode NitroTPM attestation document"
      pure doc.pcrs

structure EventContext where
  keyProviderInfo : Bytes
  mrKeyProvider : Bytes
  osImageHash : Bytes

def nonSnpContext (D : Decoders) (runtimeEvents : List RuntimeEvent)
    (embeddedConfig : String) (boottimeMr : Bool) (vmConfig : String) :
    Result EventContext := do
  let keyProviderInfo :=
    if boottimeMr then [] else payloadOrDefault runtimeEvents "key-provider"
  let mrKeyProvider :=
    if keyProviderInfo = [] then zeros 32 else sha256 keyProviderInfo
  let vmConfig ← (decodeVmConfigWithFallback D vmConfig embeddedConfig).context
    "Failed to decode os image hash"
  pure { keyProviderInfo, mrKeyProvider, osImageHash := vmConfig.osImageHash }

def buildAppInfo (view : ReportView) (runtimeEvents : List RuntimeEvent)
    (ctx : EventContext) (mrs : Mrs) (composeHash : Bytes) : AppInfo where
  appId := payloadOrDefault runtimeEvents "app-id"
  instanceId := payloadOrDefault runtimeEvents "instance-id"
  deviceId := sha256 view.deviceId
  mrSystem := mrs.mrSystem
  mrAggregated := mrs.mrAggregated
  keyProviderInfo := ctx.keyProviderInfo
  osImageHash := ctx.osImageHash
  composeHash := composeHash
  initScriptHashes := some (findEventPayloads runtimeEvents "init-script-hash")

def decodeAppInfoWith (D : Decoders) (view : ReportView)
    (quote : AttestationQuote) (runtimeEvents : List RuntimeEvent)
    (config : String) (boottimeMr : Bool) (vmConfig : String) :
    Result AppInfo :=
  let context := nonSnpContext D runtimeEvents config boottimeMr vmConfig
  let build := buildAppInfo view runtimeEvents
  let composeHash := payloadOrDefault runtimeEvents "compose-hash"
  match quote with
  | .dstackAmdSevSnp report _ mrConfig =>
    decodeAppInfoSevSnp D report (some mrConfig) config vmConfig
  | .dstackTdx quote _ => do
      let ctx ← context
      let mrs ← decodeMrTdx D boottimeMr ctx.mrKeyProvider quote runtimeEvents
      pure (build ctx mrs composeHash)
  | .dstackGcpTdx _ _ tpmQuote => do
      let ctx ← context
      let mrs ← decodeMrGcpTpm boottimeMr ctx.mrKeyProvider ctx.osImageHash
        tpmQuote runtimeEvents
      pure (build ctx mrs composeHash)
  | .dstackNitroEnclave nsmQuote => do
      let ctx ← context
      let pcrs ← nitroPcrsOf D view nsmQuote
      -- an enclave image carries its own compose file
      pure (build ctx (decodeMrNitroNsm pcrs) ctx.osImageHash)
  | .dstackAwsNitroTpm attestationDoc => do
      let ctx ← context
      let pcrs ← awsNitroTpmPcrsOf D view attestationDoc
      let mrs ← decodeMrAwsNitroTpmFromPcrs boottimeMr ctx.mrKeyProvider pcrs
        runtimeEvents
      pure (build ctx mrs composeHash)

def Attestation.decodeAppInfoEx (D : Decoders) (a : VerifiedAttestation)
    (boottimeMr : Bool) (vmConfig : String) : Result AppInfo :=
  (decodeAppInfoWith D a.report.view a.quote a.runtimeEvents a.config
    boottimeMr vmConfig).context "decode app info"

end Dstack.Attest
