/-
The wire formats of an attestation (`VersionedAttestation`).

A legacy attestation travels in SCALE, the current form in msgpack, and
the first byte tells them apart. SCALE was fixed before event versions
existed, so the version of a runtime event and the version and preimage
of an event-log entry are not in it and come back as their defaults.
`intoVersioned` therefore picks msgpack for an attestation that needs
it, and decides that from the runtime events.
-/
import Dstack.Attest.Legacy
import Dstack.Lib.Scale

namespace Dstack.Attest

open Lib EventLog Scale

-- == the SCALE schema

namespace Schema

/-- `#[codec(skip)] version`. -/
def runtimeEvent : Codec RuntimeEvent :=
  (string.pair bytes).ofFields (fun e => (e.event, e.payload))
    fun (event, payload) => ⟨event, payload, .V1⟩

/-- `#[codec(skip)] version`, `#[codec(skip)] preimage`. -/
def tdxEvent : Codec TdxEvent :=
  (u32.pair (u32.pair (bytes.pair (string.pair bytes)))).ofFields
    (fun e => (e.imr, e.eventType, e.digest, e.event, e.eventPayload))
    fun (imr, eventType, digest, event, eventPayload) =>
      ⟨imr, eventType, digest, event, eventPayload, .V1, none⟩

def pcrValue : Codec Tpm.PcrValue :=
  (u32.pair (string.pair bytes)).ofFields (fun p => (p.index, p.algorithm, p.value))
    fun (index, algorithm, value) => ⟨index, algorithm, value⟩

def tpmEvent : Codec Tpm.TpmEvent :=
  (u32.pair bytes).ofFields (fun e => (e.pcrIndex, e.digest))
    fun (pcrIndex, digest) => ⟨pcrIndex, digest⟩

def platform : Codec Tpm.Platform :=
  enumeration [.dstack, .gcp, .nitroEnclave, .awsEc2]
    (fun p => by cases p <;> decide) (by decide)

def tpmQuote : Codec Tpm.TpmQuote :=
  (bytes.pair (bytes.pair ((pcrValue.vec fun _ => pair_ne_nil u32_ne_nil _).pair
    (bytes.pair (platform.pair (tpmEvent.vec fun _ => pair_ne_nil u32_ne_nil _)))))).ofFields
    (fun q => (q.message, q.signature, q.pcrValues, q.akCert, q.platform, q.eventLog))
    fun (message, signature, pcrValues, akCert, platform, eventLog) =>
      ⟨message, signature, pcrValues, akCert, platform, eventLog⟩

def snpQuote : Codec (Bytes × List Bytes × String) :=
  bytes.pair ((bytes.vec bytes_ne_nil).pair string)

lemma tpmQuote_kept (q : Tpm.TpmQuote) : tpmQuote.kept q = q := by
  have hpcrs : q.pcrValues.map pcrValue.kept = q.pcrValues := List.map_id _
  have hevents : q.eventLog.map tpmEvent.kept = q.eventLog := List.map_id _
  show Tpm.TpmQuote.mk q.message q.signature (q.pcrValues.map pcrValue.kept) q.akCert
    q.platform (q.eventLog.map tpmEvent.kept) = q
  rw [hpcrs, hevents]

lemma snpQuote_kept (q : Bytes × List Bytes × String) : snpQuote.kept q = q := by
  show (q.1, q.2.1.map id, q.2.2) = q
  rw [List.map_id]

def quoteWith (eventLog : Codec (List TdxEvent)) : Codec AttestationQuote where
  encode
    | .dstackTdx quote log => 0 :: (bytes.pair eventLog).encode (quote, log)
    | .dstackGcpTdx quote log tpm =>
      1 :: ((bytes.pair eventLog).pair tpmQuote).encode ((quote, log), tpm)
    | .dstackNitroEnclave nsmQuote => 2 :: bytes.encode nsmQuote
    | .dstackAmdSevSnp report certChain mrConfig =>
      3 :: snpQuote.encode (report, certChain, mrConfig)
    | .dstackAwsNitroTpm attestationDoc => 4 :: bytes.encode attestationDoc
  decode
    | [] => .error "Not enough data to fill buffer"
    | index :: input =>
      match index.toNat with
      | 0 => (bytes.pair eventLog).decodeAs (fun (quote, log) => .dstackTdx quote log) input
      | 1 => ((bytes.pair eventLog).pair tpmQuote).decodeAs
          (fun ((quote, log), tpm) => .dstackGcpTdx quote log tpm) input
      | 2 => bytes.decodeAs .dstackNitroEnclave input
      | 3 => snpQuote.decodeAs
          (fun (report, certChain, mrConfig) => .dstackAmdSevSnp report certChain mrConfig)
          input
      | 4 => bytes.decodeAs .dstackAwsNitroTpm input
      | _ => .error "variant doesn't exist"
  InRange
    | .dstackTdx _ log => eventLog.InRange log
    | .dstackGcpTdx _ log tpm => eventLog.InRange log ∧ tpmQuote.InRange tpm
    | .dstackNitroEnclave _ | .dstackAmdSevSnp _ _ _ | .dstackAwsNitroTpm _ => True
  kept
    | .dstackTdx quote log => .dstackTdx quote (eventLog.kept log)
    | .dstackGcpTdx quote log tpm => .dstackGcpTdx quote (eventLog.kept log) tpm
    | .dstackNitroEnclave nsmQuote => .dstackNitroEnclave nsmQuote
    | .dstackAmdSevSnp report certChain mrConfig =>
      .dstackAmdSevSnp report certChain mrConfig
    | .dstackAwsNitroTpm attestationDoc => .dstackAwsNitroTpm attestationDoc
  exact := by
    intro q rest hq hlen
    cases q with
    | dstackTdx quote log =>
      exact Codec.decodeAs_encode (bytes.pair eventLog) _ ⟨trivial, hq⟩
        (Nat.lt_of_succ_lt hlen) rest
    | dstackGcpTdx quote log tpm =>
      have hread := Codec.decodeAs_encode ((bytes.pair eventLog).pair tpmQuote)
        (fun x => AttestationQuote.dstackGcpTdx x.1.1 x.1.2 x.2) ⟨⟨trivial, hq.1⟩, hq.2⟩
        (Nat.lt_of_succ_lt hlen) rest
      simp only [Codec.pair, tpmQuote_kept] at hread
      exact hread
    | dstackNitroEnclave nsmQuote =>
      exact Codec.decodeAs_encode bytes _ trivial (Nat.lt_of_succ_lt hlen) rest
    | dstackAmdSevSnp report certChain mrConfig =>
      have hread := Codec.decodeAs_encode snpQuote
        (fun x => AttestationQuote.dstackAmdSevSnp x.1 x.2.1 x.2.2)
        ⟨trivial, fun _ _ => trivial, trivial⟩ (Nat.lt_of_succ_lt hlen) rest
      rw [snpQuote_kept] at hread
      exact hread
    | dstackAwsNitroTpm attestationDoc =>
      exact Codec.decodeAs_encode bytes _ trivial (Nat.lt_of_succ_lt hlen) rest

def attestationQuote : Codec AttestationQuote :=
  quoteWith (tdxEvent.vec fun _ => pair_ne_nil u32_ne_nil _)

/-- `report: ()` takes no bytes. -/
def attestation : Codec LegacyAttestation :=
  (attestationQuote.pair ((runtimeEvent.vec fun _ => pair_ne_nil string_ne_nil _).pair
    ((array 64).pair string))).ofFields
    (fun a => (a.quote, a.runtimeEvents, ⟨a.reportData, a.reportData_length⟩, a.config))
    fun (quote, runtimeEvents, reportData, config) =>
      { quote, runtimeEvents, reportData := reportData.1, config, report := (),
        reportData_length := reportData.2 }

end Schema

/-- The bytes of `LegacyVersionedAttestation::V0`. -/
def encodeLegacyVersioned (a : LegacyAttestation) : Bytes :=
  0 :: Schema.attestation.encode a

def decodeLegacyVersioned : Bytes → Result (LegacyAttestation × Bytes)
  | [] => .error "Not enough data to fill buffer"
  | index :: input =>
    if index = 0 then Schema.attestation.decode input
    else .error "variant doesn't exist"

-- == msgpack

def isMsgpackMapPrefix (byte : UInt8) : Bool :=
  (0x80 ≤ byte && byte ≤ 0x8f) || byte == 0xde || byte == 0xdf

def AttestationV1.InRange (a : AttestationV1) : Prop :=
  Schema.attestationQuote.InRange (platformIntoLegacyQuote a.platform)

def LegacyAttestation.InRange (a : LegacyAttestation) : Prop :=
  Schema.attestationQuote.InRange a.quote

/-- The msgpack library at the attestation struct: its `version` field
and the rest. Decoding reports the position it stopped at. -/
structure Msgpack where
  toVecNamed : Nat → AttestationV1 → Result Bytes
  deserialize : Bytes → Result ((Nat × AttestationV1) × Nat)
  exact : ∀ {n : Nat} {a : AttestationV1} {b : Bytes}, n < 2 ^ 64 → a.InRange →
    toVecNamed n a = .ok b → deserialize b = .ok ((n, a), b.length)
  named : ∀ {n : Nat} {a : AttestationV1} {b : Bytes}, toVecNamed n a = .ok b →
    ∃ first tail, b = first :: tail ∧ isMsgpackMapPrefix first = true

def attestationVersion : Nat := 1

def AttestationV1.toMsgpack (M : Msgpack) (a : AttestationV1) : Result Bytes :=
  (M.toVecNamed attestationVersion a).context "failed to encode attestation as msgpack"

def AttestationV1.fromMsgpack (M : Msgpack) (bytes : Bytes) : Result AttestationV1 := do
  let ((version, value), position) ← (M.deserialize bytes).context
    "failed to decode attestation from msgpack"
  Result.ensure (position = bytes.length)
    ("trailing bytes after attestation msgpack: " ++ toString (bytes.length - position))
  Result.ensure (version = attestationVersion)
    ("unsupported attestation version: expected " ++ toString attestationVersion
      ++ ", got " ++ toString version)
  pure value

-- == versions

inductive VersionedAttestation where
  | V0 (attestation : LegacyAttestation)
  | V1 (attestation : AttestationV1)

def maxAttestationBytes : Nat := 10 * 1024 * 1024

namespace VersionedAttestation

def fromBytes (M : Msgpack) (bytes : Bytes) : Result VersionedAttestation :=
  if bytes.length > maxAttestationBytes then
    .error ("attestation bytes too large: " ++ toString bytes.length ++ " > "
      ++ toString maxAttestationBytes)
  else
    match bytes with
    | [] => .error "Empty attestation bytes"
    | first :: _ =>
      if first = 0x00 then do
        let (attestation, input) ← (decodeLegacyVersioned bytes).context
          "Failed to decode legacy VersionedAttestation"
        Result.ensure (input = [])
          ("Trailing bytes after legacy VersionedAttestation: " ++ toString input.length)
        pure (V0 attestation)
      else if isMsgpackMapPrefix first then do
        let attestation ← AttestationV1.fromMsgpack M bytes
        pure (V1 attestation)
      else .error "Unknown attestation wire format"

def toBytes (M : Msgpack) : VersionedAttestation → Result Bytes
  | V0 attestation => .ok (encodeLegacyVersioned attestation)
  | V1 attestation => attestation.toMsgpack M

def intoV1 : VersionedAttestation → AttestationV1
  | V0 attestation => attestation.intoV1
  | V1 attestation => attestation

end VersionedAttestation

-- == conversions

/-- Change the TDX event log of a quote that has one
(`tdx_quote_mut`). -/
def AttestationQuote.modifyEventLog (f : List TdxEvent → List TdxEvent) :
    AttestationQuote → AttestationQuote
  | .dstackTdx quote eventLog => .dstackTdx quote (f eventLog)
  | .dstackGcpTdx quote eventLog tpmQuote => .dstackGcpTdx quote (f eventLog) tpmQuote
  | .dstackAmdSevSnp report certChain mrConfig => .dstackAmdSevSnp report certChain mrConfig
  | .dstackNitroEnclave nsmQuote => .dstackNitroEnclave nsmQuote
  | .dstackAwsNitroTpm attestationDoc => .dstackAwsNitroTpm attestationDoc

def LegacyAttestation.fillEventPreimages (a : LegacyAttestation) : LegacyAttestation :=
  { a with quote := a.quote.modifyEventLog fillV2Preimages }

def LegacyAttestation.intoVersioned (a : LegacyAttestation) : VersionedAttestation :=
  let a := a.fillEventPreimages
  -- the runtime events alone decide the format
  let hasV2 := a.runtimeEvents.any fun e => e.version ≠ .V1
  if hasV2 then .V1 a.intoV1 else .V0 a

def AttestationV1.tryIntoLegacy (x : AttestationV1) : Result LegacyAttestation :=
  if x.stack.reportDataPayload.isSome then
    .error "dstack-pod attestation cannot be represented by the legacy schema"
  else if x.stack.runtimeEvents.any fun e => e.version ≠ .V1 then
    .error "non-V1 runtime events cannot be represented by the legacy schema"
  else if h : x.stack.reportData.length = 64 then
    .ok {
      quote := platformIntoLegacyQuote x.platform
      runtimeEvents := x.stack.runtimeEvents
      reportData := x.stack.reportData
      config := x.stack.config
      report := ()
      reportData_length := h }
  else .error "stack.report_data must be 64 bytes"

end Dstack.Attest
