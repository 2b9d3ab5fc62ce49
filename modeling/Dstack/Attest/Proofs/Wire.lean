/-
What survives the wire.

Both formats read back what they carry, and SCALE does not carry event
versions. `intoVersioned` looks at the versions of the runtime events to
choose the format, but the entries of the TDX event log have versions of
their own. So an attestation survives exactly when some runtime event
forces msgpack, or no entry of the event log needs it; in between, a V2
entry comes back as a V1 entry without its preimage, and verification no
longer looks at it.
-/
import Dstack.Attest.Proofs.Legacy
import Dstack.Attest.Wire

namespace Dstack.Attest

open Lib EventLog Scale

-- == what is read

/-- An entry as verification and decoding read it: the preimage of a V1
entry is never looked at. -/
def readEntry (e : TdxEvent) : TdxEvent :=
  match e.version with
  | .V1 => { e with preimage := none }
  | .V2 => e

def AttestationQuote.readPart (q : AttestationQuote) : AttestationQuote :=
  q.modifyEventLog (List.map readEntry)

def LegacyAttestation.readPart (a : LegacyAttestation) : LegacyAttestation :=
  { a with quote := a.quote.readPart }

def AttestationV1.readPart (x : AttestationV1) : AttestationV1 :=
  { x with platform := platformFromLegacyQuote (platformIntoLegacyQuote x.platform).readPart }

/-- An attestation as verification and decoding read it. -/
def VersionedAttestation.readPart : VersionedAttestation → VersionedAttestation
  | .V0 a => .V0 a.readPart
  | .V1 x => .V1 x.readPart

lemma VersionedAttestation.intoV1_readPart (v : VersionedAttestation) :
    v.readPart.intoV1 = v.intoV1.readPart := by
  cases v with
  | V1 x => rfl
  | V0 a =>
    show LegacyAttestation.intoV1 a.readPart = a.intoV1.readPart
    unfold LegacyAttestation.intoV1 AttestationV1.readPart
    rw [platformIntoLegacyQuote_from]
    rfl

lemma validateV2Preimage_readEntry (index : Nat) (e : TdxEvent) :
    validateV2Preimage index (readEntry e) = validateV2Preimage index e := by
  obtain ⟨imr, eventType, digest, event, eventPayload, version, preimage⟩ := e
  cases version with
  | V2 => rfl
  | V1 =>
    unfold validateV2Preimage
    rw [if_pos (Or.inr (by intro h; cases h)), if_pos (Or.inr (by intro h; cases h))]

lemma validateV2Preimages_readEntry (events : List TdxEvent) :
    validateV2Preimages (events.map readEntry) = validateV2Preimages events := by
  have hloop : ∀ n, ((events.map readEntry).zipIdx n).forM
        (fun p => validateV2Preimage p.2 p.1)
      = (events.zipIdx n).forM (fun p => validateV2Preimage p.2 p.1) := by
    induction events with
    | nil => intro n; rfl
    | cons e es ih =>
      intro n
      show (validateV2Preimage n (readEntry e) >>= fun _ => _)
        = (validateV2Preimage n e >>= fun _ => _)
      rw [validateV2Preimage_readEntry]
      exact congrArg (fun r => validateV2Preimage n e >>= fun _ => r) (ih (n + 1))
  exact hloop 0

lemma AttestationV1.verify_readPart (x : AttestationV1) (V : AttestationVerifier)
    (now : Option Nat) :
    x.readPart.verifyWithTime V now
      = (fun va => { va with quote := va.quote.readPart }) <$> x.verifyWithTime V now := by
  have hlog : validateEventLog x.readPart.platform = validateEventLog x.platform := by
    unfold AttestationV1.readPart
    cases x.platform <;> first
      | rfl
      | exact congrArg
          (fun r => Result.context r "Failed to validate TDX V2 event digest preimages")
          (validateV2Preimages_readEntry _)
  have hplatform : ∀ rd n, verifyPlatform V x.readPart rd n = verifyPlatform V x rd n := by
    intro rd n
    unfold verifyPlatform AttestationV1.readPart
    cases x.platform <;> rfl
  have hquote : platformIntoLegacyQuote x.readPart.platform
      = (platformIntoLegacyQuote x.platform).readPart :=
    platformIntoLegacyQuote_from _
  unfold AttestationV1.verifyWithTime
  simp only [map_bind, map_pure, hlog, hplatform, hquote]
  rfl

lemma AttestationV1.decode_readPart (D : Decoders) (x : AttestationV1)
    (boottimeMr : Bool) (vmConfig : String) :
    V1.decodeAppInfoEx D x.readPart boottimeMr vmConfig
      = V1.decodeAppInfoEx D x boottimeMr vmConfig := by
  unfold V1.decodeAppInfoEx V1.decodePlatform AttestationV1.readPart
  cases x.platform <;> rfl

lemma VersionedAttestation.reads_same {v v' : VersionedAttestation}
    (h : v.readPart = v'.readPart) :
    (∀ V now, (v.intoV1.verifyWithTime V now).isOk = (v'.intoV1.verifyWithTime V now).isOk)
      ∧ ∀ D boottimeMr vmConfig, V1.decodeAppInfoEx D v.intoV1 boottimeMr vmConfig
          = V1.decodeAppInfoEx D v'.intoV1 boottimeMr vmConfig := by
  have hpart : v.intoV1.readPart = v'.intoV1.readPart := by
    rw [← intoV1_readPart, ← intoV1_readPart, h]
  constructor
  · intro V now
    have hok : ∀ x : AttestationV1,
        (x.verifyWithTime V now).isOk = (x.readPart.verifyWithTime V now).isOk := by
      intro x
      rw [AttestationV1.verify_readPart, Result.isOk_map]
    rw [hok v.intoV1, hok v'.intoV1, hpart]
  · intro D boottimeMr vmConfig
    rw [← AttestationV1.decode_readPart, hpart, AttestationV1.decode_readPart]

-- == what comes back

variable {a : LegacyAttestation}

lemma fromBytes_legacy (M : Msgpack) (ha : a.InRange)
    (hmax : (encodeLegacyVersioned a).length ≤ maxAttestationBytes) :
    VersionedAttestation.fromBytes M (encodeLegacyVersioned a)
      = .ok (.V0 (Schema.attestation.kept a)) := by
  have hsize : (Schema.attestation.encode a).length < 2 ^ 32 := by
    unfold encodeLegacyVersioned maxAttestationBytes at hmax
    simp only [List.length_cons] at hmax
    omega
  have hdecode : decodeLegacyVersioned (encodeLegacyVersioned a)
      = .ok (Schema.attestation.kept a, []) := by
    have hexact := Schema.attestation.exact a []
      ⟨ha, fun _ _ => ⟨trivial, trivial⟩, trivial, trivial⟩ hsize
    rw [List.append_nil] at hexact
    exact hexact
  unfold VersionedAttestation.fromBytes
  rw [if_neg (by omega)]
  show ((decodeLegacyVersioned (encodeLegacyVersioned a)).context _ >>= _) = _
  rw [hdecode]
  rfl

lemma fromBytes_current {M : Msgpack} {x : AttestationV1} (hx : x.InRange) {b : Bytes}
    (hb : x.toMsgpack M = .ok b) (hmax : b.length ≤ maxAttestationBytes) :
    VersionedAttestation.fromBytes M b = .ok (.V1 x) := by
  unfold AttestationV1.toMsgpack at hb
  rw [context_eq_ok] at hb
  have hread := M.exact (by decide) hx hb
  obtain ⟨first, tail, rfl, hfirst⟩ := M.named hb
  have hnonzero : first ≠ 0 := by
    rintro rfl
    exact absurd hfirst (by decide)
  unfold VersionedAttestation.fromBytes
  rw [if_neg (by omega)]
  dsimp only
  rw [if_neg hnonzero, if_pos hfirst]
  unfold AttestationV1.fromMsgpack
  rw [hread]
  simp [Result.context, Result.ensure, bind, Except.bind, pure, Except.pure]

-- == event logs

def AttestationQuote.eventLog : AttestationQuote → List TdxEvent
  | .dstackTdx _ eventLog | .dstackGcpTdx _ eventLog _ => eventLog
  | .dstackAmdSevSnp _ _ _ | .dstackNitroEnclave _ | .dstackAwsNitroTpm _ => []

lemma AttestationQuote.modifyEventLog_map_eq_iff {q : AttestationQuote}
    {f g : TdxEvent → TdxEvent} :
    q.modifyEventLog (List.map f) = q.modifyEventLog (List.map g)
      ↔ ∀ e ∈ q.eventLog, f e = g e := by
  cases q <;> simp [AttestationQuote.modifyEventLog, AttestationQuote.eventLog]

lemma AttestationQuote.modifyEventLog_comp (q : AttestationQuote) (f g : TdxEvent → TdxEvent) :
    (q.modifyEventLog (List.map f)).modifyEventLog (List.map g)
      = q.modifyEventLog (List.map (g ∘ f)) := by
  cases q <;> simp [AttestationQuote.modifyEventLog]

/-- The step of `fill_v2_preimages`. -/
def fillEntry (e : TdxEvent) : TdxEvent :=
  if e.version = .V2 then e.fillPreimage else e

lemma fillEntry_version (e : TdxEvent) : (fillEntry e).version = e.version := by
  unfold fillEntry TdxEvent.fillPreimage
  split
  · split
    · rfl
    · split <;> rfl
  · rfl

lemma readEntry_kept_iff (e : TdxEvent) :
    readEntry (Schema.tdxEvent.kept e) = readEntry e ↔ e.version = .V1 := by
  obtain ⟨imr, eventType, digest, event, eventPayload, version, preimage⟩ := e
  cases version with
  | V1 => exact ⟨fun _ => rfl, fun _ => rfl⟩
  | V2 =>
    constructor
    · intro h
      have hversion : EventLogVersion.V1 = .V2 := congrArg TdxEvent.version h
      cases hversion
    · intro h
      cases h

lemma Schema.attestationQuote_kept (q : AttestationQuote) :
    Schema.attestationQuote.kept q = q.modifyEventLog (List.map Schema.tdxEvent.kept) := by
  cases q <;> rfl

lemma map_runtimeEvent_kept {l : List RuntimeEvent} (h : ∀ e ∈ l, e.version = .V1) :
    l.map Schema.runtimeEvent.kept = l := by
  rw [List.map_congr_left (g := id), List.map_id]
  intro e he
  obtain ⟨event, payload, version⟩ := e
  cases h _ he
  rfl

-- == losslessness

/-- The versions of an attestation travel with it: a runtime event calls
for the format that has versions, or no event-log entry needs one. -/
def LegacyAttestation.VersionsTravel (a : LegacyAttestation) : Prop :=
  (∃ e ∈ a.runtimeEvents, e.version ≠ .V1) ∨ ∀ e ∈ a.quote.eventLog, e.version = .V1

instance (a : LegacyAttestation) : Decidable a.VersionsTravel :=
  inferInstanceAs (Decidable (_ ∨ _))

lemma LegacyAttestation.InRange.fill (ha : a.InRange) :
    a.fillEventPreimages.InRange := by
  have hentry : ∀ e : TdxEvent, Schema.tdxEvent.InRange e →
      Schema.tdxEvent.InRange (fillEntry e) := by
    intro e he
    unfold fillEntry TdxEvent.fillPreimage
    split
    · split
      · exact he
      · split <;> exact he
    · exact he
  have hlog : ∀ log : List TdxEvent, (∀ e ∈ log, Schema.tdxEvent.InRange e) →
      ∀ e ∈ log.map fillEntry, Schema.tdxEvent.InRange e := by
    intro log h e he
    obtain ⟨e', he', rfl⟩ := List.mem_map.mp he
    exact hentry e' (h e' he')
  unfold LegacyAttestation.InRange at ha
  show Schema.attestationQuote.InRange (a.quote.modifyEventLog (List.map fillEntry))
  cases hq : a.quote with
  | dstackTdx quote log => rw [hq] at ha; exact hlog log ha
  | dstackGcpTdx quote log tpm => rw [hq] at ha; exact ⟨hlog log ha.1, ha.2⟩
  | dstackNitroEnclave nsmQuote => trivial
  | dstackAmdSevSnp report certChain mrConfig => trivial
  | dstackAwsNitroTpm attestationDoc => trivial

lemma kept_readPart_iff (hevents : ∀ e ∈ a.runtimeEvents, e.version = .V1) :
    (Schema.attestation.kept a.fillEventPreimages).readPart = a.fillEventPreimages.readPart
      ↔ ∀ e ∈ a.quote.eventLog, e.version = .V1 := by
  have hquote : (Schema.attestation.kept a.fillEventPreimages).quote.readPart
      = a.quote.modifyEventLog (List.map (readEntry ∘ Schema.tdxEvent.kept ∘ fillEntry)) := by
    show (Schema.attestationQuote.kept (a.quote.modifyEventLog (List.map fillEntry))).readPart
      = _
    rw [Schema.attestationQuote_kept]
    unfold AttestationQuote.readPart
    rw [AttestationQuote.modifyEventLog_comp, AttestationQuote.modifyEventLog_comp,
      Function.comp_assoc]
  have hquote' : a.fillEventPreimages.quote.readPart
      = a.quote.modifyEventLog (List.map (readEntry ∘ fillEntry)) :=
    AttestationQuote.modifyEventLog_comp _ _ _
  have hruntime : (Schema.attestation.kept a.fillEventPreimages).runtimeEvents
      = a.runtimeEvents := map_runtimeEvent_kept hevents
  have hentries : (Schema.attestation.kept a.fillEventPreimages).quote.readPart
        = a.fillEventPreimages.quote.readPart
      ↔ ∀ e ∈ a.quote.eventLog, e.version = .V1 := by
    rw [hquote, hquote', AttestationQuote.modifyEventLog_map_eq_iff]
    simp only [Function.comp_apply, readEntry_kept_iff, fillEntry_version]
  rw [← hentries]
  constructor
  · intro h
    exact congrArg (fun a : LegacyAttestation => a.quote) h
  · intro h
    unfold LegacyAttestation.readPart
    simp only [h, hruntime]
    rfl

lemma LegacyAttestation.intoVersioned_cases (a : LegacyAttestation) :
    (a.intoVersioned = .V1 a.fillEventPreimages.intoV1
        ∧ ∃ e ∈ a.runtimeEvents, e.version ≠ .V1)
      ∨ (a.intoVersioned = .V0 a.fillEventPreimages
        ∧ ∀ e ∈ a.runtimeEvents, e.version = .V1) := by
  unfold LegacyAttestation.intoVersioned
  by_cases h : ∃ e ∈ a.runtimeEvents, e.version ≠ .V1
  · have hany : (a.fillEventPreimages.runtimeEvents.any fun e => e.version ≠ .V1) = true := by
      obtain ⟨e, he, hv⟩ := h
      exact List.any_eq_true.mpr ⟨e, he, decide_eq_true hv⟩
    exact .inl ⟨if_pos hany, h⟩
  · have hall : ∀ e ∈ a.runtimeEvents, e.version = .V1 := by
      intro e he
      by_contra hv
      exact h ⟨e, he, hv⟩
    have hany : ¬ (a.fillEventPreimages.runtimeEvents.any fun e => e.version ≠ .V1) = true := by
      intro htrue
      obtain ⟨e, he, hv⟩ := List.any_eq_true.mp htrue
      exact of_decide_eq_true hv (hall e he)
    exact .inr ⟨if_neg hany, hall⟩

lemma fromBytes_intoVersioned (M : Msgpack) (ha : a.InRange)
    {b : Bytes} (hb : a.intoVersioned.toBytes M = .ok b) (hmax : b.length ≤ maxAttestationBytes) :
    ∃ v, VersionedAttestation.fromBytes M b = .ok v
      ∧ (v.readPart = a.intoVersioned.readPart ↔ a.VersionsTravel) := by
  rcases a.intoVersioned_cases with ⟨hv, hsome⟩ | ⟨hv, hall⟩
  · rw [hv] at hb ⊢
    have hrange : a.fillEventPreimages.intoV1.InRange := by
      unfold AttestationV1.InRange LegacyAttestation.intoV1
      rw [platformIntoLegacyQuote_from]
      exact ha.fill
    exact ⟨_, fromBytes_current hrange hb hmax, ⟨fun _ => .inl hsome, fun _ => rfl⟩⟩
  · rw [hv] at hb ⊢
    cases hb
    refine ⟨_, fromBytes_legacy M ha.fill hmax, ?_⟩
    have hiff := kept_readPart_iff hall
    constructor
    · intro h
      exact .inr (hiff.mp (VersionedAttestation.V0.inj h))
    · intro h
      rcases h with ⟨e, he, hne⟩ | hlog
      · exact absurd (hall e he) hne
      · exact congrArg VersionedAttestation.V0 (hiff.mpr hlog)

lemma AttestationV1.tryIntoLegacy_ok {x : AttestationV1} (h : x.tryIntoLegacy = .ok a) :
    a.intoV1 = x ∧ ∀ e ∈ a.runtimeEvents, e.version = .V1 := by
  unfold AttestationV1.tryIntoLegacy at h
  split at h
  · cases h
  next hpayload =>
    split at h
    · cases h
    next hevents =>
      split at h
      next hlength =>
        cases h
        obtain ⟨platform, reportData, runtimeEvents, config, payload⟩ := x
        constructor
        · cases payload with
          | some p => exact absurd rfl hpayload
          | none =>
            unfold LegacyAttestation.intoV1
            simp only [platformFromLegacyQuote_into]
        · intro e he
          by_contra hv
          exact hevents (List.any_eq_true.mpr ⟨e, he, decide_eq_true hv⟩)
      · cases h

lemma LegacyAttestation.fill_of_v1
    (h : ∀ e ∈ a.quote.eventLog, e.version = .V1) : a.fillEventPreimages = a := by
  have hquote : a.quote.modifyEventLog (List.map fillEntry) = a.quote := by
    have hid : a.quote.modifyEventLog (List.map id) = a.quote := by
      cases a.quote <;> simp [AttestationQuote.modifyEventLog]
    refine (AttestationQuote.modifyEventLog_map_eq_iff.mpr fun e he => ?_).trans hid
    unfold fillEntry
    rw [if_neg (by rw [h e he]; decide)]
    rfl
  show ({ a with quote := a.quote.modifyEventLog (List.map fillEntry) } : LegacyAttestation) = a
  rw [hquote]

/-- The chosen wire format is lossless exactly for the attestations whose
versions travel. An attestation that converts to the legacy schema comes
back from msgpack as it was and verifies as before; through its legacy
bytes it still verifies on the same terms if its versions travel. -/
theorem wire_lossless_iff (M : Msgpack) :
    (∀ (a : LegacyAttestation) (b : Bytes), a.InRange →
      a.intoVersioned.toBytes M = .ok b → b.length ≤ maxAttestationBytes →
      ∃ v, VersionedAttestation.fromBytes M b = .ok v
        ∧ (v.readPart = a.intoVersioned.readPart ↔ a.VersionsTravel))
    ∧ (∀ (x : AttestationV1) (a : LegacyAttestation), x.InRange → x.tryIntoLegacy = .ok a →
      (∀ b, (VersionedAttestation.V1 a.intoV1).toBytes M = .ok b →
        b.length ≤ maxAttestationBytes →
        VersionedAttestation.fromBytes M b = .ok (.V1 a.intoV1))
      ∧ (∀ V now, a.intoV1.verifyWithTime V now = x.verifyWithTime V now)
      ∧ (a.VersionsTravel → ∀ b, a.intoVersioned.toBytes M = .ok b →
        b.length ≤ maxAttestationBytes →
        ∃ v, VersionedAttestation.fromBytes M b = .ok v
          ∧ ∀ V now, (v.intoV1.verifyWithTime V now).isOk
            = (x.verifyWithTime V now).isOk)) := by
  refine ⟨fun a b ha hb hmax => fromBytes_intoVersioned M ha hb hmax, ?_⟩
  intro x a hx hlegacy
  obtain ⟨hback, hevents⟩ := AttestationV1.tryIntoLegacy_ok hlegacy
  have ha : a.InRange := by
    rw [← hback] at hx
    unfold AttestationV1.InRange LegacyAttestation.intoV1 at hx
    rwa [platformIntoLegacyQuote_from] at hx
  refine ⟨fun b hb hmax => fromBytes_current (hback ▸ hx) hb hmax,
    fun V now => by rw [hback], ?_⟩
  intro htravel b hb hmax
  obtain ⟨v, hv, hread⟩ := fromBytes_intoVersioned M ha hb hmax
  have hlog : ∀ e ∈ a.quote.eventLog, e.version = .V1 := by
    rcases htravel with ⟨e, he, hne⟩ | hlog
    · exact absurd (hevents e he) hne
    · exact hlog
  have hsame : a.intoVersioned.intoV1 = x := by
    rcases a.intoVersioned_cases with ⟨-, e, he, hne⟩ | ⟨hform, -⟩
    · exact absurd (hevents e he) hne
    · rw [hform, LegacyAttestation.fill_of_v1 hlog]
      exact hback
  refine ⟨v, hv, fun V now => ?_⟩
  rw [(VersionedAttestation.reads_same (hread.mpr htravel)).1 V now, hsame]

-- == an instance, and the loss

-- A format in the shape of msgpack: a map marker, the version number,
-- and every field, event versions and preimages included.
namespace Sample

def version : Codec EventLogVersion :=
  enumeration [.V1, .V2] (fun v => by cases v <;> decide) (by decide)

def tdxEvent : Codec TdxEvent :=
  (u32.pair (u32.pair (bytes.pair (string.pair (bytes.pair (version.pair
    string.option)))))).ofFields
    (fun e => (e.imr, e.eventType, e.digest, e.event, e.eventPayload, e.version, e.preimage))
    fun (imr, eventType, digest, event, eventPayload, version, preimage) =>
      ⟨imr, eventType, digest, event, eventPayload, version, preimage⟩

def runtimeEvent : Codec RuntimeEvent :=
  (string.pair (bytes.pair version)).ofFields (fun e => (e.event, e.payload, e.version))
    fun (event, payload, version) => ⟨event, payload, version⟩

def quote : Codec AttestationQuote :=
  Schema.quoteWith (tdxEvent.vec fun _ => pair_ne_nil u32_ne_nil _)

def attestation : Codec AttestationV1 :=
  (quote.pair (bytes.pair ((runtimeEvent.vec fun _ => pair_ne_nil string_ne_nil _).pair
    (string.pair string.option)))).ofFields
    (fun a => (platformIntoLegacyQuote a.platform, a.stack.reportData,
      a.stack.runtimeEvents, a.stack.config, a.stack.reportDataPayload))
    fun (quote, reportData, runtimeEvents, config, reportDataPayload) =>
      ⟨platformFromLegacyQuote quote, ⟨reportData, runtimeEvents, config, reportDataPayload⟩⟩

lemma quote_kept (q : AttestationQuote) : quote.kept q = q := by
  have hevent : tdxEvent.kept = id := by
    funext e
    obtain ⟨imr, eventType, digest, event, eventPayload, version, preimage⟩ := e
    cases preimage <;> rfl
  have hlog : ∀ log : List TdxEvent, log.map tdxEvent.kept = log := by
    intro log
    rw [hevent, List.map_id]
  cases q with
  | dstackTdx quote log => exact congrArg (AttestationQuote.dstackTdx quote) (hlog log)
  | dstackGcpTdx quote log tpm =>
    exact congrArg (AttestationQuote.dstackGcpTdx quote · tpm) (hlog log)
  | dstackNitroEnclave nsmQuote => rfl
  | dstackAmdSevSnp report certChain mrConfig => rfl
  | dstackAwsNitroTpm attestationDoc => rfl

lemma attestation_kept (a : AttestationV1) : attestation.kept a = a := by
  obtain ⟨platform, reportData, runtimeEvents, config, payload⟩ := a
  have hevents : runtimeEvents.map runtimeEvent.kept = runtimeEvents := List.map_id _
  have hpayload : payload.map id = payload := Option.map_id_apply
  show AttestationV1.mk (platformFromLegacyQuote (quote.kept (platformIntoLegacyQuote platform)))
    ⟨reportData, runtimeEvents.map runtimeEvent.kept, config, payload.map id⟩ = _
  rw [quote_kept, platformFromLegacyQuote_into, hevents, hpayload]

lemma attestation_inRange {a : AttestationV1} (h : a.InRange) : attestation.InRange a := by
  have hentry : ∀ e : TdxEvent, Schema.tdxEvent.InRange e → tdxEvent.InRange e :=
    fun e he => ⟨he.1, he.2.1, trivial, trivial, trivial, trivial, fun _ _ => trivial⟩
  have hquote : quote.InRange (platformIntoLegacyQuote a.platform) := by
    unfold AttestationV1.InRange at h
    cases hq : platformIntoLegacyQuote a.platform with
    | dstackTdx quote log =>
      rw [hq] at h
      exact fun e he => hentry e (h e he)
    | dstackGcpTdx quote log tpm =>
      rw [hq] at h
      exact ⟨fun e he => hentry e (h.1 e he), h.2⟩
    | dstackNitroEnclave nsmQuote => trivial
    | dstackAmdSevSnp report certChain mrConfig => trivial
    | dstackAwsNitroTpm attestationDoc => trivial
  exact ⟨hquote, trivial, fun _ _ => ⟨trivial, trivial, trivial⟩, trivial,
    fun _ _ => trivial⟩

def encodeNamed (n : Nat) (a : AttestationV1) : Bytes :=
  0x83 :: (leBytes 8 n ++ attestation.encode a)

def decodeNamed : Bytes → Result ((Nat × AttestationV1) × Nat)
  | [] => .error "unexpected end of file"
  | marker :: input =>
    if marker = 0x83 then do
      let (n, rest) ← readLe 8 input
      let (a, rest) ← attestation.decode rest
      pure ((n, a), (marker :: input).length - rest.length)
    else .error "invalid type"

lemma decodeNamed_encodeNamed {n : Nat} {a : AttestationV1} (hn : n < 2 ^ 64)
    (ha : a.InRange) (hlen : (encodeNamed n a).length < 2 ^ 32) :
    decodeNamed (encodeNamed n a) = .ok ((n, a), (encodeNamed n a).length) := by
  have hsize : (attestation.encode a).length < 2 ^ 32 := by
    unfold encodeNamed at hlen
    simp only [List.length_cons, List.length_append] at hlen
    omega
  have hread : readLe 8 (leBytes 8 n ++ attestation.encode a)
      = .ok (n, attestation.encode a) := readLe_append (by omega) _
  have hexact := attestation.exact a [] (attestation_inRange ha) hsize
  rw [List.append_nil, attestation_kept] at hexact
  show (readLe 8 (leBytes 8 n ++ attestation.encode a) >>= _) = _
  rw [hread]
  show (attestation.decode (attestation.encode a) >>= _) = _
  rw [hexact]
  rfl

end Sample

def sampleMsgpack : Msgpack where
  toVecNamed n a :=
    if (Sample.encodeNamed n a).length < 2 ^ 32 then .ok (Sample.encodeNamed n a)
    else .error "invalid value"
  deserialize := Sample.decodeNamed
  exact := by
    intro n a b hn ha hb
    split at hb
    next hlen =>
      cases hb
      exact Sample.decodeNamed_encodeNamed hn ha hlen
    · cases hb
  named := by
    intro n a b hb
    split at hb
    · cases hb
      exact ⟨0x83, _, rfl, by decide⟩
    · cases hb

lemma toMsgpack_sample {a : AttestationV1}
    (h : (Sample.encodeNamed attestationVersion a).length < 2 ^ 32) :
    a.toMsgpack sampleMsgpack = .ok (Sample.encodeNamed attestationVersion a) :=
  congrArg (Result.context · "failed to encode attestation as msgpack") (if_pos h)

def sampleLegacy (runtimeEvents : List RuntimeEvent) (eventLog : List TdxEvent) :
    LegacyAttestation where
  quote := .dstackTdx [0x04] eventLog
  runtimeEvents := runtimeEvents
  reportData := zeros 64
  config := ""
  report := ()
  reportData_length := rfl

def sampleEntry (version : EventLogVersion) : TdxEvent :=
  ⟨3, dstackRuntimeEventType, [], "app-id", [0x22], version, none⟩

lemma sampleLegacy_inRange (runtimeEvents : List RuntimeEvent) (version : EventLogVersion) :
    (sampleLegacy runtimeEvents [sampleEntry version]).InRange := by
  intro e he
  rw [List.mem_singleton.mp he]
  have hranges : 3 < 2 ^ 32 ∧ dstackRuntimeEventType < 2 ^ 32 := by decide
  exact ⟨hranges.1, hranges.2, trivial, trivial, trivial⟩

/-- A V2 runtime event takes its log entry along. -/
theorem v2_runtime_event_keeps_entry :
    ∃ b v, (sampleLegacy [⟨"app-id", [0x22], .V2⟩] [sampleEntry .V2]).intoVersioned.toBytes
          sampleMsgpack = .ok b
      ∧ VersionedAttestation.fromBytes sampleMsgpack b = .ok v
      ∧ v.readPart = (sampleLegacy [⟨"app-id", [0x22], .V2⟩]
          [sampleEntry .V2]).intoVersioned.readPart := by
  have hsize : (Sample.encodeNamed attestationVersion (sampleLegacy
      [⟨"app-id", [0x22], .V2⟩] [sampleEntry .V2]).fillEventPreimages.intoV1).length
      ≤ maxAttestationBytes := by decide +kernel
  have hb : (sampleLegacy [⟨"app-id", [0x22], .V2⟩] [sampleEntry .V2]).intoVersioned.toBytes
      sampleMsgpack = .ok (Sample.encodeNamed attestationVersion (sampleLegacy
        [⟨"app-id", [0x22], .V2⟩] [sampleEntry .V2]).fillEventPreimages.intoV1) :=
    toMsgpack_sample (Nat.lt_of_le_of_lt hsize (by decide))
  obtain ⟨v, hv, hread⟩ := (wire_lossless_iff sampleMsgpack).1 _ _
    (sampleLegacy_inRange _ _) hb hsize
  exact ⟨_, v, hb, hv, hread.mpr (by decide)⟩

/-- A V2 log entry beside V1 runtime events only, here none, comes back
as a V1 entry. -/
theorem v2_entry_is_lost :
    ∃ b v, (sampleLegacy [] [sampleEntry .V2]).intoVersioned.toBytes sampleMsgpack = .ok b
      ∧ b.length ≤ maxAttestationBytes
      ∧ VersionedAttestation.fromBytes sampleMsgpack b = .ok v
      ∧ (sampleLegacy [] [sampleEntry .V2]).intoVersioned.intoV1.platform.tdxEventLog.map
          (·.map (·.version)) = some [.V2]
      ∧ v.intoV1.platform.tdxEventLog.map (·.map (·.version)) = some [.V1] := by
  have hsize : (encodeLegacyVersioned (sampleLegacy []
      [sampleEntry .V2]).fillEventPreimages).length ≤ maxAttestationBytes := by
    decide +kernel
  exact ⟨_, _, rfl, hsize, fromBytes_legacy _ (sampleLegacy_inRange [] .V2).fill hsize,
    by decide, by decide⟩

end Dstack.Attest
