/-
What the signature on a TPM quote determines.

The signed message carries one digest over a bare concatenation of PCR
values. Three checks turn that digest into a binding of every single
value: the provided indices are the attested ones in order, so the two
lists have one length; every value is 32 bytes, so the concatenation
splits one way; and every label is the bank's. The event log is not
signed at all. Each quoted PCR's events are replayed against its value
instead, and an extend chain binds its digests
(`Hasher.replay_injective`), so a log that is not empty for a PCR is
the log the register was extended by.
-/
import Dstack.Tpm.Verify

namespace Dstack.Tpm

open Lib

variable {C : Crypto} {q : TpmQuote} {col : QuoteCollateral} {ca : String}
  {r : VerifiedReport}

-- == what was checked

structure Accepted (q : TpmQuote) (r : VerifiedReport) : Prop where
  attest : parseTpmAttest q.message = .ok r.attest
  indices : attestedPcrIndices r.attest = q.pcrValues.map (·.index)
  values : ∀ p ∈ q.pcrValues, p.algorithm = "sha256" ∧ p.value.length = 32
  digest : r.attest.attestedQuoteInfo.pcrDigest = computePcrDigest q.pcrValues
  replayed : ∀ p ∈ q.pcrValues,
    replayPcr (quotedEvents q.pcrValues q.eventLog) p = .ok ()
  pcrValues : r.pcrValues = q.pcrValues
  eventLog : r.eventLog = quotedEvents q.pcrValues q.eventLog

lemma checkPcrValue_ok {p : PcrValue} {u : Unit} :
    checkPcrValue p = .ok u ↔ p.algorithm = "sha256" ∧ p.value.length = 32 := by
  simp [checkPcrValue, bind_eq_ok]

lemma verifyEventLog_ok {ps : List PcrValue} {log es : List TpmEvent}
    (h : verifyEventLog ps log = .ok es) :
    (∀ p ∈ ps, replayPcr (quotedEvents ps log) p = .ok ())
      ∧ es = quotedEvents ps log := by
  unfold verifyEventLog at h
  obtain ⟨_, hall, hes⟩ := bind_eq_ok.mp h
  exact ⟨Result.forM_eq_ok.mp hall, (pure_eq_ok.mp hes).symm⟩

lemma verifyQuoteWithCa_ok (h : verifyQuoteWithCa C q col ca = .ok r) :
    Accepted q r := by
  unfold verifyQuoteWithCa at h
  simp only [ok_iff, mapError_eq_ok, Result.rejectSome_eq_ok, Result.forM_eq_ok] at h
  obtain ⟨attest, hattest, -, hindices, -, -, -, -, -, hvalues, -, hdigest,
    log, hlog, -, -, -, -, -, -, -, -, rfl⟩ := h
  obtain ⟨hreplayed, hes⟩ := verifyEventLog_ok hlog
  exact {
    attest := hattest
    indices := hindices
    values := fun p hp => checkPcrValue_ok.mp (hvalues p hp)
    digest := hdigest
    replayed := hreplayed
    pcrValues := rfl
    eventLog := hes }

-- == values and digests

/-- What is hashed to check a quote against its log. -/
def hashInputs (q : TpmQuote) : List Bytes :=
  (q.pcrValues.map (·.value)).flatten ::
    q.pcrValues.flatMap fun p => Sha256.replayInputs
      (digestsOf (quotedEvents q.pcrValues q.eventLog) p.index)

lemma replayPcr_ok {es : List TpmEvent} {p : PcrValue}
    (h : replayPcr es p = .ok ()) (hne : digestsOf es p.index ≠ []) :
    p.value = Sha256.replay (digestsOf es p.index) := by
  unfold replayPcr at h
  rw [if_neg hne] at h
  exact (ensure_eq_ok.mp h).symm

private lemma pcrValues_ext :
    ∀ {ps qs : List PcrValue},
      (∀ p ∈ ps, p.algorithm = "sha256") → (∀ p ∈ qs, p.algorithm = "sha256") →
      ps.map (·.index) = qs.map (·.index) →
      ps.map (·.value) = qs.map (·.value) → ps = qs := by
  intro ps
  induction ps with
  | nil =>
    intro qs _ _ hidx _
    exact (List.map_eq_nil_iff.mp hidx.symm).symm
  | cons p ps ih =>
    intro qs hps hqs hidx hval
    cases qs with
    | nil => simp at hidx
    | cons q qs =>
      simp only [List.map_cons, List.cons.injEq] at hidx hval
      have halg : p.algorithm = q.algorithm := by
        rw [hps p List.mem_cons_self, hqs q List.mem_cons_self]
      have hpq : p = q := by
        cases p
        cases q
        simp_all
      rw [hpq, ih (fun x hx => hps x (List.mem_cons_of_mem _ hx))
        (fun x hx => hqs x (List.mem_cons_of_mem _ hx)) hidx.2 hval.2]

variable {q₁ q₂ : TpmQuote} {r₁ r₂ : VerifiedReport}

lemma Accepted.pcrValues_eq (h₁ : Accepted q₁ r₁) (h₂ : Accepted q₂ r₂)
    (hmsg : q₁.message = q₂.message)
    (hcf : Sha256.CollisionFreeOn (hashInputs q₁ ++ hashInputs q₂)) :
    q₁.pcrValues = q₂.pcrValues := by
  have hattest : r₁.attest = r₂.attest := by
    have h := h₁.attest
    rw [hmsg, h₂.attest] at h
    exact (Except.ok.inj h).symm
  have hidx : q₁.pcrValues.map (·.index) = q₂.pcrValues.map (·.index) := by
    rw [← h₁.indices, ← h₂.indices, hattest]
  have hdigest : computePcrDigest q₁.pcrValues = computePcrDigest q₂.pcrValues := by
    rw [← h₁.digest, ← h₂.digest, hattest]
  have hconcat := hcf _ (by simp [hashInputs]) _ (by simp [hashInputs]) hdigest
  have hval := flatten_inj_of_length (n := 32)
    (by simpa using congrArg List.length hidx)
    (fun v hv => by
      obtain ⟨p, hp, rfl⟩ := List.mem_map.mp hv
      exact (h₁.values p hp).2)
    (fun v hv => by
      obtain ⟨p, hp, rfl⟩ := List.mem_map.mp hv
      exact (h₂.values p hp).2)
    hconcat
  exact pcrValues_ext (fun p hp => (h₁.values p hp).1)
    (fun p hp => (h₂.values p hp).1) hidx hval

lemma Accepted.digests_eq (h₁ : Accepted q₁ r₁) (h₂ : Accepted q₂ r₂)
    (hvals : q₁.pcrValues = q₂.pcrValues)
    (hcf : Sha256.CollisionFreeOn (hashInputs q₁ ++ hashInputs q₂))
    (hz : Sha256.NoZeroOn (hashInputs q₁ ++ hashInputs q₂))
    {p : PcrValue} (hp : p ∈ q₁.pcrValues)
    (hne₁ : digestsOf r₁.eventLog p.index ≠ [])
    (hne₂ : digestsOf r₂.eventLog p.index ≠ []) :
    digestsOf r₁.eventLog p.index = digestsOf r₂.eventLog p.index := by
  rw [h₁.eventLog] at hne₁ ⊢
  rw [h₂.eventLog] at hne₂ ⊢
  have hp₂ : p ∈ q₂.pcrValues := hvals ▸ hp
  have hsub : Sha256.replayInputs
          (digestsOf (quotedEvents q₁.pcrValues q₁.eventLog) p.index)
        ++ Sha256.replayInputs
          (digestsOf (quotedEvents q₂.pcrValues q₂.eventLog) p.index)
      ⊆ hashInputs q₁ ++ hashInputs q₂ := by
    intro m hm
    rcases List.mem_append.mp hm with hm | hm
    · exact List.mem_append_left _
        (List.mem_cons_of_mem _ (List.mem_flatMap.mpr ⟨p, hp, hm⟩))
    · exact List.mem_append_right _
        (List.mem_cons_of_mem _ (List.mem_flatMap.mpr ⟨p, hp₂, hm⟩))
  refine Hasher.replay_injective (hcf.mono hsub) (hz.mono hsub) ?_
  rw [← replayPcr_ok (h₁.replayed p hp) hne₁,
    ← replayPcr_ok (h₂.replayed p hp₂) hne₂]

lemma Accepted.eventLog_quoted (h : Accepted q r) :
    ∀ e ∈ r.eventLog, e.pcrIndex ∈ q.pcrValues.map (·.index) := by
  intro e he
  rw [h.eventLog, quotedEvents, List.mem_filter] at he
  simpa using he.2

/-- The signed message determines the evidence: two quotes that carry
it, and that are both accepted, have the same PCR values, report no
event outside them, and for every quoted PCR report nothing or the one
digest sequence its value was extended by. -/
theorem message_binds_evidence {C₁ C₂ : Crypto} {col₁ col₂ : QuoteCollateral}
    {ca₁ ca₂ : String}
    (hmsg : q₁.message = q₂.message)
    (h₁ : verifyQuoteWithCa C₁ q₁ col₁ ca₁ = .ok r₁)
    (h₂ : verifyQuoteWithCa C₂ q₂ col₂ ca₂ = .ok r₂)
    (hcf : Sha256.CollisionFreeOn (hashInputs q₁ ++ hashInputs q₂))
    (hz : Sha256.NoZeroOn (hashInputs q₁ ++ hashInputs q₂)) :
    q₁.pcrValues = q₂.pcrValues
      ∧ (∀ i, r₁.getPcr i = r₂.getPcr i)
      ∧ (∀ p ∈ q₁.pcrValues, ∃ digests,
          (digestsOf r₁.eventLog p.index = []
            ∨ digestsOf r₁.eventLog p.index = digests)
          ∧ (digestsOf r₂.eventLog p.index = []
            ∨ digestsOf r₂.eventLog p.index = digests))
      ∧ (∀ e ∈ r₁.eventLog ++ r₂.eventLog,
          e.pcrIndex ∈ q₁.pcrValues.map (·.index)) := by
  have h₁ := verifyQuoteWithCa_ok h₁
  have h₂ := verifyQuoteWithCa_ok h₂
  have hvals := h₁.pcrValues_eq h₂ hmsg hcf
  refine ⟨hvals, fun i => ?_, fun p hp => ?_, fun e he => ?_⟩
  · rw [VerifiedReport.getPcr, VerifiedReport.getPcr, h₁.pcrValues,
      h₂.pcrValues, hvals]
  · by_cases hne₁ : digestsOf r₁.eventLog p.index = []
    · exact ⟨_, .inl hne₁, .inr rfl⟩
    by_cases hne₂ : digestsOf r₂.eventLog p.index = []
    · exact ⟨_, .inr rfl, .inl hne₂⟩
    exact ⟨_, .inr (h₁.digests_eq h₂ hvals hcf hz hp hne₁ hne₂), .inr rfl⟩
  · rcases List.mem_append.mp he with he | he
    · exact h₁.eventLog_quoted e he
    · rw [hvals]
      exact h₂.eventLog_quoted e he

-- == a quote of two PCRs

def samplePcrs : List PcrValue :=
  [⟨0, "sha256", sha256 (zeros 32 ++ List.replicate 32 0x33)⟩,
    ⟨2, "sha256", sha256 (sha256 (zeros 32 ++ List.replicate 32 0x11) ++ List.replicate 32 0x44)⟩]

def samplePcrDigest : Bytes := sha256 (samplePcrs.flatMap (·.value))

def sampleLog : List TpmEvent :=
  [⟨2, List.replicate 32 0x11⟩, ⟨0, List.replicate 32 0x33⟩, ⟨2, List.replicate 32 0x44⟩]

def sampleQuote (eventLog : List TpmEvent) : TpmQuote where
  message := beBytes 4 0xff544347 ++ beBytes 2 0x8018
    ++ beBytes 2 0 ++ beBytes 2 0 ++ zeros 17 ++ zeros 8
    ++ beBytes 4 1 ++ beBytes 2 tpmAlgSha256 ++ [3, 0x05, 0, 0]
    ++ beBytes 2 32 ++ samplePcrDigest
  signature := beBytes 2 0x0018 ++ beBytes 2 0x000B
    ++ beBytes 2 32 ++ List.replicate 32 0x01
    ++ beBytes 2 32 ++ List.replicate 32 0x02
  pcrValues := samplePcrs
  akCert := [0x30]
  platform := .gcp
  eventLog

def sampleCrypto : Crypto where
  RsaKey := Unit
  EccKey := Unit
  extractAkPublicKeyFromCert cert :=
    if cert = [0x30] then .ok (.ecc ()) else .error "bad certificate"
  rsaVerify _ _ _ := false
  parseEcdsaSignature sig := .ok sig
  eccVerifyPrehash _ _ sig :=
    sig = List.replicate 32 0x01 ++ List.replicate 32 0x02
  verifyAkChainWithCollateral _ _ _ := .ok ()

def sampleReport (eventLog : List TpmEvent) : VerifiedReport where
  attest := ⟨0xff544347, 0x8018, [], [], ⟨0, 0, 0, 0⟩, 0,
    ⟨[⟨tpmAlgSha256, [0, 2]⟩], samplePcrDigest⟩⟩
  platform := .gcp
  pcrValues := samplePcrs
  eventLog

def firstPcrLog : List TpmEvent := [⟨0, List.replicate 32 0x33⟩]

lemma sampleQuote_accepted :
    verifyQuoteWithCa sampleCrypto (sampleQuote (⟨7, [0x22]⟩ :: sampleLog)) ⟨"", [], none⟩ ""
        = .ok (sampleReport sampleLog)
      ∧ verifyQuoteWithCa sampleCrypto (sampleQuote firstPcrLog) ⟨"", [], none⟩ ""
        = .ok (sampleReport firstPcrLog) := by
  decide +kernel

/-- The same message with the log of both PCRs and an event of neither, and
with the log of the first PCR alone: the values are the same, and of the
second PCR one log has its digests and the other nothing. -/
theorem message_binds_sample_evidence :
    (∀ i, (sampleReport sampleLog).getPcr i = (sampleReport firstPcrLog).getPcr i)
      ∧ ∃ digests, (digestsOf sampleLog 2 = [] ∨ digestsOf sampleLog 2 = digests)
        ∧ (digestsOf firstPcrLog 2 = [] ∨ digestsOf firstPcrLog 2 = digests) := by
  obtain ⟨-, hvalues, hdigests, -⟩ := message_binds_evidence (by rfl) sampleQuote_accepted.1
    sampleQuote_accepted.2 (by decide +kernel) (by decide +kernel)
  exact ⟨hvalues, hdigests _ (List.mem_cons_of_mem _ List.mem_cons_self)⟩

end Dstack.Tpm
