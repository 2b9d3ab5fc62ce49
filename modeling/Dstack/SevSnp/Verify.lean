/-
AMD SEV-SNP report verification (`sev-snp-qvl`).

A report is decoded once, checked against the certificate chain of each
candidate product family in turn, and held to the invariant policy. The
verified report repeats the decoded fields, which is also all that
`parseUnverifiedAmdSnpReport` returns: verification never changes what
the bytes say (`verifyCandidates_ok`).
-/
import Dstack.Lib.Text

namespace Dstack.SevSnp

open Lib

inductive AmdSnpProduct where
  | milan
  | genoa
  | turin
  deriving DecidableEq

def AmdSnpProduct.kdsName : AmdSnpProduct → String
  | .milan => "Milan"
  | .genoa => "Genoa"
  | .turin => "Turin"

structure AmdSnpTcbVersion where
  fmc : Option Nat
  bootloader : Nat
  tee : Nat
  snp : Nat
  microcode : Nat
  deriving DecidableEq

structure AmdSnpTcbInfo where
  current : AmdSnpTcbVersion
  reported : AmdSnpTcbVersion
  committed : AmdSnpTcbVersion
  launch : AmdSnpTcbVersion
  deriving DecidableEq

def AmdSnpTcbInfo.tcbStatus (t : AmdSnpTcbInfo) : String :=
  if t.current = t.reported ∧ t.committed = t.reported ∧ t.launch = t.reported
  then "UpToDate" else "OutOfDate"

structure AttestationReport where
  version : Nat
  vmpl : Nat
  cpuidFamId : Option Nat
  cpuidModId : Option Nat
  policyDebugAllowed : Bool
  policyMigrateMaAllowed : Bool
  policySmtAllowed : Bool
  policyRaplDis : Bool
  policyCiphertextHiding : Bool
  keyInfoMaskChipKey : Bool
  keyInfoSigningKey : Nat
  platSmtEnabled : Bool
  platRaplDisabled : Bool
  platCiphertextHidingEnabled : Bool
  measurement : Bytes
  reportData : Bytes
  hostData : Bytes
  chipId : Bytes
  tcbInfo : AmdSnpTcbInfo
  deriving DecidableEq

structure ParsedAmdSnpReport where
  measurement : Bytes
  reportData : Bytes
  hostData : Bytes
  chipId : Bytes
  deriving DecidableEq

structure VerifiedAmdSnpReport where
  measurement : Bytes
  reportData : Bytes
  hostData : Bytes
  chipId : Bytes
  tcbInfo : AmdSnpTcbInfo
  advisoryIds : List String
  deriving DecidableEq

structure Library where
  Cert : Type
  reportFromBytes : Bytes → Result AttestationReport
  normalizeAskVcekCerts : List Bytes → Result (Cert × Cert)
  fetchCollateralForProduct :
    AmdSnpProduct → AttestationReport → Result (Cert × Cert)
  verifyChain : AmdSnpProduct → Cert × Cert → AttestationReport → Result Unit

-- == decoding

def amdSnpReportLen : Nat := 1184

def decodeAmdSnpReport (L : Library) (reportBytes : Bytes) :
    Result AttestationReport := do
  Result.ensure (reportBytes.length = amdSnpReportLen)
    ("invalid amd sev-snp report length: expected "
      ++ toString amdSnpReportLen ++ " bytes, got "
      ++ toString reportBytes.length)
  (L.reportFromBytes reportBytes).context "failed to parse amd sev-snp report"

/-- The first `n` bytes of a field. -/
def fieldPrefix (field : Bytes) (n : Nat) (name : String) : Result Bytes := do
  Result.ensure (n ≤ field.length) ("amd sev-snp " ++ name ++ " too short")
  pure (field.take n)

def parsedAmdSnpReportFromReport (report : AttestationReport) :
    Result ParsedAmdSnpReport := do
  let measurement ← fieldPrefix report.measurement 48 "measurement"
  let reportData ← fieldPrefix report.reportData 64 "report_data"
  let hostData ← fieldPrefix report.hostData 32 "host_data"
  let chipId ← fieldPrefix report.chipId 64 "chip_id"
  pure { measurement, reportData, hostData, chipId }

def parseUnverifiedAmdSnpReport (L : Library) (reportBytes : Bytes) :
    Result ParsedAmdSnpReport := do
  let report ← decodeAmdSnpReport L reportBytes
  parsedAmdSnpReportFromReport report

-- == verification

private def hex2 (n : Nat) : String := "0x" ++ hexPadded 2 n

def amdSnpProductFromReport (report : AttestationReport) :
    Result (Option AmdSnpProduct) :=
  if report.version = 2 then .ok none
  else if report.version ≠ 3 then
    .error ("unsupported amd sev-snp report version: " ++ toString report.version)
  else do
    let family ← Result.ofOption report.cpuidFamId
      "amd sev-snp report v3+ is missing CPUID family"
    let model ← Result.ofOption report.cpuidModId
      "amd sev-snp report v3+ is missing CPUID model"
    if family = 0x19 then
      if model ≤ 0x0f then .ok (some .milan)
      else if model ≤ 0x1f ∨ (0xa0 ≤ model ∧ model ≤ 0xaf) then .ok (some .genoa)
      else .error ("unsupported amd sev-snp CPUID model for family 19h: " ++ hex2 model)
    else if family = 0x1a then
      if model ≤ 0x11 then .ok (some .turin)
      else .error ("unsupported amd sev-snp CPUID model for family 1Ah: " ++ hex2 model)
    else .error ("unsupported amd sev-snp CPUID family: " ++ hex2 family)

def amdSnpProductCandidatesForReport (report : AttestationReport) :
    Result (List AmdSnpProduct) := do
  match ← amdSnpProductFromReport report with
  | some product => pure [product]
  | none => pure [.genoa, .milan, .turin]

def validateAmdSnpReportPolicy (report : AttestationReport) : Result Unit := do
  Result.ensure (report.version = 2 ∨ report.version = 3)
    ("unsupported amd sev-snp report version: " ++ toString report.version)
  Result.ensure (report.vmpl = 0)
    "amd sev-snp report must be generated at vmpl0"
  Result.ensure (report.policyDebugAllowed = false)
    "amd sev-snp guest policy allows debug"
  Result.ensure (report.policyMigrateMaAllowed = false)
    "amd sev-snp guest policy allows migration agent"
  Result.ensure (report.keyInfoMaskChipKey = false)
    "amd sev-snp report masks the chip signing key"
  Result.ensure (report.keyInfoSigningKey = 0)
    ("unsupported amd sev-snp signing key: expected vcek, got "
      ++ toString report.keyInfoSigningKey)
  Result.ensure (report.policySmtAllowed ∨ report.platSmtEnabled = false)
    "amd sev-snp platform has smt enabled but guest policy does not allow smt"
  Result.ensure (report.policyRaplDis = false ∨ report.platRaplDisabled)
    "amd sev-snp guest policy requires rapl disabled, but platform reports rapl enabled"
  Result.ensure (report.policyCiphertextHiding = false
      ∨ report.platCiphertextHidingEnabled)
    "amd sev-snp guest policy requires ciphertext hiding, but platform does not report it"

def verifyAmdSnpAttestationWithCertChain (L : Library) (reportBytes : Bytes)
    (product : AmdSnpProduct) (certs : L.Cert × L.Cert) :
    Result VerifiedAmdSnpReport := do
  let report ← decodeAmdSnpReport L reportBytes
  L.verifyChain product certs report
  validateAmdSnpReportPolicy report
  let parsed ← parsedAmdSnpReportFromReport report
  pure {
    measurement := parsed.measurement
    reportData := parsed.reportData
    hostData := parsed.hostData
    chipId := parsed.chipId
    tcbInfo := report.tcbInfo
    advisoryIds := [] }

/-- Try the candidates in order with the certificates `certsFor` finds;
the first success is the result and the failures are collected. -/
def verifyCandidates (L : Library) (reportBytes : Bytes)
    (certsFor : AmdSnpProduct → Result (L.Cert × L.Cert)) (failure : String) :
    List String → List AmdSnpProduct → Result VerifiedAmdSnpReport
  | errors, [] => .error (failure ++ "; ".intercalate errors)
  | errors, product :: products =>
    let attempt := do
      let certs ← certsFor product
      verifyAmdSnpAttestationWithCertChain L reportBytes product certs
    match attempt with
    | .ok verified => .ok verified
    | .error err => verifyCandidates L reportBytes certsFor failure
        (errors ++ [product.kdsName ++ ": " ++ err]) products

/-- Verify a report with the certificates it came with, or with fetched
ones when it came with none. -/
def verifyAgainstProducts (L : Library) (report : Bytes)
    (certChain : List Bytes) : Result VerifiedAmdSnpReport :=
  if certChain = [] then do
    let reportObj ← decodeAmdSnpReport L report
    let candidates ← amdSnpProductCandidatesForReport reportObj
    verifyCandidates L report (L.fetchCollateralForProduct · reportObj)
      "amd sev-snp verification failed: " [] candidates
  else do
    let certs ← L.normalizeAskVcekCerts certChain
    let reportObj ← decodeAmdSnpReport L report
    let candidates ← amdSnpProductCandidatesForReport reportObj
    verifyCandidates L report (fun _ => .ok certs)
      "amd sev-snp report verification failed for supported products: " []
      candidates

def fetchAndVerify (L : Library) (report : Bytes) (certChain : List Bytes)
    (expectedReportData : Bytes) : Result VerifiedAmdSnpReport := do
  let verified ← verifyAgainstProducts L report certChain
  Result.ensure (verified.reportData = expectedReportData)
    "amd sev-snp report_data mismatch"
  pure verified

-- == what verification says

lemma verifyCertChain_ok {L : Library} {b : Bytes} {p : AmdSnpProduct}
    {certs : L.Cert × L.Cert} {v : VerifiedAmdSnpReport}
    (h : verifyAmdSnpAttestationWithCertChain L b p certs = .ok v) :
    parseUnverifiedAmdSnpReport L b
      = .ok ⟨v.measurement, v.reportData, v.hostData, v.chipId⟩ := by
  unfold verifyAmdSnpAttestationWithCertChain at h
  simp only [ok_iff] at h
  obtain ⟨report, hdec, _, -, _, -, parsed, hparsed, rfl⟩ := h
  unfold parseUnverifiedAmdSnpReport
  rw [bind_eq_ok]
  exact ⟨report, hdec, hparsed⟩

lemma verifyCandidates_ok {L : Library} {b : Bytes}
    {certsFor : AmdSnpProduct → Result (L.Cert × L.Cert)} {failure : String} :
    ∀ {products : List AmdSnpProduct} {errors : List String}
      {v : VerifiedAmdSnpReport},
      verifyCandidates L b certsFor failure errors products = .ok v →
      parseUnverifiedAmdSnpReport L b
        = .ok ⟨v.measurement, v.reportData, v.hostData, v.chipId⟩ := by
  intro products
  induction products with
  | nil => intro errors v h; simp [verifyCandidates] at h
  | cons p ps ih =>
    intro errors v h
    rw [verifyCandidates] at h
    split at h
    next verified hattempt =>
      obtain ⟨certs, -, hv⟩ := bind_eq_ok.mp hattempt
      rw [← Except.ok.inj h]
      exact verifyCertChain_ok hv
    next => exact ih h

lemma fetchAndVerify_ok {L : Library} {b : Bytes} {chain : List Bytes}
    {rd : Bytes} {v : VerifiedAmdSnpReport}
    (h : fetchAndVerify L b chain rd = .ok v) :
    parseUnverifiedAmdSnpReport L b
      = .ok ⟨v.measurement, v.reportData, v.hostData, v.chipId⟩ := by
  unfold fetchAndVerify at h
  simp only [ok_iff] at h
  obtain ⟨verified, hverified, _, -, rfl⟩ := h
  unfold verifyAgainstProducts at hverified
  split at hverified
  · simp only [bind_eq_ok] at hverified
    obtain ⟨_, -, _, -, hv⟩ := hverified
    exact verifyCandidates_ok hv
  · simp only [bind_eq_ok] at hverified
    obtain ⟨_, -, _, -, _, -, hv⟩ := hverified
    exact verifyCandidates_ok hv

end Dstack.SevSnp
