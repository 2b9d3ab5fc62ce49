/-
Quote verification (`verify_quote_with_ca` of `tpm-qvl/src/verify.rs`).

The steps run in the source's order: decode the message, compare the
attested PCR list with the provided one, reject duplicates and banks
other than SHA-256, check every value's label and width, compare the
digest, replay the event log, and only then look at the certificate,
the signature and its chain. Errors carry the status reached so far.
-/
import Dstack.Lib.Sha2
import Dstack.Tpm.Attest

namespace Dstack.Tpm

open Lib

structure VerificationStatus where
  akVerified : Bool := false
  signatureVerified : Bool := false
  pcrVerified : Bool := false
  deriving DecidableEq

structure VerificationError where
  status : VerificationStatus
  error : String
  deriving DecidableEq

structure QuoteCollateral where
  certChainPem : String
  crls : List Bytes
  rootCaCrl : Option Bytes
  deriving DecidableEq

inductive PublicKey (R E : Type) where
  | rsa (key : R)
  | ecc (key : E)

structure Crypto where
  RsaKey : Type
  EccKey : Type
  extractAkPublicKeyFromCert : Bytes → Result (PublicKey RsaKey EccKey)
  rsaVerify : RsaKey → Bytes → Bytes → Bool
  parseEcdsaSignature : Bytes → Result Bytes
  eccVerifyPrehash : EccKey → Bytes → Bytes → Bool
  verifyAkChainWithCollateral : Bytes → QuoteCollateral → String → Result Unit

structure VerifiedReport where
  attest : TpmAttest
  platform : Platform
  pcrValues : List PcrValue
  eventLog : List TpmEvent
  deriving DecidableEq

def VerifiedReport.getPcr (r : VerifiedReport) (index : Nat) : Result Bytes :=
  Result.ofOption ((r.pcrValues.find? (·.index = index)).map (·.value))
    ("PCR " ++ toString index ++ " not found")

-- == digest and event log

def computePcrDigest (pcrValues : List PcrValue) : Bytes :=
  sha256 (pcrValues.map (·.value)).flatten

def digestsOf (events : List TpmEvent) (index : Nat) : List Bytes :=
  (events.filter (·.pcrIndex = index)).map (·.digest)

def quotedEvents (pcrValues : List PcrValue) (eventLog : List TpmEvent) :
    List TpmEvent :=
  eventLog.filter fun e => (pcrValues.map (·.index)).contains e.pcrIndex

def replayPcr (quoted : List TpmEvent) (pcr : PcrValue) : Result Unit :=
  let digests := digestsOf quoted pcr.index
  if digests = [] then .ok ()
  else
    let replayed := digests.foldl (fun mr d => sha256 (mr ++ d)) (zeros 32)
    Result.ensure (replayed = pcr.value)
      ("PCR " ++ toString pcr.index ++ " replay mismatch: expected "
        ++ hexEncode pcr.value ++ ", got " ++ hexEncode replayed)

def verifyEventLog (pcrValues : List PcrValue) (eventLog : List TpmEvent) :
    Result (List TpmEvent) := do
  let quoted := quotedEvents pcrValues eventLog
  pcrValues.forM (replayPcr quoted)
  pure quoted

-- == signatures

/-- Check the signature over a message. `false` means the signature was
well formed and did not verify. -/
def verifySignatureWithKey (C : Crypto) (message signature : Bytes)
    (publicKey : PublicKey C.RsaKey C.EccKey) : Result Bool := do
  Result.ensure (4 ≤ signature.length)
    ("signature too short: " ++ toString signature.length ++ " bytes")
  let sigAlg := beNat (signature.take 2)
  let hashAlg := beNat ((signature.drop 2).take 2)
  Result.ensure (hashAlg = 0x000B)
    ("unsupported hash algorithm: 0x" ++ hexPadded 4 hashAlg)
  let actual := signature.drop 4
  let messageHash := sha256 message
  match publicKey with
  | .rsa key =>
    Result.ensure (sigAlg = 0x0014)
      ("expected RSASSA (0x0014), got 0x" ++ hexPadded 4 sigAlg)
    Result.ensure (2 ≤ actual.length) "RSA signature too short for size field"
    let size := beNat (actual.take 2)
    Result.ensure (2 + size ≤ actual.length)
      "RSA signature too short for signature data"
    pure (C.rsaVerify key messageHash ((actual.drop 2).take size))
  | .ecc key =>
    Result.ensure (sigAlg = 0x0018)
      ("expected ECDSA (0x0018), got 0x" ++ hexPadded 4 sigAlg)
    Result.ensure (2 ≤ actual.length)
      "ECDSA signature too short for signatureR size"
    let rSize := beNat (actual.take 2)
    Result.ensure (2 + rSize ≤ actual.length)
      "ECDSA signature too short for signatureR data"
    let rData := (actual.drop 2).take rSize
    let sOffset := 2 + rSize
    Result.ensure (sOffset + 2 ≤ actual.length)
      "ECDSA signature too short for signatureS size"
    let sSize := beNat ((actual.drop sOffset).take 2)
    Result.ensure (sOffset + 2 + sSize ≤ actual.length)
      "ECDSA signature too short for signatureS data"
    let sData := (actual.drop (sOffset + 2)).take sSize
    let parsed ← (C.parseEcdsaSignature (rData ++ sData)).context
      "failed to parse ECDSA signature"
    pure (C.eccVerifyPrehash key messageHash parsed)

-- == verification

def findDuplicate (seen : List Nat) : List PcrValue → Option PcrValue
  | [] => none
  | p :: ps =>
    if seen.contains p.index then some p
    else findDuplicate (p.index :: seen) ps

def tpmAlgSha256 : Nat := 0x000B

def checkPcrValue (pcr : PcrValue) : Result Unit := do
  Result.ensure (pcr.algorithm = "sha256")
    ("PCR " ++ toString pcr.index ++ " is labelled " ++ debugString pcr.algorithm
      ++ ", but the quote attests the sha256 bank")
  Result.ensure (pcr.value.length = 32)
    ("PCR " ++ toString pcr.index ++ " value is " ++ toString pcr.value.length
      ++ " bytes, expected 32 for the sha256 bank")

def attestedPcrIndices (attest : TpmAttest) : List Nat :=
  attest.attestedQuoteInfo.pcrSelections.flatMap (·.pcrIndices)

def verifyQuoteWithCa (C : Crypto) (quote : TpmQuote)
    (collateral : QuoteCollateral) (rootCaPem : String) :
    Except VerificationError VerifiedReport := do
  let status : VerificationStatus := {}
  let attest ← ((parseTpmAttest quote.message).context
    "failed to parse TPMS_ATTEST").mapError (⟨status, ·⟩)
  let attested := attestedPcrIndices attest
  let provided := quote.pcrValues.map (·.index)
  Result.ensure (attested = provided) ⟨status,
    "PCR selection mismatch: TPMS_ATTEST has "
      ++ debugList (attested.map toString) ++ ", but pcr_values has "
      ++ debugList (provided.map toString)⟩
  Result.rejectSome (findDuplicate [] quote.pcrValues) fun pcr => ⟨status,
    "duplicate PCR index " ++ toString pcr.index ++ " in quote"⟩
  Result.rejectSome (attest.attestedQuoteInfo.pcrSelections.find?
      fun s => s.hashAlg ≠ tpmAlgSha256) fun sel => ⟨status,
    "unsupported PCR bank hash_alg 0x" ++ hexPadded 4 sel.hashAlg
      ++ "; only SHA-256 (0x000b) is supported"⟩
  (quote.pcrValues.forM checkPcrValue).mapError (⟨status, ·⟩)
  Result.ensure
    (attest.attestedQuoteInfo.pcrDigest = computePcrDigest quote.pcrValues)
    ⟨status, "PCR digest mismatch"⟩
  let eventLog ← ((verifyEventLog quote.pcrValues quote.eventLog).context
    "event log verification failed").mapError (⟨status, ·⟩)
  let status := { status with pcrVerified := true }
  let key ← ((C.extractAkPublicKeyFromCert quote.akCert).context
    "failed to extract AK public key from certificate").mapError (⟨status, ·⟩)
  let verified ← ((verifySignatureWithKey C quote.message quote.signature key).context
    "signature verification error").mapError (⟨status, ·⟩)
  Result.ensure verified ⟨status, "signature verification failed"⟩
  let status := { status with signatureVerified := true }
  ((C.verifyAkChainWithCollateral quote.akCert collateral rootCaPem).context
    "AK certificate chain verification error").mapError (⟨status, ·⟩)
  pure {
    attest
    platform := quote.platform
    pcrValues := quote.pcrValues
    eventLog }

end Dstack.Tpm
