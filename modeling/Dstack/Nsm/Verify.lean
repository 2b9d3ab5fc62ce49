/-
Verification of NSM attestation documents (`nsm-qvl`), used for Nitro
Enclaves and for EC2 instances with a NitroTPM.

A document is a COSE Sign1 structure whose payload is a CBOR-encoded
`AttestationDocument`. The report that verification returns is copied
from that payload field by field, and nothing in it comes from the
clock, the trust anchor or the collateral: those decide only whether
there is a report.
-/
import Dstack.Lib.Sha2
import Dstack.Lib.Text

namespace Dstack.Nsm

open Lib

inductive CborValue where
  | integer (i : Int)
  | bytes (b : Bytes)
  | text (s : String)
  | bool (b : Bool)
  | float (bits : Nat)
  | null
  | tag (n : Nat) (inner : CborValue)
  | array (items : List CborValue)
  | map (entries : List (CborValue × CborValue))

structure AttestationDocument where
  moduleId : String
  digest : String
  timestamp : Nat
  pcrs : List (Nat × Bytes)
  certificate : Bytes
  cabundle : List Bytes
  publicKey : Option Bytes
  userData : Option Bytes
  nonce : Option Bytes
  deriving DecidableEq

structure Cbor where
  readValue : Bytes → Result (CborValue × Nat)
  readHeaders : Bytes → Result (List (Int × CborValue) × Nat)
  readDocument : Bytes → Result (AttestationDocument × Nat)
  writeValue : CborValue → Result Bytes

structure NsmCollateral where
  crls : List Bytes
  rootCaCrl : Option Bytes
  deriving DecidableEq

structure Crypto where
  Key : Type
  Signature : Type
  verifyCertificateChain :
    AttestationDocument → String → Option NsmCollateral → Nat → Result Unit
  certificateKey : Bytes → Result Key
  parseSignature : Bytes → Result Signature
  verifyPrehash : Key → Bytes → Signature → Result Unit

structure CoseSign1 where
  protectedHeader : Bytes
  payload : Bytes
  signature : Bytes
  deriving DecidableEq

/-- `x as i64`. -/
def asI64 (x : Int) : Int := x.bmod (2 ^ 64)

def CborValue.expectBytes (v : CborValue) (e : String) : Result Bytes :=
  match v with
  | .bytes b => .ok b
  | _ => .error e

-- == COSE

def CoseSign1.fromBytes (cbor : Cbor) (data : Bytes) : Result CoseSign1 := do
  let (value, position) ← (cbor.readValue data).context
    "Failed to parse COSE Sign1 CBOR"
  Result.ensure (position = data.length) "Trailing bytes after COSE Sign1"
  let array ← match value with
    | .array items => .ok items
    | .tag 18 (.array items) => .ok items
    | .tag 18 _ => .error "COSE Sign1 tag content is not an array"
    | _ => .error "COSE Sign1 is not an array"
  match array with
  | [header, _, body, sig] => do
      let protectedHeader ← header.expectBytes
        "COSE Sign1 protected header is not bytes"
      let payload ← body.expectBytes "COSE Sign1 payload is not bytes"
      let signature ← sig.expectBytes "COSE Sign1 signature is not bytes"
      pure { protectedHeader, payload, signature }
  | _ => .error ("COSE Sign1 array must have 4 elements, got "
      ++ toString array.length)

def CoseSign1.protectedMap (cbor : Cbor) (c : CoseSign1) :
    Result (List (Int × CborValue)) := do
  let (map, position) ← (cbor.readHeaders c.protectedHeader).context
    "Failed to parse protected header"
  Result.ensure (position = c.protectedHeader.length)
    "Trailing bytes after protected header"
  pure map

def CoseSign1.algorithm (cbor : Cbor) (c : CoseSign1) : Result Int := do
  let map ← c.protectedMap cbor
  let alg ← Result.ofOption (map.lookup 1) "No algorithm in protected header"
  match alg with
  | .integer i => .ok (asI64 i)
  | _ => .error "Algorithm is not an integer"

/-- One entry of the `crit` header: only the algorithm is understood. -/
def checkCritical : CborValue → Result Unit
  | .integer val => Result.ensure (asI64 val = 1)
      ("Unsupported critical header parameter: " ++ toString val)
  | .text name => Result.ensure (name = "alg")
      ("Unsupported critical header parameter: " ++ name)
  | _ => .error "Invalid critical header parameter type"

def CoseSign1.validateCriticalHeaders (cbor : Cbor) (c : CoseSign1) :
    Result Unit := do
  let map ← c.protectedMap cbor
  match map.lookup 2 with
  | none => .ok ()
  | some (.array items) => items.forM checkCritical
  | some _ => .error "COSE crit header is not an array"

def CoseSign1.sigStructure (cbor : Cbor) (c : CoseSign1) : Result Bytes :=
  (cbor.writeValue (.array [.text "Signature1", .bytes c.protectedHeader,
    .bytes [], .bytes c.payload])).context "Failed to encode Sig_structure"

def AttestationDocument.fromCbor (cbor : Cbor) (data : Bytes) :
    Result AttestationDocument := do
  let (doc, position) ← (cbor.readDocument data).context
    "Failed to parse attestation document CBOR"
  Result.ensure (position = data.length)
    "Trailing bytes after attestation document CBOR"
  pure doc

-- == verification

structure NsmVerifiedReport where
  moduleId : String
  digest : String
  timestamp : Nat
  pcrs : List (Nat × Bytes)
  userData : Option Bytes
  nonce : Option Bytes
  publicKey : Option Bytes
  deriving DecidableEq

def AttestationDocument.report (doc : AttestationDocument) :
    NsmVerifiedReport where
  moduleId := doc.moduleId
  digest := doc.digest
  timestamp := doc.timestamp
  pcrs := doc.pcrs
  userData := doc.userData
  nonce := doc.nonce
  publicKey := doc.publicKey

def validateAttestationDocument (doc : AttestationDocument) : Result Unit := do
  Result.ensure (doc.digest = "SHA384")
    ("Unsupported digest algorithm: " ++ doc.digest)
  Result.ensure (doc.pcrs ≠ []) "No PCRs in attestation document"
  doc.pcrs.forM fun (idx, value) => Result.ensure (value.length = 48)
    ("PCR" ++ toString idx ++ " length mismatch: " ++ toString value.length
      ++ " (expected 48)")

def maxAttestationAge : Nat := 3600 * 1000000000

def clockSkew : Nat := 300 * 1000000000

def checkFreshness (doc : AttestationDocument) (now : Nat) : Result Unit :=
  let docTime := doc.timestamp * 1000000
  if docTime ≤ now then
    Result.ensure (now - docTime ≤ maxAttestationAge)
      ("attestation document is stale: " ++ debugDuration (now - docTime)
        ++ " old (max " ++ debugDuration maxAttestationAge ++ ")")
  else
    Result.ensure (docTime - now ≤ clockSkew)
      ("attestation document timestamp is in the future by "
        ++ debugDuration (docTime - now))

def verifyCoseSignature (cbor : Cbor) (C : Crypto) (cose : CoseSign1)
    (certDer : Bytes) : Result Unit := do
  let key ← C.certificateKey certDer
  let sigStructure ← (cose.sigStructure cbor).context
    "Failed to build Sig_structure"
  let messageHash := sha384 sigStructure
  Result.ensure (cose.signature.length = 96)
    ("Invalid P-384 signature length: " ++ toString cose.signature.length
      ++ " (expected 96)")
  let signature ← (C.parseSignature cose.signature).context
    "Failed to parse ECDSA signature"
  (C.verifyPrehash key messageHash signature).context
    "ECDSA signature verification failed"

/-- Verify a document at time `now`, in nanoseconds since the epoch. -/
def verifyAttestation (cbor : Cbor) (C : Crypto) (coseSign1Bytes : Bytes)
    (rootCaPem : String) (collateral : Option NsmCollateral) (now : Nat) :
    Result NsmVerifiedReport := do
  let cose ← (CoseSign1.fromBytes cbor coseSign1Bytes).context
    "Failed to parse COSE Sign1"
  (cose.validateCriticalHeaders cbor).context
    "Unsupported COSE critical headers"
  let alg ← (cose.algorithm cbor).context "Failed to get algorithm"
  Result.ensure (alg = -35) ("Unsupported COSE algorithm: " ++ toString alg
    ++ ". Expected -35 (ES384)")
  let doc ← (AttestationDocument.fromCbor cbor cose.payload).context
    "Failed to parse attestation document"
  (validateAttestationDocument doc).context
    "Attestation document validation failed"
  checkFreshness doc now
  (C.verifyCertificateChain doc rootCaPem collateral now).context
    "Certificate chain verification failed"
  (verifyCoseSignature cbor C cose doc.certificate).context
    "COSE signature verification failed"
  pure doc.report

structure QuoteVerifier where
  cbor : Cbor
  crypto : Crypto
  rootCaPem : String

def QuoteVerifier.verify (v : QuoteVerifier) (coseSign1Bytes : Bytes)
    (collateral : Option NsmCollateral) (now : Nat) :
    Result NsmVerifiedReport :=
  verifyAttestation v.cbor v.crypto coseSign1Bytes v.rootCaPem collateral now

-- == what a report says

def decodeDocument (cbor : Cbor) (coseSign1Bytes : Bytes) :
    Result AttestationDocument := do
  let cose ← CoseSign1.fromBytes cbor coseSign1Bytes
  AttestationDocument.fromCbor cbor cose.payload

lemma verifyAttestation_ok {cbor : Cbor} {C : Crypto} {data : Bytes}
    {ca : String} {col : Option NsmCollateral} {now : Nat}
    {r : NsmVerifiedReport}
    (h : verifyAttestation cbor C data ca col now = .ok r) :
    ∃ doc, decodeDocument cbor data = .ok doc
      ∧ validateAttestationDocument doc = .ok () ∧ r = doc.report := by
  unfold verifyAttestation at h
  simp only [ok_iff] at h
  obtain ⟨cose, hcose, _, -, _, -, _, -, doc, hdoc, _, hvalid, _, -, _, -, _,
    -, hr⟩ := h
  refine ⟨doc, ?_, hvalid, hr.symm⟩
  unfold decodeDocument
  rw [bind_eq_ok]
  exact ⟨cose, hcose, hdoc⟩

end Dstack.Nsm
