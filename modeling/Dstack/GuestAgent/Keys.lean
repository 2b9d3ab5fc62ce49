/-
Application keys as the guest agent serves them: the unversioned
interface (`guest-agent/src/rpc_service.rs`, `get_key`) and the
versioned one (`guest-agent/src/rpc_service_v1/keys.rs`).

Both sign what they say about a public key with the application's root
key.
-/
import Dstack.Kms.Keys
import Dstack.RaTls.ApiV1

namespace Dstack.GuestAgent

open Lib RaTls

structure Curves extends RaTls.Curves where
  ed25519PublicKey : Bytes → Bytes
  ed25519PublicKey_length : ∀ sk, (ed25519PublicKey sk).length = 32

def k256SigningKeyFromSlice (bytes : Bytes) : Result Bytes := do
  Result.ensure (bytes.length = 32 ∧ 0 < beNat bytes ∧ beNat bytes < Kms.k256Order)
    "signature error"
  pure bytes

structure AppKeys where
  k256Key : Bytes
  k256Signature : Bytes
  deriving DecidableEq

-- == unversioned interface

structure GetKeyArgs where
  path : String
  purpose : String
  algorithm : String
  deriving DecidableEq

structure GetKeyResponse where
  key : Bytes
  signatureChain : List Bytes
  deriving DecidableEq

def normalizeAlgorithm (algorithm : String) : String :=
  if algorithm = "k256" then "secp256k1" else algorithm

def msgToSign (purpose : String) (pubkey : Bytes) : Bytes :=
  utf8 (purpose ++ ":" ++ hexEncode pubkey)

def pathKey (C : Curves) (k256AppKey : Bytes) (algorithm path : String) :
    Result (Bytes × Bytes) :=
  if algorithm = "ed25519" then do
    let derivedKey ← (deriveKey k256AppKey [utf8 path] 32).context
      "Failed to derive ed25519 key"
    Result.ensure (derivedKey.length = 32) "Invalid key length"
    pure (derivedKey, C.ed25519PublicKey derivedKey)
  else if algorithm = "secp256k1" ∨ algorithm = "" then do
    let derivedKey ← (deriveKey k256AppKey [utf8 path] 32).context
      "Failed to derive k256 key"
    let signingKey ← (k256SigningKeyFromSlice derivedKey).context "Failed to parse k256 key"
    pure (derivedKey, C.k256PublicKey signingKey)
  else .error "Unsupported algorithm"

def getKey (C : Curves) (keys : AppKeys) (request : GetKeyArgs) :
    Result GetKeyResponse := do
  let (key, pubkey) ←
    pathKey C keys.k256Key (normalizeAlgorithm request.algorithm) request.path
  let appSigningKey ← (k256SigningKeyFromSlice keys.k256Key).context
    "Failed to parse app k256 key"
  let signature ←
    C.signRecoverableKeccak256 appSigningKey (msgToSign request.purpose pubkey)
  pure { key, signatureChain := [signature, keys.k256Signature] }

lemma pathKey_length {C : Curves} {k256AppKey key pubkey : Bytes}
    {algorithm path : String}
    (h : pathKey C k256AppKey algorithm path = .ok (key, pubkey)) :
    pubkey.length = 32 ∨ pubkey.length = 33 := by
  unfold pathKey at h
  split at h
  · simp only [ok_iff, Prod.mk.injEq] at h
    obtain ⟨_, -, _, -, -, rfl⟩ := h
    exact .inl (C.ed25519PublicKey_length _)
  · split at h
    · simp only [ok_iff, Prod.mk.injEq] at h
      obtain ⟨_, -, _, -, -, rfl⟩ := h
      exact .inr (C.k256PublicKey_length _)
    · cases h

-- == versioned interface

structure AppKey where
  algorithm : KeyAlgorithm
  domain : String
  secret : Bytes
  publicKey : Bytes
  deriving DecidableEq

def AppKey.derive (C : Curves) (appRootKey : Bytes) (domain : String)
    (algorithm : KeyAlgorithm) : Result AppKey := do
  let secret ← deriveAppKey appRootKey domain algorithm
  match algorithm with
  | .secp256k1 =>
    let signingKey ← (k256SigningKeyFromSlice secret).context
      "derived secp256k1 key is not a valid scalar"
    pure { algorithm, domain, secret, publicKey := C.k256PublicKey signingKey }
  | .ed25519 =>
    pure { algorithm, domain, secret, publicKey := C.ed25519PublicKey secret }

def AppKey.claimSignature (C : Curves) (appRootKey : Bytes) (k : AppKey) : Result Bytes := do
  let claim ← keyClaim k.algorithm k.domain k.publicKey
  (C.signRecoverableKeccak256 appRootKey claim).mapError
    fun err => "failed to sign the key claim: " ++ err

lemma AppKey.derive_length {C : Curves} {appRootKey : Bytes} {domain : String}
    {algorithm : KeyAlgorithm} {k : AppKey}
    (h : AppKey.derive C appRootKey domain algorithm = .ok k) :
    k.publicKey.length = 32 ∨ k.publicKey.length = 33 := by
  unfold AppKey.derive at h
  simp only [bind_eq_ok] at h
  obtain ⟨secret, -, h⟩ := h
  cases algorithm with
  | secp256k1 =>
    simp only [ok_iff] at h
    obtain ⟨_, -, rfl⟩ := h
    exact .inr (C.k256PublicKey_length _)
  | ed25519 =>
    simp only [pure_eq_ok] at h
    obtain rfl := h
    exact .inl (C.ed25519PublicKey_length _)

end Dstack.GuestAgent
