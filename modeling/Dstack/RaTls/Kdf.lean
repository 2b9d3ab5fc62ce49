/-
Key derivation (`ra-tls/src/kdf.rs`).

Every key comes out of HKDF-SHA256 under one salt. A P-256 key is the
derived 32 bytes themselves; a Diffie-Hellman secret is the SHA-256 of
that key's PKCS#8 encoding, public key included. A key pair is
represented by its secret key.
-/
import Dstack.Lib.Hkdf
import Dstack.Lib.Result
import Dstack.Lib.Sha2

namespace Dstack.RaTls

open Lib

/-- The curve libraries: public keys with their encodings' lengths, and
recoverable signatures over a Keccak-256 digest. -/
structure Curves where
  p256PublicKey : Bytes → Bytes
  k256PublicKey : Bytes → Bytes
  x25519PublicKey : Bytes → Bytes
  signRecoverableKeccak256 : Bytes → Bytes → Result Bytes
  p256PublicKey_length : ∀ sk, (p256PublicKey sk).length = 65
  k256PublicKey_length : ∀ sk, (k256PublicKey sk).length = 33
  x25519PublicKey_length : ∀ sk, (x25519PublicKey sk).length = 32

def legacySalt : Bytes := utf8 "RATLS"

def deriveKeyWithSalt (salt inputKeyMaterial : Bytes) (contextData : List Bytes)
    (keySize : Nat) : Result Bytes := do
  Result.ensure (keySize ≤ 255 * 32) "ring::error::Unspecified"
  pure (Hkdf.derive Sha256 64 salt inputKeyMaterial contextData.flatten keySize)

def deriveKey (inputKeyMaterial : Bytes) (contextData : List Bytes)
    (keySize : Nat) : Result Bytes :=
  deriveKeyWithSalt legacySalt inputKeyMaterial contextData keySize

-- == P-256

def p256Order : Nat :=
  0xffffffff00000000ffffffffffffffffbce6faada7179e84f3b9cac2fc632551

def p256SecretKeyFromSlice (bytes : Bytes) : Result Bytes := do
  Result.ensure (0 < beNat bytes ∧ beNat bytes < p256Order) "crypto error"
  pure bytes

def toPkcs8Der (C : Curves) (sk : Bytes) : Bytes :=
  [0x30, 0x81, 0x87, 0x02, 0x01, 0x00, 0x30, 0x13, 0x06, 0x07, 0x2a, 0x86, 0x48,
    0xce, 0x3d, 0x02, 0x01, 0x06, 0x08, 0x2a, 0x86, 0x48, 0xce, 0x3d, 0x03, 0x01,
    0x07, 0x04, 0x6d, 0x30, 0x6b, 0x02, 0x01, 0x01, 0x04, 0x20] ++ sk
    ++ [0xa1, 0x44, 0x03, 0x42, 0x00] ++ C.p256PublicKey sk

def deriveP256KeyPairFromBytes (skBytes : Bytes) (contextData : List Bytes) :
    Result Bytes := do
  let derivedSkBytes ← (deriveKey skBytes contextData 32).mapError
    fun _ => "failed to derive key"
  (p256SecretKeyFromSlice derivedSkBytes).context
    "failed to decode derived secret key"

def deriveP256KeyPair (fromKey : Bytes) (contextData : List Bytes) :
    Result Bytes :=
  deriveP256KeyPairFromBytes fromKey contextData

def deriveDhSecret (C : Curves) (fromKey : Bytes) (contextData : List Bytes) :
    Result Bytes := do
  let keyPair ← deriveP256KeyPair fromKey contextData
  pure (sha256 (toPkcs8Der C keyPair))

-- == what comes out

def derived (key : Bytes) (contextData : List Bytes) : Bytes :=
  Hkdf.derive Sha256 64 legacySalt key contextData.flatten 32

@[simp] lemma derived_length (key : Bytes) (ctx : List Bytes) :
    (derived key ctx).length = 32 := by
  show (Hkdf.derive Sha256 64 legacySalt key ctx.flatten Sha256.size).length
    = Sha256.size
  rw [Hkdf.derive_size (by decide), Hkdf.hmac_length]

lemma deriveKey_ok {key k : Bytes} {ctx : List Bytes}
    (h : deriveKey key ctx 32 = .ok k) : k = derived key ctx := by
  unfold deriveKey deriveKeyWithSalt at h
  simp only [ok_iff] at h
  obtain ⟨_, -, rfl⟩ := h
  rfl

lemma deriveP256KeyPair_ok {key k : Bytes} {ctx : List Bytes}
    (h : deriveP256KeyPair key ctx = .ok k) : k = derived key ctx := by
  unfold deriveP256KeyPair deriveP256KeyPairFromBytes p256SecretKeyFromSlice at h
  simp only [ok_iff, mapError_eq_ok] at h
  obtain ⟨_, hderive, _, -, rfl⟩ := h
  exact deriveKey_ok hderive

lemma deriveDhSecret_ok {C : Curves} {key k : Bytes} {ctx : List Bytes}
    (h : deriveDhSecret C key ctx = .ok k) :
    k = sha256 (toPkcs8Der C (derived key ctx)) := by
  unfold deriveDhSecret at h
  simp only [ok_iff] at h
  obtain ⟨kp, hkp, rfl⟩ := h
  rw [deriveP256KeyPair_ok hkp]

lemma toPkcs8Der_length (C : Curves) {sk : Bytes} (h : sk.length = 32) :
    (toPkcs8Der C sk).length = 138 := by
  simp [toPkcs8Der, h, C.p256PublicKey_length]

lemma toPkcs8Der_inj {C : Curves} {sk₁ sk₂ : Bytes} (h₁ : sk₁.length = 32)
    (h₂ : sk₂.length = 32) (h : toPkcs8Der C sk₁ = toPkcs8Der C sk₂) :
    sk₁ = sk₂ := by
  unfold toPkcs8Der at h
  rw [List.append_assoc, List.append_assoc, List.append_assoc, List.append_assoc] at h
  exact (List.append_inj (List.append_cancel_left h) (h₁.trans h₂.symm)).1

end Dstack.RaTls
