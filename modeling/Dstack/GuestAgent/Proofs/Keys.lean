/-
No request of the unversioned interface has a claim of the versioned one
signed.

A claim ends in the length of its public key and the key. The first of
the four bytes of that length is zero, and it would have to stand among
the hexadecimal digits that the unversioned message ends in.
-/
import Dstack.GuestAgent.Keys

namespace Dstack.GuestAgent

open Lib RaTls

lemma zero_mem_lengthPrefixed {key : Bytes} (h : key.length < 256) :
    (0 : UInt8) ∈ lengthPrefixed key := by
  unfold lengthPrefixed
  refine List.mem_append_left _ ?_
  rw [beBytes, Nat.div_eq_of_lt (Nat.lt_trans h (by decide))]
  exact List.mem_cons_self

lemma msgToSign_ne_keyClaim {purpose domain : String} {pubkey publicKey claim : Bytes}
    {algorithm : KeyAlgorithm} (hpubkey : pubkey.length = 32 ∨ pubkey.length = 33)
    (hpublicKey : publicKey.length = 32 ∨ publicKey.length = 33)
    (h : keyClaim algorithm domain publicKey = .ok claim) :
    msgToSign purpose pubkey ≠ claim := by
  obtain ⟨-, -, rfl⟩ := keyClaim_ok h
  intro he
  unfold msgToSign at he
  rw [utf8_append, utf8_append] at he
  have hclaim : lengthPrefixed publicKey
      <:+ utf8 purpose ++ utf8 ":" ++ utf8 (hexEncode pubkey) := by
    rw [he, ← List.append_assoc, ← List.append_assoc]
    exact List.suffix_append _ _
  -- the end of the claim is shorter than the digits
  have hlength : (lengthPrefixed publicKey).length ≤ (utf8 (hexEncode pubkey)).length := by
    rw [utf8_hexEncode_length, lengthPrefixed, List.length_append, beBytes_length]
    omega
  have hsuffix := List.suffix_of_suffix_length_le hclaim (List.suffix_append _ _) hlength
  have hzero : (0 : UInt8) ∈ lengthPrefixed publicKey :=
    zero_mem_lengthPrefixed (by omega)
  exact utf8_hexEncode_ne_zero (hsuffix.subset hzero) rfl

/-- What the unversioned interface signs is no claim, claims and
derivations are told apart by what they are for, and from each other. -/
theorem claims_separate :
    (∀ (purpose domain : String) (pubkey publicKey claim : Bytes) (algorithm : KeyAlgorithm),
        (pubkey.length = 32 ∨ pubkey.length = 33) →
        (publicKey.length = 32 ∨ publicKey.length = 33) →
        keyClaim algorithm domain publicKey = .ok claim → msgToSign purpose pubkey ≠ claim)
      ∧ (∀ (a₁ a₂ : KeyAlgorithm) (d₁ d₂ : String) (k₁ k₂ claim : Bytes),
        keyClaim a₁ d₁ k₁ = .ok claim → keyClaim a₂ d₂ k₂ = .ok claim →
        a₁ = a₂ ∧ d₁ = d₂ ∧ k₁ = k₂)
      ∧ (∀ (a₁ a₂ : KeyAlgorithm) (d₁ d₂ : String) (info : Bytes),
        keyDerivationInfo d₁ a₁ = .ok info → keyDerivationInfo d₂ a₂ = .ok info →
        a₁ = a₂ ∧ d₁ = d₂)
      ∧ ∀ (a₁ a₂ : KeyAlgorithm) (d₁ d₂ : String) (info key claim : Bytes),
        keyDerivationInfo d₁ a₁ = .ok info → keyClaim a₂ d₂ key = .ok claim →
        info ≠ claim :=
  ⟨fun _ _ _ _ _ _ hpubkey hpublicKey h => msgToSign_ne_keyClaim hpubkey hpublicKey h,
    fun _ _ _ _ _ _ _ h₁ h₂ => keyClaim_inj h₁ h₂,
    fun _ _ _ _ _ h₁ h₂ => keyDerivationInfo_inj h₁ h₂,
    fun _ _ _ _ _ _ _ h₁ h₂ => keyDerivationInfo_ne_keyClaim h₁ h₂⟩

/-- A claim for the domain `storage`, and a purpose that spells most of
it. -/
theorem sample_claim_separate :
    ∃ claim, keyClaim .ed25519 "storage" (zeros 32) = .ok claim
      ∧ msgToSign "dstack-guest-v1-key-claim" (zeros 33) ≠ claim := by
  have hclaim : keyClaim .ed25519 "storage" (zeros 32) = .ok _ := rfl
  exact ⟨_, hclaim, claims_separate.1 _ _ _ _ _ _ (.inr (zeros_length 33))
    (.inl (zeros_length 32)) hclaim⟩

/-- What the older call signs is never a claim about a key. -/
theorem getKey_signs_no_claim {C : Curves} {keys : AppKeys} {request : GetKeyArgs}
    {response : GetKeyResponse} {appRootKey claim : Bytes} {domain : String}
    {algorithm : KeyAlgorithm} {k : AppKey} (h : getKey C keys request = .ok response)
    (hk : AppKey.derive C appRootKey domain algorithm = .ok k)
    (hclaim : keyClaim k.algorithm k.domain k.publicKey = .ok claim) :
    ∃ message signature, C.signRecoverableKeccak256 keys.k256Key message = .ok signature
      ∧ response.signatureChain = [signature, keys.k256Signature] ∧ message ≠ claim := by
  unfold getKey k256SigningKeyFromSlice at h
  simp only [ok_iff] at h
  obtain ⟨⟨key, pubkey⟩, hpath, _, ⟨_, -, rfl⟩, signature, hsign, rfl⟩ := h
  exact ⟨msgToSign request.purpose pubkey, signature, hsign, rfl,
    msgToSign_ne_keyClaim (pathKey_length hpath) (AppKey.derive_length hk) hclaim⟩

end Dstack.GuestAgent
