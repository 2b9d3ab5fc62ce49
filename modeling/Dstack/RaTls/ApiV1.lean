/-
The encodings of the versioned application-key interface
(`ra-tls/src/api_v1.rs`).

A field is written as its length and its bytes, so that fields of any
content are read back one after the other (`lengthPrefixed_append_inj`).
-/
import Dstack.RaTls.Kdf

namespace Dstack.RaTls

open Lib

def kdfSalt : Bytes := utf8 "dstack-guest-v1"

def keyContextTag : Bytes := utf8 "dstack-guest-v1-key"

def claimContextTag : Bytes := utf8 "dstack-guest-v1-key-claim"

inductive KeyAlgorithm where
  | secp256k1
  | ed25519
  deriving DecidableEq

def KeyAlgorithm.name : KeyAlgorithm → String
  | .secp256k1 => "secp256k1"
  | .ed25519 => "ed25519"

def lengthPrefixed (field : Bytes) : Bytes := beBytes 4 field.length ++ field

def pushLengthPrefixed (out field : Bytes) : Result Bytes := do
  Result.ensure (field.length < 2 ^ 32)
    "field is too long to encode: out of range integral type conversion attempted"
  pure (out ++ lengthPrefixed field)

def keyDerivationInfo (domain : String) (algorithm : KeyAlgorithm) : Result Bytes := do
  let info ← pushLengthPrefixed [] keyContextTag
  let info ← pushLengthPrefixed info (utf8 algorithm.name)
  pushLengthPrefixed info (utf8 domain)

def deriveAppKey (appRootKey : Bytes) (domain : String) (algorithm : KeyAlgorithm) :
    Result Bytes := do
  let info ← keyDerivationInfo domain algorithm
  let derived ← (deriveKeyWithSalt kdfSalt appRootKey [info] 32).mapError
    fun _ => "failed to derive the application key"
  Result.ensure (derived.length = 32) "derived key has the wrong length"
  pure derived

def keyClaim (algorithm : KeyAlgorithm) (domain : String) (publicKey : Bytes) :
    Result Bytes := do
  let claim ← pushLengthPrefixed [] claimContextTag
  let claim ← pushLengthPrefixed claim (utf8 algorithm.name)
  let claim ← pushLengthPrefixed claim (utf8 domain)
  pushLengthPrefixed claim publicKey

-- == encoding

lemma pushLengthPrefixed_ok {out field r : Bytes} :
    pushLengthPrefixed out field = .ok r
      ↔ field.length < 2 ^ 32 ∧ r = out ++ lengthPrefixed field := by
  unfold pushLengthPrefixed
  simp only [ok_iff]
  constructor
  · rintro ⟨-, hlength, rfl⟩
    exact ⟨hlength, rfl⟩
  · rintro ⟨hlength, rfl⟩
    exact ⟨(), hlength, rfl⟩

lemma keyDerivationInfo_ok {domain : String} {algorithm : KeyAlgorithm} {info : Bytes}
    (h : keyDerivationInfo domain algorithm = .ok info) :
    (utf8 domain).length < 2 ^ 32
      ∧ info = lengthPrefixed keyContextTag ++ (lengthPrefixed (utf8 algorithm.name)
        ++ lengthPrefixed (utf8 domain)) := by
  unfold keyDerivationInfo at h
  simp only [bind_eq_ok, pushLengthPrefixed_ok] at h
  obtain ⟨_, ⟨-, rfl⟩, _, ⟨-, rfl⟩, hdomain, rfl⟩ := h
  exact ⟨hdomain, by rw [List.nil_append, List.append_assoc]⟩

lemma keyClaim_ok {algorithm : KeyAlgorithm} {domain : String} {publicKey claim : Bytes}
    (h : keyClaim algorithm domain publicKey = .ok claim) :
    (utf8 domain).length < 2 ^ 32 ∧ publicKey.length < 2 ^ 32
      ∧ claim = lengthPrefixed claimContextTag ++ (lengthPrefixed (utf8 algorithm.name)
        ++ (lengthPrefixed (utf8 domain) ++ lengthPrefixed publicKey)) := by
  unfold keyClaim at h
  simp only [bind_eq_ok, pushLengthPrefixed_ok] at h
  obtain ⟨_, ⟨-, rfl⟩, _, ⟨-, rfl⟩, _, ⟨hdomain, rfl⟩, hkey, rfl⟩ := h
  exact ⟨hdomain, hkey, by
    rw [List.nil_append, List.append_assoc, List.append_assoc]⟩

lemma lengthPrefixed_append_inj {x y a b : Bytes} (hx : x.length < 2 ^ 32)
    (hy : y.length < 2 ^ 32) (h : lengthPrefixed x ++ a = lengthPrefixed y ++ b) :
    x = y ∧ a = b := by
  unfold lengthPrefixed at h
  rw [List.append_assoc, List.append_assoc] at h
  obtain ⟨hlengths, hrest⟩ := List.append_inj h (by rw [beBytes_length, beBytes_length])
  have hlength : x.length = y.length := by
    have hnat := congrArg beNat hlengths
    rwa [beNat_beBytes 4 hx, beNat_beBytes 4 hy] at hnat
  exact List.append_inj hrest hlength

lemma lengthPrefixed_inj {x y : Bytes} (hx : x.length < 2 ^ 32) (hy : y.length < 2 ^ 32)
    (h : lengthPrefixed x = lengthPrefixed y) : x = y := by
  have happend : lengthPrefixed x ++ [] = lengthPrefixed y ++ [] := by rw [h]
  exact (lengthPrefixed_append_inj hx hy happend).1

lemma KeyAlgorithm.name_length (a : KeyAlgorithm) : (utf8 a.name).length < 2 ^ 32 := by
  cases a <;> decide +kernel

lemma KeyAlgorithm.name_inj {a b : KeyAlgorithm} (h : utf8 a.name = utf8 b.name) :
    a = b := by
  have hname := utf8_injective h
  cases a <;> cases b <;> first | rfl | exact absurd hname (by decide)

lemma keyClaim_inj {a₁ a₂ : KeyAlgorithm} {d₁ d₂ : String} {k₁ k₂ claim : Bytes}
    (h₁ : keyClaim a₁ d₁ k₁ = .ok claim) (h₂ : keyClaim a₂ d₂ k₂ = .ok claim) :
    a₁ = a₂ ∧ d₁ = d₂ ∧ k₁ = k₂ := by
  obtain ⟨hd₁, hk₁, rfl⟩ := keyClaim_ok h₁
  obtain ⟨hd₂, hk₂, h⟩ := keyClaim_ok h₂
  have htag : claimContextTag.length < 2 ^ 32 := by decide +kernel
  obtain ⟨-, h⟩ := lengthPrefixed_append_inj htag htag h
  obtain ⟨hname, h⟩ := lengthPrefixed_append_inj a₁.name_length a₂.name_length h
  obtain ⟨hdomain, h⟩ := lengthPrefixed_append_inj hd₁ hd₂ h
  exact ⟨KeyAlgorithm.name_inj hname, utf8_injective hdomain, lengthPrefixed_inj hk₁ hk₂ h⟩

lemma keyDerivationInfo_inj {a₁ a₂ : KeyAlgorithm} {d₁ d₂ : String} {info : Bytes}
    (h₁ : keyDerivationInfo d₁ a₁ = .ok info) (h₂ : keyDerivationInfo d₂ a₂ = .ok info) :
    a₁ = a₂ ∧ d₁ = d₂ := by
  obtain ⟨hd₁, rfl⟩ := keyDerivationInfo_ok h₁
  obtain ⟨hd₂, h⟩ := keyDerivationInfo_ok h₂
  have htag : keyContextTag.length < 2 ^ 32 := by decide +kernel
  obtain ⟨-, h⟩ := lengthPrefixed_append_inj htag htag h
  obtain ⟨hname, h⟩ := lengthPrefixed_append_inj a₁.name_length a₂.name_length h
  exact ⟨KeyAlgorithm.name_inj hname, utf8_injective (lengthPrefixed_inj hd₁ hd₂ h)⟩

lemma keyDerivationInfo_ne_keyClaim {a₁ a₂ : KeyAlgorithm} {d₁ d₂ : String}
    {info key claim : Bytes} (h₁ : keyDerivationInfo d₁ a₁ = .ok info)
    (h₂ : keyClaim a₂ d₂ key = .ok claim) : info ≠ claim := by
  obtain ⟨-, rfl⟩ := keyDerivationInfo_ok h₁
  obtain ⟨-, -, rfl⟩ := keyClaim_ok h₂
  intro h
  have htag := (lengthPrefixed_append_inj (by decide +kernel) (by decide +kernel) h).1
  exact absurd htag (by decide +kernel)

end Dstack.RaTls
