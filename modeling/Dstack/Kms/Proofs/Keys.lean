/-
No two keys and no two signed messages of a KMS coincide by accident.

With the widths that authorisation checks, a context starts with the
application identifier, and what follows has a different length for each
of the four kinds of keys (`context_inj`). Derivation is
injective on inputs that do not collide, and a derived key is never a
hashed one: the tag behind it is the hash of 96 bytes, the hash behind a
Diffie-Hellman secret is over a PKCS#8 encoding of 138
(`key_separation`). The signed messages are likewise 71, 78 and 86 bytes
long (`message_inj`).
-/
import Dstack.Kms.Keys
import Dstack.Kms.Proofs.NitroEnclave

namespace Dstack.Kms

open Lib RaTls

-- == requests

/-- A key that is asked for, and for whom. -/
inductive KeyRequest where
  | disk (appId instanceId : Bytes)
  | envEncrypt (appId : Bytes)
  | appCa (appId : Bytes)
  | k256 (appId : Bytes)
  deriving DecidableEq

namespace KeyRequest

/-- The key that is handed out. -/
def key (K : KmsState) : KeyRequest → Result Bytes
  | disk appId instanceId => diskKey K appId instanceId
  | envEncrypt appId => envEncryptKey K appId
  | appCa appId => appCaKey K appId
  | k256 appId => k256AppKey K appId

/-- The checks on identities let the request pass. -/
def Served : KeyRequest → Prop
  | disk appId instanceId => ∃ b : BootInfo, b.appId = appId
      ∧ b.instanceId = instanceId ∧ ensureIdentityWidths b = .ok ()
  | envEncrypt appId => ensureAppIdLen appId = .ok ()
  | appCa appId => ensureAppIdLen appId = .ok ()
  | k256 appId => ensureAppIdLen appId = .ok ()

def rootKey (K : KmsState) : KeyRequest → Bytes
  | k256 _ => K.k256Key
  | _ => K.rootCaKey

def context : KeyRequest → List Bytes
  | disk appId instanceId => [appId, instanceId, utf8 "app-disk-crypt-key"]
  | envEncrypt appId => [appId, utf8 "env-encrypt-key"]
  | appCa appId => [appId, utf8 "app-ca"]
  | k256 appId => [appId, utf8 "app-key"]

def isDh : KeyRequest → Bool
  | disk .. | envEncrypt _ => true
  | appCa _ | k256 _ => false

/-- What is hashed on the way to a key. -/
def hashInputs (K : KmsState) (r : KeyRequest) : List Bytes :=
  Hkdf.deriveInputs Sha256 64 legacySalt (r.rootKey K) r.context.flatten
    ++ (if r.isDh then [toPkcs8Der K.curves (derived (r.rootKey K) r.context)] else [])

variable {K : KmsState} {r r₁ r₂ : KeyRequest}

lemma key_ok {k : Bytes} (h : r.key K = .ok k) :
    k = if r.isDh then sha256 (toPkcs8Der K.curves (derived (r.rootKey K) r.context))
      else derived (r.rootKey K) r.context := by
  cases r with
  | disk appId instanceId =>
    rw [key, diskKey, context_eq_ok] at h
    exact deriveDhSecret_ok h
  | envEncrypt appId =>
    rw [key, envEncryptKey, context_eq_ok] at h
    exact deriveDhSecret_ok h
  | appCa appId =>
    rw [key, appCaKey, context_eq_ok] at h
    exact deriveP256KeyPair_ok h
  | k256 appId =>
    unfold key k256AppKey at h
    simp only [ok_iff] at h
    obtain ⟨_, hderive, _, -, _, -, rfl⟩ := h
    exact deriveKey_ok hderive

-- == contexts

def appId : KeyRequest → Bytes
  | disk appId _ | envEncrypt appId | appCa appId | k256 appId => appId

def rest : KeyRequest → Bytes
  | disk _ instanceId => instanceId ++ utf8 "app-disk-crypt-key"
  | envEncrypt _ => utf8 "env-encrypt-key"
  | appCa _ => utf8 "app-ca"
  | k256 _ => utf8 "app-key"

lemma context_flatten (r : KeyRequest) : r.context.flatten = r.appId ++ r.rest := by
  cases r <;> simp [context, appId, rest]

lemma Served.appId_length (h : r.Served) : r.appId.length = 20 := by
  cases r with
  | disk appId instanceId =>
    obtain ⟨b, rfl, rfl, hb⟩ := h
    unfold ensureIdentityWidths ensureAppIdLen at hb
    simp only [ok_iff] at hb
    obtain ⟨_, happ, -⟩ := hb
    exact happ
  | envEncrypt appId => exact ensure_eq_ok.mp h
  | appCa appId => exact ensure_eq_ok.mp h
  | k256 appId => exact ensure_eq_ok.mp h

def restLength : KeyRequest → Nat
  | disk _ instanceId => instanceId.length + 18
  | envEncrypt _ => 15
  | appCa _ => 6
  | k256 _ => 7

lemma rest_length (r : KeyRequest) : r.rest.length = r.restLength := by
  have hdisk : (utf8 "app-disk-crypt-key").length = 18 := by decide
  have henv : (utf8 "env-encrypt-key").length = 15 := by decide
  have hca : (utf8 "app-ca").length = 6 := by decide
  have hk256 : (utf8 "app-key").length = 7 := by decide
  cases r with
  | disk a i => rw [rest, restLength, List.length_append, hdisk]
  | envEncrypt a => exact henv
  | appCa a => exact hca
  | k256 a => exact hk256

lemma rest_inj (happ : r₁.appId = r₂.appId) (h : r₁.rest = r₂.rest) :
    r₁ = r₂ := by
  have hlen : r₁.restLength = r₂.restLength := by
    rw [← rest_length, ← rest_length, h]
  cases r₁ with
  | disk a i =>
    cases r₂ with
    | disk a' i' =>
      have hi : i = i' := List.append_cancel_right h
      rw [hi, show a = a' from happ]
    | envEncrypt _ => simp [restLength] at hlen
    | appCa _ => simp [restLength] at hlen
    | k256 _ => simp [restLength] at hlen
  | envEncrypt a =>
    cases r₂ with
    | envEncrypt a' => rw [show a = a' from happ]
    | disk _ _ => simp [restLength] at hlen
    | appCa _ => simp [restLength] at hlen
    | k256 _ => simp [restLength] at hlen
  | appCa a =>
    cases r₂ with
    | appCa a' => rw [show a = a' from happ]
    | disk _ _ => simp [restLength] at hlen
    | envEncrypt _ => simp [restLength] at hlen
    | k256 _ => simp [restLength] at hlen
  | k256 a =>
    cases r₂ with
    | k256 a' => rw [show a = a' from happ]
    | disk _ _ => simp [restLength] at hlen
    | envEncrypt _ => simp [restLength] at hlen
    | appCa _ => simp [restLength] at hlen

lemma context_inj (h₁ : r₁.Served) (h₂ : r₂.Served)
    (h : r₁.context.flatten = r₂.context.flatten) : r₁ = r₂ := by
  rw [context_flatten, context_flatten] at h
  obtain ⟨happ, hrest⟩ :=
    List.append_inj h (h₁.appId_length.trans h₂.appId_length.symm)
  exact rest_inj happ hrest

-- == keys

lemma derived_eq_hash (key : Bytes) (ctx : List Bytes) :
    derived key ctx = sha256 (Hkdf.outerInput Sha256 64
      (Hkdf.extract Sha256 64 legacySalt key) (ctx.flatten ++ [1])) :=
  Hkdf.derive_size (by decide) _ _ _

lemma tagInput_length (key message : Bytes) :
    (Hkdf.outerInput Sha256 64 (Hkdf.extract Sha256 64 legacySalt key)
      message).length = 96 :=
  Hkdf.outerInput_length (by simp [Hkdf.extract, Sha256])

lemma derived_ne_dh {key key' : Bytes} {ctx ctx' : List Bytes} {C : Curves}
    {ms : List Bytes} (hcf : Sha256.CollisionFreeOn ms)
    (htag : Hkdf.outerInput Sha256 64 (Hkdf.extract Sha256 64 legacySalt key)
      (ctx.flatten ++ [1]) ∈ ms)
    (hder : toPkcs8Der C (derived key' ctx') ∈ ms) :
    derived key ctx ≠ sha256 (toPkcs8Der C (derived key' ctx')) := by
  intro h
  rw [derived_eq_hash] at h
  have hinputs := hcf _ htag _ hder h
  have hlen := congrArg List.length hinputs
  rw [tagInput_length, toPkcs8Der_length C (derived_length key' ctx')] at hlen
  omega

lemma tagInput_mem (K : KmsState) (r : KeyRequest) :
    Hkdf.outerInput Sha256 64 (Hkdf.extract Sha256 64 legacySalt (r.rootKey K))
      (r.context.flatten ++ [1]) ∈ r.hashInputs K := by
  simp [hashInputs, Hkdf.deriveInputs, Hkdf.hmacInputs]

lemma der_mem (K : KmsState) (hdh : r.isDh = true) :
    toPkcs8Der K.curves (derived (r.rootKey K) r.context) ∈ r.hashInputs K := by
  simp [hashInputs, hdh]

lemma eq_of_derived (h₁ : r₁.Served) (h₂ : r₂.Served)
    (hcf : Sha256.CollisionFreeOn (r₁.hashInputs K ++ r₂.hashInputs K))
    (h : derived (r₁.rootKey K) r₁.context = derived (r₂.rootKey K) r₂.context) :
    r₁ = r₂ := by
  have hsub : Hkdf.deriveInputs Sha256 64 legacySalt (r₁.rootKey K) r₁.context.flatten
        ++ Hkdf.deriveInputs Sha256 64 legacySalt (r₂.rootKey K) r₂.context.flatten
      ⊆ r₁.hashInputs K ++ r₂.hashInputs K := by
    intro a ha
    simp only [hashInputs, List.mem_append] at ha ⊢
    rcases ha with ha | ha <;> simp [ha]
  have hctx := Hkdf.derive_inj (by decide) (by decide) (by decide) (hcf.mono hsub) h
  exact context_inj h₁ h₂ hctx.2

lemma key_separation (h₁ : r₁.Served) (h₂ : r₂.Served)
    (hcf : Sha256.CollisionFreeOn (r₁.hashInputs K ++ r₂.hashInputs K))
    {k : Bytes} (hk₁ : r₁.key K = .ok k) (hk₂ : r₂.key K = .ok k) : r₁ = r₂ := by
  have h := (key_ok hk₁).symm.trans (key_ok hk₂)
  by_cases hdh₁ : r₁.isDh = true
  · by_cases hdh₂ : r₂.isDh = true
    · -- both hashed: equal encodings, so equal derived keys
      rw [if_pos hdh₁, if_pos hdh₂] at h
      have hder := hcf _ (List.mem_append_left _ (der_mem K hdh₁)) _
        (List.mem_append_right _ (der_mem K hdh₂)) h
      exact eq_of_derived h₁ h₂ hcf
        (toPkcs8Der_inj (derived_length _ _) (derived_length _ _) hder)
    · rw [if_pos hdh₁, if_neg hdh₂] at h
      exact absurd h.symm (derived_ne_dh hcf
        (List.mem_append_right _ (tagInput_mem K r₂))
        (List.mem_append_left _ (der_mem K hdh₁)))
  · by_cases hdh₂ : r₂.isDh = true
    · rw [if_neg hdh₁, if_pos hdh₂] at h
      exact absurd h (derived_ne_dh hcf
        (List.mem_append_left _ (tagInput_mem K r₁))
        (List.mem_append_right _ (der_mem K hdh₂)))
    · rw [if_neg hdh₁, if_neg hdh₂] at h
      exact eq_of_derived h₁ h₂ hcf h

end KeyRequest

-- == messages

/-- What the root key signs. -/
inductive SignedMessage where
  | issued (appId publicKey : Bytes)
  | envEncrypt (appId publicKey : Bytes)
  | envEncryptAt (appId : Bytes) (timestamp : Nat) (publicKey : Bytes)
  deriving DecidableEq

namespace SignedMessage

/-- The bytes under the signature. -/
def bytes : SignedMessage → Bytes
  | issued appId publicKey =>
    messageBytes (utf8 "dstack-kms-issued") appId publicKey
  | envEncrypt appId publicKey =>
    messageBytes (utf8 "dstack-env-encrypt-pubkey") appId publicKey
  | envEncryptAt appId timestamp publicKey =>
    messageBytesWithTimestamp (utf8 "dstack-env-encrypt-pubkey") appId timestamp
      publicKey

/-- The application identifier passed its check, the public key has its
encoding's length and the timestamp is a 64-bit number. -/
def WellSized : SignedMessage → Prop
  | issued appId publicKey => ensureAppIdLen appId = .ok () ∧ publicKey.length = 33
  | envEncrypt appId publicKey =>
    ensureAppIdLen appId = .ok () ∧ publicKey.length = 32
  | envEncryptAt appId timestamp publicKey =>
    ensureAppIdLen appId = .ok () ∧ timestamp < 2 ^ 64 ∧ publicKey.length = 32

lemma bytes_length {m : SignedMessage} (h : m.WellSized) :
    m.bytes.length = match m with
      | issued .. => 71
      | envEncrypt .. => 78
      | envEncryptAt .. => 86 := by
  have hissued : (utf8 "dstack-kms-issued").length = 17 := by decide
  have henv : (utf8 "dstack-env-encrypt-pubkey").length = 25 := by decide
  have hcolon : (utf8 ":").length = 1 := by decide
  cases m with
  | issued a p =>
    obtain ⟨ha, hp⟩ := h
    rw [ensureAppIdLen, ensure_eq_ok] at ha
    simp [bytes, messageBytes, hissued, hcolon, ha, hp]
  | envEncrypt a p =>
    obtain ⟨ha, hp⟩ := h
    rw [ensureAppIdLen, ensure_eq_ok] at ha
    simp [bytes, messageBytes, henv, hcolon, ha, hp]
  | envEncryptAt a t p =>
    obtain ⟨ha, -, hp⟩ := h
    rw [ensureAppIdLen, ensure_eq_ok] at ha
    simp [bytes, messageBytesWithTimestamp, henv, hcolon, ha, hp]

lemma messageBytes_inj {label a₁ a₂ p₁ p₂ : Bytes}
    (ha₁ : ensureAppIdLen a₁ = .ok ()) (ha₂ : ensureAppIdLen a₂ = .ok ())
    (h : messageBytes label a₁ p₁ = messageBytes label a₂ p₂) :
    a₁ = a₂ ∧ p₁ = p₂ := by
  rw [ensureAppIdLen, ensure_eq_ok] at ha₁ ha₂
  unfold messageBytes at h
  rw [List.append_assoc, List.append_assoc _ a₂] at h
  exact List.append_inj (List.append_cancel_left h) (ha₁.trans ha₂.symm)

lemma message_inj {m₁ m₂ : SignedMessage} (h₁ : m₁.WellSized)
    (h₂ : m₂.WellSized) (h : m₁.bytes = m₂.bytes) : m₁ = m₂ := by
  have hlen := (bytes_length h₁).symm.trans ((congrArg List.length h).trans
    (bytes_length h₂))
  cases m₁ with
  | issued a p =>
    cases m₂ with
    | issued a' p' =>
      obtain ⟨rfl, rfl⟩ := messageBytes_inj h₁.1 h₂.1 h
      rfl
    | envEncrypt _ _ => simp at hlen
    | envEncryptAt _ _ _ => simp at hlen
  | envEncrypt a p =>
    cases m₂ with
    | envEncrypt a' p' =>
      obtain ⟨rfl, rfl⟩ := messageBytes_inj h₁.1 h₂.1 h
      rfl
    | issued _ _ => simp at hlen
    | envEncryptAt _ _ _ => simp at hlen
  | envEncryptAt a t p =>
    cases m₂ with
    | envEncryptAt a' t' p' =>
      -- a timestamped message is a plain one about timestamp and key
      have hplain : messageBytes (utf8 "dstack-env-encrypt-pubkey") a
            (beBytes 8 t ++ p)
          = messageBytes (utf8 "dstack-env-encrypt-pubkey") a'
            (beBytes 8 t' ++ p') := by
        simpa [bytes, messageBytes, messageBytesWithTimestamp] using h
      obtain ⟨rfl, htail⟩ := messageBytes_inj h₁.1 h₂.1 hplain
      obtain ⟨ht, rfl⟩ := List.append_inj htail (by simp)
      have htime : t = t' := by
        rw [← beNat_beBytes 8 h₁.2.1, ht, beNat_beBytes 8 h₂.2.1]
      rw [htime]
    | issued _ _ => simp at hlen
    | envEncrypt _ _ => simp at hlen

end SignedMessage

-- == what a KMS serves

variable {K : KmsState}

lemma ensureAppAttestationAllowed_widths {att : Attest.VerifiedAttestation}
    {isKms boot : Bool} {vm : String} {c : BootConfig}
    (h : ensureAppAttestationAllowed K att isKms boot vm = .ok c) :
    ensureIdentityWidths c.bootInfo = .ok () := by
  unfold ensureAppAttestationAllowed isAppAllowed at h
  simp only [ok_iff] at h
  obtain ⟨b, -, response, ⟨_, hwidths, -⟩, _, -, _, -, rfl⟩ := h
  exact hwidths

/-- The keys of an answer, with what each of them was derived for. -/
def AppKeyResponse.keys (r : AppKeyResponse) (b : BootInfo) : List (KeyRequest × Bytes) :=
  [(.disk b.appId b.instanceId, r.diskCryptKey), (.envEncrypt b.appId, r.envCryptKey),
    (.k256 b.appId, r.k256Key)]

lemma getAppKey_served {att : Attest.VerifiedAttestation} {v : Nat} {vm : String}
    {r : AppKeyResponse} (h : getAppKey K att v vm = .ok r) :
    ∃ c, ensureAppAttestationAllowed K att false false vm = .ok c
      ∧ (∀ p ∈ r.keys c.bootInfo, p.1.Served ∧ p.1.key K = .ok p.2)
      ∧ ∃ m : SignedMessage, m.WellSized
        ∧ m = .issued c.bootInfo.appId (K.curves.k256PublicKey r.k256Key)
        ∧ K.curves.signRecoverableKeccak256 K.k256Key m.bytes = .ok r.k256Signature := by
  unfold getAppKey deriveK256Key signMessage at h
  simp only [ok_iff] at h
  obtain ⟨_, -, _, -, c, hc, _, -, disk, hdisk, env, henv, pair,
    ⟨key, hkey, sig, hsig, rfl⟩, rfl⟩ := h
  have hwidths := ensureAppAttestationAllowed_widths hc
  have happ : ensureAppIdLen c.bootInfo.appId = .ok () := by
    unfold ensureIdentityWidths at hwidths
    simp only [bind_eq_ok] at hwidths
    obtain ⟨_, happ, -⟩ := hwidths
    exact happ
  refine ⟨c, hc, ?_, .issued c.bootInfo.appId (K.curves.k256PublicKey key),
    ⟨happ, K.curves.k256PublicKey_length _⟩, rfl, hsig⟩
  simp only [AppKeyResponse.keys, List.forall_mem_cons]
  exact ⟨⟨⟨c.bootInfo, rfl, rfl, hwidths⟩, hdisk⟩, ⟨happ, henv⟩, ⟨happ, hkey⟩,
    List.forall_mem_nil _⟩

/-- Two attested guests are given a key in common only where it is derived
for one purpose and one identity, the identity each was authorised with. -/
theorem released_keys_separate {att₁ att₂ : Attest.VerifiedAttestation} {v₁ v₂ : Nat}
    {vm₁ vm₂ : String} {r₁ r₂ : AppKeyResponse} (h₁ : getAppKey K att₁ v₁ vm₁ = .ok r₁)
    (h₂ : getAppKey K att₂ v₂ vm₂ = .ok r₂) :
    ∃ c₁ c₂, ensureAppAttestationAllowed K att₁ false false vm₁ = .ok c₁
      ∧ ensureAppAttestationAllowed K att₂ false false vm₂ = .ok c₂
      ∧ ∀ p₁ ∈ r₁.keys c₁.bootInfo, ∀ p₂ ∈ r₂.keys c₂.bootInfo,
        Sha256.CollisionFreeOn (p₁.1.hashInputs K ++ p₂.1.hashInputs K) →
        p₁.2 = p₂.2 → p₁.1 = p₂.1 := by
  obtain ⟨c₁, hc₁, hk₁, -⟩ := getAppKey_served h₁
  obtain ⟨c₂, hc₂, hk₂, -⟩ := getAppKey_served h₂
  refine ⟨c₁, c₂, hc₁, hc₂, fun p₁ hp₁ p₂ hp₂ hcf heq => ?_⟩
  obtain ⟨hs₁, hkey₁⟩ := hk₁ p₁ hp₁
  obtain ⟨hs₂, hkey₂⟩ := hk₂ p₂ hp₂
  exact KeyRequest.key_separation hs₁ hs₂ hcf (heq ▸ hkey₁) hkey₂

/-- Keys of served requests coincide only for the same purpose and the
same identity, and signed messages only if they are the same message. -/
theorem keys_and_messages_separate (K : KmsState) :
    (∀ (r₁ r₂ : KeyRequest) (k : Bytes), r₁.Served → r₂.Served →
        Sha256.CollisionFreeOn (r₁.hashInputs K ++ r₂.hashInputs K) →
        r₁.key K = .ok k → r₂.key K = .ok k → r₁ = r₂)
      ∧ (∀ m₁ m₂ : SignedMessage, m₁.WellSized → m₂.WellSized →
        m₁.bytes = m₂.bytes → m₁ = m₂) :=
  ⟨fun _ _ _ h₁ h₂ hcf hk₁ hk₂ => KeyRequest.key_separation h₁ h₂ hcf hk₁ hk₂,
    fun _ _ h₁ h₂ h => SignedMessage.message_inj h₁ h₂ h⟩

-- == a sample KMS

def sampleCurves : Curves where
  p256PublicKey _ := 0x04 :: zeros 64
  k256PublicKey _ := 0x02 :: zeros 32
  x25519PublicKey _ := zeros 32
  signRecoverableKeccak256 _ _ := .ok (zeros 65)
  p256PublicKey_length _ := rfl
  k256PublicKey_length _ := rfl
  x25519PublicKey_length _ := rfl

def sampleKms : KmsState where
  verifier := enclaveVerifier
  curves := sampleCurves
  rootCaKey := List.replicate 32 0x01
  rootCaCert := ""
  k256Key := List.replicate 32 0x02
  authApi _ _ := .ok ⟨true, "", ""⟩
  imageVerify := true
  keyRelease := {}
  selfAllowed := .ok ()

/-- One application's signing key and its environment key differ, and so do
what is signed for the first and, at some time, for the second. -/
theorem sample_keys_separate :
    let app : Bytes := List.replicate 20 0x11
    (∃ k₁ k₂, (KeyRequest.k256 app).key sampleKms = .ok k₁
      ∧ (KeyRequest.envEncrypt app).key sampleKms = .ok k₂ ∧ k₁ ≠ k₂)
    ∧ (SignedMessage.issued app (zeros 33)).bytes
      ≠ (SignedMessage.envEncryptAt app 1700000000 (zeros 32)).bytes := by
  intro app
  have happ : ensureAppIdLen app = .ok () := by decide
  obtain ⟨k₁, h₁⟩ := Result.exists_of_isOk (r := (KeyRequest.k256 app).key sampleKms)
    (by decide +kernel)
  obtain ⟨k₂, h₂⟩ := Result.exists_of_isOk (r := (KeyRequest.envEncrypt app).key sampleKms)
    (by decide +kernel)
  refine ⟨⟨k₁, k₂, h₁, h₂, ?_⟩, fun heq => ?_⟩
  · rintro rfl
    have heq := (keys_and_messages_separate sampleKms).1 (.k256 app) (.envEncrypt app) k₁
      happ happ (by decide +kernel) h₁ h₂
    cases heq
  · have heq := (keys_and_messages_separate sampleKms).2 (.issued app (zeros 33))
      (.envEncryptAt app 1700000000 (zeros 32)) ⟨happ, by decide⟩
      ⟨happ, by decide, by decide⟩ heq
    cases heq

def enclaveKms : KmsState := { sampleKms with keyRelease := { nitroEnclave := true } }

/-- Two enclaves of different applications that are both served. -/
theorem enclave_keys_separate :
    ∃ r₁ r₂ c₁ c₂, getAppKey enclaveKms (enclaveVerified (List.replicate 20 0xaa)) 1 "" = .ok r₁
      ∧ getAppKey enclaveKms (enclaveVerified (List.replicate 20 0xbb)) 1 "" = .ok r₂
      ∧ ∀ p₁ ∈ r₁.keys c₁, ∀ p₂ ∈ r₂.keys c₂, Sha256.CollisionFreeOn
          (p₁.1.hashInputs enclaveKms ++ p₂.1.hashInputs enclaveKms) →
        p₁.2 = p₂.2 → p₁.1 = p₂.1 := by
  obtain ⟨r₁, h₁⟩ := Result.exists_of_isOk (r := getAppKey enclaveKms
    (enclaveVerified (List.replicate 20 0xaa)) 1 "") (by decide +kernel)
  obtain ⟨r₂, h₂⟩ := Result.exists_of_isOk (r := getAppKey enclaveKms
    (enclaveVerified (List.replicate 20 0xbb)) 1 "") (by decide +kernel)
  obtain ⟨c₁, c₂, -, -, h⟩ := released_keys_separate h₁ h₂
  exact ⟨r₁, r₂, c₁.bootInfo, c₂.bootInfo, h₁, h₂, h⟩

end Dstack.Kms
