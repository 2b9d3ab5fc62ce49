/-
The keys the KMS hands out and the messages its root key signs
(`kms/src/main_service.rs`, `kms/src/crypto.rs`).

A key's context and a signed message are concatenations without
delimiters: the application identifier, for a disk key also the instance
identifier, and a label at the end; a label, the application identifier,
perhaps a timestamp, and a public key. What keeps them apart are the
widths checked on the way to authorisation.
-/
import Dstack.Kms.BootInfo
import Dstack.RaTls.Kdf

namespace Dstack.Kms

open Lib Attest Verifier RaTls

structure BootResponse where
  isAllowed : Bool
  gatewayAppId : String
  reason : String
  deriving DecidableEq

structure BootConfig where
  bootInfo : BootInfo
  gatewayAppId : String
  deriving DecidableEq

structure KmsState where
  verifier : CvmVerifier
  curves : Curves
  rootCaKey : Bytes
  rootCaCert : String
  k256Key : Bytes
  authApi : BootInfo → Bool → Result BootResponse
  imageVerify : Bool
  keyRelease : KeyReleasePolicy
  selfAllowed : Result Unit

-- == authorisation

def isAppAllowed (K : KmsState) (bootInfo : BootInfo) (isKms : Bool) :
    Result BootResponse := do
  ensureIdentityWidths bootInfo
  K.authApi bootInfo isKms

/-- The image check, unless it is switched off. SEV-SNP was checked when
the boot information was built. -/
def verifyImage (K : KmsState) (bootInfo : BootInfo) (vmConfigStr : String)
    (att : VerifiedAttestation) : Result Unit :=
  if bootInfo.teeVariant ≠ .dstackAmdSevSnp ∧ K.imageVerify = true then
    (((fun _ => ()) <$> verifyOsImageHash K.verifier vmConfigStr att).context
      "Failed to verify os image hash").context "Failed to verify os image hash"
  else .ok ()

def ensureAppAttestationAllowed (K : KmsState) (att : VerifiedAttestation)
    (isKms useBoottimeMr : Bool) (vmConfigStr : String) : Result BootConfig := do
  let bootInfo ← buildBootInfoForAttestation K.verifier att useBoottimeMr vmConfigStr
  let response ← isAppAllowed K bootInfo isKms
  Result.ensure (response.isAllowed = true) ("Boot denied: " ++ response.reason)
  verifyImage K bootInfo vmConfigStr att
  pure { bootInfo, gatewayAppId := response.gatewayAppId }

-- == keys

def diskKey (K : KmsState) (appId instanceId : Bytes) : Result Bytes :=
  (deriveDhSecret K.curves K.rootCaKey
    [appId, instanceId, utf8 "app-disk-crypt-key"]).context
    "Failed to derive app disk key"

def envEncryptKey (K : KmsState) (appId : Bytes) : Result Bytes :=
  (deriveDhSecret K.curves K.rootCaKey [appId, utf8 "env-encrypt-key"]).context
    "Failed to derive env encrypt key"

def appCaKey (K : KmsState) (appId : Bytes) : Result Bytes :=
  (deriveP256KeyPair K.rootCaKey [appId, utf8 "app-ca"]).context
    "Failed to derive app disk key"

def k256Order : Nat :=
  0xfffffffffffffffffffffffffffffffebaaedce6af48a03bbfd25e8cd0364141

def k256AppKey (K : KmsState) (appId : Bytes) : Result Bytes := do
  let derivedKeyBytes ← deriveKey K.k256Key [appId, utf8 "app-key"] 32
  Result.ensure (derivedKeyBytes.length = 32) "Invalid derived key len"
  Result.ensure (0 < beNat derivedKeyBytes ∧ beNat derivedKeyBytes < k256Order)
    "signature error"
  pure derivedKeyBytes

-- == messages

def messageBytes (label appid message : Bytes) : Bytes :=
  label ++ utf8 ":" ++ appid ++ message

def messageBytesWithTimestamp (label appid : Bytes) (timestamp : Nat)
    (message : Bytes) : Bytes :=
  label ++ utf8 ":" ++ appid ++ beBytes 8 timestamp ++ message

def signMessage (K : KmsState) (label appid message : Bytes) : Result Bytes :=
  K.curves.signRecoverableKeccak256 K.k256Key (messageBytes label appid message)

def deriveK256Key (K : KmsState) (appId : Bytes) : Result (Bytes × Bytes) := do
  let derivedKey ← k256AppKey K appId
  let signature ← signMessage K (utf8 "dstack-kms-issued") appId
    (K.curves.k256PublicKey derivedKey)
  pure (derivedKey, signature)

-- == requests

structure AppKeyResponse where
  caCert : String
  diskCryptKey : Bytes
  envCryptKey : Bytes
  k256Key : Bytes
  k256Signature : Bytes
  gatewayAppId : String
  osImageHash : Bytes
  deriving DecidableEq

def getAppKey (K : KmsState) (att : VerifiedAttestation) (apiVersion : Nat)
    (vmConfig : String) : Result AppKeyResponse := do
  Result.ensure (apiVersion ≤ 1)
    ("Unsupported API version: " ++ toString apiVersion)
  K.selfAllowed.context "KMS self authorization failed"
  let config ← (ensureAppAttestationAllowed K att false false vmConfig).context
    "App not allowed"
  ensureKeyReleaseAllowed config.bootInfo K.keyRelease
  let diskCryptKey ← diskKey K config.bootInfo.appId config.bootInfo.instanceId
  let envCryptKey ← envEncryptKey K config.bootInfo.appId
  let (k256Key, k256Signature) ← (deriveK256Key K config.bootInfo.appId).context
    "Failed to derive app ecdsa key"
  pure {
    caCert := K.rootCaCert
    diskCryptKey
    envCryptKey
    k256Key
    k256Signature
    gatewayAppId := config.gatewayAppId
    osImageHash := config.bootInfo.osImageHash }

end Dstack.Kms
