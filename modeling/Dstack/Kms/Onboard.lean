/-
How the KMS gets its root keys onto disk
(`kms/src/onboard_service.rs`, `kms/src/config.rs`).

Nine files in one directory, written one after another. A first start
generates the keys (`bootstrap`, or `bootstrap_keys` without a call) or
takes them from another KMS (`onboard`), and every start reissues
certificates (`update_certs`). Any of these can fail or die between two
files, and the next attempt need not be of the same kind.

A file is modelled by what it parses to, absent when it is missing. An
entry point is modelled by the writes it is about to make once all its
checks have passed; a `World` is the directory together with the writes
of the entry point that is running. There is at most one: the two calls
hold a lock from their first check to their last write, and a start runs
its steps one after another.
-/
import Dstack.Attest.Wire
import Dstack.Lib.Keccak

namespace Dstack.Kms.Onboard

open Lib Attest

-- == content

structure Certificate where
  subject : String
  publicKey : Bytes
  signerKey : Bytes
  caLevel : Option Nat
  notAfter : Nat
  attestation : Option Bytes
  deriving DecidableEq

structure BootstrapResponse where
  caPubkey : Bytes
  k256Pubkey : Bytes
  attestation : Bytes
  deriving DecidableEq

/-- The files of `cert_dir`. -/
structure CertDir where
  tmpCaCert : Option Certificate := none
  tmpCaKey : Option Bytes := none
  rootCaCert : Option Certificate := none
  rootCaKey : Option Bytes := none
  rpcCert : Option Certificate := none
  rpcKey : Option Bytes := none
  rpcDomain : Option String := none
  k256Key : Option Bytes := none
  bootstrapInfo : Option BootstrapResponse := none
  deriving DecidableEq

def CertDir.rootKeysExist (d : CertDir) : Bool :=
  d.rootCaKey.isSome && d.k256Key.isSome

/-- One `safe_write`. -/
inductive Write where
  | tmpCaCert (cert : Certificate)
  | tmpCaKey (key : Bytes)
  | rootCaCert (cert : Certificate)
  | rootCaKey (key : Bytes)
  | rpcCert (cert : Certificate)
  | rpcKey (key : Bytes)
  | rpcDomain (domain : String)
  | k256Key (key : Bytes)
  | bootstrapInfo (info : BootstrapResponse)
  deriving DecidableEq

def Write.apply (d : CertDir) : Write → CertDir
  | .tmpCaCert cert => { d with tmpCaCert := some cert }
  | .tmpCaKey key => { d with tmpCaKey := some key }
  | .rootCaCert cert => { d with rootCaCert := some cert }
  | .rootCaKey key => { d with rootCaKey := some key }
  | .rpcCert cert => { d with rpcCert := some cert }
  | .rpcKey key => { d with rpcKey := some key }
  | .rpcDomain domain => { d with rpcDomain := some domain }
  | .k256Key key => { d with k256Key := some key }
  | .bootstrapInfo info => { d with bootstrapInfo := some info }

-- == surroundings

/-- The calls of the cryptographic libraries. -/
structure KeyLibrary where
  publicKeyDer : Bytes → Bytes
  verifyingKey : Bytes → Bytes
  keyPairFromPem : String → Result Bytes
  signingKeyFromSlice : Bytes → Result Bytes

structure KmsConfig where
  attestRpcCert : Bool
  autoBootstrapDomain : String
  certDir : String

/-- What a run of an entry point meets: the guest agent, and the expiry
of a certificate issued now. -/
structure Host where
  appAttest : Bytes → Result Bytes
  msgpack : Msgpack
  notAfter : Nat

structure Secrets where
  tmpCaKey : Bytes
  caKey : Bytes
  rpcKey : Bytes
  k256Key : Bytes
  deriving DecidableEq

structure Keys extends Secrets where
  tmpCaCert : Certificate
  caCert : Certificate
  rpcCert : Certificate
  rpcDomain : String

-- == keys

variable (L : KeyLibrary)

def rpcAttestation (H : Host) (attestRpcCert : Bool) (rpcKey : Bytes) :
    Result (Option Bytes) :=
  if attestRpcCert then do
    let reportData := QuoteContentType.raTlsCert.toReportData (L.publicKeyDer rpcKey)
    let response ← (H.appAttest reportData).context
      ("failed to get a quote for the KMS RPC certificate. The KMS attests "
        ++ "itself through the dstack guest agent, so it must run inside a dstack "
        ++ "CVM. For local development set attest_rpc_cert = false")
    let _ ← (VersionedAttestation.fromBytes H.msgpack response).context
      "Invalid attestation"
    pure (some response)
  else .ok none

def Keys.fromKeys (H : Host) (secrets : Secrets) (domain : String)
    (attestRpcCert : Bool) : Result Keys := do
  let tmpCaCert : Certificate := {
    subject := "Dstack Client Temp CA"
    publicKey := L.publicKeyDer secrets.tmpCaKey
    signerKey := L.publicKeyDer secrets.tmpCaKey
    caLevel := some 0
    notAfter := H.notAfter
    attestation := none }
  let caCert : Certificate := {
    subject := "Dstack KMS CA"
    publicKey := L.publicKeyDer secrets.caKey
    signerKey := L.publicKeyDer secrets.caKey
    caLevel := some 1
    notAfter := H.notAfter
    attestation := none }
  let attestation ← rpcAttestation L H attestRpcCert secrets.rpcKey
  let rpcCert : Certificate := {
    subject := domain
    publicKey := L.publicKeyDer secrets.rpcKey
    signerKey := L.publicKeyDer secrets.caKey
    caLevel := none
    notAfter := H.notAfter
    attestation }
  pure { toSecrets := secrets, tmpCaCert, caCert, rpcCert, rpcDomain := domain }

structure KmsKeys where
  caKey : String
  k256Key : Bytes

structure KmsKeyResponse where
  tempCaKey : String
  keys : List KmsKeys

def Keys.fromKeyResponse (H : Host) (cfg : KmsConfig) (response : KmsKeyResponse)
    (rpcKey : Bytes) (domain : String) : Result Keys :=
  match response.keys with
  | [keys] => do
      let caKey ← (L.keyPairFromPem keys.caKey).context "Failed to parse CA key"
      let tmpCaKey ← (L.keyPairFromPem response.tempCaKey).context
        "Failed to parse tmp CA key"
      let k256Key ← (L.signingKeyFromSlice keys.k256Key).context
        "Failed to parse ECDSA key"
      Keys.fromKeys L H { tmpCaKey, caKey, rpcKey, k256Key } domain cfg.attestRpcCert
  | _ => .error "Invalid keys"

def Keys.storeCerts (k : Keys) : List Write :=
  [.tmpCaCert k.tmpCaCert, .rootCaCert k.caCert, .rpcCert k.rpcCert]

def Keys.storeKeys (k : Keys) : List Write :=
  [.tmpCaKey k.tmpCaKey, .rpcKey k.rpcKey, .rootCaKey k.caKey, .k256Key k.k256Key]

def Keys.store (k : Keys) : List Write :=
  k.storeCerts ++ [.rpcDomain k.rpcDomain] ++ k.storeKeys

-- == entry points

def isAsciiAlphanumeric (b : UInt8) : Bool :=
  (0x30 ≤ b && b ≤ 0x39) || (0x41 ≤ b && b ≤ 0x5a) || (0x61 ≤ b && b ≤ 0x7a)

def validLabel (label : Bytes) : Bool :=
  label ≠ [] && label.length ≤ 63 && label.head? ≠ some 0x2d && label.getLast? ≠ some 0x2d
    && label.all fun b => isAsciiAlphanumeric b || b = 0x2d

def validateOnboardingDomain (domain : String) : Result Unit := do
  let bytes := utf8 domain
  Result.ensure (bytes ≠ [] ∧ bytes.length ≤ 253 ∧ bytes.all (· < 0x80) = true)
    "domain must be a non-empty ASCII DNS name of at most 253 bytes"
  Result.ensure ((bytes.splitOn 0x2e).all validLabel = true)
    "domain contains an invalid DNS label"

def pad64 (hash : Bytes) : Bytes := hash ++ zeros (64 - hash.length)

def attestKeys (H : Host) (p256Pubkey k256Pubkey : Bytes) : Result Bytes :=
  H.appAttest (pad64 (beBytes 32 (keccak256 (utf8
    ("dstack-kms-genereted-keys-v1:" ++ hexEncode p256Pubkey ++ ";"
      ++ hexEncode k256Pubkey ++ ";"))).toNat))

/-- `Onboard.Bootstrap`, under the lock: generate keys, and publish what
was generated before storing it. -/
def bootstrap (H : Host) (cfg : KmsConfig) (selfAllowed : Result Unit) (fresh : Secrets)
    (domain : String) (d : CertDir) : Result (List Write) := do
  validateOnboardingDomain domain
  Result.ensure (d.rootKeysExist = false) "KMS has already been bootstrapped"
  selfAllowed.context "KMS is not allowed to bootstrap"
  let keys ← (Keys.fromKeys L H fresh domain cfg.attestRpcCert).context
    "Failed to generate keys"
  let k256Pubkey := L.verifyingKey keys.k256Key
  let caPubkey := L.publicKeyDer keys.caKey
  let attestation ← attestKeys H caPubkey k256Pubkey
  pure (.bootstrapInfo { caPubkey, k256Pubkey, attestation } :: keys.store)

def sourcePrpc (sourceUrl : String) : String :=
  let url := String.ofList (sourceUrl.toList.reverse.dropWhile (· = '/')).reverse
  if "/prpc".toList <:+ url.toList then url else url ++ "/prpc"

/-- `Onboard.Onboard`, under the lock: take the keys of another KMS. -/
def onboard (H : Host) (cfg : KmsConfig)
    (fetchKeys : String → String → Result KmsKeyResponse) (rpcKey : Bytes)
    (sourceUrl sourceToken domain : String) (d : CertDir) : Result (Secrets × List Write) := do
  validateOnboardingDomain domain
  Result.ensure (d.rootKeysExist = false) "KMS has already been onboarded"
  let keys ← (do
    let response ← fetchKeys (sourcePrpc sourceUrl) sourceToken
    Keys.fromKeyResponse L H cfg response rpcKey domain : Result Keys).context
    "Failed to onboard"
  pure (keys.toSecrets, keys.store)

/-- `bootstrap_keys`: a start that generates keys without a call. -/
def bootstrapKeys (H : Host) (cfg : KmsConfig) (selfAllowed : Result Unit) (fresh : Secrets)
    (d : CertDir) : Result (List Write) := do
  validateOnboardingDomain cfg.autoBootstrapDomain
  Result.ensure (d.rootKeysExist = false) "KMS has already been bootstrapped"
  selfAllowed.context "KMS is not allowed to auto-bootstrap"
  let keys ← (Keys.fromKeys L H fresh cfg.autoBootstrapDomain cfg.attestRpcCert).context
    "Failed to generate keys"
  pure keys.store

def caRenewalWindow : Nat := 365 * 24 * 60 * 60

def renewCaCertIfExpiring (current : Option Certificate) (renewed : Write)
    (description path : String) (now : Nat) : Result (List Write) := do
  let cert ← Result.ofOption current ("Failed to read " ++ description ++ " from " ++ path)
  if cert.notAfter ≤ now + caRenewalWindow then pure [renewed] else pure []

def notFound : String := "No such file or directory (os error 2)"

def servedDomain (cfg : KmsConfig) (d : CertDir) : Result String :=
  if cfg.autoBootstrapDomain = "" then Result.ofOption d.rpcDomain notFound
  else .ok cfg.autoBootstrapDomain

/-- The keys `update_certs` finds, with certificates issued for them
now. -/
def reissue (H : Host) (cfg : KmsConfig) (d : CertDir) : Result Keys := do
  let tmpCaKey ← Result.ofOption d.tmpCaKey notFound
  let caKey ← Result.ofOption d.rootCaKey notFound
  let rpcKey ← Result.ofOption d.rpcKey notFound
  let k256Key ← Result.ofOption d.k256Key notFound
  let domain ← servedDomain cfg d
  (Keys.fromKeys L H { tmpCaKey, caKey, rpcKey, k256Key } (trim domain)
    cfg.attestRpcCert).context "Failed to regenerate certificates"

/-- `update_certs`: the writes it gets to, and how it ends. The authorities'
certificates are renewed when they expire soon, the RPC certificate
always. -/
def updateCerts (H : Host) (cfg : KmsConfig) (now : Nat) (d : CertDir) :
    List Write × Result Unit :=
  match reissue L H cfg d with
  | .error e => ([], .error e)
  | .ok keys =>
    match renewCaCertIfExpiring d.rootCaCert (.rootCaCert keys.caCert)
        "KMS root CA certificate" (cfg.certDir ++ "/root-ca.crt") now with
    | .error e => ([], .error e)
    | .ok root =>
      match renewCaCertIfExpiring d.tmpCaCert (.tmpCaCert keys.tmpCaCert)
          "temporary client CA certificate" (cfg.certDir ++ "/tmp-ca.crt") now with
      | .error e => (root, .error e)
      | .ok tmp => (root ++ tmp ++ [.rpcCert keys.rpcCert], .ok ())

-- == world

inductive Kind where
  | bootstrap
  | onboard
  | autoBootstrap
  deriving DecidableEq

/-- Whose keys are on the disk, and what was there before. -/
structure Attempt where
  kind : Kind
  secrets : Secrets
  foundInfo : Option BootstrapResponse
  deriving DecidableEq

/-- The disk, the writes still to be made, and where the keys come from. -/
structure World where
  disk : CertDir := {}
  running : List Write := []
  origin : Option Attempt := none

/-- An entry point begins, the running one makes its next write, or it
ends early: a write fails, or the process dies. -/
inductive Event where
  | bootstrap (H : Host) (cfg : KmsConfig) (selfAllowed : Result Unit) (fresh : Secrets)
      (domain : String)
  | onboard (H : Host) (cfg : KmsConfig)
      (fetchKeys : String → String → Result KmsKeyResponse) (rpcKey : Bytes)
      (sourceUrl sourceToken domain : String)
  | autoBootstrap (H : Host) (cfg : KmsConfig) (selfAllowed : Result Unit) (fresh : Secrets)
  | updateCerts (H : Host) (cfg : KmsConfig) (now : Nat)
  | write
  | stop

def World.begin (w : World) (kind : Kind) (secrets : Secrets) (writes : List Write) : World where
  disk := w.disk
  running := writes
  origin := some ⟨kind, secrets, w.disk.bootstrapInfo⟩

def World.step (w : World) : Event → World
  | .bootstrap H cfg selfAllowed fresh domain =>
    if w.running ≠ [] then w
    else
      match Onboard.bootstrap L H cfg selfAllowed fresh domain w.disk with
      | .ok writes => w.begin .bootstrap fresh writes
      | .error _ => w
  | .onboard H cfg fetchKeys rpcKey sourceUrl sourceToken domain =>
    if w.running ≠ [] then w
    else
      match Onboard.onboard L H cfg fetchKeys rpcKey sourceUrl sourceToken domain w.disk with
      | .ok (secrets, writes) => w.begin .onboard secrets writes
      | .error _ => w
  | .autoBootstrap H cfg selfAllowed fresh =>
    if w.running ≠ [] then w
    else
      match bootstrapKeys L H cfg selfAllowed fresh w.disk with
      | .ok writes => w.begin .autoBootstrap fresh writes
      | .error _ => w
  | .updateCerts H cfg now =>
    if w.running ≠ [] then w
    else { w with running := (Onboard.updateCerts L H cfg now w.disk).1 }
  | .write =>
    match w.running with
    | [] => w
    | x :: rest => { w with disk := x.apply w.disk, running := rest }
  | .stop => { w with running := [] }

def World.run (w : World) (events : List Event) : World := events.foldl (World.step L) w

end Dstack.Kms.Onboard
