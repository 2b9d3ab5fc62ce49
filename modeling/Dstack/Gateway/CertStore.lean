/-
The certificates a gateway serves, and who replaces them
(`gateway/src/cert_store.rs`, `gateway/src/main_service.rs`,
`gateway/src/distributed_certbot.rs`, `gateway/src/admin_service.rs`).

The installed store is swapped as a whole. There are two ways to a new
one. `update_cert` copies the installed store and puts one certificate
into it, under a lock that other calls of it take. A reload reads all
certificates from the replicated store, builds from these alone, and
installs what it built, under no lock. A renewal writes its certificate to
the replicated store before it calls `update_cert`, an import does so
afterwards.
-/
import Dstack.Lib.BTreeMap
import Dstack.Lib.Result

namespace Dstack.Gateway

open Lib

structure CertData where
  certPem : String
  keyPem : String
  notAfter : Nat
  issuedBy : Nat
  issuedAt : Nat
  deriving DecidableEq

/-- What the libraries make of PEM texts. `K` is a chain with its key. -/
structure Pem (K : Type) where
  certExpiry : String → Option Nat
  parseCertifiedKey : String → String → Result K

structure CertStore (K : Type) where
  exactCerts : BTreeMap String K := .empty
  wildcardCerts : BTreeMap String K := .empty
  certData : BTreeMap String CertData := .empty

namespace CertStore

variable {K : Type}

/-- The text before and after the first occurrence of a character
(`str::split_once`). -/
def splitOnce (c : Char) (text : List Char) : Option (List Char × List Char) :=
  match text.splitOn c with
  | before :: after :: rest => some (before, [c].intercalate (after :: rest))
  | _ => none

def resolveCert (s : CertStore K) (sni : String) : Option K :=
  match s.exactCerts.get? sni with
  | some key => some key
  | none =>
    match splitOnce '.' sni.toList with
    | some (_, parent) => s.wildcardCerts.get? (String.ofList parent)
    | none => none

def addCert (P : Pem K) (now : Nat) (domain : String) (data : CertData) (s : CertStore K) :
    Result (CertStore K) := do
  Result.ensure (now < data.notAfter) ("certificate record for " ++ domain ++ " is expired")
  let certNotAfter ← Result.ofOption (P.certExpiry data.certPem)
    ("failed to read the expiry of the certificate for " ++ domain)
  Result.ensure (now < certNotAfter) ("certificate for " ++ domain ++ " is expired")
  let key ← (P.parseCertifiedKey data.certPem data.keyPem).context
    ("failed to parse certificate for " ++ domain)
  .ok { s with
    wildcardCerts := s.wildcardCerts.insert domain key
    certData := s.certData.insert domain data }

def tryAddCert (P : Pem K) (clock : String → Nat) (s : CertStore K)
    (e : String × CertData) : CertStore K :=
  match s.addCert P (clock e.1) e.1 e.2 with
  | .ok s => s
  | .error _ => s

/-- The store a reload builds; `clock` is what the clock shows when a
domain has its turn. -/
def buildAll (P : Pem K) (clock : String → Nat) (certs : BTreeMap String CertData) :
    CertStore K :=
  certs.entries.foldl (tryAddCert P clock) {}

end CertStore

-- == runs

abbrev CertLog := List (String × CertData)

def loadAllCertData (log : CertLog) : BTreeMap String CertData :=
  log.foldl (fun kv e => kv.insert e.1 e.2) .empty

/-- A reload that has not installed its store: it has read the writes up
to a number, and built a store or not. -/
structure PendingReload (K : Type) where
  read : Nat
  built : Option (CertStore K)

/-- A call of `update_cert` that holds the lock. -/
structure PendingUpdate (K : Type) where
  domain : String
  data : CertData
  old : CertStore K

/-- The stored certificates, the installed ones, and who is at work. -/
structure CertRun (K : Type) where
  log : CertLog := []
  store : CertStore K := {}
  reloads : BTreeMap Nat (PendingReload K) := .empty
  update : Option (PendingUpdate K) := none
  /-- The calls of `update_cert` that have returned without an error. -/
  updated : List (String × CertData) := []

/-- A write to the store, or a step of a reload or an update. -/
inductive CertEvent where
  | write (domain : String) (data : CertData)
  | reloadRead (pass : Nat)
  | reloadBuild (pass : Nat) (clock : String → Nat)
  | reloadInstall (pass : Nat)
  /-- `update_cert` takes its lock and the installed store. -/
  | updateBegin (domain : String) (data : CertData)
  | updateInstall (now : Nat)

namespace CertRun

variable {K : Type}

def kv (w : CertRun K) : BTreeMap String CertData := loadAllCertData w.log

/-- The end of a call of `update_cert`; an error leaves the store. -/
def finishUpdate (P : Pem K) (now : Nat) (u : PendingUpdate K) (w : CertRun K) : CertRun K :=
  match u.old.addCert P now u.domain u.data with
  | .error _ => { w with update := none }
  | .ok store =>
    { w with
      update := none
      store
      updated := w.updated ++ [(u.domain, u.data)] }

def step (P : Pem K) (w : CertRun K) : CertEvent → CertRun K
  | .write domain data => { w with log := w.log ++ [(domain, data)] }
  | .reloadRead pass =>
    if w.reloads.contains pass then w
    else { w with reloads := w.reloads.insert pass ⟨w.log.length, none⟩ }
  | .reloadBuild pass clock =>
    match w.reloads.get? pass with
    | none => w
    | some r =>
      let certs := loadAllCertData (w.log.take r.read)
      { w with
        reloads := w.reloads.insert pass
          { r with built := some (.buildAll P clock certs) } }
  | .reloadInstall pass =>
    match (w.reloads.get? pass).bind (·.built) with
    | none => w
    | some store => { w with store, reloads := w.reloads.erase pass }
  | .updateBegin domain data =>
    match w.update with
    | some _ => w
    | none => { w with update := some ⟨domain, data, w.store⟩ }
  | .updateInstall now =>
    match w.update with
    | none => w
    | some u => w.finishUpdate P now u

def start (P : Pem K) (clock : String → Nat) (log : CertLog) : CertRun K where
  log
  store := .buildAll P clock (loadAllCertData log)

end CertRun

end Dstack.Gateway
