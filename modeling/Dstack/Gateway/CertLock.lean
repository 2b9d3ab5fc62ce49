/-
The renewal lock of a certificate (`gateway/src/kv/mod.rs`): a lease in
the replicated store, as one node takes it and gives it back.

A lease has no number. It is known by the second it was taken in and the
node that took it, and who gives it back is recognised by these two.
Reading the record, looking at its age and writing share one guard of the
store, but the clock is read before the guard is taken: the time a call
goes by may be an old one when its turn comes.

`LockRun` adds what the store does not have: the acquisitions so far,
with what became of each.
-/
import Dstack.Lib.BTreeMap
import Dstack.Lib.Result

namespace Dstack.Gateway

open Lib

structure CertRenewLock where
  startedAt : Nat
  startedBy : Nat
  deriving DecidableEq

/-- The lock records; one that does not decode is an error. -/
abbrev LockStore := BTreeMap String (Result CertRenewLock)

/-- `u64::saturating_add`. -/
def saturatingAdd (a b : Nat) : Nat := min (a + b) (2 ^ 64 - 1)

namespace LockStore

def decode (s : LockStore) (key : String) : Option CertRenewLock :=
  (s.get? key).bind Except.toOption

def held (s : LockStore) (key : String) (lockTimeoutSecs now : Nat) : Bool :=
  (s.decode key).any fun existing => now < saturatingAdd existing.startedAt lockTimeoutSecs

/-- `fails` is the store's error, if the write fails. -/
def tryAcquireLock (s : LockStore) (myNodeId : Nat) (fails : Option String) (key : String)
    (lockTimeoutSecs now : Nat) : Option CertRenewLock × LockStore :=
  if s.held key lockTimeoutSecs now then (none, s)
  else match fails with
    | some _ => (none, s)
    | none =>
      let lock := ⟨now, myNodeId⟩
      (some lock, s.insert key (.ok lock))

def releaseLock (s : LockStore) (fails : Option String) (key : String)
    (acquired : CertRenewLock) : Result Unit × LockStore :=
  if (s.decode key).any (· ≠ acquired) then (.ok (), s)
  else match fails with
    | some e => (.error e, s)
    | none => (.ok (), s.erase key)

def forceReleaseLock (s : LockStore) (fails : Option String) (key : String) :
    Result Unit × LockStore :=
  match fails with
  | some e => (.error e, s)
  | none => (.ok (), s.erase key)

end LockStore

def certLock (domain : String) : String := "cert/" ++ domain ++ "/lock"

def tryAcquireCertLock (s : LockStore) (myNodeId : Nat) (fails : Option String)
    (domain : String) (lockTimeoutSecs now : Nat) : Option CertRenewLock × LockStore :=
  s.tryAcquireLock myNodeId fails (certLock domain) lockTimeoutSecs now

def releaseCertLock (s : LockStore) (fails : Option String) (domain : String)
    (acquired : CertRenewLock) : Result Unit × LockStore :=
  s.releaseLock fails (certLock domain) acquired

def forceReleaseCertLock (s : LockStore) (fails : Option String) (domain : String) :
    Result Unit × LockStore :=
  s.forceReleaseLock fails (certLock domain)

-- == runs

/-- What became of a lease. -/
inductive LeaseFate where
  | held
  | released
  | forced
  deriving DecidableEq

/-- One successful call of `tryAcquireCertLock`. -/
structure Acquisition where
  domain : String
  lock : CertRenewLock
  lockTimeoutSecs : Nat
  fate : LeaseFate
  deriving DecidableEq

/-- The lease's time is over. -/
def Acquisition.Expired (a : Acquisition) (clock : Nat) : Prop :=
  saturatingAdd a.lock.startedAt a.lockTimeoutSecs ≤ clock

instance (a : Acquisition) (clock : Nat) : Decidable (a.Expired clock) :=
  inferInstanceAs (Decidable (_ ≤ _))

/-- A node at work on its locks. Acquisitions are numbered by their place
in the list, which is the order they were made in. -/
structure LockRun where
  myNodeId : Nat
  store : LockStore
  clock : Nat
  acquisitions : List Acquisition

inductive LockEvent where
  | tick (seconds : Nat)
  /-- A call that read the clock when it showed `now`. -/
  | acquire (domain : String) (lockTimeoutSecs now : Nat) (fails : Option String)
  | release (number : Nat) (fails : Option String)
  | forceRelease (domain : String) (fails : Option String)
  deriving DecidableEq

namespace LockRun

def settle (r : LockRun) (number : Nat) (a : Acquisition) (answer : Result Unit × LockStore) :
    LockRun :=
  match answer.1 with
  | .ok () =>
    { r with store := answer.2
             acquisitions := r.acquisitions.set number { a with fate := .released } }
  | .error _ => { r with store := answer.2 }

def markForced (domain : String) (a : Acquisition) : Acquisition :=
  if a.domain = domain ∧ a.fate = .held then { a with fate := .forced } else a

/-- One step. The clock never goes back, and nobody reads a time it has
not shown yet; only what was acquired can be released. -/
def step (r : LockRun) : LockEvent → LockRun
  | .tick seconds => { r with clock := r.clock + seconds }
  | .acquire domain lockTimeoutSecs now fails =>
    if r.clock < now then r
    else match tryAcquireCertLock r.store r.myNodeId fails domain lockTimeoutSecs now with
      | (none, store) => { r with store }
      | (some lock, store) =>
        { r with store
                 acquisitions := r.acquisitions ++ [⟨domain, lock, lockTimeoutSecs, .held⟩] }
  | .release number fails =>
    match r.acquisitions[number]? with
    | none => r
    | some a => r.settle number a (releaseCertLock r.store fails a.domain a.lock)
  | .forceRelease domain fails =>
    match forceReleaseCertLock r.store fails domain with
    | (.ok (), store) =>
      { r with store, acquisitions := r.acquisitions.map (markForced domain) }
    | (.error _, store) => { r with store }

end LockRun

end Dstack.Gateway
