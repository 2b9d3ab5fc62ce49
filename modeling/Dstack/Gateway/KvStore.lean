/-
The replicated store as one node sees it (`gateway/src/kv/mod.rs`) and
what of it is let into the routing table (`gateway/src/kv/import.rs`).

Peers write to the store too, so nothing is known of its contents.
-/
import Dstack.Gateway.Models
import Dstack.Lib.Text

namespace Dstack.Gateway

open Lib

-- == store

/-- What is stored of an instance, each under a key of its own. -/
inductive InstanceKey where
  | inst
  | gate
  | portPolicyOverride
  deriving DecidableEq

def InstanceKey.name : InstanceKey → String
  | .inst => "instance"
  | .gate => "traffic gate"
  | .portPolicyOverride => "port-policy override"

abbrev Faults := InstanceKey → String → Option String

/-- What is stored at the key of an instance: the record, if it decodes,
and the overrides an older build may have left in it. A rewrite keeps
these if the value is one map with strings for keys. -/
structure InstEntry where
  record : Result InstanceRecord
  legacy : Option LegacyOverrides
  mergeable : Bool

@[ext]
structure KvStore where
  inst : BTreeMap String InstEntry := .empty
  gate : BTreeMap String (Result Bool) := .empty
  portPolicy : BTreeMap String (Result (Option PortPolicy)) := .empty

namespace KvStore

/-- Write an instance record, keeping the fields of the stored one that
it does not have where that can be done. -/
def syncInstance (fails : Faults) (kv : KvStore) (instanceId : String)
    (data : InstanceRecord) : Result Unit × KvStore :=
  match fails .inst instanceId with
  | some e => (.error e, kv)
  | none =>
    let legacy := (kv.inst.get? instanceId).bind fun e => if e.mergeable then e.legacy else none
    (.ok (), { kv with inst := kv.inst.insert instanceId ⟨.ok data, legacy, true⟩ })

def setInstanceGate (fails : Faults) (kv : KvStore) (instanceId : String) (ready : Bool) :
    Result Unit × KvStore :=
  match fails .gate instanceId with
  | some e => (.error ("failed to write the " ++ InstanceKey.gate.name ++ " record: " ++ e), kv)
  | none => (.ok (), { kv with gate := kv.gate.insert instanceId (.ok ready) })

def setInstancePortPolicyOverride (fails : Faults) (kv : KvStore) (instanceId : String)
    (policy : Option PortPolicy) : Result Unit × KvStore :=
  match fails .portPolicyOverride instanceId with
  | some e =>
    (.error ("failed to write the " ++ InstanceKey.portPolicyOverride.name ++ " record: " ++ e),
      kv)
  | none => (.ok (), { kv with portPolicy := kv.portPolicy.insert instanceId (.ok policy) })

def syncDeleteInstance (fails : Faults) (kv : KvStore) (instanceId : String) :
    Result Bool × KvStore :=
  let existed := kv.inst.contains instanceId
  let deleted := (fails .inst instanceId).isNone
  let kv := if deleted then { kv with inst := kv.inst.erase instanceId } else kv
  let kv := if (fails .gate instanceId).isNone then
    { kv with gate := kv.gate.erase instanceId } else kv
  let kv := if (fails .portPolicyOverride instanceId).isNone then
    { kv with portPolicy := kv.portPolicy.erase instanceId } else kv
  match fails .inst instanceId with
  | some e =>
    (.error ("failed to delete the " ++ InstanceKey.inst.name ++ " record: " ++ e), kv)
  | none => (.ok existed, kv)

def instanceGate (kv : KvStore) (instanceId : String) : Result (Option Bool) :=
  match kv.gate.get? instanceId with
  | none => .ok none
  | some r => some <$> r

def instancePortPolicyOverride (kv : KvStore) (instanceId : String) :
    Result (Option (Option PortPolicy)) :=
  match kv.portPolicy.get? instanceId with
  | none => .ok none
  | some r => some <$> r

def legacyInstanceOverrides (kv : KvStore) : List (String × LegacyOverrides) :=
  kv.inst.entries.filterMap fun (id, e) =>
    match e.legacy with
    | some legacy => if legacy.isEmpty then none else some (id, legacy)
    | none => none

def isAbsent {α : Type} (r : Result (Option α)) : Bool :=
  match r with
  | .ok none => true
  | _ => false

def migrateLegacy (fails : Faults) (kv : KvStore) (id : String) (legacy : LegacyOverrides) :
    KvStore :=
  let kv := match legacy.ready with
    | some ready =>
      if isAbsent (kv.instanceGate id) then (kv.setInstanceGate fails id ready).2 else kv
    | none => kv
  if legacy.adminPortPolicy.isSome && isAbsent (kv.instancePortPolicyOverride id) then
    (kv.setInstancePortPolicyOverride fails id legacy.adminPortPolicy).2
  else kv

def migrateLegacyInstanceOverrides (fails : Faults) (kv : KvStore) : KvStore :=
  kv.legacyInstanceOverrides.foldl (fun kv e => kv.migrateLegacy fails e.1 e.2) kv

def readOverrides (kv : KvStore) (id : String) :
    Result (Option PortPolicy × Option Bool) := do
  let legacy := kv.legacyInstanceOverrides.lookup id
  let ready ← match ← kv.instanceGate id with
    | some ready => pure (some ready)
    | none => pure (legacy.bind (·.ready))
  let portPolicy ← match ← kv.instancePortPolicyOverride id with
    | some policy => pure policy
    | none => pure (legacy.bind (·.adminPortPolicy))
  pure (portPolicy, ready)

end KvStore

structure LoadedInstances where
  decoded : List (String × InstanceRecord)
  undecodable : List (String × String)

def KvStore.loadAllInstances (kv : KvStore) : LoadedInstances where
  decoded := kv.inst.entries.filterMap fun (id, e) =>
    match e.record with
    | .ok data => some (id, data)
    | .error _ => none
  undecodable := kv.inst.entries.filterMap fun (id, e) =>
    match e.record with
    | .ok _ => none
    | .error reason => some (id, reason)

-- == import

def maxClockDriftSecs : Nat := 300

def isControl (c : Char) : Bool := c.toNat < 32 || (127 ≤ c.toNat && c.toNat < 160)

/-- The configuration of a node, and its decoder of base64. -/
structure Setup where
  config : Config
  base64Decode : String → Result Bytes

def validateWgPublicKey (G : Setup) (publicKey : String) : Result Unit := do
  Result.ensure (publicKey ≠ "") "public key is empty"
  Result.ensure (publicKey.toList.any (fun c => isWhitespace c || isControl c) = false)
    "public key contains whitespace or control characters"
  Result.ensure ((utf8 publicKey).length = 44)
    ("public key is " ++ toString (utf8 publicKey).length ++ " characters, expected 44")
  let decoded ← (G.base64Decode publicKey).mapError
    fun err => "public key is not valid base64: " ++ err
  Result.ensure (decoded.length = 32)
    ("public key decodes to " ++ toString decoded.length ++ " bytes, expected 32")

def validateId (field value : String) : Result Unit := do
  Result.ensure (value ≠ "") (field ++ " is empty")
  Result.ensure ((utf8 value).length ≤ 128)
    (field ++ " is " ++ toString (utf8 value).length ++ " bytes, limit is 128")
  Result.ensure (value.toList.any (fun c => isWhitespace c || isControl c) = false)
    (field ++ " contains whitespace or control characters")

def ipText (ip : Ipv4Addr) : String :=
  toString (ip / 2 ^ 24) ++ "." ++ toString (ip / 2 ^ 16 % 256) ++ "."
    ++ toString (ip / 2 ^ 8 % 256) ++ "." ++ toString (ip % 256)

/-- The checks of one record; `now` is in seconds. -/
def validateInstance (G : Setup) (now : Nat) (instanceId : String)
    (data : InstanceRecord) : Result Unit := do
  validateId "instance_id" instanceId
  validateId "app_id" data.appId
  validateWgPublicKey G data.publicKey
  Result.ensure (data.publicKey ≠ G.config.wg.publicKey) "public key belongs to this gateway"
  Result.ensure (G.config.wg.isRoutableClientIp data.ip = true)
    ("ip " ++ ipText data.ip ++ " is outside the WireGuard network")
  Result.ensure (data.regTime ≤ now + maxClockDriftSecs)
    ("reg_time " ++ toString data.regTime ++ " is more than 300s ahead of local time ("
      ++ toString now ++ ")")

inductive Rejection where
  | unusable
  | lostConflict
  deriving DecidableEq

structure RejectedInstance where
  instanceId : String
  reason : String
  rejection : Rejection
  deriving DecidableEq

structure AcceptedInstances where
  instances : BTreeMap String InstanceRecord := .empty
  rejected : List RejectedInstance := []
  claimedIps : BTreeMap Ipv4Addr String := .empty
  claimedKeys : BTreeSet String := .empty

def AcceptedInstances.unreadable (a : AcceptedInstances) : List String :=
  (a.rejected.filter (·.rejection = .unusable)).map (·.instanceId)

def AcceptedInstances.check (G : Setup) (now : Nat) (a : AcceptedInstances)
    (instanceId : String) (data : InstanceRecord) : Except (Rejection × String) Unit := do
  (validateInstance G now instanceId data).mapError fun reason => (.unusable, reason)
  Result.rejectSome (a.claimedIps.get? data.ip) fun owner =>
    (.lostConflict, "ip " ++ ipText data.ip ++ " is already assigned to instance " ++ owner)
  Result.ensure (¬a.claimedKeys.mem data.publicKey)
    (.lostConflict, "public key is already registered to another instance")

def AcceptedInstances.consider (G : Setup) (now : Nat) (a : AcceptedInstances)
    (e : String × InstanceRecord) : AcceptedInstances :=
  let (instanceId, data) := e
  match a.check G now instanceId data with
  | .error (rejection, reason) =>
    { a with rejected := a.rejected ++ [{ instanceId, reason, rejection }] }
  | .ok () =>
    { a with
      claimedIps := a.claimedIps.insert data.ip instanceId
      claimedKeys := BTreeSet.add a.claimedKeys data.publicKey
      instances := a.instances.insert instanceId data }

def registeredBefore (l r : String × InstanceRecord) : Prop :=
  l.2.regTime < r.2.regTime ∨ l.2.regTime = r.2.regTime ∧ l.1 ≤ r.1

instance : DecidableRel registeredBefore := fun _ _ =>
  inferInstanceAs (Decidable (_ ∨ _ ∧ _))

def acceptInstancesAt (G : Setup) (loaded : LoadedInstances) (now : Nat) :
    AcceptedInstances :=
  let ordered := loaded.decoded.insertionSort registeredBefore
  let rejected := loaded.undecodable.map fun (instanceId, reason) =>
    { instanceId, reason, rejection := .unusable }
  ordered.foldl (·.consider G now ·) { rejected }

def acceptInstances (G : Setup) (loaded : LoadedInstances) (now : SystemTime) :
    AcceptedInstances :=
  acceptInstancesAt G loaded (encodeTs now)

end Dstack.Gateway
