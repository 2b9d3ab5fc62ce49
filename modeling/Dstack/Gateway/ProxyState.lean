/-
The routing table of a gateway and everything that writes to it
(`gateway/src/main_service.rs`).

Four maps have to agree: the instances, the ids by application, the
addresses in use and the cached selections. Every operation keeps its
part of them by hand.
-/
import Dstack.Gateway.KvStore

namespace Dstack.Gateway

open Lib

abbrev Handshakes := BTreeMap String (Nat × Nat)

/-- The routing table with its indexes, and the store. -/
structure ProxyState where
  apps : BTreeMap String (BTreeSet String) := .empty
  instances : BTreeMap String InstanceInfo := .empty
  allocatedAddresses : BTreeSet Ipv4Addr := .empty
  topN : BTreeMap String (AddressGroup × Nat) := .empty
  allUnhealthyWarned : BTreeMap String Nat := .empty
  kv : KvStore := {}
  nextCounter : Counter := 0

namespace ProxyState

-- == parts

def validIp (G : Setup) (ip : Ipv4Addr) : Bool := G.config.wg.isValidClientIp ip

def allocIp (G : Setup) (s : ProxyState) : Option Ipv4Addr × ProxyState :=
  match G.config.wg.clientIpRange.hosts.find? fun ip =>
      validIp G ip && !decide (s.allocatedAddresses.mem ip) with
  | some ip => (some ip, { s with allocatedAddresses := BTreeSet.add s.allocatedAddresses ip })
  | none => (none, s)

def editInstance {T : Type} (id : String) (edit : InstanceInfo → T × InstanceInfo)
    (s : ProxyState) : Option T × ProxyState :=
  match s.instances.get? id with
  | none => (none, s)
  | some before =>
    let (out, info) := edit before
    let s := { s with instances := s.instances.insert id info }
    if before.routingInputs = info.routingInputs then (some out, s)
    else
      let s := { s with topN := s.topN.erase info.appId }
      if before.appId ≠ info.appId then
        (some out, { s with topN := s.topN.erase before.appId })
      else (some out, s)

/-- The set of ids of an application (`entry(..).or_default()`). -/
def appInstances (s : ProxyState) (appId : String) : BTreeSet String :=
  (s.apps.get? appId).getD .empty

def joinApp (appId id : String) (s : ProxyState) : ProxyState :=
  { s with apps := s.apps.insert appId (BTreeSet.add (s.appInstances appId) id) }

def addInstance (fails : Faults) (info : InstanceInfo) (s : ProxyState) : ProxyState :=
  let s := { s with topN := s.topN.erase info.appId }
  let s := { s with kv := (s.kv.syncInstance fails info.id (.ofInfo info)).2 }
  let s := s.joinApp info.appId info.id
  { s with instances := s.instances.insert info.id info }

def forgetInstance (id : String) (s : ProxyState) : Option InstanceInfo × ProxyState :=
  match s.instances.get? id with
  | none => (none, s)
  | some info =>
    let s := { s with
      instances := s.instances.erase id
      allocatedAddresses := s.allocatedAddresses.erase info.ip
      topN := s.topN.erase info.appId }
    match s.apps.get? info.appId with
    | none => (some info, s)
    | some ids =>
      if (ids.erase id).isEmpty then
        (some info, { s with
          apps := s.apps.erase info.appId
          allUnhealthyWarned := s.allUnhealthyWarned.erase info.appId })
      else (some info, { s with apps := s.apps.insert info.appId (ids.erase id) })

def removeInstance (fails : Faults) (id : String) (s : ProxyState) :
    Result Unit × ProxyState :=
  match s.forgetInstance id with
  | (none, s) => (.error "instance not found", s)
  | (some _, s) => (.ok (), { s with kv := (s.kv.syncDeleteInstance fails id).2 })

-- == registration

/-- The key of a registration: with a new one the instance is a new boot,
of which nothing was observed. -/
def renewKey (now : SystemTime) (publicKey : String) (reported : ReportedCapabilities)
    (existing : InstanceInfo) : InstanceInfo :=
  let pubkeyChanged := existing.publicKey ≠ publicKey
  let healthCheck := reported.healthCheck.getD existing.healthCheck
  let info := if pubkeyChanged then { existing with health := existing.health.forget }
    else existing
  let info := { info with health := info.health.declare healthCheck }
  if pubkeyChanged then { info with publicKey, regTime := now } else info

/-- The compose hash of a registration: a policy known under another one
is forgotten, and one that is reported taken. -/
def renewPolicy (composeHash : String) (reported : ReportedCapabilities)
    (info : InstanceInfo) : InstanceInfo :=
  let info := if info.portPolicyHash ≠ composeHash then
    { info with portPolicy := none, portPolicyHash := composeHash } else info
  if reported.portPolicy.isSome then { info with portPolicy := reported.portPolicy } else info

def registerEdit (now : SystemTime) (publicKey composeHash : String)
    (reported : ReportedCapabilities) (existing : InstanceInfo) : InstanceInfo :=
  renewPolicy composeHash reported (renewKey now publicKey reported existing)

/-- The record of an instance with a new address: what is known of it
otherwise, or a first record. -/
def hostInfo (now : SystemTime) (id appId publicKey composeHash : String)
    (reported : ReportedCapabilities) (ip : Ipv4Addr) (connections : Counter) :
    Option InstanceInfo → InstanceInfo
  | some existing =>
    { existing with
      ip, publicKey, connections
      regTime := now
      portPolicy := reported.portPolicy
      portPolicyHash := composeHash }
  | none =>
    { id, appId, ip, publicKey, connections
      regTime := now
      portPolicy := reported.portPolicy
      portPolicyHash := composeHash
      adminPortPolicy := none
      ready := none
      health := .ofBool (reported.healthCheck.getD false) }

def poolExhausted : String := "IP pool exhausted, no available addresses in client_ip_range"

def allocateClient (G : Setup) (now : SystemTime) (fails : Faults)
    (id appId publicKey composeHash : String) (reported : ReportedCapabilities)
    (previous : Option InstanceInfo) (s : ProxyState) : Result InstanceInfo × ProxyState :=
  match s.allocIp G with
  | (none, s) => (.error poolExhausted, s)
  | (some ip, s) =>
    let info := hostInfo now id appId publicKey composeHash reported ip s.nextCounter previous
    let s := { s with nextCounter := s.nextCounter + 1 }
    (.ok info, s.addInstance fails info)

def keyTaken (s : ProxyState) (id publicKey : String) : Bool :=
  s.instances.entries.any fun e => e.2.id ≠ id && e.2.publicKey = publicKey

def ownedElsewhere (s : ProxyState) (id appId : String) : Bool :=
  (s.instances.get? id).any fun existing => existing.appId ≠ appId

def newClientById (G : Setup) (now : SystemTime) (fails : Faults)
    (id appId publicKey composeHash : String) (reported : ReportedCapabilities)
    (s : ProxyState) : Result InstanceInfo × ProxyState :=
  if id = "" then (.error "instance_id is empty (no_instance_id is set?)", s)
  else if appId = "" then (.error "app_id is empty", s)
  else
    match (validateWgPublicKey G publicKey).context "invalid WireGuard public key" with
    | .error e => (.error e, s)
    | .ok () =>
      if s.keyTaken id publicKey then
        (.error "WireGuard public key is already registered to another instance", s)
      else if s.ownedElsewhere id appId then
        (.error "instance_id is already registered to a different app", s)
      else
        match s.editInstance id fun existing =>
            let info := registerEdit now publicKey composeHash reported existing
            (info, info) with
        | (some existing, s) =>
          if validIp G existing.ip then
            (.ok existing,
              { s with
                kv := (s.kv.syncInstance fails existing.id (.ofInfo existing)).2 })
          else
            allocateClient G now fails id appId publicKey composeHash reported
              (some existing)
              { s with allocatedAddresses := s.allocatedAddresses.erase existing.ip }
        | (none, s) =>
          allocateClient G now fails id appId publicKey composeHash reported none s

/-- A registration as it comes in; `down` is whether an operator took
this node out. -/
def doRegisterCvm (G : Setup) (now : SystemTime) (fails : Faults) (down : Bool)
    (appId instanceId clientPublicKey composeHash : String)
    (reported : ReportedCapabilities) (s : ProxyState) : Result InstanceInfo × ProxyState :=
  if down then
    (.error "this gateway node is marked as down and cannot accept new registrations", s)
  else if appId = "" then (.error ("[" ++ instanceId ++ "] app id is empty"), s)
  else if instanceId = "" then (.error ("[" ++ instanceId ++ "] instance id is empty"), s)
  else
    match (validateWgPublicKey G clientPublicKey).context
        ("[" ++ instanceId ++ "] invalid client public key") with
    | .error e => (.error e, s)
    | .ok () =>
      let (client, s) :=
        s.newClientById G now fails instanceId appId clientPublicKey composeHash reported
      (client.context "failed to allocate IP address for client", s)

-- == the store

def instanceInfoFromRecord (overrides : Result (Option PortPolicy × Option Bool))
    (instanceId : String) (data : InstanceRecord) (knownGated : Bool)
    (connections : Counter) : InstanceInfo :=
  let (adminPortPolicy, ready) := match overrides with
    | .ok overrides => overrides
    | .error _ => (none, some false)
  { id := instanceId
    appId := data.appId
    ip := data.ip
    publicKey := data.publicKey
    regTime := decodeTs data.regTime
    portPolicy := data.portPolicy
    portPolicyHash := data.portPolicyHash
    adminPortPolicy, ready
    health := .ofBool (data.healthCheck.getD knownGated)
    connections }

def leaveApp (appId id : String) (s : ProxyState) : ProxyState :=
  match s.apps.get? appId with
  | none => s
  | some ids =>
    if (ids.erase id).isEmpty then
      { s with
        apps := s.apps.erase appId
        topN := s.topN.erase appId
        allUnhealthyWarned := s.allUnhealthyWarned.erase appId }
    else { s with apps := s.apps.insert appId (ids.erase id) }

def recordInfo (overrides : Result (Option PortPolicy × Option Bool)) (instanceId : String)
    (data : InstanceRecord) (s : ProxyState) : InstanceInfo :=
  let existing := s.instances.get? instanceId
  let info := instanceInfoFromRecord overrides instanceId data
    (existing.any (·.healthCheck)) s.nextCounter
  match existing with
  | some existing =>
    InstanceInfo.inheritHealthFrom { info with connections := existing.connections } existing
  | none => info

/-- What a known instance gives up for the record that replaces it: its
address and its application if they change, and the selections it is in
if the change is one they depend on. -/
def vacate (instanceId : String) (existing info : InstanceInfo) (s : ProxyState) :
    ProxyState :=
  let s := { s with
    allocatedAddresses := if existing.ip ≠ info.ip then
      s.allocatedAddresses.erase existing.ip else s.allocatedAddresses }
  let s := if existing.appId ≠ info.appId then s.leaveApp existing.appId instanceId else s
  { s with
    topN := if existing.routingInputs ≠ info.routingInputs then
      (s.topN.erase info.appId).erase existing.appId else s.topN }

def applyRecord (overrides : Result (Option PortPolicy × Option Bool)) (instanceId : String)
    (data : InstanceRecord) (s : ProxyState) : ProxyState :=
  let info := s.recordInfo overrides instanceId data
  let s := { s with nextCounter := s.nextCounter + 1 }
  let s := match s.instances.get? instanceId with
    | some existing => s.vacate instanceId existing info
    | none => { s with topN := s.topN.erase info.appId }
  let s := { s with allocatedAddresses := BTreeSet.add s.allocatedAddresses info.ip }
  let s := s.joinApp info.appId instanceId
  { s with instances := s.instances.insert instanceId info }

def localRegistrationGrace : Nat := 60 * nanosPerSec

/-- The instances a reload drops: no record let in, none that could not
be read, and not registered just now. -/
def dropped (now : SystemTime) (accepted : AcceptedInstances) (s : ProxyState) :
    List String :=
  (s.instances.entries.filter fun e =>
    !accepted.instances.contains e.1 && !accepted.unreadable.contains e.1
      && decide (localRegistrationGrace < now - e.2.regTime)).map Prod.fst

def reloadInstancesFromKvStore (G : Setup) (now : SystemTime) (fails : Faults)
    (s : ProxyState) : ProxyState :=
  let s := { s with kv := s.kv.migrateLegacyInstanceOverrides fails }
  let accepted := acceptInstances G s.kv.loadAllInstances now
  let overrides := s.kv.readOverrides
  let s := (s.dropped now accepted).foldl (fun s id => (s.forgetInstance id).2) s
  accepted.instances.entries.foldl (fun s e => s.applyRecord (overrides e.1) e.1 e.2) s

def fileRecord (overrides : Result (Option PortPolicy × Option Bool)) (instanceId : String)
    (data : InstanceRecord) (s : ProxyState) : ProxyState :=
  let info := instanceInfoFromRecord overrides instanceId data false s.nextCounter
  let s := { s with
    nextCounter := s.nextCounter + 1
    allocatedAddresses := BTreeSet.add s.allocatedAddresses data.ip }
  let s := s.joinApp data.appId instanceId
  { s with instances := s.instances.insert instanceId info }

def buildStateFromKvStore (G : Setup) (now : SystemTime) (kv : KvStore) : ProxyState :=
  let accepted := acceptInstances G kv.loadAllInstances now
  accepted.instances.entries.foldl (fun s e => s.fileRecord (kv.readOverrides e.1) e.1 e.2)
    { kv }

-- == other writes

def removeCvm (fails : Faults) (instanceId : String) (s : ProxyState) :
    Result (Bool × Bool) × ProxyState :=
  match s.kv.syncDeleteInstance fails instanceId with
  | (.error e, kv) =>
    (.error ("failed to delete CVM " ++ instanceId ++ " from WaveKV: " ++ e), { s with kv })
  | (.ok recordExisted, kv) =>
    let (info, s) := forgetInstance instanceId { s with kv }
    (.ok (recordExisted, info.isSome), s)

def recycle (fails : Faults) : List (String × SystemTime) → ProxyState →
    Result Unit × ProxyState
  | [], s => (.ok (), s)
  | (id, regTime) :: stale, s =>
    if (s.instances.get? id).any (·.regTime = regTime) then
      match s.removeInstance fails id with
      | (.ok (), s) => recycle fails stale s
      | (.error e, s) => (.error e, s)
    else recycle fails stale s

def persistInstanceGate (fails : Faults) (instanceId : String) (s : ProxyState) :
    Result Unit × ProxyState :=
  match (s.instances.get? instanceId).bind (·.ready) with
  | none => (.ok (), s)
  | some ready =>
    let (r, kv) := s.kv.setInstanceGate fails instanceId ready
    (r.context ("failed to sync the gate for instance " ++ instanceId ++ " to KvStore"),
      { s with kv })

def setReady (fails : Faults) (instanceId : String) (ready : Bool) (s : ProxyState) :
    Result Unit × ProxyState :=
  match s.editInstance instanceId fun info => (info.isReady, { info with ready := some ready })
    with
  | (none, s) => (.error ("instance " ++ instanceId ++ " not found"), s)
  | (some _, s) =>
    let (r, s) := s.persistInstanceGate fails instanceId
    (r.context ("instance " ++ instanceId ++ " is set to ready=" ++ toString ready
      ++ " in memory on this node only: the write to the store failed, so the setting"
      ++ " is not durable and has not been shared. Retry before relying on it"), s)

def recordInstanceHealth (id : String) (ip : Ipv4Addr) (publicKey : String)
    (state : HealthState) (s : ProxyState) : ProxyState :=
  (s.editInstance id fun info =>
    if info.publicKey ≠ publicKey ∨ info.ip ≠ ip then ((), info)
    else if info.health.state ≠ state then ((), { info with health := info.health.observe state })
    else ((), info)).2

def updateInstancePortPolicy (fails : Faults) (instanceId : String) (policy : PortPolicy)
    (s : ProxyState) : ProxyState :=
  match s.instances.get? instanceId with
  | none => s
  | some info =>
    let info := { info with portPolicy := some policy }
    { s with
      instances := s.instances.insert instanceId info
      kv := (s.kv.syncInstance fails instanceId (.ofInfo info)).2 }

def setAdminPortPolicy (fails : Faults) (instanceId : String) (policy : Option PortPolicy)
    (s : ProxyState) : Result Unit × ProxyState :=
  match s.instances.get? instanceId with
  | none => (.error ("instance " ++ instanceId ++ " not found"), s)
  | some info =>
    let kv := if policy.isSome ∨ info.adminPortPolicy.isSome then
      (s.kv.setInstancePortPolicyOverride fails instanceId policy).2 else s.kv
    (.ok (), { s with
      instances := s.instances.insert instanceId { info with adminPortPolicy := policy }
      kv })

-- == selection

def handshakeIsFresh (G : Setup) (info : InstanceInfo) (handshakes : Handshakes) : Bool :=
  (handshakes.get? info.publicKey).any fun h => h.2 < G.config.handshakeStale

def isEligible (G : Setup) (info : InstanceInfo) (handshakes : Handshakes) : Bool :=
  info.isReady && handshakeIsFresh G info handshakes

def allUnhealthyWarnInterval : Nat := 60 * nanosPerSec

def warnAllUnhealthy (now : Nat) (appId : String) (s : ProxyState) : ProxyState :=
  if (s.allUnhealthyWarned.get? appId).any fun at_ => now - at_ < allUnhealthyWarnInterval then s
  else { s with allUnhealthyWarned := s.allUnhealthyWarned.insert appId now }

def retainHealthy {T : Type} (now : Nat) (appId : String) (candidates : List T)
    (isHealthy : T → Bool) (s : ProxyState) : List T × ProxyState :=
  if candidates.any isHealthy then (candidates.filter isHealthy, s)
  else if candidates.isEmpty then (candidates, s)
  else (candidates, s.warnAllUnhealthy now appId)

structure Candidate where
  info : InstanceInfo
  handshakeAge : Nat
  healthy : Bool

def candidates (G : Setup) (handshakes : Handshakes) (ids : BTreeSet String)
    (s : ProxyState) : List Candidate :=
  ids.toList.filterMap fun id => do
    let info ← s.instances.get? id
    if isEligible G info handshakes then
      let (_, age) ← handshakes.get? info.publicKey
      some ⟨info, age, !G.config.healthCheckEnabled || info.isHealthy⟩
    else none

def randomSelectAHost (G : Setup) (now : Nat) (handshakes : Result Handshakes)
    (dice : Nat) (id : String) (s : ProxyState) : Option AddressGroup × ProxyState :=
  match s.instances.get? id with
  | some info => (some [info.addressInfo], s)
  | none =>
    match s.apps.get? id, handshakes with
    | some ids, .ok handshakes =>
      let (eligible, s) := s.retainHealthy now id (s.candidates G handshakes ids) (·.healthy)
      (eligible[dice % eligible.length]?.map fun c => [c.info.addressInfo], s)
    | _, _ => (none, s)

/-- The targets for an id; `again` is what a second look at the
handshakes gives, if the first failed. -/
def selectTopNHosts (G : Setup) (now : Nat) (handshakes again : Result Handshakes)
    (dice : Nat) (id : String) (s : ProxyState) : Result AddressGroup × ProxyState :=
  if G.config.insecureLocalhostBackend && id = "localhost" then
    (.ok [⟨127 * 2 ^ 24 + 1, s.nextCounter, "localhost"⟩],
      { s with nextCounter := s.nextCounter + 1 })
  else
    match s.instances.get? id with
    | some info => (.ok [info.addressInfo], s)
    | none =>
      match s.apps.get? id with
      | none => (.error "app not found", s)
      | some ids =>
        if G.config.connectTopN = 0 then
          let (group, s) := s.randomSelectAHost G now handshakes dice id
          (.ok (group.getD []), s)
        else
          match (s.topN.get? id).filter fun cached =>
              !cached.1.isEmpty && now - cached.2 < G.config.cacheTopN with
          | some (group, _) => (.ok group, s)
          | none =>
            match handshakes with
            | .error _ =>
              let (group, s) := s.randomSelectAHost G now again dice id
              (.ok (group.getD []), s)
            | .ok handshakes =>
              let (instances, s) :=
                s.retainHealthy now id (s.candidates G handshakes ids) (·.healthy)
              let instances :=
                (instances.insertionSort (·.handshakeAge ≤ ·.handshakeAge)).take
                  G.config.connectTopN
              let selected := instances.map (·.info.addressInfo)
              (.ok selected, { s with topN := s.topN.insert id (selected, now) })

end ProxyState

-- == runs

/-- A call that takes the lock. -/
inductive Op where
  | registerCvm (now : SystemTime) (fails : Faults) (down : Bool)
      (appId instanceId clientPublicKey composeHash : String)
      (reported : ReportedCapabilities)
  | newClient (now : SystemTime) (fails : Faults)
      (id appId publicKey composeHash : String) (reported : ReportedCapabilities)
  | reload (now : SystemTime) (fails : Faults)
  | merge (kv : KvStore)
  | removeCvm (fails : Faults) (instanceId : String)
  | recycle (fails : Faults) (stale : List (String × SystemTime))
  | setReady (fails : Faults) (instanceId : String) (ready : Bool)
  | recordHealth (id : String) (ip : Ipv4Addr) (publicKey : String) (state : HealthState)
  | updatePortPolicy (fails : Faults) (instanceId : String) (policy : PortPolicy)
  | setAdminPortPolicy (fails : Faults) (instanceId : String) (policy : Option PortPolicy)
  | select (now : Nat) (handshakes again : Result Handshakes) (dice : Nat) (id : String)

def step (G : Setup) (s : ProxyState) : Op → ProxyState
  | .registerCvm now fails down appId instanceId clientPublicKey composeHash reported =>
    (s.doRegisterCvm G now fails down appId instanceId clientPublicKey composeHash
      reported).2
  | .newClient now fails id appId publicKey composeHash reported =>
    (s.newClientById G now fails id appId publicKey composeHash reported).2
  | .reload now fails => s.reloadInstancesFromKvStore G now fails
  | .merge kv => { s with kv }
  | .removeCvm fails instanceId => (s.removeCvm fails instanceId).2
  | .recycle fails stale => (s.recycle fails stale).2
  | .setReady fails instanceId ready => (s.setReady fails instanceId ready).2
  | .recordHealth id ip publicKey state => s.recordInstanceHealth id ip publicKey state
  | .updatePortPolicy fails instanceId policy =>
    s.updateInstancePortPolicy fails instanceId policy
  | .setAdminPortPolicy fails instanceId policy =>
    (s.setAdminPortPolicy fails instanceId policy).2
  | .select now handshakes again dice id =>
    (s.selectTopNHosts G now handshakes again dice id).2

def run (G : Setup) (s : ProxyState) (ops : List Op) : ProxyState := ops.foldl (step G) s

end Dstack.Gateway
