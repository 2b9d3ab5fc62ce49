/-
What a gateway knows about an instance (`gateway/src/models.rs`,
`gateway/src/kv/mod.rs`, `gateway/src/time.rs`).
-/
import Dstack.Gateway.Config
import Dstack.Lib.BTreeMap

namespace Dstack.Gateway

open Lib

-- == time

/-- A point in time, in nanoseconds since the epoch. -/
abbrev SystemTime := Nat

def nanosPerSec : Nat := 1000000000

def encodeTs (t : SystemTime) : Nat := t / nanosPerSec

def decodeTs (secs : Nat) : SystemTime :=
  if secs < 2 ^ 63 then secs * nanosPerSec else 0

-- == policy

structure PortFlags where
  pp : Bool
  deriving DecidableEq

structure PortPolicy where
  ports : BTreeMap Nat PortFlags
  restrictMode : Bool
  deriving DecidableEq

-- == health

inductive HealthState where
  | unknown
  | healthy
  | unhealthy
  | ungated
  deriving DecidableEq

def HealthState.initial (healthCheck : Bool) : HealthState :=
  if healthCheck then .unknown else .ungated

def HealthState.isHealthy : HealthState → Bool
  | .healthy | .ungated => true
  | _ => false

structure Health where
  gated : Bool
  state : HealthState
  deriving DecidableEq

namespace Health

/-- `From<bool>`. -/
def ofBool (gated : Bool) : Health := ⟨gated, .initial gated⟩

def observe (h : Health) (state : HealthState) : Health := { h with state }

def forget (h : Health) : Health := { h with state := .initial h.gated }

def declare (h : Health) (gated : Bool) : Health :=
  if h.gated ≠ gated then forget { h with gated } else h

end Health

-- == instances

abbrev Counter := Nat

structure InstanceInfo where
  id : String
  appId : String
  ip : Ipv4Addr
  publicKey : String
  regTime : SystemTime
  portPolicy : Option PortPolicy
  portPolicyHash : String
  adminPortPolicy : Option PortPolicy
  ready : Option Bool
  health : Health
  connections : Counter
  deriving DecidableEq

structure ReportedCapabilities where
  portPolicy : Option PortPolicy
  healthCheck : Option Bool
  deriving DecidableEq

structure RoutingInputs where
  ip : Ipv4Addr
  appId : String
  publicKey : String
  ready : Option Bool
  health : Health
  deriving DecidableEq

namespace InstanceInfo

def isReady (i : InstanceInfo) : Bool := i.ready.getD true

def isHealthy (i : InstanceInfo) : Bool := i.health.state.isHealthy

def healthCheck (i : InstanceInfo) : Bool := i.health.gated

def inheritHealthFrom (i previous : InstanceInfo) : InstanceInfo :=
  if i.healthCheck = previous.healthCheck ∧ i.publicKey = previous.publicKey then
    { i with health := i.health.observe previous.health.state }
  else i

def routingInputs (i : InstanceInfo) : RoutingInputs where
  ip := i.ip
  appId := i.appId
  publicKey := i.publicKey
  ready := i.ready
  health := i.health

end InstanceInfo

structure AddressInfo where
  ip : Ipv4Addr
  counter : Counter
  instanceId : String
  deriving DecidableEq

abbrev AddressGroup := List AddressInfo

def InstanceInfo.addressInfo (i : InstanceInfo) : AddressInfo where
  ip := i.ip
  counter := i.connections
  instanceId := i.id

-- == records

structure InstanceRecord where
  appId : String
  ip : Ipv4Addr
  publicKey : String
  regTime : Nat
  portPolicy : Option PortPolicy
  portPolicyHash : String
  healthCheck : Option Bool
  deriving DecidableEq

/-- `From<&InstanceInfo>`. -/
def InstanceRecord.ofInfo (i : InstanceInfo) : InstanceRecord where
  appId := i.appId
  ip := i.ip
  publicKey := i.publicKey
  regTime := encodeTs i.regTime
  portPolicy := i.portPolicy
  portPolicyHash := i.portPolicyHash
  healthCheck := some i.healthCheck

structure LegacyOverrides where
  adminPortPolicy : Option PortPolicy
  ready : Option Bool
  deriving DecidableEq

def LegacyOverrides.isEmpty (l : LegacyOverrides) : Bool :=
  l.adminPortPolicy.isNone && l.ready.isNone

end Dstack.Gateway
