/-
The contract of a key management service: which applications, images and
devices it serves (`DstackKms.sol`).
-/
import Dstack.Contracts.DstackApp

namespace Dstack.Contracts

open Lib

structure KmsInfo where
  k256Pubkey : Bytes := []
  caPubkey : Bytes := []
  quote : Bytes := []
  eventlog : Bytes := []
  deriving DecidableEq

structure DstackKms where
  ownable : Ownable := {}
  initialized : Bool := false
  implementation : Address
  kmsInfo : KmsInfo := {}
  gatewayAppId : String := ""
  registeredApps : Address → Bool := fun _ => false
  kmsAllowedAggregatedMrs : Bytes32 → Bool := fun _ => false
  kmsAllowedDeviceIds : Bytes32 → Bool := fun _ => false
  allowedOsImages : Bytes32 → Bool := fun _ => false
  appImplementation : Address := 0

namespace DstackKms

inductive Policy where
  | kmsInfo
  | gatewayAppId
  | registeredApp
  | appImplementation
  | kmsAggregatedMr
  | kmsDevice
  | osImage
  | implementationUpgrade
  deriving DecidableEq

def Policy.name : Policy → String
  | .kmsInfo => "kms-info"
  | .gatewayAppId => "gateway-app-id"
  | .registeredApp => "registered-app"
  | .appImplementation => "app-implementation"
  | .kmsAggregatedMr => "kms-aggregated-mr"
  | .kmsDevice => "kms-device"
  | .osImage => "os-image"
  | .implementationUpgrade => "implementation-upgrade"

def Policy.topic (p : Policy) : Bytes32 := keccak256 (utf8 p.name)

inductive Event where
  | base (e : BaseEvent)
  | appRegistered (appId : Address)
  | kmsInfoSet (k256Pubkey : Bytes)
  | kmsAggregatedMrAdded (mrAggregated : Bytes32)
  | kmsAggregatedMrRemoved (mrAggregated : Bytes32)
  | kmsDeviceAdded (deviceId : Bytes32)
  | kmsDeviceRemoved (deviceId : Bytes32)
  | osImageHashAdded (osImageHash : Bytes32)
  | osImageHashRemoved (osImageHash : Bytes32)
  | gatewayAppIdSet (gatewayAppId : String)
  | appImplementationSet (implementation : Address)
  | appDeployedViaFactory (appId deployer : Address)
  | policyChanged (actor : Address) (policy value : Bytes32) (enabled : Bool)
  deriving DecidableEq

def emitPolicy (sender : Address) (policy : Policy) (value : Bytes32) (enabled : Bool) :
    Event :=
  .policyChanged sender policy.topic value enabled

abbrev Outcome := Result (DstackKms × List Event)

/-- `initialize`, under the `initializer` modifier. -/
def initializeContract (sender initialOwner appImplementation : Address)
    (s : DstackKms) : Outcome := do
  Result.ensure (s.initialized = false) "InvalidInitialization()"
  let (ownable, ownerEvents) ← s.ownable.initOwner initialOwner
  let s := { s with initialized := true, ownable }
  if appImplementation ≠ 0 then
    pure ({ s with appImplementation },
      ownerEvents.map .base
        ++ [.appImplementationSet appImplementation,
          emitPolicy sender .appImplementation (addressWord appImplementation) true]
        ++ [.base (.initialized 1)])
  else pure (s, ownerEvents.map .base ++ [.base (.initialized 1)])

/-- The upgrade; `proxiable` is whether the new implementation says that
it can be upgraded to. -/
def upgradeTo (sender newImplementation : Address) (proxiable : Bool) (s : DstackKms) :
    Outcome := do
  s.ownable.onlyOwner sender
  Result.ensure (proxiable = true)
    ("ERC1967InvalidImplementation(" ++ toString newImplementation ++ ")")
  pure ({ s with implementation := newImplementation },
    [emitPolicy sender .implementationUpgrade (addressWord newImplementation) true,
      .base (.upgraded newImplementation)])

def byOwner (sender : Address) (s : DstackKms) (change : DstackKms × List Event) :
    Outcome := do
  s.ownable.onlyOwner sender
  pure change

def setKmsInfo (sender : Address) (info : KmsInfo) (s : DstackKms) : Outcome :=
  byOwner sender s
    ({ s with kmsInfo := info },
      [.kmsInfoSet info.k256Pubkey,
        emitPolicy sender .kmsInfo (keccak256 info.k256Pubkey) true])

def setKmsQuote (sender : Address) (quote : Bytes) (s : DstackKms) : Outcome :=
  byOwner sender s ({ s with kmsInfo := { s.kmsInfo with quote } }, [])

def setKmsEventlog (sender : Address) (eventlog : Bytes) (s : DstackKms) : Outcome :=
  byOwner sender s ({ s with kmsInfo := { s.kmsInfo with eventlog } }, [])

def setGatewayAppId (sender : Address) (appId : String) (s : DstackKms) : Outcome :=
  byOwner sender s
    ({ s with gatewayAppId := appId },
      [.gatewayAppIdSet appId,
        emitPolicy sender .gatewayAppId (keccak256 (utf8 appId)) true])

def registerApp (sender appId : Address) (s : DstackKms) : Outcome := do
  Result.ensure (appId ≠ 0) "Invalid app ID"
  pure ({ s with registeredApps := setAt s.registeredApps appId true },
    [.appRegistered appId, emitPolicy sender .registeredApp (addressWord appId) true])

def setAppImplementation (sender implementation : Address) (s : DstackKms) :
    Outcome := do
  s.ownable.onlyOwner sender
  Result.ensure (implementation ≠ 0) "Invalid implementation address"
  pure ({ s with appImplementation := implementation },
    [.appImplementationSet implementation,
      emitPolicy sender .appImplementation (addressWord implementation) true])

def addKmsAggregatedMr (sender : Address) (mrAggregated : Bytes32) (s : DstackKms) :
    Outcome :=
  byOwner sender s
    ({ s with kmsAllowedAggregatedMrs := setAt s.kmsAllowedAggregatedMrs mrAggregated true },
      [.kmsAggregatedMrAdded mrAggregated,
        emitPolicy sender .kmsAggregatedMr mrAggregated true])

def removeKmsAggregatedMr (sender : Address) (mrAggregated : Bytes32) (s : DstackKms) :
    Outcome :=
  byOwner sender s
    ({ s with kmsAllowedAggregatedMrs := setAt s.kmsAllowedAggregatedMrs mrAggregated false },
      [.kmsAggregatedMrRemoved mrAggregated,
        emitPolicy sender .kmsAggregatedMr mrAggregated false])

def addKmsDevice (sender : Address) (deviceId : Bytes32) (s : DstackKms) : Outcome :=
  byOwner sender s
    ({ s with kmsAllowedDeviceIds := setAt s.kmsAllowedDeviceIds deviceId true },
      [.kmsDeviceAdded deviceId, emitPolicy sender .kmsDevice deviceId true])

def removeKmsDevice (sender : Address) (deviceId : Bytes32) (s : DstackKms) : Outcome :=
  byOwner sender s
    ({ s with kmsAllowedDeviceIds := setAt s.kmsAllowedDeviceIds deviceId false },
      [.kmsDeviceRemoved deviceId, emitPolicy sender .kmsDevice deviceId false])

def addOsImageHash (sender : Address) (osImageHash : Bytes32) (s : DstackKms) : Outcome :=
  byOwner sender s
    ({ s with allowedOsImages := setAt s.allowedOsImages osImageHash true },
      [.osImageHashAdded osImageHash, emitPolicy sender .osImage osImageHash true])

def removeOsImageHash (sender : Address) (osImageHash : Bytes32) (s : DstackKms) :
    Outcome :=
  byOwner sender s
    ({ s with allowedOsImages := setAt s.allowedOsImages osImageHash false },
      [.osImageHashRemoved osImageHash, emitPolicy sender .osImage osImageHash false])

mutual

/-- The calls of the contract. Deploying an application runs the code of
its implementation on `a`, which may call back before the application is
registered: `during` are those calls, and `appId` is the new address, if
the deployment succeeds. An upgrade may go on with a call of its own, for
the same sender; `query` is any call that reads. -/
inductive Call where
  | initializeContract (initialOwner appImplementation : Address)
  | upgradeTo (newImplementation : Address) (proxiable : Bool)
  | upgradeToAndCall (newImplementation : Address) (proxiable : Bool) (next : Call)
  | setKmsInfo (info : KmsInfo)
  | setKmsQuote (quote : Bytes)
  | setKmsEventlog (eventlog : Bytes)
  | setGatewayAppId (appId : String)
  | registerApp (appId : Address)
  | setAppImplementation (implementation : Address)
  | deployAndRegisterApp (a : DstackApp.Init) (during : Calls) (appId : Option Address)
  | addKmsAggregatedMr (mrAggregated : Bytes32)
  | removeKmsAggregatedMr (mrAggregated : Bytes32)
  | addKmsDevice (deviceId : Bytes32)
  | removeKmsDevice (deviceId : Bytes32)
  | addOsImageHash (osImageHash : Bytes32)
  | removeOsImageHash (osImageHash : Bytes32)
  | ownership (c : Ownable.Call)
  | query

/-- Calls made one after the other, each by its sender. -/
inductive Calls where
  | nil
  | cons (sender : Address) (c : Call) (rest : Calls)

end

mutual

def call (sender : Address) : Call → DstackKms → Outcome
  | .initializeContract initialOwner appImplementation, s =>
    initializeContract sender initialOwner appImplementation s
  | .upgradeTo newImplementation proxiable, s =>
    upgradeTo sender newImplementation proxiable s
  | .upgradeToAndCall newImplementation proxiable next, s => do
      let (s, events) ← upgradeTo sender newImplementation proxiable s
      let (s, more) ← call sender next s
      pure (s, events ++ more)
  | .setKmsInfo info, s => setKmsInfo sender info s
  | .setKmsQuote quote, s => setKmsQuote sender quote s
  | .setKmsEventlog eventlog, s => setKmsEventlog sender eventlog s
  | .setGatewayAppId appId, s => setGatewayAppId sender appId s
  | .registerApp appId, s => registerApp sender appId s
  | .setAppImplementation implementation, s =>
    setAppImplementation sender implementation s
  | .deployAndRegisterApp a during appId, s => do
      Result.ensure (s.appImplementation ≠ 0) "DstackApp implementation not set"
      Result.ensure (a.initialOwner ≠ 0) "Invalid owner address"
      let (s, events) := callAll during s
      let appId ← Result.ofOption appId "deployment failed"
      let (s, more) ← registerApp sender appId s
      pure (s, events ++ more ++ [.appDeployedViaFactory appId sender])
  | .addKmsAggregatedMr mrAggregated, s => addKmsAggregatedMr sender mrAggregated s
  | .removeKmsAggregatedMr mrAggregated, s => removeKmsAggregatedMr sender mrAggregated s
  | .addKmsDevice deviceId, s => addKmsDevice sender deviceId s
  | .removeKmsDevice deviceId, s => removeKmsDevice sender deviceId s
  | .addOsImageHash osImageHash, s => addOsImageHash sender osImageHash s
  | .removeOsImageHash osImageHash, s => removeOsImageHash sender osImageHash s
  | .ownership c, s => do
      let (ownable, events) ← s.ownable.call sender c
      pure ({ s with ownable }, events.map .base)
  | .query, s => pure (s, [])

def callAll : Calls → DstackKms → DstackKms × List Event
  | .nil, s => (s, [])
  | .cons sender c rest, s =>
    match call sender c s with
    | .ok (s, events) =>
      let (s, more) := callAll rest s
      (s, events ++ more)
    | .error _ => callAll rest s

end

abbrev Tx := Address × Call

def run (c : Chain DstackKms Event) (txs : List Tx) : Chain DstackKms Event :=
  c.run (fun tx => call tx.1 tx.2) txs

end DstackKms

end Dstack.Contracts
