/-
The authorization contract of one application (`DstackApp.sol`).
-/
import Dstack.Contracts.Base

namespace Dstack.Contracts

open Lib

structure DstackApp where
  ownable : Ownable := {}
  initialized : Bool := false
  implementation : Address
  allowedComposeHashes : Bytes32 → Bool := fun _ => false
  upgradesDisabled : Bool := false
  allowAnyDevice : Bool := false
  allowedDeviceIds : Bytes32 → Bool := fun _ => false
  requireTcbUpToDate : Bool := false

namespace DstackApp

inductive Policy where
  | composeHash
  | device
  | allowAnyDevice
  | requireTcbUpToDate
  | upgradesDisabled
  | implementationUpgrade
  deriving DecidableEq

def Policy.name : Policy → String
  | .composeHash => "compose-hash"
  | .device => "device"
  | .allowAnyDevice => "allow-any-device"
  | .requireTcbUpToDate => "require-tcb-up-to-date"
  | .upgradesDisabled => "upgrades-disabled"
  | .implementationUpgrade => "implementation-upgrade"

def Policy.topic (p : Policy) : Bytes32 := keccak256 (utf8 p.name)

inductive Event where
  | base (e : BaseEvent)
  | composeHashAdded (composeHash : Bytes32)
  | composeHashRemoved (composeHash : Bytes32)
  | deviceAdded (deviceId : Bytes32)
  | deviceRemoved (deviceId : Bytes32)
  | upgradesDisabled
  | allowAnyDeviceSet (allowAny : Bool)
  | requireTcbUpToDateSet (requireUpToDate : Bool)
  | policyChanged (actor : Address) (policy value : Bytes32) (enabled : Bool)
  deriving DecidableEq

def emitPolicy (sender : Address) (policy : Policy) (value : Bytes32) (enabled : Bool) :
    Event :=
  .policyChanged sender policy.topic value enabled

abbrev Outcome := Result (DstackApp × List Event)

/-- The arguments of the initializers; the older one has no say about
the TCB status. -/
structure Init where
  initialOwner : Address
  disableUpgrades : Bool
  requireTcbUpToDate : Option Bool
  allowAnyDevice : Bool
  initialDeviceId : Bytes32
  initialComposeHash : Bytes32
  deriving DecidableEq

def addInitialDevice (sender : Address) (initialDeviceId : Bytes32) (s : DstackApp) :
    DstackApp × List Event :=
  if initialDeviceId ≠ 0 then
    ({ s with allowedDeviceIds := setAt s.allowedDeviceIds initialDeviceId true },
      [.deviceAdded initialDeviceId, emitPolicy sender .device initialDeviceId true])
  else (s, [])

def addInitialComposeHash (sender : Address) (initialComposeHash : Bytes32)
    (s : DstackApp) : DstackApp × List Event :=
  if initialComposeHash ≠ 0 then
    ({ s with
        allowedComposeHashes := setAt s.allowedComposeHashes initialComposeHash true },
      [.composeHashAdded initialComposeHash,
        emitPolicy sender .composeHash initialComposeHash true])
  else (s, [])

def initializeCommon (sender : Address) (a : Init) (s : DstackApp) : Outcome := do
  Result.ensure (a.initialOwner ≠ 0) "invalid owner address"
  let s := { s with
    upgradesDisabled := a.disableUpgrades
    allowAnyDevice := a.allowAnyDevice }
  let (s, deviceEvents) := addInitialDevice sender a.initialDeviceId s
  let (s, composeEvents) := addInitialComposeHash sender a.initialComposeHash s
  let (ownable, ownerEvents) ← s.ownable.initOwner a.initialOwner
  pure ({ s with ownable }, deviceEvents ++ composeEvents ++ ownerEvents.map .base)

def initialTcb (requireTcbUpToDate : Option Bool) (s : DstackApp) : DstackApp :=
  match requireTcbUpToDate with
  | some requireTcbUpToDate => { s with requireTcbUpToDate }
  | none => s

/-- Both `initialize` overloads, under the `initializer` modifier. -/
def initializeContract (sender : Address) (a : Init) (s : DstackApp) : Outcome := do
  Result.ensure (s.initialized = false) "InvalidInitialization()"
  let s := initialTcb a.requireTcbUpToDate { s with initialized := true }
  let (s, events) ← initializeCommon sender a s
  pure (s, events ++ [.base (.initialized 1)])

def authorizeUpgrade (sender newImplementation : Address) (s : DstackApp) :
    Result (List Event) := do
  s.ownable.onlyOwner sender
  Result.ensure (s.upgradesDisabled = false) "Upgrades are permanently disabled"
  pure [emitPolicy sender .implementationUpgrade (addressWord newImplementation) true]

/-- The upgrade itself; `proxiable` is whether the new implementation
says that it can be upgraded to. -/
def upgradeTo (sender newImplementation : Address) (proxiable : Bool) (s : DstackApp) :
    Outcome := do
  let events ← authorizeUpgrade sender newImplementation s
  Result.ensure (proxiable = true)
    ("ERC1967InvalidImplementation(" ++ toString newImplementation ++ ")")
  pure ({ s with implementation := newImplementation },
    events ++ [.base (.upgraded newImplementation)])

def byOwner (sender : Address) (s : DstackApp) (change : DstackApp × List Event) :
    Outcome := do
  s.ownable.onlyOwner sender
  pure change

def addComposeHash (sender : Address) (composeHash : Bytes32) (s : DstackApp) :
    Outcome := do
  s.ownable.onlyOwner sender
  Result.ensure (composeHash ≠ 0) "invalid compose hash"
  pure ({ s with allowedComposeHashes := setAt s.allowedComposeHashes composeHash true },
    [.composeHashAdded composeHash, emitPolicy sender .composeHash composeHash true])

def removeComposeHash (sender : Address) (composeHash : Bytes32) (s : DstackApp) :
    Outcome :=
  byOwner sender s
    ({ s with allowedComposeHashes := setAt s.allowedComposeHashes composeHash false },
      [.composeHashRemoved composeHash, emitPolicy sender .composeHash composeHash false])

def setAllowAnyDevice (sender : Address) (allowAnyDevice : Bool) (s : DstackApp) :
    Outcome :=
  byOwner sender s
    ({ s with allowAnyDevice },
      [.allowAnyDeviceSet allowAnyDevice,
        emitPolicy sender .allowAnyDevice 0 allowAnyDevice])

def setRequireTcbUpToDate (sender : Address) (requireUpToDate : Bool) (s : DstackApp) :
    Outcome :=
  byOwner sender s
    ({ s with requireTcbUpToDate := requireUpToDate },
      [.requireTcbUpToDateSet requireUpToDate,
        emitPolicy sender .requireTcbUpToDate 0 requireUpToDate])

def addDevice (sender : Address) (deviceId : Bytes32) (s : DstackApp) : Outcome := do
  s.ownable.onlyOwner sender
  Result.ensure (deviceId ≠ 0) "invalid device ID"
  pure ({ s with allowedDeviceIds := setAt s.allowedDeviceIds deviceId true },
    [.deviceAdded deviceId, emitPolicy sender .device deviceId true])

def removeDevice (sender : Address) (deviceId : Bytes32) (s : DstackApp) : Outcome :=
  byOwner sender s
    ({ s with allowedDeviceIds := setAt s.allowedDeviceIds deviceId false },
      [.deviceRemoved deviceId, emitPolicy sender .device deviceId false])

def disableUpgrades (sender : Address) (s : DstackApp) : Outcome :=
  byOwner sender s
    ({ s with upgradesDisabled := true },
      [.upgradesDisabled, emitPolicy sender .upgradesDisabled 0 true])

/-- The calls of the contract. An upgrade may go on with a call of its
own, which runs for the same sender; `query` is any call that reads. -/
inductive Call where
  | initializeContract (a : Init)
  | upgradeTo (newImplementation : Address) (proxiable : Bool)
  | upgradeToAndCall (newImplementation : Address) (proxiable : Bool) (next : Call)
  | addComposeHash (composeHash : Bytes32)
  | removeComposeHash (composeHash : Bytes32)
  | setAllowAnyDevice (allowAnyDevice : Bool)
  | setRequireTcbUpToDate (requireUpToDate : Bool)
  | addDevice (deviceId : Bytes32)
  | removeDevice (deviceId : Bytes32)
  | disableUpgrades
  | ownership (c : Ownable.Call)
  | query
  deriving DecidableEq

def call (sender : Address) : Call → DstackApp → Outcome
  | .initializeContract a, s => initializeContract sender a s
  | .upgradeTo newImplementation proxiable, s =>
    upgradeTo sender newImplementation proxiable s
  | .upgradeToAndCall newImplementation proxiable next, s => do
      let (s, events) ← upgradeTo sender newImplementation proxiable s
      let (s, more) ← call sender next s
      pure (s, events ++ more)
  | .addComposeHash composeHash, s => addComposeHash sender composeHash s
  | .removeComposeHash composeHash, s => removeComposeHash sender composeHash s
  | .setAllowAnyDevice allowAnyDevice, s => setAllowAnyDevice sender allowAnyDevice s
  | .setRequireTcbUpToDate requireUpToDate, s =>
    setRequireTcbUpToDate sender requireUpToDate s
  | .addDevice deviceId, s => addDevice sender deviceId s
  | .removeDevice deviceId, s => removeDevice sender deviceId s
  | .disableUpgrades, s => disableUpgrades sender s
  | .ownership c, s => do
      let (ownable, events) ← s.ownable.call sender c
      pure ({ s with ownable }, events.map .base)
  | .query, s => pure (s, [])

abbrev Tx := Address × Call

def run (c : Chain DstackApp Event) (txs : List Tx) : Chain DstackApp Event :=
  c.run (fun tx => call tx.1 tx.2) txs

end DstackApp

end Dstack.Contracts
