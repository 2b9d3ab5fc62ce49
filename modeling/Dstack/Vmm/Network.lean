/-
Network interfaces of a VM (`vmm/src/config.rs`, `vmm/src/app/network.rs`,
and the networking part of `vmm/src/main_service.rs`).

The node has a `[cvm.networking]` section and a policy for what a
deployment may name. A VM stores one `NicNetworking` per interface: what
the deployment chose, with everything it left open decided again at each
launch from the node's section (`resolveNetworking`). `GetInfo` reports
the stored entries (`networkingToProto`), and clients read them, change a
field and send the rest back.
-/
import Dstack.Lib.Text

namespace Dstack.Vmm

open Lib

-- == configuration

inductive NetworkingMode where
  | user
  | bridge
  | custom
  | macvtap
  | passt
  deriving DecidableEq

def NetworkingMode.asStr : NetworkingMode → String
  | .user => "user"
  | .bridge => "bridge"
  | .custom => "custom"
  | .macvtap => "macvtap"
  | .passt => "passt"

structure NicNetworking where
  mode : NetworkingMode := .user
  bridge : String := ""
  parent : String := ""
  vhost : Option Bool := none
  queues : Option Nat := none
  /-- Take `mode` from the node at every launch. -/
  inheritMode : Bool := false
  deriving DecidableEq

structure Networking where
  nic : NicNetworking := {}
  macvtapMode : String := ""
  device : String := ""
  macPrefix : String := ""
  net : String := ""
  dhcpStart : String := ""
  restrict : Bool := false
  interface : String := ""
  address : String := ""
  netmask : String := ""
  gateway : String := ""
  dns : List String := []
  mapHostLoopback : String := ""
  mapGuestAddr : String := ""
  noMapGw : Bool := false
  ipv4Only : Bool := false
  netdev : String := ""
  deriving DecidableEq

def maxNetQueuesBound : Nat := 64

def defaultQueueScalingCap : Nat := 16

namespace Networking

def modeSupportsVhost (mode : NetworkingMode) : Bool := mode = .bridge ∨ mode = .macvtap

def modeSupportsMultiqueue (mode : NetworkingMode) : Bool := mode = .bridge ∨ mode = .macvtap

def vhostEnabled (n : Networking) : Bool :=
  n.nic.vhost.getD false && modeSupportsVhost n.nic.mode

def queuePairs (n : Networking) : Nat :=
  if modeSupportsMultiqueue n.nic.mode then max (n.nic.queues.getD 1) 1 else 1

/-- `vcpu.clamp(1, …)`. -/
def defaultQueuePairs (vcpu maxNetQueues : Nat) : Nat :=
  min (max vcpu 1) (max (min defaultQueueScalingCap maxNetQueues) 1)

end Networking

structure NetworkPolicy where
  networking : Networking := {}
  allowedNetworkModes : List NetworkingMode := [.user, .bridge]
  allowedBridges : List String := []
  allowedMacvtapParents : List String := []
  maxNetQueues : Nat := 16
  deriving DecidableEq

/-- `rpc::NetworkingConfig`. -/
structure NetworkingProto where
  mode : String := ""
  bridgeName : String := ""
  parent : String := ""
  macvtapMode : String := ""
  vhost : Option Bool := none
  queues : Option Nat := none
  deriving DecidableEq

-- == resolution

/-- `own`, or the node's where that is empty. -/
def ownOr (own node : String) : String := if own = "" then node else own

def resolveNetworking (networking : NicNetworking) (cfg : NetworkPolicy) (vcpu : Nat) :
    Networking :=
  let mode := if networking.inheritMode then cfg.networking.nic.mode else networking.mode
  let vhost := networking.vhost.or cfg.networking.nic.vhost
  let scaled :=
    if vhost.getD false && Networking.modeSupportsVhost mode then
      Networking.defaultQueuePairs vcpu cfg.maxNetQueues
    else 1
  { cfg.networking with
    nic :=
      { mode := mode
        bridge := ownOr networking.bridge cfg.networking.nic.bridge
        parent := ownOr networking.parent cfg.networking.nic.parent
        vhost := vhost
        queues := some (networking.queues.getD scaled)
        inheritMode := networking.inheritMode }
    device := "" }

def resolvedNetworks (networks : List NicNetworking) (cfg : NetworkPolicy) (vcpu : Nat) :
    List Networking :=
  let requested := if networks.isEmpty then [cfg.networking.nic] else networks
  requested.map (resolveNetworking · cfg vcpu)

section Host

variable (hasInterface : String → Bool)

def validateResolvedNetwork (networking : Networking) : Result Unit := do
  Result.ensure (networking.nic.queues.all (· ≤ maxNetQueuesBound) = true)
    "networking queues must not exceed 64"
  Result.ensure (networking.nic.mode = .bridge → networking.nic.bridge ≠ "")
    "bridge networking requested but no bridge is configured"
  Result.ensure (networking.nic.mode = .bridge → hasInterface networking.nic.bridge = true)
    ("bridge interface '" ++ networking.nic.bridge ++ "' does not exist")

def validateResolvedNetworks (networks : List Networking) : Result Unit :=
  networks.forM (validateResolvedNetwork hasInterface)

end Host

-- == requests

/-- The mode a request asks for and whether it names one; nothing for a
request that asks for nothing. -/
def requestedMode (mode : String) (namesBackend tuned : Bool) (node : NetworkingMode) :
    Result (Option (NetworkingMode × Bool)) :=
  if mode = "bridge" then .ok (some (.bridge, true))
  else if mode = "user" then .ok (some (.user, true))
  else if mode = "macvtap" then .ok (some (.macvtap, true))
  else if mode = "passt" then .ok (some (.passt, true))
  else if mode = "" then
    if namesBackend then
      .error "networking mode is required when a bridge or macvtap parent is set"
    else if tuned then .ok (some (node, false))
    else .ok none
  else if mode = "custom" then .error "custom networking mode is manifest-only"
  else .error ("unsupported networking mode '" ++ mode ++ "'")

def checkNetworking (proto : NetworkingProto) (bridge parent : String)
    (mode : NetworkingMode) (chosen : Bool) (cfg : NetworkPolicy) : Result Unit := do
  Result.ensure (chosen = true → mode ∈ cfg.allowedNetworkModes)
    ("networking mode '" ++ proto.mode ++ "' is not allowed by node policy")
  Result.ensure (mode ≠ .bridge → bridge = "")
    "bridge_name is only valid for bridge networking mode"
  Result.ensure (mode ≠ .macvtap → parent = "")
    "parent is only valid for macvtap networking mode"
  let macvtapMode := trim proto.macvtapMode
  Result.ensure (macvtapMode = "" ∨ macvtapMode = trim cfg.networking.macvtapMode)
    "macvtap_mode is node-controlled and cannot be set by deployment RPCs"
  Result.ensure (bridge = "" ∨ bridge = trim cfg.networking.nic.bridge
      ∨ bridge ∈ cfg.allowedBridges)
    ("bridge_name '" ++ bridge ++ "' is not allowed by node policy")
  Result.ensure (parent = "" ∨ parent = trim cfg.networking.nic.parent
      ∨ parent ∈ cfg.allowedMacvtapParents)
    ("macvtap parent '" ++ parent ++ "' is not allowed by node policy")
  Result.ensure (chosen = true → proto.vhost = some true →
      Networking.modeSupportsVhost mode = true)
    (proto.mode ++ " networking has no vhost data plane")
  Result.ensure (proto.queues.all (· ≤ cfg.maxNetQueues) = true)
    ("networking queues must not exceed " ++ toString cfg.maxNetQueues ++ " on this node")
  Result.ensure (chosen = true → proto.queues.all (· ≤ 1) = false →
      Networking.modeSupportsMultiqueue mode = true)
    (proto.mode ++ " networking does not support multiple queues")

def networkingFromProto (proto : NetworkingProto) (cfg : NetworkPolicy) :
    Result (Option NicNetworking) := do
  let bridge := trim proto.bridgeName
  let parent := trim proto.parent
  Result.ensure (proto.queues ≠ some 0)
    "networking queues must be at least 1, or unset to follow the vCPU count"
  let tuned := proto.vhost.isSome || proto.queues.isSome
  let requested ← requestedMode proto.mode (bridge ≠ "" || parent ≠ "") tuned
    cfg.networking.nic.mode
  match requested with
  | none => pure none
  | some (mode, chosen) => do
      checkNetworking proto bridge parent mode chosen cfg
      pure (some
        { mode := mode
          bridge := bridge
          parent := parent
          vhost := proto.vhost
          queues := proto.queues
          inheritMode := !chosen })

def widen (cfg : NetworkPolicy) (networking : NicNetworking) : NetworkPolicy :=
  { cfg with
    allowedBridges :=
      if networking.mode = .bridge ∧ networking.bridge ≠ "" then
        cfg.allowedBridges ++ [networking.bridge]
      else cfg.allowedBridges
    allowedMacvtapParents :=
      if networking.mode = .macvtap ∧ networking.parent ≠ "" then
        cfg.allowedMacvtapParents ++ [networking.parent]
      else cfg.allowedMacvtapParents
    maxNetQueues :=
      match networking.queues with
      | some queues => max cfg.maxNetQueues queues
      | none => cfg.maxNetQueues }

def heldNetworkingConfig (cfg : NetworkPolicy) (held : List NicNetworking) : NetworkPolicy :=
  held.foldl widen cfg

def nodeDefaultNetworking (cfg : NetworkPolicy) : NicNetworking :=
  { mode := cfg.networking.nic.mode, inheritMode := true }

def networkFromRequiredProto (proto : NetworkingProto) (cfg : NetworkPolicy) :
    Result NicNetworking := do
  let networking ← networkingFromProto proto cfg
  pure (networking.getD (nodeDefaultNetworking cfg))

def networksFromProto (networks : List NetworkingProto) (cfg : NetworkPolicy) :
    Result (List NicNetworking) :=
  networks.mapM (networkFromRequiredProto · cfg)

def manifestNetwork (entry : Networking) (request : NicNetworking) : NicNetworking :=
  if request.inheritMode then request
  else
    { mode := entry.nic.mode
      bridge := if entry.nic.mode = .bridge then entry.nic.bridge else ""
      parent := if entry.nic.mode = .macvtap then entry.nic.parent else ""
      vhost := request.vhost
      queues := request.queues
      inheritMode := entry.nic.inheritMode }

def manifestNetworks (merged : List Networking) (requests : List NicNetworking) :
    List NicNetworking :=
  (merged.zip requests).map fun (entry, request) => manifestNetwork entry request

section Deployment

variable (hasInterface : String → Bool)

def resolveRequestedNetworks (requests : List NicNetworking) (cfg : NetworkPolicy)
    (vcpu : Nat) : Result (List NicNetworking) := do
  let merged := requests.map (resolveNetworking · cfg vcpu)
  validateResolvedNetworks hasInterface merged
  pure (manifestNetworks merged requests)

def networksFromVmConfig (networks : List NetworkingProto) (networking : Option NetworkingProto)
    (vcpu : Nat) (cfg : NetworkPolicy) : Result (List NicNetworking) :=
  match networks, networking with
  | [], none => .ok []
  | [], some networking => do
      match ← networkingFromProto networking cfg with
      | some networking => resolveRequestedNetworks hasInterface [networking] cfg vcpu
      | none => pure []
  | networks, _ => do
      let networks ← networksFromProto networks cfg
      resolveRequestedNetworks hasInterface networks cfg vcpu

def updatedNetworks (networks : List NetworkingProto) (held : List NicNetworking) (vcpu : Nat)
    (cfg : NetworkPolicy) : Result (List NicNetworking) :=
  match networks with
  | [] => do
      validateResolvedNetwork hasInterface cfg.networking
      pure []
  | networks => do
      let cvm := heldNetworkingConfig cfg held
      let networks ← networksFromProto networks cvm
      resolveRequestedNetworks hasInterface networks cvm vcpu

end Deployment

-- == reporting

def networkingToProto (networking : NicNetworking) : NetworkingProto :=
  { mode := if networking.inheritMode then "" else networking.mode.asStr
    bridgeName :=
      if !networking.inheritMode ∧ networking.mode = .bridge then networking.bridge else ""
    parent :=
      if !networking.inheritMode ∧ networking.mode = .macvtap then networking.parent else ""
    macvtapMode := ""
    vhost := networking.vhost
    queues := networking.queues }

end Dstack.Vmm
