/-
What a VM is deployed as (`vmm/src/main_service.rs`, `vmm/src/app.rs`).

A deployment request becomes a manifest, or is refused with the reason.
The app-compose file stays opaque text: what the VMM reads out of it is
the JSON library's work and is collected in `ComposeJson`, like the other
things a request is checked against that are not the VMM's own (addresses
as text, the host's devices and volumes).
-/
import Dstack.Lib.BTreeMap
import Dstack.Types
import Dstack.Vmm.Network

namespace Dstack.Vmm

open Lib

-- == port mappings

inductive Protocol where
  | tcp
  | udp
  deriving DecidableEq

namespace Protocol

def asStr : Protocol → String
  | .tcp => "tcp"
  | .udp => "udp"

def fromStr (s : String) : Result Protocol :=
  if s = "tcp" then .ok .tcp
  else if s = "udp" then .ok .udp
  else .error ("Invalid protocol: " ++ s)

end Protocol

inductive IpAddr where
  | v4 (bits : BitVec 32)
  | v6 (bits : BitVec 128)
  deriving DecidableEq

def IpAddr.isUnspecified : IpAddr → Bool
  | .v4 bits => bits = 0
  | .v6 bits => bits = 0

structure IpText where
  parse : String → Result IpAddr
  display : IpAddr → String

structure PortMapping where
  address : IpAddr
  protocol : Protocol
  fromPort : Nat
  toPort : Nat
  nicIndex : Option Nat
  deriving DecidableEq

/-- `rpc::PortMapping`. -/
structure PortMappingProto where
  protocol : String
  hostAddress : String
  hostPort : Nat
  vmPort : Nat
  nicIndex : Option Nat := none
  deriving DecidableEq

structure PortRange where
  protocol : Protocol
  fromPort : Nat
  toPort : Nat
  deriving DecidableEq

def PortRange.contains (r : PortRange) (protocol : String) (port : Nat) : Bool :=
  r.protocol.asStr = protocol ∧ r.fromPort ≤ port ∧ port ≤ r.toPort

structure PortMappingConfig where
  enabled : Bool
  address : IpAddr
  range : List PortRange
  deriving DecidableEq

def PortMappingConfig.isAllowed (cfg : PortMappingConfig) (protocol : String) (port : Nat) :
    Bool :=
  cfg.enabled && cfg.range.any (·.contains protocol port)

def portMappingsConflict (left right : PortMapping) : Bool :=
  left.protocol.asStr = right.protocol.asStr ∧ left.fromPort = right.fromPort
    ∧ (left.address = right.address ∨ left.address.isUnspecified ∨ right.address.isUnspecified)

section Ports

variable (ip : IpText)

def PortMapping.text (m : PortMapping) : String :=
  m.protocol.asStr ++ " " ++ ip.display m.address ++ ":" ++ toString m.fromPort

/-- No mapping conflicts with one before it; `earlier` are those already
looked at. -/
def checkUnique : List PortMapping → List PortMapping → Result Unit
  | _, [] => .ok ()
  | earlier, mapping :: rest => do
      Result.ensure (earlier.any (portMappingsConflict mapping) = false)
        ("duplicate host port mapping: " ++ mapping.text ip)
      checkUnique (earlier ++ [mapping]) rest

def validateUniquePortMappings (mappings : List PortMapping) : Result Unit :=
  checkUnique ip [] mappings

def toU16 (n : Nat) : Result Nat := do
  Result.ensure (n < 65536) "out of range integral type conversion attempted"
  pure n

def portFromProto (cfg : PortMappingConfig) (held : List PortMapping) (p : PortMappingProto) :
    Result PortMapping := do
  let address ← if p.hostAddress = "" then pure cfg.address
    else (ip.parse p.hostAddress).context "Invalid host address"
  let protocol ← (Protocol.fromStr p.protocol).context "Invalid protocol"
  let hostPort ← (toU16 p.hostPort).context "Invalid host port"
  let vmPort ← (toU16 p.vmPort).context "Invalid vm port"
  let mapping : PortMapping := ⟨address, protocol, hostPort, vmPort, p.nicIndex⟩
  Result.ensure (mapping ∈ held ∨ cfg.enabled = true) "Port mapping is disabled"
  Result.ensure (mapping ∈ held ∨ cfg.isAllowed protocol.asStr hostPort = true)
    ("Port mapping is not allowed for " ++ protocol.asStr ++ ":" ++ toString hostPort)
  pure mapping

def portMapFromProto (ports : List PortMappingProto) (cfg : PortMappingConfig)
    (held : List PortMapping) : Result (List PortMapping) := do
  let portMap ← ports.mapM (portFromProto ip cfg held)
  validateUniquePortMappings ip portMap
  pure portMap

def modeCarriesIngress (mode : NetworkingMode) : Bool := mode = .user ∨ mode = .passt

def validatePortMappingNic (modes : List NetworkingMode) (mapping : PortMapping) :
    Result Unit :=
  match mapping.nicIndex with
  | none => .ok ()
  | some index =>
    match modes[index]? with
    | none => .error ("port mapping " ++ mapping.text ip ++ " names NIC " ++ toString index
        ++ ", but this VM has " ++ toString modes.length)
    | some mode => Result.ensure (modeCarriesIngress mode = true)
        ("port mapping " ++ mapping.text ip ++ " names NIC " ++ toString index ++ ", which is "
          ++ mode.asStr ++ " and cannot publish a host port; use a user or passt NIC")

def validatePortMappingNics (mappings : List PortMapping) (modes : List NetworkingMode) :
    Result Unit :=
  mappings.forM (validatePortMappingNic ip modes)

end Ports

def resolvedNicModes (networks : List NicNetworking) (cfg : NetworkPolicy) (vcpu : Nat) :
    List NetworkingMode :=
  (resolvedNetworks networks cfg vcpu).map (·.nic.mode)

-- == disks

inductive DiskPrealloc where
  | off
  | metadata
  | falloc
  | full
  deriving DecidableEq

namespace DiskPrealloc

def asStr : DiskPrealloc → String
  | .off => "off"
  | .metadata => "metadata"
  | .falloc => "falloc"
  | .full => "full"

def fromStr (s : String) : Result DiskPrealloc :=
  if s = "off" then .ok .off
  else if s = "metadata" then .ok .metadata
  else if s = "falloc" then .ok .falloc
  else if s = "full" then .ok .full
  else .error ("invalid disk preallocation mode: " ++ s)

def reservesDataBlocks (mode : DiskPrealloc) : Bool := mode = .falloc ∨ mode = .full

end DiskPrealloc

def diskPreallocFromVmConfig (requested : Option String) (node : DiskPrealloc) :
    Result DiskPrealloc :=
  match (requested.map trim).filter (· ≠ "") with
  | none => .ok node
  | some mode => (DiskPrealloc.fromStr mode).context
      "invalid disk_prealloc, expected off, metadata, falloc or full"

-- == compose

structure VerityVolume where
  source : String
  verityRoot : Bytes
  target : String
  deriving DecidableEq

structure ComposeValue where
  storageDiscard : Option Bool := none
  /-- `none` where the member is missing or null. -/
  keyProvider : Option (Result KeyProviderKind) := none
  kmsEnabled : Option Bool := none
  localKeyProviderEnabled : Option Bool := none
  verityVolumes : Option (Result (List VerityVolume)) := none

structure AppCompose where
  gatewayEnabled : Bool := false
  deriving DecidableEq

structure ComposeJson where
  value : String → Result ComposeValue
  appCompose : String → Result AppCompose

section Compose

variable (json : ComposeJson)

def keyProviderFromCompose (composeFile : String) : Result KeyProviderKind := do
  let compose ← (json.value composeFile).context "invalid app compose JSON"
  match compose.keyProvider with
  | some provider => provider.context "invalid key_provider"
  | none =>
    pure (if compose.kmsEnabled.getD false then .kms
      else if compose.localKeyProviderEnabled.getD false then .local
      else .none)

def storageDiscardFromCompose (composeFile : String) : Result Bool := do
  let compose ← (json.value composeFile).context "invalid app compose JSON"
  pure (compose.storageDiscard.getD true)

def preallocError (prealloc : DiskPrealloc) : String :=
  "disk preallocation (" ++ prealloc.asStr ++ ") reserves host blocks, so app-compose must set "
    ++ "storage_discard = false; either turn discard off in the compose file, or redeploy with "
    ++ "disk_prealloc = \"off\" or \"metadata\" -- the mode is fixed at deployment"

def validateDiskPreallocAgainstCompose (prealloc : DiskPrealloc) (composeFile : String) :
    Result Unit :=
  if prealloc.reservesDataBlocks then do
    let discard ← storageDiscardFromCompose json composeFile
    Result.ensure (discard = false) (preallocError prealloc)
  else .ok ()

def extractVerityVolumes (composeFile : String) : Result (List VerityVolume) :=
  match json.value composeFile with
  | .error _ => .ok []
  | .ok compose =>
    match compose.verityVolumes with
    | none => .ok []
    | some volumes => volumes.context "invalid verity_volumes in app-compose"

end Compose

def validateVerityVolumes : List String → List VerityVolume → Result Unit
  | _, [] => .ok ()
  | targets, volume :: rest => do
      Result.ensure (volume.target ∉ targets)
        ("duplicate verity volume target " ++ volume.target)
      validateVerityVolumes (volume.target :: targets) rest

def firstOfRoot : List Bytes → List VerityVolume → List VerityVolume
  | _, [] => []
  | roots, volume :: rest =>
    if volume.verityRoot ∈ roots then firstOfRoot roots rest
    else volume :: firstOfRoot (volume.verityRoot :: roots) rest

def needsSwtpm (keyProvider : KeyProviderKind) (simulatedTee : Option TeeVariant) : Bool :=
  keyProvider = .tpm
    ∧ ¬(simulatedTee = some .dstackGcpTdx ∨ simulatedTee = some .dstackAwsNitroTpm)

def teeVariantFromStr (s : String) : Result TeeVariant :=
  if s = "dstack-tdx" then .ok .dstackTdx
  else if s = "dstack-gcp-tdx" then .ok .dstackGcpTdx
  else if s = "dstack-amd-sev-snp" then .ok .dstackAmdSevSnp
  else if s = "dstack-nitro-enclave" then .ok .dstackNitroEnclave
  else if s = "dstack-aws-nitro-tpm" then .ok .dstackAwsNitroTpm
  else .error ("unsupported TEE variant: " ++ s)

-- == GPUs

inductive AttachMode where
  | all
  | listed
  deriving DecidableEq

structure GpuConfig where
  attachMode : AttachMode := .listed
  gpus : List String := []
  bridges : List String := []
  deriving DecidableEq

/-- `rpc::GpuConfig`. -/
structure GpuConfigProto where
  gpus : List String := []
  attachMode : String := ""
  deriving DecidableEq

def GpuConfigProto.isEmpty (g : GpuConfigProto) : Bool := g.attachMode ≠ "all" ∧ g.gpus = []

/-- A device of the host, as `lspci` lists it. -/
structure PciDevice where
  slot : String
  deviceClass : String
  vendorId : String
  productId : String
  deriving DecidableEq

/-- `[cvm.gpu]`. -/
structure GpuPolicy where
  enabled : Bool := false
  listing : List String := []
  excluded : List String := []
  included : List String := []
  allowAttachAll : Bool := false
  deriving DecidableEq

/-- Whether a text occurs in another (`str::contains`). -/
def containsText (s t : String) : Bool := t.toList <:+: s.toList

def GpuPolicy.lists (cfg : GpuPolicy) (dev : PciDevice) : Bool :=
  (dev.vendorId ++ ":" ++ dev.productId) ∈ cfg.listing ∧ dev.slot ∉ cfg.excluded
    ∧ (cfg.included = [] ∨ dev.slot ∈ cfg.included)

def resolveGpus (devices : Result (List PciDevice)) (g : GpuConfigProto) : Result GpuConfig :=
  if g.attachMode = "listed" then .ok { attachMode := .listed, gpus := g.gpus }
  else if g.attachMode = "all" then do
    let devices ← devices.context "Failed to list PCI devices"
    let nvidia := devices.filter (·.vendorId = "10de")
    let isGpu (dev : PciDevice) : Bool := containsText dev.deviceClass "3D controller"
    let isBridge (dev : PciDevice) : Bool :=
      !isGpu dev && containsText dev.deviceClass "Bridge"
    pure
      { attachMode := .all
        gpus := (nvidia.filter isGpu).map (·.slot)
        bridges := (nvidia.filter isBridge).map (·.slot) }
  else .error ("Invalid GPU attach mode: " ++ g.attachMode)

def ensureGpusOffered (requested offered : List String) : Result Unit :=
  requested.forM fun slot => Result.ensure (slot ∈ offered)
    ("GPU " ++ slot ++ " is not offered by this node")

def checkOffered (devices : Result (List PciDevice)) (gpus : GpuConfig) (cfg : GpuPolicy) :
    Result Unit :=
  if gpus.gpus = [] ∨ gpus.attachMode = .all then .ok ()
  else do
    let listed ← devices.context "Failed to list GPU devices"
    ensureGpusOffered gpus.gpus ((listed.filter cfg.lists).map (·.slot))

def resolveGpusWithConfig (devices : Result (List PciDevice)) (g : GpuConfigProto)
    (cfg : GpuPolicy) : Result GpuConfig := do
  Result.ensure (cfg.enabled = true ∨ g.isEmpty = true) "GPU is not enabled"
  let gpus ← resolveGpus devices g
  Result.ensure (cfg.allowAttachAll = true ∨ gpus.attachMode ≠ .all)
    "Attaching all GPUs is not allowed"
  checkOffered devices gpus cfg
  pure gpus

-- == manifests

structure CvmConfig where
  portMapping : PortMappingConfig
  network : NetworkPolicy
  gpu : GpuPolicy
  diskPrealloc : DiskPrealloc
  volumesDir : String
  /-- Whether simulator credentials are configured. -/
  teeSimulator : Bool
  deriving DecidableEq

structure Manifest where
  id : String
  name : String
  appId : String
  vcpu : Nat
  memory : Nat
  diskSize : Nat
  image : String
  portMap : List PortMapping
  createdAtMs : Nat
  hugepages : Bool
  pinNuma : Bool
  gpus : Option GpuConfig
  kmsUrls : List String
  gatewayUrls : List String
  noTee : Bool
  simulatedTee : Option TeeVariant
  swtpm : Bool
  networks : List NicNetworking
  volumes : List String
  diskPrealloc : DiskPrealloc
  annotations : BTreeMap String String
  deriving DecidableEq

/-- `rpc::VmConfiguration`. -/
structure VmConfiguration where
  name : String
  image : String
  composeFile : String
  vcpu : Nat
  memory : Nat
  diskSize : Nat
  ports : List PortMappingProto := []
  encryptedEnv : Bytes := []
  appId : Option String := none
  userConfig : String := ""
  hugepages : Bool := false
  pinNuma : Bool := false
  gpus : Option GpuConfigProto := none
  kmsUrls : List String := []
  gatewayUrls : List String := []
  stopped : Bool := false
  noTee : Bool := false
  networking : Option NetworkingProto := none
  networks : List NetworkingProto := []
  simulatedTee : Option String := none
  diskPrealloc : Option String := none
  annotations : BTreeMap String String := BTreeMap.empty

structure Surroundings where
  ip : IpText
  json : ComposeJson
  hasInterface : String → Bool
  devices : Result (List PciDevice)
  /-- A volume's file, by the volume directory and the source's name. -/
  volumeSource : String → String → Result String
  isAlphanumeric : Char → Bool
  lowercase : String → String

def isValidLabelChar (c : Char) : Bool :=
  c.isAlphanum ∨ c ∈ ['-', '_', '.', ' ', '@', '~', '!', '$', '^', '(', ')']

def validateLabel (label : String) : Result Unit :=
  Result.ensure (label.toList.all isValidLabelChar = true) ("Invalid name: " ++ label)

def strip0x (id : String) : String :=
  match id.toList with
  | '0' :: 'x' :: rest => String.ofList rest
  | _ => id

def appIdOf (composeFile : String) : String :=
  String.ofList ((hexEncode (sha256 (utf8 composeFile))).toList.take 40)

def annotationsFromProto (annotations : BTreeMap String String) :
    Result (BTreeMap String String) := do
  Result.ensure (annotations.contains "" = false) "annotation keys must not be empty"
  pure annotations

section Requests

variable (around : Surroundings) (cfg : CvmConfig)

def resolveVolumes (volumes : List VerityVolume) : Result (List String) :=
  if volumes = [] then .ok []
  else do
    Result.ensure (trim cfg.volumesDir ≠ "")
      "volumes requested but cvm.volumes_dir is not configured"
    (firstOfRoot [] volumes).mapM (around.volumeSource (trim cfg.volumesDir) ·.source)

def requestedGpus : Option GpuConfigProto → Result GpuConfig
  | some gpus => resolveGpusWithConfig around.devices gpus cfg.gpu
  | none => .ok {}

def simulatedTeeFromVmConfig (requested : Option String) : Result (Option TeeVariant) := do
  let tee ← requested.mapM teeVariantFromStr
  Result.ensure (tee = none ∨ cfg.teeSimulator = true)
    "tee simulator credentials are not configured on this VMM"
  pure tee

/-- The manifest of a new VM with a fresh `id`. -/
def createManifestFromVmConfig (id : String) (now : Nat) (request : VmConfiguration) :
    Result Manifest := do
  validateLabel request.name
  Result.ensure (request.vcpu ≠ 0) "vcpu must be greater than zero"
  Result.ensure (request.memory ≠ 0) "memory must be greater than zero"
  Result.ensure (request.diskSize ≠ 0) "disk_size must be greater than zero"
  let portMap ← portMapFromProto around.ip request.ports cfg.portMapping []
  let networks ← networksFromVmConfig around.hasInterface request.networks request.networking
    request.vcpu cfg.network
  validatePortMappingNics around.ip portMap (resolvedNicModes networks cfg.network request.vcpu)
  let gpus ← requestedGpus around cfg request.gpus
  let verityVolumes ← extractVerityVolumes around.json request.composeFile
  validateVerityVolumes [] verityVolumes
  let volumes ← resolveVolumes around cfg verityVolumes
  let simulatedTee ← simulatedTeeFromVmConfig cfg request.simulatedTee
  let keyProvider ← keyProviderFromCompose around.json request.composeFile
  let diskPrealloc ← diskPreallocFromVmConfig request.diskPrealloc cfg.diskPrealloc
  validateDiskPreallocAgainstCompose around.json diskPrealloc request.composeFile
  let annotations ← annotationsFromProto request.annotations
  pure
    { id := id
      name := request.name
      appId := match request.appId with
        | some id => around.lowercase (strip0x id)
        | none => appIdOf request.composeFile
      vcpu := request.vcpu
      memory := request.memory
      diskSize := request.diskSize
      image := request.image
      portMap := portMap
      createdAtMs := now
      hugepages := request.hugepages
      pinNuma := request.pinNuma
      gpus := some gpus
      kmsUrls := request.kmsUrls
      gatewayUrls := request.gatewayUrls
      noTee := request.noTee || simulatedTee.isSome
      simulatedTee := simulatedTee
      swtpm := needsSwtpm keyProvider simulatedTee
      networks := networks
      volumes := volumes
      diskPrealloc := diskPrealloc
      annotations := annotations }

end Requests

end Dstack.Vmm
