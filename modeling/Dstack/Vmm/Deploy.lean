/-
Creating and reconfiguring VMs (`vmm/src/main_service.rs`: `create_vm`,
`update_vm`, `resize_vm`; `vmm/src/app.rs`: `load_vm`).

A VM is a directory with its manifest and the files shared with the
guest, and an entry in the table of VMs in memory. Whatever the VMM asks
of the host (a file read or written, `qemu-img`, the supervisor) is a
`HostOp` and can fail; everything before a failed operation stays done.
One call runs from its beginning to its end here: each holds the lock of
its VM, which is why it looks only once whether the VM is being removed.
-/
import Dstack.Lib.Stateful
import Dstack.Vmm.IdPool
import Dstack.Vmm.Manifest

namespace Dstack.Vmm

open Lib

-- == state

structure WorkDir where
  manifest : Option Manifest := none
  compose : Option String := none
  encryptedEnv : Option Bytes := none
  userConfig : Option String := none
  started : Bool := false
  deriving DecidableEq

structure VmConfig (Image : Type) where
  manifest : Manifest
  image : Image
  cid : Nat
  gatewayEnabled : Bool

/-- The VMs' directories, the table, and the pool of context ids. -/
structure App (Image : Type) where
  dirs : BTreeMap String WorkDir
  vms : BTreeMap String (VmConfig Image)
  cidPool : IdPool
  removing : BTreeSet String

inductive HostOp where
  | readManifest
  | vmInfo
  | readCompose
  | growDisk
  | processInfo
  | clearRuntimeNetworks
  | writeCompose
  | writeEncryptedEnv
  | writeUserConfig
  | putManifest
  | createShared
  | writeInstanceInfo
  | setStarted
  | loadManifest
  | loadImage
  | loadCompose
  | removeDir
  | startVm
  deriving DecidableEq

/-- The host as a call finds it. -/
structure Host (Image : Type) where
  around : Surroundings
  /-- Why an operation fails, if it does. -/
  fails : HostOp → Option String
  /-- Whether the supervisor reports a VM's process as running. -/
  running : String → Bool
  hasDisk : String → Bool
  /-- Whether netd gave up the interfaces of a VM. -/
  releases : Bool
  /-- Whether the removal of a VM that could not be started comes to its end. -/
  removes : Bool
  image : String → Result Image

-- == requests

/-- `rpc::UpdateVmRequest`. -/
structure UpdateVmRequest where
  id : String
  composeFile : String := ""
  encryptedEnv : Bytes := []
  userConfig : String := ""
  updatePorts : Bool := false
  ports : List PortMappingProto := []
  updateKmsUrls : Bool := false
  kmsUrls : List String := []
  updateGatewayUrls : Bool := false
  gatewayUrls : List String := []
  gpus : Option GpuConfigProto := none
  vcpu : Option Nat := none
  memory : Option Nat := none
  diskSize : Option Nat := none
  image : Option String := none
  noTee : Option Bool := none
  updateNetworking : Bool := false
  networks : List NetworkingProto := []
  updateAnnotations : Bool := false
  annotations : BTreeMap String String := BTreeMap.empty

/-- `rpc::ResizeVmRequest`. -/
structure ResizeVmRequest where
  id : String
  vcpu : Option Nat := none
  memory : Option Nat := none
  diskSize : Option Nat := none
  image : Option String := none

def validateResizeRequest (request : ResizeVmRequest) : Result Unit := do
  Result.ensure (request.vcpu.isSome ∨ request.memory.isSome ∨ request.diskSize.isSome
      ∨ request.image.isSome) "resize request contains no updates"
  Result.ensure (request.vcpu ≠ some 0) "vcpu must be greater than zero"
  Result.ensure (request.memory ≠ some 0) "memory must be greater than zero"
  Result.ensure (request.diskSize ≠ some 0) "disk_size must be greater than zero"
  Result.ensure (request.image ≠ some "") "image must not be empty"

def validateVmId (id : String) : Result Unit :=
  Result.ensure (id ≠ "" ∧ (utf8 id).length ≤ 64
    ∧ id.toList.all (fun c => c.isAlphanum || c = '-' || c = '_') = true) "invalid VM id"

def validateImageName (around : Surroundings) (image : String) : Result Unit :=
  Result.ensure ((utf8 image).length ≤ 64 ∧ containsText image ".." = false
    ∧ image.toList.all (fun c => around.isAlphanumeric c || c = '_' || c = '-' || c = '.') = true)
    "Invalid image name"

def vmRuntimeStatus (removing started running : Bool) : String :=
  if removing then "removing"
  else match started, running with
    | true, true => "running"
    | true, false => "exited"
    | false, true => "stopping"
    | false, false => "stopped"

def resized (manifest : Manifest) (vcpu memory diskSize : Option Nat) (image : Option String) :
    Result Manifest := do
  Result.ensure (diskSize.all (manifest.diskSize ≤ ·) = true) "Cannot shrink disk size"
  pure { manifest with
    vcpu := vcpu.getD manifest.vcpu
    memory := memory.getD manifest.memory
    diskSize := diskSize.getD manifest.diskSize
    image := image.getD manifest.image }

section Calls

variable {Image : Type} (host : Host Image) (cfg : CvmConfig)

def attempt (op : HostOp) : Stateful (App Image) Unit :=
  Stateful.lift (match host.fails op with
    | some error => .error error
    | none => .ok ())

def store (op : HostOp) (id : String) (write : WorkDir → WorkDir) : Stateful (App Image) Unit := do
  attempt host op
  Stateful.update fun s => .ok { s with
    dirs := s.dirs.insert id (write ((s.dirs.get? id).getD {})) }

def storeIf (c : Bool) (op : HostOp) (id : String) (write : WorkDir → WorkDir) :
    Stateful (App Image) Unit :=
  if c then store host op id write else pure ()

def manifestOf (op : HostOp) (id : String) : Stateful (App Image) Manifest := do
  attempt host op
  Stateful.inspect fun s =>
    Result.ofOption ((s.dirs.get? id).bind (·.manifest)) "failed to read manifest"

def composeOf (op : HostOp) (id : String) : Stateful (App Image) String := do
  attempt host op
  Stateful.inspect fun s =>
    Result.ofOption ((s.dirs.get? id).bind (·.compose)) "failed to read app compose"

def refuseIfRemoving (id : String) : Stateful (App Image) Unit :=
  Stateful.inspect fun s => Result.ensure (¬s.removing.mem id) "VM is being removed"

-- == conflicts

/-- The first VM other than `vmId` that has one of the host ports. -/
def conflictingVm (vms : List (String × VmConfig Image)) (vmId : Option String)
    (mappings : List PortMapping) : Option (String × PortMapping) :=
  vms.findSome? fun (_, vm) =>
    if vmId = some vm.manifest.id then none
    else (mappings.find? fun mapping =>
        vm.manifest.portMap.any (portMappingsConflict mapping)).map fun mapping =>
      (vm.manifest.id, mapping)

def validatePortMappingConflicts (s : App Image) (vmId : Option String)
    (mappings : List PortMapping) : Result Unit := do
  validateUniquePortMappings host.around.ip mappings
  Result.rejectSome (conflictingVm s.vms.entries vmId mappings) fun (id, mapping) =>
    "host port mapping conflicts with VM " ++ id ++ ": " ++ mapping.text host.around.ip

-- == loading

def cidFor (s : App Image) (assigned : Option Nat) (id : String) : Option (Nat × IdPool) :=
  match s.vms.get? id, assigned with
  | some vm, _ => some (vm.cid, s.cidPool)
  | none, some cid => some (cid, s.cidPool)
  | none, none => s.cidPool.allocate

structure Loaded (Image : Type) where
  manifest : Manifest
  image : Image
  gatewayEnabled : Bool

def readVm (id : String) : Stateful (App Image) (Loaded Image) := do
  let manifest ← manifestOf host .loadManifest id
  Stateful.lift (validateImageName host.around manifest.image)
  attempt host .loadImage
  let image ← Stateful.lift ((host.image manifest.image).context "Failed to load image")
  let compose ← composeOf host .loadCompose id
  let appCompose ← Stateful.lift ((host.around.json.appCompose compose).context
    "Failed to read compose file")
  pure ⟨manifest, image, appCompose.gatewayEnabled⟩

def publish (assigned : Option Nat) (vm : Loaded Image) : Stateful (App Image) Unit :=
  Stateful.update fun s => do
    let (cid, pool) ← Result.ofOption (cidFor s assigned vm.manifest.id) "CID pool exhausted"
    pure { s with
      cidPool := pool
      vms := s.vms.insert vm.manifest.id ⟨vm.manifest, vm.image, cid, vm.gatewayEnabled⟩ }

/-- Read a VM's directory into the table (`load_vm` with no CID assigned
and no automatic start). -/
def loadVm (id : String) : Stateful (App Image) Unit := do
  let vm ← readVm host id
  publish none vm

-- == create

def prepareWorkDir (id : String) (request : VmConfiguration) (appId : String) :
    Stateful (App Image) Unit := do
  attempt host .createShared
  store host .writeCompose id fun dir => { dir with compose := some request.composeFile }
  storeIf host (request.encryptedEnv ≠ []) .writeEncryptedEnv id fun dir =>
    { dir with encryptedEnv := some request.encryptedEnv }
  storeIf host (request.userConfig ≠ "") .writeUserConfig id fun dir =>
    { dir with userConfig := some request.userConfig }
  if appId = "" then pure () else attempt host .writeInstanceInfo

def setStarted (id : String) (started : Bool) : Stateful (App Image) Unit := fun s =>
  (.ok (), (store host .setStarted id (fun dir => { dir with started := started }) s).2)

def loadOrRemove (id : String) : Stateful (App Image) Unit := fun s =>
  match loadVm host id s with
  | (.ok (), s') => (.ok (), s')
  | (.error error, s') => (.error ("Failed to load VM: " ++ error),
      if (host.fails .removeDir).isSome then s' else { s' with dirs := s'.dirs.erase id })

/-- Take a VM out of the table (the last step of `finish_remove_vm`). -/
def release (s : App Image) (id : String) : App Image :=
  { s with
    vms := s.vms.erase id
    cidPool := match s.vms.get? id with
      | some vm => s.cidPool.free vm.cid
      | none => s.cidPool }

def forget (s : App Image) (id : String) : App Image :=
  { release s id with dirs := s.dirs.erase id }

def startOrRemove (id : String) : Stateful (App Image) Unit := fun s =>
  match host.fails .startVm with
  | none => (.ok (), s)
  | some error => (.error error,
      if host.removes then forget s id else { s with removing := s.removing.add id })

def launchNew (id : String) (stopped : Bool) : Stateful (App Image) Unit :=
  if stopped then pure () else startOrRemove host id

def admitNew (id : String) (now : Nat) (request : VmConfiguration) :
    Stateful (App Image) Manifest := do
  let manifest ← Stateful.lift (createManifestFromVmConfig host.around cfg id now request)
  Stateful.inspect fun s => validatePortMappingConflicts host s none manifest.portMap
  Stateful.lift (validateVmId id)
  pure manifest

def createVm (id : String) (now : Nat) (request : VmConfiguration) :
    Stateful (App Image) String := do
  let manifest ← admitNew host cfg id now request
  store host .putManifest id fun dir => { dir with manifest := some manifest }
  prepareWorkDir host id request manifest.appId
  setStarted host id !request.stopped
  loadOrRemove host id
  launchNew host id request.stopped
  pure id

-- == update

def vmStatus (id : String) : Stateful (App Image) (Option String) := do
  attempt host .vmInfo
  Stateful.inspect fun s => .ok ((s.vms.get? id).map fun _ =>
    vmRuntimeStatus (s.removing.mem id) (((s.dirs.get? id).map (·.started)).getD false)
      (host.running id))

def applyResourceUpdates (id : String) (manifest : Manifest) (vcpu memory diskSize : Option Nat)
    (image : Option String) : Stateful (App Image) Manifest :=
  if vcpu = none ∧ memory = none ∧ diskSize = none ∧ image = none then pure manifest
  else do
    let status ← vmStatus host id
    let status ← Stateful.lift (Result.ofOption status "vm not found")
    Stateful.lift (Result.ensure (status ∈ ["stopped", "exited"])
      ("vm should be stopped before resize: " ++ id))
    Stateful.lift (resized manifest vcpu memory diskSize image)

def growDiskIfNeeded (id : String) (manifest : Manifest) (oldSize : Nat) :
    Stateful (App Image) Unit :=
  if manifest.diskSize ≤ oldSize ∨ host.hasDisk id = false then pure () else attempt host .growDisk

def checkCompose (request : UpdateVmRequest) (manifest : Manifest) :
    Stateful (App Image) String :=
  if request.composeFile = "" then pure ""
  else do
    let _ ← Stateful.lift ((host.around.json.appCompose request.composeFile).context
      "Invalid compose file")
    Stateful.inspect fun s => Result.ensure
      (((s.dirs.get? request.id).bind (·.compose)).isSome = true)
      ("The instance " ++ request.id ++ " not found")
    Stateful.lift (validateDiskPreallocAgainstCompose host.around.json manifest.diskPrealloc
      request.composeFile)
    pure (appIdOf request.composeFile)

def updatedGpus (request : UpdateVmRequest) (manifest : Manifest) : Result (Option GpuConfig) :=
  match request.gpus with
  | some gpus => some <$> resolveGpusWithConfig host.around.devices gpus cfg.gpu
  | none => .ok manifest.gpus

def updatedPorts (s : App Image) (request : UpdateVmRequest) (manifest : Manifest) :
    Result (List PortMapping) :=
  if request.updatePorts then do
    let portMap ← portMapFromProto host.around.ip request.ports cfg.portMapping manifest.portMap
    validatePortMappingConflicts host s (some request.id) portMap
    pure portMap
  else .ok manifest.portMap

def updatedAnnotations (request : UpdateVmRequest) (manifest : Manifest) :
    Result (BTreeMap String String) :=
  if request.updateAnnotations then annotationsFromProto request.annotations
  else .ok manifest.annotations

def updatedNics (request : UpdateVmRequest) (manifest : Manifest) : Result (List NicNetworking) :=
  if request.updateNetworking then
    updatedNetworks host.around.hasInterface request.networks manifest.networks manifest.vcpu
      cfg.network
  else .ok manifest.networks

def checkNics (request : UpdateVmRequest) (vcpu : Nat) (portMap : List PortMapping)
    (networks : List NicNetworking) : Result Unit :=
  if request.updatePorts || request.updateNetworking then
    validatePortMappingNics host.around.ip portMap (resolvedNicModes networks cfg.network vcpu)
  else .ok ()

def reconfigured (s : App Image) (request : UpdateVmRequest) (manifest : Manifest) :
    Result Manifest := do
  let gpus ← updatedGpus host cfg request manifest
  let portMap ← updatedPorts host cfg s request manifest
  let annotations ← updatedAnnotations request manifest
  let networks ← updatedNics host cfg request manifest
  checkNics host cfg request manifest.vcpu portMap networks
  pure { manifest with
    gpus := gpus
    noTee := request.noTee.getD manifest.noTee
    portMap := portMap
    kmsUrls := if request.updateKmsUrls then request.kmsUrls else manifest.kmsUrls
    gatewayUrls := if request.updateGatewayUrls then request.gatewayUrls else manifest.gatewayUrls
    annotations := annotations
    networks := networks }

def composeAfter (request : UpdateVmRequest) : Stateful (App Image) String :=
  if request.composeFile = "" then composeOf host .readCompose request.id
  else pure request.composeFile

def releaseInterfaces (request : UpdateVmRequest) : Stateful (App Image) Unit :=
  if request.updateNetworking then do
    attempt host .processInfo
    if host.running request.id = false ∧ host.releases = true then
      attempt host .clearRuntimeNetworks
    else pure ()
  else pure ()

def writeUpdate (request : UpdateVmRequest) (manifest : Manifest) : Stateful (App Image) Unit := do
  storeIf host (request.composeFile ≠ "") .writeCompose request.id fun dir =>
    { dir with compose := some request.composeFile }
  storeIf host (request.encryptedEnv ≠ []) .writeEncryptedEnv request.id fun dir =>
    { dir with encryptedEnv := some request.encryptedEnv }
  storeIf host (request.userConfig ≠ "") .writeUserConfig request.id fun dir =>
    { dir with userConfig := some request.userConfig }
  store host .putManifest request.id fun dir => { dir with manifest := some manifest }

def heldManifest (id : String) : Stateful (App Image) Manifest := do
  refuseIfRemoving id
  Stateful.lift (validateVmId id)
  manifestOf host .readManifest id

/-- What an update makes of the manifest it finds: the identifier it
answers with, and the manifest it is going to store. -/
def planUpdate (request : UpdateVmRequest) (manifest : Manifest) :
    Stateful (App Image) (String × Manifest) := do
  let newId ← checkCompose host request manifest
  let sized ← applyResourceUpdates host request.id manifest request.vcpu request.memory
    request.diskSize request.image
  let updated ← Stateful.inspect fun s => reconfigured host cfg s request sized
  let composeFile ← composeAfter host request
  let keyProvider ← Stateful.lift (keyProviderFromCompose host.around.json composeFile)
  let updated := { updated with swtpm := needsSwtpm keyProvider updated.simulatedTee }
  growDiskIfNeeded host request.id updated manifest.diskSize
  releaseInterfaces host request
  pure (newId, updated)

def plannedUpdate (request : UpdateVmRequest) : Stateful (App Image) (String × Manifest) := do
  let manifest ← heldManifest host request.id
  planUpdate host cfg request manifest

def updateVm (request : UpdateVmRequest) : Stateful (App Image) String := do
  let (newId, manifest) ← plannedUpdate host cfg request
  writeUpdate host request manifest
  (loadVm host request.id).context "Failed to load VM"
  pure newId

-- == resize

def plannedResize (request : ResizeVmRequest) : Stateful (App Image) Manifest := do
  Stateful.lift (validateResizeRequest request)
  let manifest ← heldManifest host request.id
  let sized ← applyResourceUpdates host request.id manifest request.vcpu request.memory
    request.diskSize request.image
  growDiskIfNeeded host request.id sized manifest.diskSize
  pure sized

def resizeVm (request : ResizeVmRequest) : Stateful (App Image) Unit := do
  let manifest ← plannedResize host request
  store host .putManifest request.id fun dir => { dir with manifest := some manifest }
  (loadVm host request.id).context "Failed to load VM"

end Calls

end Dstack.Vmm
