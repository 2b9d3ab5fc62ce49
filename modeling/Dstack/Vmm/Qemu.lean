/-
The QEMU command line of a VM (`vmm/src/app/qemu.rs`).

`prepare` looks everything up that a launch needs, and the builder turns
it into arguments, in the order QEMU gets them: QEMU gives a device
without an address the next free slot of its bus. A `-device` argument is
kept with its driver and properties apart (`Device.text` is its text); all
others are an option and its value.
-/
import Dstack.Lib.PathText
import Dstack.Mr.Machine
import Dstack.Vmm.Launch

namespace Dstack.Vmm

open Lib

-- == arguments

inductive Driver where
  | virtioBlkPci
  | virtioNetPci
  | vhostVsockPci
  | tpmTis
  | pxbPcie
  | pcieRootPort
  | vfioPci
  deriving DecidableEq

def Driver.name : Driver → String
  | .virtioBlkPci => "virtio-blk-pci"
  | .virtioNetPci => "virtio-net-pci"
  | .vhostVsockPci => "vhost-vsock-pci"
  | .tpmTis => "tpm-tis"
  | .pxbPcie => "pxb-pcie"
  | .pcieRootPort => "pcie-root-port"
  | .vfioPci => "vfio-pci"

structure Device where
  driver : Driver
  props : List (String × String)
  deriving DecidableEq

def Device.text (d : Device) : String :=
  ",".intercalate (d.driver.name :: d.props.map fun (key, value) => key ++ "=" ++ value)

def Device.prop (d : Device) (key : String) : Option String := d.props.lookup key

inductive Arg where
  | flag (name : String)
  | opt (name value : String)
  | device (d : Device)
  deriving DecidableEq

def Arg.words : Arg → List String
  | .flag name => [name]
  | .opt name value => [name, value]
  | .device d => ["-device", d.text]

def virtioPciDevice (driver : Driver) (props : List (String × String)) (snp : Bool) : Arg :=
  .device ⟨driver, props ++
    if snp then [("disable-legacy", "on"), ("iommu_platform", "true")] else []⟩

-- == interfaces

def firstInheritedFd : Nat := 3

def fdCount (network : Networking) : Nat :=
  match network.nic.mode with
  | .macvtap => network.queuePairs
  | .passt => 1
  | .user | .bridge | .custom => 0

def nicFdsFrom (next : Nat) : List Networking → List (List Nat)
  | [] => []
  | network :: rest =>
    List.range' next (fdCount network) :: nicFdsFrom (next + fdCount network) rest

def nicFdLayout (networks : List Networking) : List (List Nat) :=
  nicFdsFrom firstInheritedFd networks

def defaultIngressNic (networks : List Networking) : Option Nat :=
  networks.findIdx? fun network => modeCarriesIngress network.nic.mode

def ingressNic (mapping : PortMapping) (networks : List Networking) : Option Nat :=
  (mapping.nicIndex.or (defaultIngressNic networks)).filter fun index =>
    (networks[index]?).any fun network => modeCarriesIngress network.nic.mode

def unsigned : List Char → List Char
  | '+' :: c :: rest => c :: rest
  | digits => digits

/-- `u8::from_str_radix(_, 16)`. -/
def parseHexU8 (cs : List Char) : Option UInt8 :=
  let digits := unsigned cs
  let value := digits.foldl (fun n c => n * 16 + hexValue c.toLower) 0
  if digits ≠ [] ∧ digits.all isHexDigit = true ∧ value < 256 then some (UInt8.ofNat value)
  else none

def Networking.macPrefixBytes (n : Networking) : Bytes :=
  if n.macPrefix = "" then []
  else ((n.macPrefix.toList.splitOn ':').filterMap parseHexU8).take 3

def macAddressForVmIndex (vmId : String) (macPrefix : Bytes) (index : Nat) : String :=
  let hash := sha256 (utf8 (if index = 0 then vmId else vmId ++ ":" ++ toString index))
  let bytes := (macPrefix.take 3 ++ hash).take 6
  let bytes := bytes.modifyHead fun b => (b &&& 0xfe) ||| 0x02
  ":".intercalate (bytes.map fun b => String.ofList (hexByte b))

/-- `netd::tap_name`. -/
def tapName (instanceId vmId : String) (nicIndex : Nat) : String :=
  let input := instanceId ++ "\x00" ++ vmId ++ "\x00" ++ toString nicIndex
  "dt" ++ hexEncode ((sha256 (utf8 input)).take 6)

def onOff (enabled : Bool) : String := if enabled then "on" else "off"

-- == preparation

structure PreparedQemuLaunch where
  workdir : String
  platform : CvmPlatform
  networks : List Networking
  volumes : List String
  storageDiscard : Bool
  hugepageNumaNodes : Option (BTreeMap Nat Nat)
  gpuNumaNodes : List (String × String)
  numaCpus : Option String
  swtpm : Option String
  tdxMrConfigId : Option String
  snpHostData : Option String
  snpLaunchParams : Option AmdSevSnpLaunchParams

def findNuma (host : LaunchHost) (device : Option String) : Result (String × String) := do
  let node ← match device with
    | some device => pciNumaNode host device
    | none => pure "0"
  let path := "/sys/devices/system/node/node" ++ node ++ "/cpulist"
  let cpus ← (host.readFile path).context ("Failed to read CPU list from " ++ path)
  pure (node, trim cpus)

section Prepare

variable (host : LaunchHost) (vm : VmConfig Image) (cfg : NodeConfig) (gpus : GpuConfig)

def prepareGpuNodes : Result (List (String × String)) :=
  if vm.manifest.hugepages then
    gpus.gpus.mapM fun slot => (pciNumaNode host slot).map fun node => (slot, node)
  else .ok []

def prepareCpus : Result (Option String) :=
  if vm.manifest.pinNuma then
    (findNuma host gpus.gpus.head?).map fun (_, cpus) => some cpus
  else .ok none

def prepareSwtpm : Result (Option String) :=
  if vm.manifest.swtpm then do
    let path ← host.swtpm.context "tpm key provider requested but swtpm is not installed"
    host.makeSwtpmDir.context "failed to create swtpm state directory"
    host.removeSwtpmSocket.context "failed to remove stale swtpm socket"
    pure (some path)
  else .ok none

def prepareSharedDisk : Result Unit :=
  if cfg.hostShareMode = "vhd" then host.makeSharedDisk else .ok ()

def prepareTdx (platform : CvmPlatform) : Result (Option String) :=
  if vm.manifest.noTee = false ∧ platform = .tdx ∧ cfg.useMrconfigid = true
      ∧ ¬ Mr.Version.before (vm.image.info.version.getD (0, 0, 0)) (0, 5, 2) then
    host.tdxMrConfigId.map some
  else .ok none

def prepareSnp (platform : CvmPlatform) :
    Result (Option String × Option AmdSevSnpLaunchParams) :=
  if vm.manifest.noTee = false ∧ platform = .amdSevSnp then do
    let data ← host.snpHostData
    let params ← host.snpLaunchParams.context
      "failed to detect AMD SEV-SNP cbitpos/reduced-phys-bits from QEMU"
    pure (some data, some params)
  else .ok (none, none)

def prepare (workdir : String) (networks : List Networking) : Result PreparedQemuLaunch := do
  host.makeSharedDir
  let storageDiscard ← host.storageDiscard.context "failed to get app compose"
  let platform := cfg.resolvedPlatform host
  validateResolvedNetworks host.hasInterface networks
  let nodes ← launchNodes host vm.manifest gpus
  let gpuNodes ← prepareGpuNodes host vm gpus
  let cpus ← prepareCpus host vm gpus
  let swtpm ← prepareSwtpm host vm
  prepareSharedDisk host cfg
  host.makeDataDisk
  let mrConfigId ← prepareTdx host vm cfg platform
  let (hostData, launchParams) ← prepareSnp host vm platform
  pure
    { workdir := workdir
      platform := platform
      networks := networks
      volumes := vm.manifest.volumes
      storageDiscard := storageDiscard
      hugepageNumaNodes := nodes
      gpuNumaNodes := gpuNodes
      numaCpus := cpus
      swtpm := swtpm
      tdxMrConfigId := mrConfigId
      snpHostData := hostData
      snpLaunchParams := launchParams }

end Prepare

-- == the builder

/-- `Path::extension`, empty where there is none. -/
def fileExtension (path : String) : String :=
  let parts := (path.toList.splitOn '/').filter fun part => part ≠ [] ∧ part ≠ ['.']
  let name := parts.getLast?.getD []
  if name = ['.', '.'] then ""
  else
    match name.reverse.span (· ≠ '.') with
    | (extension, _ :: _ :: _) => String.ofList extension.reverse
    | _ => ""

/-- A number with its `0x` (`format!("{:#x}")`). -/
def hexNumber (n : Nat) : String := "0x" ++ hexPadded 0 n

section Builder

variable (host : LaunchHost) (vm : VmConfig Image) (cfg : NodeConfig) (gpus : GpuConfig)
  (p : PreparedQemuLaunch)

def isAmdSevSnp : Bool := p.platform = .amdSevSnp ∧ vm.manifest.noTee = false

def baseCommand : List Arg :=
  let snp := isAmdSevSnp vm p
  [.opt "-accel" "kvm",
   .opt "-cpu" (if snp then "EPYC-v4" else "host"),
   .flag "-nographic",
   .flag "-nodefaults",
   .opt "-chardev" ("pty,id=com0,path=" ++ joinPath p.workdir "serial.pty" ++ ",logfile="
     ++ joinPath p.workdir "serial.log" ++ ",logappend=on"),
   .opt "-serial" "chardev:com0"]
  ++ (if cfg.qmpSocket then
        [.opt "-qmp" ("unix:" ++ joinPath p.workdir "qmp.sock" ++ ",server,wait=off")]
      else [])
  ++ (vm.image.firmware snp).toList.map (.opt "-bios" ·)
  ++ [.opt "-kernel" vm.image.kernel, .opt "-initrd" vm.image.initrd]
  ++ (if cfg.qemuHotplugOff then
        [.opt "-global" "ICH9-LPC.acpi-pci-hotplug-with-bridge-support=off"]
      else [])
  ++ (if 0 < cfg.qemuPciHole64Size then
        [.opt "-global" ("q35-pcihost.pci-hole64-size=" ++ hexNumber cfg.qemuPciHole64Size)]
      else [])

def configureRootfs : Result (List Arg) :=
  match vm.image.rootfs with
  | none => .ok []
  | some rootfs => do
      Result.ensure (fileExtension rootfs = "verity")
        ("Unsupported rootfs type: " ++ fileExtension rootfs)
      pure
        [.opt "-drive" ("file=" ++ rootfs ++ ",if=none,id=hd0,format=raw,readonly=on"),
         virtioPciDevice .virtioBlkPci [("drive", "hd0")] (isAmdSevSnp vm p)]

def configureDataDisk : List Arg :=
  [.opt "-drive" ("file=" ++ joinPath p.workdir "hda.img" ++ ",if=none,id=hd1,discard="
     ++ if p.storageDiscard then "unmap" else "ignore"),
   virtioPciDevice .virtioBlkPci [("drive", "hd1")] (isAmdSevSnp vm p)]

def configureVolume (source : String) (index : Nat) : List Arg :=
  let id := "vol" ++ toString index
  [.opt "-drive" ("file=" ++ source ++ ",if=none,id=" ++ id ++ ",format=raw,readonly=on"),
   virtioPciDevice .virtioBlkPci [("drive", id)] (isAmdSevSnp vm p)]

def configureVolumes : List Arg :=
  p.volumes.zipIdx.flatMap fun (source, index) => configureVolume vm p source index

def ingressMappings (index : Nat) : List PortMapping :=
  vm.manifest.portMap.filter fun mapping => ingressNic mapping p.networks = some index

def netdev (networking : Networking) (index : Nat) : Result String :=
  let netId := "net" ++ toString index
  let fds := (nicFdLayout p.networks)[index]?
  let vhost := onOff networking.vhostEnabled
  match networking.nic.mode with
  | .user =>
    let hostfwd (m : PortMapping) : String := ",hostfwd=" ++ m.protocol.asStr ++ ":"
      ++ host.ip.display m.address ++ ":" ++ toString m.fromPort ++ "-:" ++ toString m.toPort
    .ok ("user,id=" ++ netId ++ ",net=" ++ networking.net ++ ",dhcpstart="
      ++ networking.dhcpStart ++ ",restrict=" ++ (if networking.restrict then "yes" else "no")
      ++ String.join ((ingressMappings vm p index).map hostfwd))
  | .bridge =>
    .ok ("tap,id=" ++ netId ++ ",ifname="
      ++ tapName cfg.instanceId vm.manifest.id (asU32 index)
      ++ ",script=no,downscript=no,vhost=" ++ vhost
      ++ if 1 < networking.queuePairs then ",queues=" ++ toString networking.queuePairs else "")
  | .passt => do
      let fd ← Result.ofOption (fds.bind List.head?)
        ("passt interface " ++ toString index ++ " has no launcher descriptor")
      pure ("stream,id=" ++ netId ++ ",server=off,addr.type=fd,addr.str=" ++ toString fd)
  | .custom => do
      Result.ensure (containsText networking.netdev ("id=" ++ netId) = true)
        ("custom networking netdev must contain id=" ++ netId ++ " for interface index "
          ++ toString index)
      pure networking.netdev
  | .macvtap => do
      Result.ensure (networking.device ≠ "")
        ("macvtap interface " ++ toString index ++ " has not been prepared by netd")
      let fds ← Result.ofOption (fds.filter (· ≠ []))
        ("macvtap interface " ++ toString index ++ " has no launcher descriptors")
      let selector := match fds with
        | [fd] => "fd=" ++ toString fd
        | fds => "fds=" ++ ":".intercalate (fds.map toString)
      pure ("tap,id=" ++ netId ++ "," ++ selector ++ ",vhost=" ++ vhost)

def configureNic (networking : Networking) (index : Nat) : Result (List Arg) := do
  let netId := "net" ++ toString index
  let mac := macAddressForVmIndex vm.manifest.id networking.macPrefixBytes index
  let queues := networking.queuePairs
  let backend ← netdev host vm cfg p networking index
  pure
    [.opt "-netdev" backend,
     virtioPciDevice .virtioNetPci ([("netdev", netId), ("mac", mac)]
       ++ if 1 < queues then [("mq", "on"), ("vectors", toString (2 * queues + 2))] else [])
       (isAmdSevSnp vm p)]

def configureNetworking : Result (List Arg) := do
  let nics ← p.networks.zipIdx.mapM fun (networking, index) =>
    configureNic host vm cfg p networking index
  pure nics.flatten

def smbiosType (type : Nat) (entries : List (String × Option String)) : List Arg :=
  let set := entries.filterMap fun (name, value) => value.map fun value => name ++ "=" ++ value
  if set = [] then []
  else [.opt "-smbios" ("type=" ++ toString type ++ "," ++ ",".intercalate set)]

def configureSmbios : List Arg :=
  smbiosType 0
    [("vendor", cfg.product.biosVendor), ("version", cfg.product.biosVersion),
     ("date", cfg.product.biosDate), ("release", cfg.product.biosRelease)]
  ++ smbiosType 1
    [("manufacturer", cfg.product.sysVendor), ("product", cfg.product.productName),
     ("version", cfg.product.productVersion), ("serial", cfg.product.productSerial),
     ("uuid", cfg.product.productUuid), ("family", cfg.product.productFamily),
     ("sku", cfg.product.productSku)]
  ++ smbiosType 2
    [("manufacturer", cfg.product.boardVendor), ("product", cfg.product.boardName),
     ("version", cfg.product.boardVersion), ("serial", cfg.product.boardSerial),
     ("asset", cfg.product.boardAssetTag)]
  ++ smbiosType 3
    [("manufacturer", cfg.product.chassisVendor), ("version", cfg.product.chassisVersion),
     ("serial", cfg.product.chassisSerial), ("asset", cfg.product.chassisAssetTag)]

def swtpmSocket : String := joinPath (joinPath p.workdir "swtpm") "swtpm.sock"

def configureTpm : List Arg :=
  if p.swtpm.isSome then
    [.opt "-chardev" ("socket,id=chrtpm,path=" ++ swtpmSocket p),
     .opt "-tpmdev" "emulator,id=tpm0,chardev=chrtpm",
     .device ⟨.tpmTis, [("tpmdev", "tpm0")]⟩]
  else []

def configureVsock : List Arg :=
  [virtioPciDevice .vhostVsockPci [("guest-cid", toString vm.cid)] (isAmdSevSnp vm p)]

def configureHostShare : Result (List Arg) :=
  let sharedDir := joinPath p.workdir "shared"
  let snp := isAmdSevSnp vm p
  if cfg.hostShareMode = "9p" then
    .ok [.opt "-virtfs" ("local,path=" ++ sharedDir ++ ",mount_tag=host-shared,readonly="
      ++ onOff vm.image.info.sharedRo ++ ",security_model=mapped,id=virtfs0")]
  else if cfg.hostShareMode = "vvfat" then
    .ok
      [.opt "-blockdev" ("driver=vvfat,node-name=vvfat0,read-only=on,dir=" ++ sharedDir
         ++ ",label=DSTACKSHR"),
       virtioPciDevice .virtioBlkPci [("drive", "vvfat0")] snp]
  else if cfg.hostShareMode = "vhd" then
    .ok
      [.opt "-drive" ("file=" ++ joinPath p.workdir "shared.img"
         ++ ",if=none,id=hd2,format=raw,readonly=on"),
       virtioPciDevice .virtioBlkPci [("drive", "hd2")] snp]
  else .error ("Invalid host sharing mode: " ++ cfg.hostShareMode)

def configureNode (vcpusPerNode memoryPerNode node bus index : Nat) : List Arg :=
  let i := toString index
  [.opt "-numa" ("node,nodeid=" ++ i ++ ",cpus=" ++ toString (index * vcpusPerNode) ++ "-"
     ++ toString ((index + 1) * vcpusPerNode - 1) ++ ",memdev=mem" ++ i),
   .opt "-object" ("memory-backend-file,id=mem" ++ i ++ ",size=" ++ toString memoryPerNode
     ++ "G,mem-path=/dev/hugepages,share=on,prealloc=yes,host-nodes=" ++ toString node
     ++ ",policy=bind"),
   .device ⟨.pxbPcie,
     [("id", "pcie.node" ++ toString node), ("bus", "pcie.0"), ("addr", hexNumber (0x10 + index)),
      ("numa_node", i), ("bus_nr", toString bus)]⟩]

/-- The arguments, with the values for `-smp` and `-m`. -/
def configureHugepageMemory : Result (List Arg × Nat × Nat) :=
  let smp := effectiveVcpuCount vm.manifest.vcpu (nodeCount p.hugepageNumaNodes)
  if vm.manifest.hugepages = false then .ok ([], smp, vm.manifest.memory)
  else do
    let nodes ← Result.ofOption p.hugepageNumaNodes
      "hugepage NUMA nodes should be computed during launch preparation"
    let count := asU32 nodes.entries.length
    let memoryMb := effectiveMemoryMb vm.manifest.memory (some count)
    let buses ← pxbBuses nodes
    let args := ((nodes.entries.map Prod.fst).zip buses).zipIdx.flatMap fun ((node, bus), index) =>
      configureNode (smp / count) (memoryMb / 1024 / count) node bus index
    pure (args, smp, memoryMb)

/-- The `tdx-guest` object, as JSON. -/
def tdxGuestObject : String :=
  "\x7b\"qom-type\":\"tdx-guest\",\"id\":\"tdx\""
    ++ String.join (p.tdxMrConfigId.toList.map fun id => ",\"mrconfigid\":" ++ jsonString id)
    ++ String.join (cfg.qgsPort.toList.map fun port =>
        ",\"quote-generation-socket\":\x7b\"type\":\"vsock\",\"cid\":\"2\",\"port\":\""
          ++ toString port ++ "\"\x7d")
    ++ "\x7d"

def configureMachine (mem : Nat) : Result (List Arg) :=
  if vm.manifest.noTee then .ok [.opt "-machine" "q35,kernel-irqchip=split,hpet=off"]
  else
    match p.platform with
    | .tdx => .ok
        [.opt "-machine" "q35,kernel-irqchip=split,confidential-guest-support=tdx,hpet=off",
         .opt "-object" (tdxGuestObject cfg p)]
    | .amdSevSnp => do
        let hostData ← Result.ofOption p.snpHostData
          "snp host data should be computed during launch preparation"
        let params ← Result.ofOption p.snpLaunchParams
          "snp launch parameters should be detected during launch preparation"
        pure
          [.opt "-object" ("memory-backend-memfd,id=ram1,size=" ++ toString mem
             ++ "M,share=true,prealloc=false"),
           .opt "-object" ("sev-snp-guest,id=sev0,policy=0x30000,sev-device=/dev/sev,"
             ++ "kernel-hashes=on,host-data=" ++ hostData ++ ",cbitpos=" ++ toString params.cbitpos
             ++ ",reduced-phys-bits=" ++ toString params.reducedPhysBits),
           .opt "-machine" ("q35,kernel-irqchip=split,confidential-guest-support=sev0,"
             ++ "memory-backend=ram1,hpet=off")]

def passthrough (slot bus : String) (number : Nat) : List Arg :=
  let port := "pci." ++ toString number
  [.device ⟨.pcieRootPort, [("id", port), ("bus", bus), ("chassis", toString number)]⟩,
   .device ⟨.vfioPci, [("host", slot), ("bus", port), ("iommufd", "iommufd0")]⟩]

def gpuBus (slot : String) : Result String :=
  if vm.manifest.hugepages then do
    let node ← Result.ofOption (p.gpuNumaNodes.lookup slot)
      "gpu NUMA node should be computed during launch preparation"
    pure ("pcie.node" ++ node)
  else .ok "pcie.0"

def configureGpu (slot : String) (index : Nat) : Result (List Arg) := do
  let bus ← gpuBus vm p slot
  pure (passthrough slot bus (index + 1))

def configureGpus : Result (List Arg) :=
  if gpus.gpus = [] then .ok []
  else do
    let attached ← gpus.gpus.zipIdx.mapM fun (slot, index) => configureGpu vm p slot index
    let bridges := gpus.bridges.zipIdx.map fun (slot, index) =>
      passthrough slot "pcie.0" (gpus.gpus.length + index + 1)
    pure (.opt "-object" "iommufd,id=iommufd0" :: (attached ++ bridges).flatten)

def build : Result (List Arg) := do
  let rootfs ← configureRootfs vm p
  let networking ← configureNetworking host vm cfg p
  let hostShare ← configureHostShare vm cfg p
  let (memory, smp, mem) ← configureHugepageMemory vm p
  let machine ← configureMachine vm cfg p mem
  let passedThrough ← configureGpus vm gpus p
  pure (baseCommand vm cfg p ++ rootfs ++ configureDataDisk vm p ++ configureVolumes vm p
    ++ networking ++ configureSmbios cfg ++ configureTpm p ++ configureVsock vm p ++ hostShare
    ++ memory ++ machine ++ passedThrough
    ++ [.opt "-smp" (toString smp), .opt "-m" (toString mem ++ "M")]
    ++ vm.image.info.cmdline.toList.map (.opt "-append" ·))

end Builder

-- == the process

structure ChildCommand where
  command : String
  args : List String
  deriving DecidableEq

inductive SidecarChannel where
  | listen (socket : String)
  | socketpair (qemuFd : Nat)
  deriving DecidableEq

structure Sidecar where
  name : String
  command : ChildCommand
  channel : SidecarChannel
  deriving DecidableEq

structure OpenFile where
  fd : Nat
  path : String
  deriving DecidableEq

/-- A launch: QEMU's arguments, the process they are run in, and what the
launcher starts and opens beside it, where there is something. -/
structure Launch where
  qemu : List Arg
  process : ChildCommand
  sidecars : List Sidecar
  openFiles : List OpenFile
  started : ChildCommand

section Processes

variable (host : LaunchHost) (vm : VmConfig Image) (cfg : NodeConfig) (p : PreparedQemuLaunch)

/-- `process_config`. -/
def processConfig (qemu : List Arg) : ChildCommand :=
  let args := qemu.flatMap Arg.words
  match p.numaCpus with
  | some cpus => ⟨"taskset", ["-c", cpus, cfg.qemuPath] ++ args⟩
  | none => ⟨cfg.qemuPath, args⟩

def swtpmSidecar (path : String) : Sidecar where
  name := "swtpm"
  command := ⟨path,
    ["socket", "--tpm2", "--tpmstate", "dir=" ++ joinPath p.workdir "swtpm", "--ctrl",
     "type=unixio,path=" ++ swtpmSocket p ++ ",mode=0600,uid=" ++ toString host.uid ++ ",gid="
       ++ toString host.gid,
     "--flags", "not-need-init,startup-clear"]⟩
  channel := .listen (swtpmSocket p)

def sidecarFd : Nat := 3

def passtOption (name value : String) : List String := if value = "" then [] else [name, value]

def passtPorts (m : PortMapping) : List String :=
  [match m.protocol with
    | .tcp => "--tcp-ports"
    | .udp => "--udp-ports",
   host.ip.display m.address ++ "/" ++ toString m.fromPort ++ ":" ++ toString m.toPort]

def passtSidecar (networking : Networking) (index qemuFd : Nat) : Result Sidecar := do
  Result.ensure (cfg.passtPath ≠ "") "passt networking requested but passt is not installed"
  pure
    { name := "passt-net" ++ toString index
      command := ⟨cfg.passtPath,
        ["--foreground", "--quiet", "--fd", toString sidecarFd]
        ++ passtOption "--interface" networking.interface
        ++ passtOption "--address" networking.address
        ++ passtOption "--netmask" networking.netmask
        ++ passtOption "--gateway" networking.gateway
        ++ passtOption "--map-host-loopback" networking.mapHostLoopback
        ++ passtOption "--map-guest-addr" networking.mapGuestAddr
        ++ networking.dns.flatMap (["--dns", ·])
        ++ (if networking.noMapGw then ["--no-map-gw"] else [])
        ++ (if networking.ipv4Only then ["--ipv4-only"] else [])
        ++ (ingressMappings vm p index).flatMap (passtPorts host)⟩
      channel := .socketpair qemuFd }

def nicSidecar (networking : Networking) (fds : List Nat) (index : Nat) :
    Result (List Sidecar) :=
  match networking.nic.mode, fds with
  | .passt, fd :: _ => (passtSidecar host vm cfg p networking index fd).map ([·])
  | _, _ => .ok []

def nicOpenFiles (networking : Networking) (fds : List Nat) : List OpenFile :=
  if networking.nic.mode = .macvtap then fds.map fun fd => ⟨fd, networking.device⟩ else []

/-- `wrap_launcher`. -/
def wrapLauncher : Result ChildCommand := do
  host.writeLaunchSpec.context "failed to write VM launch specification"
  let exe ← host.currentExe.context "failed to locate dstack-vmm executable"
  pure ⟨exe, ["vm-launcher", "--spec", joinPath p.workdir "launch.json"]⟩

def startedProcess (process : ChildCommand) (direct : Bool) : Result ChildCommand :=
  if direct then .ok process else wrapLauncher host p

end Processes

def configQemu (host : LaunchHost) (vm : VmConfig Image) (workdir : String) (cfg : NodeConfig)
    (gpus : GpuConfig) (networks : List Networking) : Result Launch := do
  let p ← prepare host vm cfg gpus workdir networks
  let qemu ← build host vm cfg gpus p
  let nics := p.networks.zip (nicFdLayout p.networks)
  let passt ← nics.zipIdx.mapM fun ((networking, fds), index) =>
    nicSidecar host vm cfg p networking fds index
  let sidecars := p.swtpm.toList.map (swtpmSidecar host p) ++ passt.flatten
  let process := processConfig cfg p qemu
  let direct := sidecars.isEmpty && !networks.any (·.nic.mode = .macvtap)
  let started ← startedProcess host p process direct
  pure
    { qemu := qemu
      process := process
      sidecars := sidecars
      openFiles := nics.flatMap fun (networking, fds) => nicOpenFiles networking fds
      started := started }

end Dstack.Vmm
