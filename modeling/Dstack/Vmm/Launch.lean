/-
What a VM is launched from: the node's configuration, the OS image and
the host's NUMA nodes (`vmm/src/config.rs`, `vmm/src/app/image.rs`,
`vmm/src/app.rs`).

With huge pages a VM gets one guest NUMA node, with a PCIe expander of its
own, for each host node that its GPUs are on. CPUs and memory are rounded
so that they split evenly. Both the QEMU command line and the VM's
description (`makeVmConfig`) are computed from these functions.
-/
import Dstack.Vmm.Deploy

namespace Dstack.Vmm

open Lib

-- == configuration

inductive CvmPlatform where
  | tdx
  | amdSevSnp
  deriving DecidableEq

inductive TdxAttestationVariantConfig where
  | legacy
  | lite
  | auto
  deriving DecidableEq

def TdxAttestationVariantConfig.resolve (imageSupportsLite : Bool) :
    TdxAttestationVariantConfig → TdxAttestationVariant
  | .legacy => .legacy
  | .lite => .lite
  | .auto => if imageSupportsLite then .lite else .legacy

/-- What the guest sees under `/sys/class/dmi/id`. -/
structure ProductConfig where
  biosVendor : Option String := none
  biosVersion : Option String := none
  biosDate : Option String := none
  biosRelease : Option String := none
  sysVendor : Option String := none
  productName : Option String := none
  productVersion : Option String := none
  productSerial : Option String := none
  productUuid : Option String := none
  productFamily : Option String := none
  productSku : Option String := none
  boardVendor : Option String := none
  boardName : Option String := none
  boardVersion : Option String := none
  boardSerial : Option String := none
  boardAssetTag : Option String := none
  chassisVendor : Option String := none
  chassisVersion : Option String := none
  chassisSerial : Option String := none
  chassisAssetTag : Option String := none
  deriving DecidableEq

/-- The part of `[cvm]` that a launch reads. -/
structure NodeConfig extends CvmConfig where
  platform : Option CvmPlatform
  instanceId : String
  qemuPath : String
  passtPath : String
  qmpSocket : Bool
  hostShareMode : String
  qgsPort : Option Nat
  useMrconfigid : Bool
  tdxAttestationVariant : TdxAttestationVariantConfig
  qemuSinglePassAddPages : Option Bool
  qemuPic : Option Bool
  qemuVersion : Option String
  qemuPciHole64Size : Nat
  qemuHotplugOff : Bool
  product : ProductConfig

structure ImageInfo where
  cmdline : Option String := none
  sharedRo : Bool := false
  version : Option (Nat × Nat × Nat) := none
  ovmfVariant : Option OvmfVariant := none
  deriving DecidableEq

structure AwsPcrReplay where
  pcr4 : Bytes
  pcr7 : Bytes
  pcr12 : Bytes
  deriving DecidableEq

structure GcpTpmReplay where
  eventLog : Bytes
  deriving DecidableEq

structure Image where
  info : ImageInfo := {}
  kernel : String
  initrd : String
  rootfs : Option String := none
  bios : Option String := none
  biosSev : Option String := none
  digest : Option String := none
  tdxMeasurement : Option TdxOsImageMeasurementDocument := none
  sevMeasurement : Option SevOsImageMeasurementDocument := none
  gcpMeasurement : Option GcpOsImageMeasurementDocument := none
  awsMeasurement : Option AwsOsImageMeasurementDocument := none
  awsPcrReplay : Option AwsPcrReplay := none
  gcpTpmReplay : Option GcpTpmReplay := none
  deriving DecidableEq

def Image.firmware (image : Image) (isAmdSevSnp : Bool) : Option String :=
  if isAmdSevSnp then image.biosSev.or image.bios else image.bios

structure AmdSevSnpLaunchParams where
  cbitpos : Nat
  reducedPhysBits : Nat
  deriving DecidableEq

/-- The host as a launch finds it. -/
structure LaunchHost where
  platform : CvmPlatform
  qemuVersion : String → Result String
  readFile : String → Result String
  hasInterface : String → Bool
  ip : IpText
  /-- `storage_discard` of the VM's app-compose file. -/
  storageDiscard : Result Bool
  makeSharedDir : Result Unit
  makeSharedDisk : Result Unit
  makeDataDisk : Result Unit
  swtpm : Result String
  makeSwtpmDir : Result Unit
  removeSwtpmSocket : Result Unit
  tdxMrConfigId : Result String
  snpHostData : Result String
  snpLaunchParams : Result AmdSevSnpLaunchParams
  writeLaunchSpec : Result Unit
  currentExe : Result String
  uid : Nat
  gid : Nat

def NodeConfig.resolvedPlatform (cfg : NodeConfig) (host : LaunchHost) : CvmPlatform :=
  cfg.platform.getD host.platform

def NodeConfig.resolveQemuVersion (cfg : NodeConfig) (host : LaunchHost) : Result String :=
  match cfg.qemuVersion with
  | some version => .ok version
  | none => (host.qemuVersion cfg.qemuPath).context ("failed to detect the QEMU version of "
      ++ cfg.qemuPath ++ "; set `qemu_version` in vmm.toml to declare it explicitly")

/-- `try_allocate_gpus`. -/
def allocateGpus (cfg : NodeConfig) (manifest : Manifest) : GpuConfig :=
  if cfg.gpu.enabled then manifest.gpus.getD {} else {}

-- == NUMA nodes

/-- `as u32`. -/
def asU32 (n : Nat) : Nat := n % 2 ^ 32

def roundUp (value multiple : Nat) : Nat :=
  if multiple ≤ 1 ∨ value % multiple = 0 then value
  else
    let next := value + (multiple - value % multiple)
    if next < 2 ^ 32 then next else value

def isHexDigit (c : Char) : Bool :=
  c.isDigit || ('a' ≤ c && c ≤ 'f') || ('A' ≤ c && c ≤ 'F')

def isSlotChar (c : Char) : Bool := isHexDigit c || c = ':' || c = '.'

section Host

variable (host : LaunchHost)

def pciNumaNode (device : String) : Result String := do
  Result.ensure (device.toList.all isSlotChar = true) "Invalid device string"
  let path := "/sys/bus/pci/devices/0000:" ++ device ++ "/numa_node"
  let text ← (host.readFile path).context ("Failed to read NUMA node from " ++ path)
  pure (if trim text = "-1" then "0" else trim text)

def countGpu (nodes : BTreeMap Nat Nat) (slot : String) : Result (BTreeMap Nat Nat) := do
  let text ← pciNumaNode host slot
  let node ← (parseU32 text.toList).context ("invalid NUMA node of " ++ slot)
  pure (nodes.insert node ((nodes.get? node).getD 0 + 1))

def hugepageNumaNodes (gpus : GpuConfig) : Result (BTreeMap Nat Nat) := do
  let nodes ← gpus.gpus.foldlM (countGpu host) BTreeMap.empty
  pure (if nodes.isEmpty then nodes.insert 0 0 else nodes)

end Host

def firstPxbBus : Nat := 5

/-- An expander takes its own bus and one for each of its GPUs; with the
first bus behind all of them. -/
def assignBuses : Nat → List Nat → Option (List Nat × Nat)
  | next, [] => some ([], next)
  | next, gpus :: rest =>
    if next < 256 then
      (assignBuses (next + (gpus + 1)) rest).map fun (buses, last) => (next :: buses, last)
    else none

def pxbBuses (numaNodes : BTreeMap Nat Nat) : Result (List Nat) :=
  match assignBuses firstPxbBus (numaNodes.entries.map Prod.snd) with
  | some (buses, next) =>
    if next ≤ 0x100 then .ok buses
    else .error ("the PXB bus ranges of " ++ toString numaNodes.entries.length
      ++ " NUMA nodes exceed bus 255")
  | none => .error ("the PXB bus ranges of " ++ toString numaNodes.entries.length
      ++ " NUMA nodes exceed bus 255")

/-- `u32::saturating_mul`. -/
def saturatingMul (a b : Nat) : Nat := min (a * b) (2 ^ 32 - 1)

def effectiveMemoryMb (requestedMb : Nat) : Option Nat → Nat
  | some nodes => saturatingMul (roundUp (requestedMb / 1024) (max nodes 1)) 1024
  | none => requestedMb

def effectiveVcpuCount (requestedVcpu : Nat) : Option Nat → Nat
  | some nodes => roundUp (max requestedVcpu 1) (max nodes 1)
  | none => max requestedVcpu 1

def launchNodes (host : LaunchHost) (manifest : Manifest) (gpus : GpuConfig) :
    Result (Option (BTreeMap Nat Nat)) :=
  if manifest.hugepages then (hugepageNumaNodes host gpus).map some else .ok none

/-- `nodes.len() as u32`. -/
def nodeCount (nodes : Option (BTreeMap Nat Nat)) : Option Nat :=
  nodes.map fun nodes => asU32 nodes.entries.length

end Dstack.Vmm
