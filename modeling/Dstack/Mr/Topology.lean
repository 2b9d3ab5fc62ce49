/-
The topology that ACPI tables are generated for (`qemu-acpi`:
`topology.rs`, and the root bus of `dsdt/mod.rs` and `dsdt/notify.rs`).

Of the tables only the root bus is modelled: how many slots from 0 on are
taken by regular devices, which slots and bus numbers the PCIe expanders
have, and what follows behind the regular devices. Their bytes stay with
the generator, which is a parameter.
-/
import Dstack.Lib.Intervals
import Dstack.Mr.Machine

namespace Dstack.Mr

open Lib

/-- The bus of the expander that `hugepages` and GPUs alone imply. -/
def legacyPxbBus : Nat := 5

def firstPxbSlot : Nat := 0x10

def lpcSlot : Nat := 0x1f

def maxNumaNodes : Nat := 128

namespace MachineConfig

variable (c : MachineConfig)

def numaLayout : List NumaNodeConfig :=
  if c.numaNodes ≠ [] ∨ c.hugepages = false then c.numaNodes
  else [{ pxbBus := if 0 < c.numGpus then some legacyPxbBus else none }]

def pxbBuses : List Nat := c.numaLayout.filterMap (·.pxbBus)

-- == validation

def unevenNumaSplit (what : String) (count nodes : Nat) : String :=
  what ++ " (" ++ toString count ++ ") must split evenly across " ++ toString nodes
    ++ " NUMA nodes"

def validateNuma : Result Unit :=
  let nodes := c.numaNodes.length
  if nodes = 0 then .ok ()
  else do
    Result.ensure (nodes ≤ maxNumaNodes)
      (toString nodes ++ " NUMA nodes exceed QEMU's limit of 128")
    let pxbs := (c.numaNodes.filter (·.pxbBus.isSome)).length
    Result.ensure (pxbs = 0 ∨ pxbs = nodes)
      "NUMA nodes must either all have a PXB expander or none"
    Result.ensure (c.cpuCount % nodes = 0) (unevenNumaSplit "cpu_count" c.cpuCount nodes)
    Result.ensure (c.memorySize % nodes = 0) (unevenNumaSplit "memory_size" c.memorySize nodes)
    let buses := c.pxbBuses
    Result.ensure (buses.length ≤ lpcSlot - firstPxbSlot)
      (toString buses.length ++ " PXB expanders do not fit on the root bus")
    Result.ensure (buses.Nodup ∧ 0 ∉ buses)
      ("PXB bus numbers must be nonzero and distinct: " ++ debugList (buses.map toString))

/-- The GPU and NVSwitch root ports on the root bus. GPUs sit behind the
expanders where there are any. -/
def passthroughPorts : Nat :=
  if 0 < c.pxbBuses.length then c.numNvswitches else c.numGpus + c.numNvswitches

def fixedSlots : Nat := 4 + if c.rootVerity then 1 else 0

def extraRootPorts : Nat := (c.extraRootDevices.filter (· = .rootPort)).length

def rootBusDemand : Int :=
  c.numNics + c.numVerityVolumes + ((if c.rootVerity then 1 else 0) - 1) + c.passthroughPorts
    + c.extraRootDevices.length

def validate : Result Unit := do
  Result.ensure (c.cpuCount ≠ 0) "cpu_count must be greater than zero"
  Result.ensure (c.memorySize ≠ 0) "memory_size must be greater than zero"
  Result.ensure (c.cpuCount ≤ 4096)
    ("cpu_count exceeds the Q35 limit of 4096: " ++ toString c.cpuCount)
  c.validateNuma
  let pxbs := c.pxbBuses.length
  Result.ensure (¬(pxbs = 1 ∧ 32 < c.numGpus))
    ("the requested topology needs " ++ toString c.numGpus
      ++ " GPU root ports on the PXB, but QEMU supports at most 32")
  let beforePxb := c.fixedSlots + c.numNics + c.numVerityVolumes
  Result.ensure (¬(0 < pxbs ∧ 16 < beforePxb))
    ("the requested topology places " ++ toString beforePxb
      ++ " devices before the fixed-address PXB, but QEMU has only 16 slots there")
  let available : Int := 26 - pxbs
  Result.ensure (c.rootBusDemand ≤ available)
    ("the requested topology needs " ++ toString c.rootBusDemand
      ++ " devices on the root PCIe bus, but QEMU has only " ++ toString available
      ++ " free slots")
  Result.ensure (¬(0 < c.numNvswitches ∧ c.numGpus = 0))
    "NVSwitch passthrough requires an iommufd object, but no GPU creates one"
  Result.ensure (¬(c.hotplugOff = false ∧ 0 < c.passthroughPorts + c.extraRootPorts))
    "PCI hotplug on root ports is not modeled; set hotplug_off for GPU passthrough"

end MachineConfig

/-- `qemu_acpi::build`. -/
def acpiBuild (generate : MachineConfig → Result Tables) : AcpiBuild := fun c => do
  c.validate
  generate c

-- == the root bus

structure RootBus where
  slotCount : Nat
  pxbBuses : List Nat
  trailing : List RootBusDevice
  deriving DecidableEq

/-- From `dsdt::body`. -/
def MachineConfig.rootBus (c : MachineConfig) : RootBus where
  slotCount := c.fixedSlots + c.numNics + c.numVerityVolumes
  pxbBuses := c.pxbBuses
  trailing := List.replicate (if c.pxbBuses ≠ [] then c.numNvswitches
    else c.numGpus + c.numNvswitches) .rootPort ++ c.extraRootDevices

def RootBus.expanders (bus : RootBus) : List (Nat × Nat) :=
  bus.pxbBuses.mapIdx fun i pxbBus => (firstPxbSlot + i, pxbBus)

def skipPxbSlots (pxbCount slot : Nat) : Nat :=
  if firstPxbSlot ≤ slot ∧ slot < firstPxbSlot + pxbCount then skipPxbSlots pxbCount (slot + 1)
  else slot
termination_by firstPxbSlot + pxbCount - slot

def trailingSlots (pxbCount : Nat) : Nat → List RootBusDevice → List Nat
  | _, [] => []
  | slot, _ :: rest =>
    let slot := skipPxbSlots pxbCount slot
    slot :: trailingSlots pxbCount (slot + 1) rest

def chipsetDevfns : List Nat := [0xf8, 0xfa, 0xfb]

/-- The devices of `notify::build`, each with its devfn and whether it is a
root port. -/
def RootBus.devices (bus : RootBus) : List (Nat × Bool) :=
  let devfn := fun slot => slot * 8 % 256
  let pxbCount := bus.pxbBuses.length % 256
  Intervals.sortByStart Prod.fst
    ((List.range bus.slotCount).map (fun slot => (devfn slot, false))
      ++ (List.range pxbCount).map (fun i => (devfn (firstPxbSlot + i), false))
      ++ List.zipWith (fun slot device => (devfn slot, decide (device = RootBusDevice.rootPort)))
        (trailingSlots pxbCount bus.slotCount bus.trailing) bus.trailing
      ++ chipsetDevfns.map (·, false))

-- == machines

/-- What `build_tables` gives to the generator. -/
def Machine.config (m : Machine) : Result MachineConfig := do
  Result.ensure (m.swtpm = false) "swtpm measurement is not supported"
  let options ← m.versionedOptions.context "failed to get QEMU-versioned options"
  Result.ensure (m.hostShareMode ∈ ["", "9p", "vvfat", "vhd"])
    ("invalid shared disk mode: " ++ m.hostShareMode)
  pure
    { qemuVersion := options.version
      cpuCount := m.cpuCount
      memorySize := m.memorySize
      pic := options.pic
      smm := m.smm
      hugepages := m.hugepages
      numaNodes := m.numaNodes
      numGpus := m.numGpus
      numNvswitches := m.numNvswitches
      numNics := m.numNics
      numVerityVolumes := m.numVerityVolumes
      extraRootDevices := m.extraRootDevices
      hotplugOff := m.hotplugOff
      rootVerity := m.rootVerity
      pciHole64Size := m.pciHole64Size }

lemma Machine.buildTables_eq (acpi : AcpiBuild) (m : Machine) :
    m.buildTables acpi = m.config >>= fun c =>
      (acpi c).context "failed to generate QEMU ACPI tables" := by
  unfold Machine.buildTables Machine.config
  simp only [bind_assoc, pure_bind]

end Dstack.Mr
