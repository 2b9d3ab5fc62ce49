/-
The machine a measurement is computed for (`dstack-mr`: `machine.rs`,
`acpi.rs`, `util.rs`, `num.rs`).

A `Machine` is the shape of a VM. Two of its options have defaults that
follow the QEMU version, and `versionedOptions` settles them. The ACPI
generator is a parameter: the tables it returns are only hashed here.
-/
import Dstack.Types

namespace Dstack.Mr

open Lib

-- == utilities

def measureSha384 (data : Bytes) : Bytes := sha384 data

def utf16Units (c : Char) : List Nat :=
  if c.toNat < 0x10000 then [c.toNat]
  else [0xd800 + (c.toNat - 0x10000) / 0x400, 0xdc00 + (c.toNat - 0x10000) % 0x400]

def utf16Encode (input : String) : Bytes :=
  (input.toList.flatMap utf16Units).flatMap (leBytes 2)

def measureLog (log : List Bytes) : Bytes := Sha384.replay log

/-- A little-endian integer of `width` bytes at an index. -/
def readLe (width : Nat) (data : Bytes) (index : Nat) (name : String) :
    Result Nat := do
  Result.ensure (index ≤ data.length) ("Missing " ++ name)
  Result.ensure (width ≤ (data.drop index).length) ("Invalid " ++ name)
  pure (leNat ((data.drop index).take width))

-- == machine

structure Machine where
  cpuCount : Nat
  memorySize : Nat
  firmware : String
  kernel : String
  initrd : String
  kernelCmdline : String
  twoPassAddPages : Option Bool
  normalizedSetupHeader : Bool := false
  pic : Option Bool
  qemuVersion : Option String
  smm : Bool := false
  pciHole64Size : Option Nat
  hugepages : Bool
  numaNodes : List NumaNodeConfig := []
  numGpus : Nat
  numNvswitches : Nat
  numNics : Nat := 1
  numVerityVolumes : Nat := 0
  extraRootDevices : List RootBusDevice := []
  swtpm : Bool := false
  hotplugOff : Bool
  rootVerity : Bool
  hostShareMode : String := ""
  ovmfVariant : OvmfVariant := .pre202505

abbrev Version := Nat × Nat × Nat

def versionPart : List (List Char) → Result (Nat × List (List Char))
  | [] => .error "Version string must have exactly 3 parts (major.minor.patch)"
  | part :: rest => do
      let n ← (parseU32 part).context "Invalid version number"
      pure (n, rest)

def parseVersionTuple (v : String) : Result Version := do
  let (major, parts) ← versionPart (v.toList.splitOn '.')
  let (minor, parts) ← versionPart parts
  let (patch, parts) ← versionPart parts
  Result.ensure (parts = [])
    "Version string must have exactly 3 parts (major.minor.patch)"
  pure (major, minor, patch)

structure VersionedOptions where
  version : Version
  pic : Bool
  twoPassAddPages : Bool

def resolveVersion : Option String → Result Version
  | some v => (parseVersionTuple v).context "Failed to parse QEMU version"
  | none => .ok (9, 1, 0)

def Version.before (v w : Version) : Bool :=
  v.1 < w.1 ∨ v.1 = w.1 ∧ (v.2.1 < w.2.1 ∨ v.2.1 = w.2.1 ∧ v.2.2 < w.2.2)

def Machine.versionedOptions (m : Machine) : Result VersionedOptions := do
  let version ← resolveVersion m.qemuVersion
  Result.ensure (¬ Version.before version (8, 0, 0))
    ("Unsupported QEMU version: (" ++ toString version.1 ++ ", "
      ++ toString version.2.1 ++ ", " ++ toString version.2.2 ++ ")")
  let legacy := !Version.before version (8, 0, 0) && Version.before version (9, 0, 0)
  pure {
    version
    pic := m.pic.getD legacy
    twoPassAddPages := m.twoPassAddPages.getD legacy }

-- == ACPI

structure MachineConfig where
  qemuVersion : Version
  cpuCount : Nat
  memorySize : Nat
  pic : Bool
  smm : Bool
  hugepages : Bool
  numaNodes : List NumaNodeConfig
  numGpus : Nat
  numNvswitches : Nat
  numNics : Nat
  numVerityVolumes : Nat
  extraRootDevices : List RootBusDevice
  hotplugOff : Bool
  rootVerity : Bool
  pciHole64Size : Option Nat
  deriving DecidableEq

structure Tables where
  tables : Bytes
  rsdp : Bytes
  loader : Bytes

/-- The ACPI generator (`qemu_acpi::build`). -/
abbrev AcpiBuild := MachineConfig → Result Tables

def Machine.buildTables (acpi : AcpiBuild) (m : Machine) : Result Tables := do
  Result.ensure (m.swtpm = false) "swtpm measurement is not supported"
  let options ← m.versionedOptions.context "failed to get QEMU-versioned options"
  Result.ensure (m.hostShareMode ∈ ["", "9p", "vvfat", "vhd"])
    ("invalid shared disk mode: " ++ m.hostShareMode)
  (acpi {
    qemuVersion := options.version
    cpuCount := m.cpuCount
    memorySize := m.memorySize
    pic := options.pic
    smm := m.smm
    hugepages := m.hugepages
    numaNodes := m.numaNodes
    numGpus := m.numGpus
    numNvswitches := m.numNvswitches
    numNics := m.numNics
    numVerityVolumes := m.numVerityVolumes
    extraRootDevices := m.extraRootDevices
    hotplugOff := m.hotplugOff
    rootVerity := m.rootVerity
    pciHole64Size := m.pciHole64Size }).context
      "failed to generate QEMU ACPI tables"

lemma Machine.versionedOptions_congr {m n : Machine}
    (hv : m.qemuVersion = n.qemuVersion) (hp : m.pic = n.pic)
    (ht : m.twoPassAddPages = n.twoPassAddPages) :
    m.versionedOptions = n.versionedOptions := by
  unfold Machine.versionedOptions
  rw [hv, hp, ht]

end Dstack.Mr
