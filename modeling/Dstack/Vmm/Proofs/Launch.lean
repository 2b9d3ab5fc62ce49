/-
The VM configuration describes the machine that is launched, for images
with a root file system.

A command line is read once (`shape`): what it says about CPUs and memory,
which devices stand on the root bus and in which order. Each step of the
builder adds a block whose shape is known, so the shape of the whole is
that of its blocks: endpoints, then expanders, then root ports
(`shape_build`). The measured topology counts the same blocks from the
configuration. It always counts the disk of a root file system, which an
image need not have.

Counts travel as 32-bit numbers, so they also have to fit.
-/
import Dstack.Mr.Tdx
import Dstack.Mr.Topology
import Dstack.Vmm.Describe
import Dstack.Vmm.Qemu

namespace Dstack.Vmm

open Lib Mr

-- == reading a command line

inductive Shape where
  | smp (value : String)
  | memory (value : String)
  | next (device : RootBusDevice)
  | expander (slot busNr : String)
  deriving DecidableEq

def Device.takesNext (d : Device) : Bool :=
  (d.prop "bus").getD "pcie.0" = "pcie.0" ∧ d.prop "addr" = none

def Device.shape (d : Device) : Option Shape :=
  match d.driver with
  | .tpmTis => none
  | .virtioBlkPci | .virtioNetPci | .vhostVsockPci | .vfioPci =>
    if d.takesNext then some (.next .endpoint) else none
  | .pcieRootPort => if d.takesNext then some (.next .rootPort) else none
  | .pxbPcie => some (.expander ((d.prop "addr").getD "") ((d.prop "bus_nr").getD ""))

/-- `-virtfs` stands for a device as well. -/
def Arg.shape : Arg → Option Shape
  | .flag _ => none
  | .opt name value =>
    if name = "-smp" then some (.smp value)
    else if name = "-m" then some (.memory value)
    else if name = "-virtfs" then some (.next .endpoint)
    else none
  | .device d => d.shape

def shape (args : List Arg) : List Shape := args.filterMap Arg.shape

def Shape.smp? : Shape → Option String
  | .smp value => some value
  | _ => none

def Shape.memory? : Shape → Option String
  | .memory value => some value
  | _ => none

def Shape.next? : Shape → Option RootBusDevice
  | .next device => some device
  | _ => none

def Shape.expander? : Shape → Option (String × String)
  | .expander slot busNr => some (slot, busNr)
  | _ => none

/-- The command line starts the machine that is measured. -/
structure Launches (args : List Arg) (vmConfig : VmDescription) (c : MachineConfig) : Prop where
  smp : (shape args).filterMap Shape.smp? = [toString c.cpuCount]
  memory : ∃ mb, (shape args).filterMap Shape.memory? = [toString mb ++ "M"]
    ∧ c.memorySize = mb * 1024 * 1024
  /-- All slots before the expanders but that of the host bridge. -/
  endpoints : (((shape args).takeWhile (·.expander?.isNone)).count (.next .endpoint)) + 1
    = c.rootBus.slotCount
  expanders : (shape args).filterMap Shape.expander?
    = c.rootBus.expanders.map fun (slot, bus) => (hexNumber slot, toString bus)
  trailing : (shape args).filterMap Shape.next?
    = List.replicate (c.rootBus.slotCount - 1) .endpoint ++ c.rootBus.trailing
  snpVcpus : ∀ m, vmConfig.sevSnpMeasurement = some m →
    (shape args).filterMap Shape.smp? = [toString m.vcpus]

-- == blocks

@[simp] lemma shape_nil : shape [] = [] := rfl

@[simp] lemma shape_append (l l' : List Arg) : shape (l ++ l') = shape l ++ shape l' :=
  List.filterMap_append

lemma shape_cons (a : Arg) (l : List Arg) : shape (a :: l) = a.shape.toList ++ shape l := by
  unfold shape
  cases h : a.shape with
  | none =>
    rw [List.filterMap_cons_none h]
    rfl
  | some s =>
    rw [List.filterMap_cons_some h]
    rfl

lemma shape_flatMap_single {α : Type} {f : α → List Arg} {s : Shape} {l : List α}
    (h : ∀ a ∈ l, shape (f a) = [s]) : shape (l.flatMap f) = List.replicate l.length s := by
  induction l with
  | nil => rfl
  | cons a l ih =>
    rw [List.flatMap_cons, shape_append, h a List.mem_cons_self,
      ih fun b hb => h b (List.mem_cons_of_mem a hb)]
    rfl

lemma shape_flatten_single {s : Shape} {ls : List (List Arg)} (h : ∀ l ∈ ls, shape l = [s]) :
    shape ls.flatten = List.replicate ls.length s := by
  have := shape_flatMap_single (f := id) h
  rwa [List.flatMap_id] at this

lemma shape_flatten_nil {ls : List (List Arg)} (h : ∀ l ∈ ls, shape l = []) :
    shape ls.flatten = [] := by
  induction ls with
  | nil => rfl
  | cons l ls ih =>
    rw [List.flatten_cons, shape_append, h l List.mem_cons_self,
      ih fun l' hl' => h l' (List.mem_cons_of_mem l hl')]
    rfl

lemma shape_virtio {driver : Driver} {props : List (String × String)}
    (hdriver : driver = .virtioBlkPci ∨ driver = .virtioNetPci ∨ driver = .vhostVsockPci)
    (hbus : props.lookup "bus" = none) (haddr : props.lookup "addr" = none) (snp : Bool)
    (l : List Arg) :
    shape (virtioPciDevice driver props snp :: l) = .next .endpoint :: shape l := by
  have hnext : ∀ extra : List (String × String), extra.lookup "bus" = none →
      extra.lookup "addr" = none → (Device.takesNext ⟨driver, props ++ extra⟩) = true := by
    intro extra hbus' haddr'
    simp [Device.takesNext, Device.prop, List.lookup_append, hbus, haddr, hbus', haddr']
  rw [virtioPciDevice, shape_cons]
  have htakes : Device.takesNext ⟨driver, props ++
      if snp then [("disable-legacy", "on"), ("iommu_platform", "true")] else []⟩ = true := by
    cases snp with
    | true => exact hnext _ rfl rfl
    | false => exact hnext _ rfl rfl
  rcases hdriver with rfl | rfl | rfl
  all_goals
    simp only [Arg.shape, Device.shape]
    rw [if_pos htakes]
    rfl

/-- The expanders on `buses`, from the first slot for them on. -/
def expanderShapes (buses : List Nat) : List Shape :=
  buses.zipIdx.map fun (bus, index) =>
    .expander (hexNumber (firstPxbSlot + index)) (toString bus)

def launchShape (endpoints : Nat) (buses : List Nat) (rootPorts smp mem : Nat) : List Shape :=
  List.replicate endpoints (.next .endpoint) ++ expanderShapes buses
    ++ List.replicate rootPorts (.next .rootPort)
    ++ [.smp (toString smp), .memory (toString mem ++ "M")]

variable {args : List Arg} {buses : List Nat} {nodes : BTreeMap Nat Nat}

section Builder

variable {host : LaunchHost} {vm : VmConfig Image} {cfg : NodeConfig} {gpus : GpuConfig}
  {p : PreparedQemuLaunch}

lemma shape_baseCommand : shape (baseCommand vm cfg p) = [] := by
  have hfirmware : shape ((vm.image.firmware (isAmdSevSnp vm p)).toList.map (.opt "-bios" ·))
      = [] := by
    cases vm.image.firmware (isAmdSevSnp vm p) <;> rfl
  simp [baseCommand, apply_ite shape, shape_cons, Arg.shape, hfirmware]

lemma shape_configureRootfs (h : configureRootfs vm p = .ok args) :
    shape args = List.replicate vm.image.rootfs.toList.length (.next .endpoint) := by
  unfold configureRootfs at h
  cases hrootfs : vm.image.rootfs with
  | none =>
    rw [hrootfs] at h
    cases h
    rfl
  | some rootfs =>
    rw [hrootfs] at h
    simp only [ok_iff] at h
    obtain ⟨-, -, rfl⟩ := h
    rw [shape_cons, shape_virtio (.inl rfl) rfl rfl]
    rfl

lemma shape_configureDataDisk : shape (configureDataDisk vm p) = [.next .endpoint] := by
  rw [configureDataDisk, shape_cons, shape_virtio (.inl rfl) rfl rfl]
  rfl

lemma shape_configureVolumes :
    shape (configureVolumes vm p) = List.replicate p.volumes.length (.next .endpoint) := by
  rw [configureVolumes, shape_flatMap_single, List.length_zipIdx]
  rintro ⟨source, index⟩ -
  show shape (configureVolume vm p source index) = _
  rw [configureVolume, shape_cons, shape_virtio (.inl rfl) rfl rfl]
  rfl

lemma shape_configureNic {networking : Networking} {index : Nat}
    (h : configureNic host vm cfg p networking index = .ok args) :
    shape args = [.next .endpoint] := by
  unfold configureNic at h
  simp only [ok_iff] at h
  obtain ⟨backend, -, rfl⟩ := h
  rw [shape_cons, shape_virtio (.inr (.inl rfl))]
  · rfl
  · split <;> rfl
  · split <;> rfl

lemma shape_configureNetworking (h : configureNetworking host vm cfg p = .ok args) :
    shape args = List.replicate p.networks.length (.next .endpoint) := by
  unfold configureNetworking at h
  simp only [ok_iff] at h
  obtain ⟨nics, hnics, rfl⟩ := h
  rw [shape_flatten_single, ← (mapM_eq_ok.mp hnics).length_eq, List.length_zipIdx]
  intro nic hnic
  obtain ⟨_, -, hnic⟩ := Result.exists_of_mem_mapM hnics hnic
  exact shape_configureNic hnic

lemma shape_smbiosType (type : Nat) (entries : List (String × Option String)) :
    shape (smbiosType type entries) = [] := by
  unfold smbiosType
  dsimp only
  split
  · rfl
  · rfl

lemma shape_configureSmbios : shape (configureSmbios cfg) = [] := by
  simp only [configureSmbios, shape_append, shape_smbiosType, List.append_nil]

lemma shape_configureTpm : shape (configureTpm p) = [] := by
  unfold configureTpm
  split
  · rfl
  · rfl

lemma shape_configureVsock : shape (configureVsock vm p) = [.next .endpoint] := by
  rw [configureVsock, shape_virtio (.inr (.inr rfl)) rfl rfl]
  rfl

lemma shape_configureHostShare (h : configureHostShare vm cfg p = .ok args) :
    shape args = [.next .endpoint] := by
  unfold configureHostShare at h
  dsimp only at h
  split at h
  · cases h
    rfl
  · split at h
    · cases h
      rw [shape_cons, shape_virtio (.inl rfl) rfl rfl]
      rfl
    · split at h
      · cases h
        rw [shape_cons, shape_virtio (.inl rfl) rfl rfl]
        rfl
      · cases h

lemma shape_configureNode (vcpus memory node bus index : Nat) :
    shape (configureNode vcpus memory node bus index)
      = [.expander (hexNumber (firstPxbSlot + index)) (toString bus)] :=
  rfl

lemma shape_nodes (vcpus memory : Nat) {nodes : List Nat}
    (hlength : nodes.length = buses.length) (start : Nat) :
    shape (((nodes.zip buses).zipIdx start).flatMap fun ((node, bus), index) =>
        configureNode vcpus memory node bus index)
      = (buses.zipIdx start).map fun (bus, index) =>
        .expander (hexNumber (firstPxbSlot + index)) (toString bus) := by
  induction nodes generalizing buses start with
  | nil =>
    cases buses with
    | nil => rfl
    | cons bus buses => cases hlength
  | cons node nodes ih =>
    cases buses with
    | nil => cases hlength
    | cons bus buses =>
      rw [List.zip_cons_cons, List.zipIdx_cons, List.flatMap_cons, shape_append,
        shape_configureNode, ih (Nat.succ.inj hlength), List.zipIdx_cons, List.map_cons]
      rfl

lemma assignBuses_spec {next last : Nat} {counts : List Nat}
    (h : assignBuses next counts = some (buses, last)) :
    counts.length = buses.length ∧ next + counts.sum ≤ last := by
  induction counts generalizing next buses with
  | nil =>
    cases h
    exact ⟨rfl, Nat.le_refl _⟩
  | cons count counts ih =>
    rw [assignBuses] at h
    split at h
    · rw [Option.map_eq_some_iff] at h
      obtain ⟨⟨buses', last'⟩, hrest, heq⟩ := h
      cases heq
      obtain ⟨hlength, hsum⟩ := ih hrest
      rw [List.length_cons, List.length_cons, List.sum_cons]
      omega
    · cases h

lemma pxbBuses_spec (h : pxbBuses nodes = .ok buses) :
    nodes.entries.length = buses.length ∧ (nodes.entries.map Prod.snd).sum ≤ 251 := by
  unfold pxbBuses at h
  split at h
  · next hassign =>
      split at h
      · cases h
        obtain ⟨hlength, hsum⟩ := assignBuses_spec hassign
        rw [List.length_map] at hlength
        rw [firstPxbBus] at hsum
        exact ⟨hlength, by omega⟩
      · cases h
  · cases h

/-- The blocks for memory, and what `-smp` and `-m` are to say. -/
lemma shape_configureHugepageMemory {smp mem : Nat}
    (h : configureHugepageMemory vm p = .ok (args, smp, mem))
    (hnodes : p.hugepageNumaNodes.isSome = vm.manifest.hugepages) :
    ∃ buses, launchBuses p.hugepageNumaNodes = .ok buses
      ∧ shape args = expanderShapes buses
      ∧ smp = effectiveVcpuCount vm.manifest.vcpu (nodeCount p.hugepageNumaNodes)
      ∧ mem = effectiveMemoryMb vm.manifest.memory (nodeCount p.hugepageNumaNodes) := by
  unfold configureHugepageMemory at h
  dsimp only at h
  split at h
  · next hpages =>
      cases h
      rw [hpages, Option.isSome_eq_false_iff, Option.isNone_iff_eq_none] at hnodes
      rw [hnodes]
      exact ⟨[], rfl, rfl, rfl, rfl⟩
  · simp only [ok_iff] at h
    obtain ⟨nodes, hsome, buses, hbuses, heq⟩ := h
    cases heq
    rw [hsome]
    refine ⟨buses, hbuses, shape_nodes _ _ ?_ 0, rfl, rfl⟩
    rw [List.length_map]
    exact (pxbBuses_spec hbuses).1

lemma shape_configureMachine {mem : Nat}
    (h : configureMachine vm cfg p mem = .ok args) : shape args = [] := by
  unfold configureMachine at h
  split at h
  · cases h
    rfl
  · split at h
    · cases h
      rfl
    · simp only [ok_iff] at h
      obtain ⟨_, -, _, -, rfl⟩ := h
      rfl

lemma shape_passthrough (slot bus : String) (number : Nat) :
    shape (passthrough slot bus number)
      = if bus = "pcie.0" then [.next .rootPort] else [] := by
  have hport : "pci." ++ toString number ≠ "pcie.0" := by
    intro h
    have htext := congrArg String.toList h
    simp at htext
  have hvfio : ∀ port ≠ "pcie.0", Device.shape ⟨.vfioPci, [("host", slot), ("bus", port),
      ("iommufd", "iommufd0")]⟩ = none := by
    intro port hne
    simp [Device.shape, Device.takesNext, Device.prop, List.lookup, hne]
  rw [passthrough, shape_cons, shape_cons]
  dsimp only [Arg.shape]
  rw [hvfio _ hport]
  by_cases hbus : bus = "pcie.0"
  · subst hbus
    rfl
  · simp [Device.shape, Device.takesNext, Device.prop, List.lookup, hbus]

lemma shape_configureGpu {slot : String} {index : Nat}
    (h : configureGpu vm p slot index = .ok args) :
    shape args = if vm.manifest.hugepages then [] else [.next .rootPort] := by
  unfold configureGpu at h
  simp only [ok_iff] at h
  obtain ⟨bus, hbus, rfl⟩ := h
  rw [shape_passthrough]
  unfold gpuBus at hbus
  split at hbus
  · next hpages =>
      simp only [ok_iff] at hbus
      obtain ⟨node, -, rfl⟩ := hbus
      have hne : "pcie.node" ++ node ≠ "pcie.0" := by
        intro h
        have htext := congrArg String.toList h
        simp at htext
      rw [if_neg hne, if_pos hpages]
  · next hpages =>
      cases hbus
      rw [if_pos rfl, if_neg hpages]

def rootPorts (hugepages : Bool) (gpus : GpuConfig) : Nat :=
  if gpus.gpus = [] then 0
  else (if hugepages then 0 else gpus.gpus.length) + gpus.bridges.length

lemma shape_configureGpus (h : configureGpus vm gpus p = .ok args) :
    shape args = List.replicate (rootPorts vm.manifest.hugepages gpus) (.next .rootPort) := by
  unfold configureGpus at h
  unfold rootPorts
  split at h
  · next hnone =>
      cases h
      rw [if_pos hnone]
      rfl
  · next hsome =>
      simp only [ok_iff] at h
      obtain ⟨attached, hattached, rfl⟩ := h
      have hlength := (mapM_eq_ok.mp hattached).length_eq
      rw [List.length_zipIdx] at hlength
      have hgpus : ∀ l ∈ attached,
          shape l = if vm.manifest.hugepages then [] else [.next .rootPort] := by
        intro l hl
        obtain ⟨_, -, hl⟩ := Result.exists_of_mem_mapM hattached hl
        exact shape_configureGpu hl
      have hbridges : shape (gpus.bridges.zipIdx.map fun b =>
          passthrough b.1 "pcie.0" (gpus.gpus.length + b.2 + 1)).flatten
          = List.replicate gpus.bridges.length (.next .rootPort) := by
        rw [shape_flatten_single, List.length_map, List.length_zipIdx]
        intro l hl
        obtain ⟨⟨slot, index⟩, -, rfl⟩ := List.mem_map.mp hl
        exact shape_passthrough slot "pcie.0" _
      rw [if_neg hsome, shape_cons, List.flatten_append, shape_append, hbridges]
      cases hpages : vm.manifest.hugepages with
      | true =>
        rw [shape_flatten_nil fun l hl => (hgpus l hl).trans (if_pos hpages)]
        simp [Arg.shape]
      | false =>
        rw [shape_flatten_single fun l hl => (hgpus l hl).trans (if_neg (by simp [hpages])),
          ← hlength]
        simp [Arg.shape]

lemma shape_build (h : build host vm cfg gpus p = .ok args)
    (hnodes : p.hugepageNumaNodes.isSome = vm.manifest.hugepages) :
    ∃ buses, launchBuses p.hugepageNumaNodes = .ok buses
      ∧ shape args = launchShape
          (vm.image.rootfs.toList.length + p.volumes.length + p.networks.length + 3) buses
          (rootPorts vm.manifest.hugepages gpus)
          (effectiveVcpuCount vm.manifest.vcpu (nodeCount p.hugepageNumaNodes))
          (effectiveMemoryMb vm.manifest.memory (nodeCount p.hugepageNumaNodes)) := by
  unfold build at h
  simp only [ok_iff] at h
  obtain ⟨rootfs, hrootfs, networking, hnetworking, hostShare, hshare, ⟨memory, smp, mem⟩,
    hmemory, machine, hmachine, passed, hpassed, rfl⟩ := h
  obtain ⟨buses, hbuses, hexpanders, rfl, rfl⟩ := shape_configureHugepageMemory hmemory hnodes
  refine ⟨buses, hbuses, ?_⟩
  have happend : shape (vm.image.info.cmdline.toList.map (.opt "-append" ·)) = [] := by
    cases vm.image.info.cmdline <;> rfl
  simp only [shape_append, shape_baseCommand, shape_configureRootfs hrootfs,
    shape_configureDataDisk, shape_configureVolumes, shape_configureNetworking hnetworking,
    shape_configureSmbios, shape_configureTpm, shape_configureVsock,
    shape_configureHostShare hshare, hexpanders, shape_configureMachine hmachine,
    shape_configureGpus hpassed, happend, List.nil_append, List.append_nil]
  have hone : [Shape.next RootBusDevice.endpoint] = List.replicate 1 (.next .endpoint) := rfl
  have hcount : vm.image.rootfs.toList.length + 1 + p.volumes.length + p.networks.length + 1 + 1
      = vm.image.rootfs.toList.length + p.volumes.length + p.networks.length + 3 := by
    omega
  rw [hone]
  simp only [List.replicate_append_replicate]
  rw [hcount]
  rfl

end Builder

-- == the nodes of a launch

variable {host : LaunchHost}

lemma sum_countGpu {nodes' : BTreeMap Nat Nat} {slot : String}
    (h : countGpu host nodes slot = .ok nodes') :
    (nodes'.entries.map Prod.snd).sum = (nodes.entries.map Prod.snd).sum + 1 := by
  unfold countGpu at h
  simp only [ok_iff] at h
  obtain ⟨_, -, node, -, rfl⟩ := h
  exact BTreeMap.sum_insert nodes node 1

lemma sum_countGpus {slots : List String} {nodes' : BTreeMap Nat Nat}
    (h : slots.foldlM (countGpu host) nodes = .ok nodes') :
    (nodes'.entries.map Prod.snd).sum = (nodes.entries.map Prod.snd).sum + slots.length := by
  induction slots generalizing nodes with
  | nil =>
    cases h
    rfl
  | cons slot slots ih =>
    rw [List.foldlM_cons, bind_eq_ok] at h
    obtain ⟨next, hnext, hrest⟩ := h
    rw [ih hrest, sum_countGpu hnext, List.length_cons]
    omega

lemma sum_insert_zero (nodes : BTreeMap Nat Nat) (h : nodes.isEmpty = true) :
    ((nodes.insert 0 0).entries.map Prod.snd).sum = (nodes.entries.map Prod.snd).sum := by
  have hnone : nodes.get? 0 = none := BTreeMap.isEmpty_iff.mp h 0
  have hsum := BTreeMap.sum_insert nodes 0 0
  rwa [hnone, Option.getD_none] at hsum

variable {gpus : GpuConfig}

lemma hugepageNumaNodes_spec (h : hugepageNumaNodes host gpus = .ok nodes) :
    (nodes.entries.map Prod.snd).sum = gpus.gpus.length ∧ nodes.entries ≠ [] := by
  unfold hugepageNumaNodes at h
  simp only [ok_iff] at h
  obtain ⟨counted, hcounted, rfl⟩ := h
  have hsum := sum_countGpus hcounted
  rw [show (BTreeMap.empty : BTreeMap Nat Nat).entries = [] from rfl, List.map_nil, List.sum_nil,
    Nat.zero_add] at hsum
  split
  · next hempty =>
      refine ⟨(sum_insert_zero counted hempty).trans hsum, fun hnil => ?_⟩
      have hget := BTreeMap.get?_insert_self counted 0 0
      rw [BTreeMap.get?, hnil] at hget
      cases hget
  · next hsome => exact ⟨hsum, fun hnil => hsome (by rw [BTreeMap.isEmpty, hnil]; rfl)⟩

variable {manifest : Manifest}

lemma launchNodes_isSome
    {nodes : Option (BTreeMap Nat Nat)} (h : launchNodes host manifest gpus = .ok nodes) :
    nodes.isSome = manifest.hugepages := by
  unfold launchNodes at h
  split at h
  · next hpages =>
      replace h : some <$> hugepageNumaNodes host gpus = .ok nodes := h
      rw [map_eq_ok] at h
      obtain ⟨nodes', -, rfl⟩ := h
      exact hpages.symm
  · next hpages =>
      cases h
      rw [Bool.not_eq_true] at hpages
      exact hpages.symm

lemma gpus_le_of_launchNodes {nodes : Option (BTreeMap Nat Nat)}
    (hnodes : launchNodes host manifest gpus = .ok nodes) (hbuses : launchBuses nodes = .ok buses)
    (hpages : manifest.hugepages = true) : gpus.gpus.length ≤ 251 ∧ buses ≠ [] := by
  unfold launchNodes at hnodes
  rw [if_pos hpages] at hnodes
  replace hnodes : some <$> hugepageNumaNodes host gpus = .ok nodes := hnodes
  rw [map_eq_ok] at hnodes
  obtain ⟨nodes', hcounted, rfl⟩ := hnodes
  obtain ⟨hsum, hsome⟩ := hugepageNumaNodes_spec hcounted
  obtain ⟨hlength, hle⟩ := pxbBuses_spec hbuses
  refine ⟨hsum ▸ hle, fun hnil => hsome ?_⟩
  rw [hnil, List.length_nil] at hlength
  exact List.length_eq_zero_iff.mp hlength

lemma buses_eq_nil {nodes : Option (BTreeMap Nat Nat)}
    (hnodes : launchNodes host manifest gpus = .ok nodes) (hbuses : launchBuses nodes = .ok buses)
    (hpages : manifest.hugepages = false) : buses = [] := by
  have hnone := launchNodes_isSome hnodes
  rw [hpages, Option.isSome_eq_false_iff, Option.isNone_iff_eq_none] at hnone
  rw [hnone] at hbuses
  cases hbuses
  rfl

variable {c : MachineConfig}

lemma pxbBuses_described {nodes : Option (BTreeMap Nat Nat)}
    (hnodes : launchNodes host manifest gpus = .ok nodes) (hbuses : launchBuses nodes = .ok buses)
    (hnuma : c.numaNodes = describedNodes gpus buses) (hpages : c.hugepages = manifest.hugepages)
    (hgpus : c.numGpus = asU32 gpus.gpus.length) : c.pxbBuses = buses := by
  unfold MachineConfig.pxbBuses MachineConfig.numaLayout
  rw [hnuma, hpages, hgpus]
  cases hmanifest : manifest.hugepages with
  | false =>
    rw [buses_eq_nil hnodes hbuses hmanifest]
    rfl
  | true =>
    obtain ⟨hfew, hsome⟩ := gpus_le_of_launchNodes hnodes hbuses hmanifest
    unfold describedNodes
    split
    · next hlegacy =>
        have hgpu : 0 < asU32 gpus.gpus.length := by
          have := List.length_pos_iff.mpr hlegacy.2
          unfold asU32
          omega
        rw [if_neg (by simp), if_pos hgpu, hlegacy.1]
        rfl
    · rw [if_pos (.inl (by simpa using hsome)), List.filterMap_map]
      exact List.filterMap_some

-- == description

/-- What a description says about a launch on `nodes` with expanders on
`buses`. -/
structure Describes (d : VmDescription) (manifest : Manifest) (gpus : GpuConfig) (nics : Nat)
    (nodes : Option (BTreeMap Nat Nat)) (buses : List Nat) : Prop where
  cpuCount : d.vmConfig.cpuCount = effectiveVcpuCount manifest.vcpu (nodeCount nodes)
  memorySize : d.vmConfig.memorySize
    = effectiveMemoryMb manifest.memory (nodeCount nodes) * 1024 * 1024
  hugepages : d.vmConfig.hugepages = manifest.hugepages
  numaNodes : d.vmConfig.numaNodes = describedNodes gpus buses
  numGpus : d.vmConfig.numGpus = asU32 gpus.gpus.length
  numNvswitches : d.vmConfig.numNvswitches = asU32 gpus.bridges.length
  numNics : d.vmConfig.numNics = asU32 nics
  numVerityVolumes : d.vmConfig.numVerityVolumes = asU32 manifest.volumes.length
  extraRootDevices : d.vmConfig.extraRootDevices = []
  snpVcpus : ∀ m, d.sevSnpMeasurement = some m → m.vcpus = d.vmConfig.cpuCount

lemma vcpus_of_snpMembers {formats : DescribeFormats} {image : Image} {snp : Bool}
    {mrConfig mrConfig' : Option String} {vcpus : Nat}
    {document : Option Mr.Sev.SnpMeasurementDocument}
    (h : snpMembers formats image snp mrConfig vcpus = .ok (mrConfig', document)) :
    ∀ m, document = some m → m.vcpus = vcpus := by
  unfold snpMembers at h
  split at h
  · simp only [ok_iff] at h
    obtain ⟨_, -, material, -, heq⟩ := h
    cases heq
    intro m hm
    cases hm
    rfl
  · cases h
    intro m hm
    cases hm

lemma makeVmConfig_describes {formats : DescribeFormats} {cfg : NodeConfig}
    {image : Image} {mrConfig : Option String}
    {measureAcpiTables : Option Bool} {d : VmDescription}
    (h : makeVmConfig formats host cfg manifest image mrConfig measureAcpiTables = .ok d) :
    ∃ nodes buses, launchNodes host manifest (allocateGpus cfg manifest) = .ok nodes
      ∧ launchBuses nodes = .ok buses
      ∧ Describes d manifest (allocateGpus cfg manifest)
          (resolvedNetworks manifest.networks cfg.network manifest.vcpu).length nodes buses := by
  unfold makeVmConfig at h
  simp only [ok_iff] at h
  obtain ⟨_, -, nodes, hnodes, buses, hbuses, _, -, _, -, _, -, _, -, _, -, ⟨mrConfig', document⟩,
    hsnp, rfl⟩ := h
  exact ⟨nodes, buses, hnodes, hbuses, rfl, rfl, rfl, rfl, rfl, rfl, rfl, rfl, rfl,
    vcpus_of_snpMembers hsnp⟩

-- == launch

lemma prepare_spec {vm : VmConfig Image} {cfg : NodeConfig}
    {workdir : String} {networks : List Networking} {p : PreparedQemuLaunch}
    (h : prepare host vm cfg gpus workdir networks = .ok p) :
    p.networks = networks ∧ p.volumes = vm.manifest.volumes
      ∧ launchNodes host vm.manifest gpus = .ok p.hugepageNumaNodes := by
  unfold prepare at h
  simp only [ok_iff] at h
  obtain ⟨_, -, _, -, _, -, nodes, hnodes, _, -, _, -, _, -, _, -, _, -, _, -, ⟨_, _⟩, -, rfl⟩ := h
  exact ⟨rfl, rfl, hnodes⟩

lemma configQemu_spec {vm : VmConfig Image} {cfg : NodeConfig}
    {workdir : String} {networks : List Networking} {launch : Launch}
    (h : configQemu host vm workdir cfg gpus networks = .ok launch) :
    ∃ p, prepare host vm cfg gpus workdir networks = .ok p
      ∧ build host vm cfg gpus p = .ok launch.qemu := by
  unfold configQemu at h
  simp only [ok_iff] at h
  obtain ⟨p, hp, qemu, hqemu, _, -, _, -, rfl⟩ := h
  exact ⟨p, hp, hqemu⟩

-- == agreement

section Shapes

variable (endpoints : Nat) (buses : List Nat) (rootPorts smp mem : Nat)

lemma filterMap_launchShape {α : Type} {f : Shape → Option α}
    (h : ∀ slot busNr, f (.expander slot busNr) = none) :
    (launchShape endpoints buses rootPorts smp mem).filterMap f
      = (List.replicate endpoints (Shape.next .endpoint)).filterMap f
        ++ (List.replicate rootPorts (Shape.next .rootPort)).filterMap f
        ++ [Shape.smp (toString smp), .memory (toString mem ++ "M")].filterMap f := by
  have hexpanders : (expanderShapes buses).filterMap f = [] := by
    rw [expanderShapes, List.filterMap_map, List.filterMap_eq_nil_iff]
    exact fun e _ => h _ _
  rw [launchShape, List.filterMap_append, List.filterMap_append, List.filterMap_append, hexpanders,
    List.append_nil]

lemma launchShape_smp :
    (launchShape endpoints buses rootPorts smp mem).filterMap Shape.smp? = [toString smp] := by
  rw [filterMap_launchShape _ _ _ _ _ fun _ _ => rfl, List.filterMap_replicate_of_none rfl,
    List.filterMap_replicate_of_none rfl]
  rfl

lemma launchShape_memory :
    (launchShape endpoints buses rootPorts smp mem).filterMap Shape.memory?
      = [toString mem ++ "M"] := by
  rw [filterMap_launchShape _ _ _ _ _ fun _ _ => rfl, List.filterMap_replicate_of_none rfl,
    List.filterMap_replicate_of_none rfl]
  rfl

lemma launchShape_next :
    (launchShape endpoints buses rootPorts smp mem).filterMap Shape.next?
      = List.replicate endpoints .endpoint ++ List.replicate rootPorts .rootPort := by
  have hnext : ∀ (n : Nat) (d : RootBusDevice),
      (List.replicate n (Shape.next d)).filterMap Shape.next? = List.replicate n d :=
    fun n d => List.filterMap_replicate_of_some rfl
  rw [filterMap_launchShape _ _ _ _ _ fun _ _ => rfl, hnext, hnext]
  exact List.append_nil _

lemma launchShape_expanders :
    (launchShape endpoints buses rootPorts smp mem).filterMap Shape.expander?
      = buses.zipIdx.map fun (bus, index) =>
          (hexNumber (firstPxbSlot + index), toString bus) := by
  have hexpanders : (expanderShapes buses).filterMap Shape.expander?
      = buses.zipIdx.map fun (bus, index) =>
          (hexNumber (firstPxbSlot + index), toString bus) := by
    rw [expanderShapes, List.filterMap_map, ← List.filterMap_eq_map]
    rfl
  rw [launchShape, List.filterMap_append, List.filterMap_append, List.filterMap_append,
    List.filterMap_replicate_of_none rfl, hexpanders, List.filterMap_replicate_of_none rfl,
    List.nil_append, List.append_nil]
  exact List.append_nil _

lemma launchShape_endpoints :
    ((launchShape endpoints buses rootPorts smp mem).takeWhile (·.expander?.isNone)).count
      (.next .endpoint) = endpoints := by
  have hfront : ∀ s ∈ List.replicate endpoints (Shape.next .endpoint),
      s.expander?.isNone = true := by
    intro s hs
    rw [List.eq_of_mem_replicate hs]
    rfl
  have hrest : (Shape.next .endpoint) ∉ (expanderShapes buses
      ++ List.replicate rootPorts (.next .rootPort)
      ++ [.smp (toString smp), .memory (toString mem ++ "M")]) := by
    simp [expanderShapes]
  rw [launchShape, List.append_assoc, List.append_assoc, List.takeWhile_append_of_pos hfront,
    List.count_append, List.count_replicate_self, List.count_eq_zero_of_not_mem, Nat.add_zero]
  rw [List.append_assoc] at hrest
  exact fun hmem => hrest (List.takeWhile_sublist _ |>.mem hmem)

end Shapes

lemma replicate_append_inj {α : Type} [DecidableEq α] {a b : α} (hne : a ≠ b) {m n k l : Nat} :
    List.replicate m a ++ List.replicate k b = List.replicate n a ++ List.replicate l b
      ↔ m = n ∧ k = l := by
  constructor
  · intro h
    have ha := congrArg (List.count a) h
    have hb := congrArg (List.count b) h
    simp only [List.count_append, List.count_replicate_self, List.count_replicate, beq_iff_eq,
      hne, hne.symm, if_false] at ha hb
    omega
  · rintro ⟨rfl, rfl⟩
    rfl

/-- Nothing is too many for a 32-bit count. -/
structure Countable (manifest : Manifest) (gpus : GpuConfig) : Prop where
  networks : manifest.networks.length < 2 ^ 32
  volumes : manifest.volumes.length < 2 ^ 32
  /-- Without GPUs, NVSwitches are not attached either. -/
  gpus : gpus.gpus ≠ [] → gpus.gpus.length < 2 ^ 32 ∧ gpus.bridges.length < 2 ^ 32

lemma length_resolvedNetworks (networks : List NicNetworking) (cfg : NetworkPolicy)
    (vcpu : Nat) :
    (resolvedNetworks networks cfg vcpu).length = max 1 networks.length := by
  unfold resolvedNetworks
  dsimp only
  rw [List.length_map]
  cases networks with
  | nil => rfl
  | cons network networks =>
    rw [List.isEmpty_cons, if_neg (by simp), List.length_cons]
    omega

lemma launches_iff {d : VmDescription} {endpoints rootPorts smp mem : Nat}
    (hshape : shape args = launchShape endpoints buses rootPorts smp mem)
    (hcpu : c.cpuCount = smp) (hmem : c.memorySize = mem * 1024 * 1024)
    (hbuses : c.pxbBuses = buses) (hextra : c.extraRootDevices = [])
    (hsnp : ∀ m, d.sevSnpMeasurement = some m → m.vcpus = smp) :
    Launches args d c ↔ endpoints + 1 = c.rootBus.slotCount
      ∧ rootPorts = if buses ≠ [] then c.numNvswitches else c.numGpus + c.numNvswitches := by
  have htrailing : c.rootBus.trailing = List.replicate
      (if buses ≠ [] then c.numNvswitches else c.numGpus + c.numNvswitches) .rootPort := by
    rw [MachineConfig.rootBus, hbuses, hextra, List.append_nil]
  constructor
  · intro h
    have hendpoints := h.endpoints
    have hnext := h.trailing
    rw [hshape, launchShape_endpoints] at hendpoints
    rw [hshape, launchShape_next, htrailing, replicate_append_inj (by decide)] at hnext
    exact ⟨hendpoints, hnext.2⟩
  · rintro ⟨hendpoints, hports⟩
    refine ⟨?_, ⟨mem, ?_, hmem⟩, ?_, ?_, ?_, ?_⟩
    · rw [hshape, launchShape_smp, hcpu]
    · rw [hshape, launchShape_memory]
    · rw [hshape, launchShape_endpoints, hendpoints]
    · rw [hshape, launchShape_expanders, RootBus.expanders, List.mapIdx_eq_zipIdx_map,
        List.map_map, ← hbuses]
      rfl
    · rw [hshape, launchShape_next, htrailing, ← hports, ← hendpoints, Nat.add_sub_cancel]
    · intro m hm
      rw [hshape, launchShape_smp, hsnp m hm]

structure Measures (v : Dstack.VmConfig) (c : MachineConfig) : Prop where
  cpuCount : c.cpuCount = v.cpuCount
  memorySize : c.memorySize = v.memorySize
  hugepages : c.hugepages = v.hugepages
  numaNodes : c.numaNodes = v.numaNodes
  numGpus : c.numGpus = v.numGpus
  numNvswitches : c.numNvswitches = v.numNvswitches
  numNics : c.numNics = v.numNics
  numVerityVolumes : c.numVerityVolumes = v.numVerityVolumes
  extraRootDevices : c.extraRootDevices = v.extraRootDevices
  rootVerity : c.rootVerity = true

lemma measures_of_config {v : Dstack.VmConfig} {firmware kernel initrd kernelCmdline : String}
    {normalizedSetupHeader : Bool} {ovmfVariant : OvmfVariant}
    (h : (machineFor v firmware kernel initrd kernelCmdline normalizedSetupHeader
      ovmfVariant).config = .ok c) : Measures v c := by
  unfold Machine.config at h
  simp only [ok_iff] at h
  obtain ⟨_, -, options, -, _, -, rfl⟩ := h
  exact ⟨rfl, rfl, rfl, rfl, rfl, rfl, rfl, rfl, rfl, rfl⟩

lemma gpu_of_nvswitch {generate : MachineConfig → Result Tables}
    {tables : Tables} (h : acpiBuild generate c = .ok tables) :
    ¬(0 < c.numNvswitches ∧ c.numGpus = 0) := by
  simp only [acpiBuild, MachineConfig.validate, ok_iff] at h
  obtain ⟨_, ⟨_, -, _, -, _, -, _, -, _, -, _, -, _, -, _, hgpu, -⟩, -⟩ := h
  exact hgpu

lemma endpoints_iff (rootfs : Option String) (volumes nics : Nat) :
    rootfs.toList.length + volumes + nics + 3 + 1 = 4 + 1 + asU32 nics + asU32 volumes
      ↔ rootfs.isSome = true ∧ nics < 2 ^ 32 ∧ volumes < 2 ^ 32 := by
  unfold asU32
  cases rootfs with
  | none =>
    simp only [Option.toList_none, List.length_nil, Option.isSome_none, Bool.false_eq_true,
      false_and, iff_false]
    omega
  | some rootfs =>
    simp only [Option.toList_some, List.length_singleton, Option.isSome_some, true_and]
    omega

lemma rootPorts_iff {hugepages : Bool}
    (hpages : hugepages = true → gpus.gpus.length ≤ 251 ∧ buses ≠ [])
    (hnone : hugepages = false → buses = [])
    (hnvswitch : ¬(0 < asU32 gpus.bridges.length ∧ asU32 gpus.gpus.length = 0)) :
    rootPorts hugepages gpus = (if buses ≠ [] then asU32 gpus.bridges.length
        else asU32 gpus.gpus.length + asU32 gpus.bridges.length)
      ↔ (gpus.gpus ≠ [] → gpus.gpus.length < 2 ^ 32 ∧ gpus.bridges.length < 2 ^ 32) := by
  unfold rootPorts
  unfold asU32 at *
  by_cases hgpus : gpus.gpus = []
  · rw [hgpus, List.length_nil] at hnvswitch
    have hbridges : gpus.bridges.length % 2 ^ 32 = 0 := by omega
    rw [if_pos hgpus, hgpus, hbridges]
    simp
  · rw [if_neg hgpus]
    cases hugepages with
    | true =>
      obtain ⟨hfew, hsome⟩ := hpages rfl
      rw [if_pos hsome, if_pos rfl]
      simp only [ne_eq, hgpus, not_false_eq_true, true_implies]
      omega
    | false =>
      rw [hnone rfl, if_neg (by simp), if_neg (by simp)]
      simp only [ne_eq, hgpus, not_false_eq_true, true_implies]
      omega

/-- The machine that is measured is the one that is launched exactly if
the image has a root file system and nothing is too many to count. -/
theorem launch_is_measured (formats : DescribeFormats) (host : LaunchHost) (cfg : NodeConfig)
    (vm : VmConfig Image) (workdir : String) (mrConfig : Option String)
    (measureAcpiTables : Option Bool) (generate : MachineConfig → Result Tables)
    (firmware kernel initrd kernelCmdline : String) (normalizedSetupHeader : Bool)
    (ovmfVariant : OvmfVariant) (d : VmDescription) (launch : Launch) (tables : Tables)
    (hdescribe : makeVmConfig formats host cfg vm.manifest vm.image mrConfig measureAcpiTables
      = .ok d)
    (hlaunch : configQemu host vm workdir cfg (allocateGpus cfg vm.manifest)
      (resolvedNetworks vm.manifest.networks cfg.network vm.manifest.vcpu) = .ok launch)
    (htables : (machineFor d.vmConfig firmware kernel initrd kernelCmdline normalizedSetupHeader
      ovmfVariant).buildTables (acpiBuild generate) = .ok tables) :
    ∃ c, (machineFor d.vmConfig firmware kernel initrd kernelCmdline normalizedSetupHeader
        ovmfVariant).config = .ok c
      ∧ (Launches launch.qemu d c
          ↔ vm.image.rootfs.isSome = true
            ∧ Countable vm.manifest (allocateGpus cfg vm.manifest)) := by
  rw [Machine.buildTables_eq, bind_eq_ok] at htables
  obtain ⟨c, hc, hbuild⟩ := htables
  refine ⟨c, hc, ?_⟩
  obtain ⟨nodes, buses, hnodes, hbuses, hd⟩ := makeVmConfig_describes hdescribe
  obtain ⟨p, hp, hqemu⟩ := configQemu_spec hlaunch
  obtain ⟨hnetworks, hvolumes, hpnodes⟩ := prepare_spec hp
  rw [hnodes] at hpnodes
  cases Except.ok.inj hpnodes
  obtain ⟨buses', hbuses', hshape⟩ := shape_build hqemu (launchNodes_isSome hnodes)
  rw [hbuses] at hbuses'
  cases Except.ok.inj hbuses'
  have hm := measures_of_config hc
  have hpages := hm.hugepages.trans hd.hugepages
  have hgpus := hm.numGpus.trans hd.numGpus
  have hpxb := pxbBuses_described hnodes hbuses (hm.numaNodes.trans hd.numaNodes) hpages hgpus
  have hnvswitch := gpu_of_nvswitch (context_eq_ok.mp hbuild)
  have hslots : c.rootBus.slotCount = 4 + 1
      + asU32 (resolvedNetworks vm.manifest.networks cfg.network vm.manifest.vcpu).length
      + asU32 vm.manifest.volumes.length := by
    rw [MachineConfig.rootBus, MachineConfig.fixedSlots, hm.rootVerity, hm.numNics,
      hm.numVerityVolumes, hd.numNics, hd.numVerityVolumes]
    rfl
  rw [launches_iff hshape (hm.cpuCount.trans hd.cpuCount) (hm.memorySize.trans hd.memorySize)
    hpxb (hm.extraRootDevices.trans hd.extraRootDevices) (fun m hsnp =>
      (hd.snpVcpus m hsnp).trans hd.cpuCount), hslots, hnetworks, hvolumes, endpoints_iff,
    length_resolvedNetworks]
  rw [hgpus, hm.numNvswitches.trans hd.numNvswitches] at hnvswitch ⊢
  rw [rootPorts_iff (gpus_le_of_launchNodes hnodes hbuses) (buses_eq_nil hnodes hbuses) hnvswitch]
  constructor
  · rintro ⟨⟨hrootfs, hnics, hvolumes⟩, hports⟩
    exact ⟨hrootfs, ⟨by omega, hvolumes, hports⟩⟩
  · rintro ⟨hrootfs, hcount⟩
    have := hcount.networks
    exact ⟨⟨hrootfs, by omega, hcount.volumes⟩, hcount.gpus⟩

-- == examples

def twoNodeHost : LaunchHost where
  platform := .tdx
  qemuVersion _ := .ok "9.2.1"
  readFile path :=
    .ok (if path = "/sys/bus/pci/devices/0000:01:00.0/numa_node" then "0\n" else "1\n")
  hasInterface _ := true
  ip := { parse := fun _ => .error "invalid IP address syntax", display := fun _ => "127.0.0.1" }
  storageDiscard := .ok true
  makeSharedDir := .ok ()
  makeSharedDisk := .ok ()
  makeDataDisk := .ok ()
  swtpm := .error "cannot find binary path"
  makeSwtpmDir := .ok ()
  removeSwtpmSocket := .ok ()
  tdxMrConfigId := .ok ""
  snpHostData := .error "mr_config is required for amd sev-snp host-data"
  snpLaunchParams := .error "QMP query-sev-capabilities failed"
  writeLaunchSpec := .ok ()
  currentExe := .ok "/usr/bin/dstack-vmm"
  uid := 0
  gid := 0

def gpuNode : NodeConfig where
  portMapping := { enabled := false, address := .v4 0, range := [] }
  network := {}
  gpu := { enabled := true }
  diskPrealloc := .off
  volumesDir := ""
  teeSimulator := false
  platform := none
  instanceId := "node-1"
  qemuPath := "qemu-system-x86_64"
  passtPath := ""
  qmpSocket := false
  hostShareMode := "9p"
  qgsPort := none
  useMrconfigid := false
  tdxAttestationVariant := .auto
  qemuSinglePassAddPages := none
  qemuPic := none
  qemuVersion := none
  qemuPciHole64Size := 0
  qemuHotplugOff := true
  product := {}

def gpuManifest : Manifest where
  id := "vm-1"
  name := "train"
  appId := ""
  vcpu := 3
  memory := 4096
  diskSize := 20
  image := "dstack-0.5.4"
  portMap := []
  createdAtMs := 0
  hugepages := true
  pinNuma := false
  gpus := some { gpus := ["01:00.0", "02:00.0"], bridges := ["03:00.0"] }
  kmsUrls := []
  gatewayUrls := []
  noTee := false
  simulatedTee := none
  swtpm := false
  networks := []
  volumes := ["/volumes/model.img"]
  diskPrealloc := .off
  annotations := BTreeMap.empty

/-- `gpuManifest` with an image that has, or has not, a root file system. -/
def gpuVm (rootfs : Option String) : VmConfig Image where
  manifest := gpuManifest
  image := { kernel := "/images/bzImage", initrd := "/images/initramfs.cpio.gz", rootfs }
  cid := 1000
  gatewayEnabled := false

def plainFormats : DescribeFormats where
  mrConfigV3 _ := .error "expected value at line 1 column 1"
  cbor :=
    { gcp := fun _ => .error "end of input bytes"
      aws := fun _ => .error "end of input bytes"
      sev := fun _ => .error "end of input bytes" }

def emptyTables : MachineConfig → Result Tables := fun _ => .ok ⟨[], [], []⟩

/-- Without a root file system a disk is measured that is not there. -/
theorem rootless_image_is_mismeasured :
    ∃ d launch tables c,
      makeVmConfig plainFormats twoNodeHost gpuNode (gpuVm none).manifest (gpuVm none).image none
          none = .ok d
      ∧ configQemu twoNodeHost (gpuVm none) "/vms/vm-1" gpuNode
          (allocateGpus gpuNode (gpuVm none).manifest)
          (resolvedNetworks (gpuVm none).manifest.networks gpuNode.network
            (gpuVm none).manifest.vcpu) = .ok launch
      ∧ (machineFor d.vmConfig "" "" "" "" false .pre202505).buildTables (acpiBuild emptyTables)
          = .ok tables
      ∧ (machineFor d.vmConfig "" "" "" "" false .pre202505).config = .ok c
      ∧ ¬ Launches launch.qemu d c := by
  refine ⟨_, _, _, _, rfl, rfl, rfl, rfl, fun h => ?_⟩
  have hendpoints := h.endpoints
  revert hendpoints
  decide +kernel

/-- Two GPUs on two nodes. -/
theorem gpu_launch_is_measured :
    ∃ d launch tables,
      makeVmConfig plainFormats twoNodeHost gpuNode gpuManifest
          (gpuVm (some "/images/rootfs.img.verity")).image none none = .ok d
      ∧ configQemu twoNodeHost (gpuVm (some "/images/rootfs.img.verity")) "/vms/vm-1" gpuNode
          (allocateGpus gpuNode gpuManifest)
          (resolvedNetworks gpuManifest.networks gpuNode.network gpuManifest.vcpu) = .ok launch
      ∧ (machineFor d.vmConfig "" "" "" "" false .pre202505).buildTables (acpiBuild emptyTables)
          = .ok tables
      ∧ ∃ c, (machineFor d.vmConfig "" "" "" "" false .pre202505).config = .ok c
        ∧ Launches launch.qemu d c
        ∧ (c.cpuCount, c.rootBus.slotCount, c.rootBus.expanders, c.rootBus.trailing)
            = (4, 7, [(16, 5), (17, 7)], [.rootPort]) := by
  obtain ⟨c, hc, hiff⟩ := launch_is_measured plainFormats twoNodeHost gpuNode
    (gpuVm (some "/images/rootfs.img.verity")) "/vms/vm-1" none none emptyTables "" "" "" "" false
    .pre202505 _ _ _ rfl rfl rfl
  refine ⟨_, _, _, rfl, rfl, rfl, c, hc, hiff.mpr ⟨rfl, ?_⟩, ?_⟩
  · exact ⟨by decide, by decide, fun _ => by decide⟩
  · cases Except.ok.inj hc
    decide +kernel

end Dstack.Vmm
