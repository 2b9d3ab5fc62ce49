/-
The MRTD a verifier expects, and the one its VM configuration declares.

Both ways to an expected MRTD settle the page order the same way, from
`qemu_single_pass_add_pages` under the name of its opposite. Where the
configuration leaves the order to the QEMU version the expectation is
the declared one; where it does not, it is the other order's, and the
two differ on every firmware with a section of two pages or more that
are added and measured.
-/
import Dstack.Mr.Proofs.Mrtd
import Dstack.Verifier.Images

namespace Dstack.Verifier

open Lib Mr

/-- MRTD for the order of pages that the configuration declares. -/
def declaredMrtd (t : Tdvf) (vmConfig : VmConfig) (version : Version) : Bytes :=
  sha384 (t.records (declaredOrder vmConfig version))

/-- Nothing is declared, or the order makes no difference. -/
def DeclarationHonoured (t : Tdvf) (vmConfig : VmConfig) : Prop :=
  vmConfig.qemuSinglePassAddPages = none ∨ t.OrderFree

lemma computeMeasurements_mrtd {acpi : AcpiBuild} {read : ReadFile}
    {vmConfig : VmConfig} {image : ImagePaths} {m : TdxMeasurements} {fw : Bytes}
    {t : Tdvf} (hfw : read image.fwPath = .ok fw) (hparse : Tdvf.parse fw = .ok t)
    (h : computeMeasurements acpi read vmConfig image = .ok m) :
    ∃ (machine : Machine) (opts : VersionedOptions),
      machine.twoPassAddPages = vmConfig.qemuSinglePassAddPages
      ∧ machine.qemuVersion = vmConfig.qemuVersion
      ∧ machine.versionedOptions = .ok opts ∧ sha384 (t.records opts.order) = m.mrtd := by
  unfold computeMeasurements Machine.measure at h
  simp only [ok_iff] at h
  obtain ⟨fw', hfw', _, -, _, -, t', hparse', mrtd, hmrtd, _, -, _, -, rfl⟩ := h
  have hfw'' : fw' = fw := Except.ok.inj (hfw'.symm.trans hfw)
  subst hfw''
  have ht : t' = t := Except.ok.inj (hparse'.symm.trans hparse)
  subst ht
  obtain ⟨opts, hopts, hd⟩ := (Tdvf.mrtd_ok (Tdvf.parse_wellFormed hparse).2).mp hmrtd
  exact ⟨_, opts, rfl, rfl, hopts, hd⟩

lemma sha384_order_iff {t : Tdvf} {vmConfig : VmConfig} {version : Version}
    {machine : Machine} {opts : VersionedOptions}
    (hcf : Sha384.CollisionFreeOn [t.records .singlePass, t.records .twoPass])
    (htwo : machine.twoPassAddPages = vmConfig.qemuSinglePassAddPages)
    (hqemu : machine.qemuVersion = vmConfig.qemuVersion)
    (hversion : resolveVersion vmConfig.qemuVersion = .ok version)
    (hopts : machine.versionedOptions = .ok opts) :
    sha384 (t.records opts.order) = declaredMrtd t vmConfig version
      ↔ DeclarationHonoured t vmConfig := by
  rw [declaredMrtd, Tdvf.sha384_records_eq_iff hcf,
    order_declared_iff htwo hqemu hversion hopts]
  rfl

/-- Both expected MRTDs are the declared one exactly when the order is
left to the QEMU version or no section of the firmware depends on it. -/
theorem mrtd_declared_iff {fw : Bytes} {t : Tdvf} (hparse : Tdvf.parse fw = .ok t)
    {vmConfig : VmConfig} {version : Version}
    (hversion : resolveVersion vmConfig.qemuVersion = .ok version)
    (hcf : Sha384.CollisionFreeOn [t.records .singlePass, t.records .twoPass]) :
    (∀ (acpi : AcpiBuild) (read : ReadFile) (image : ImagePaths) (m : TdxMeasurements),
      read image.fwPath = .ok fw →
      computeMeasurements acpi read vmConfig image = .ok m →
      (m.mrtd = declaredMrtd t vmConfig version ↔ DeclarationHonoured t vmConfig))
    ∧ ∀ (I : Images) (imageDir : String) (f : Images.Files)
        (measurement : TdxOsImageMeasurement) (cbor : TdxCbor) (checksumFile : Bytes)
        (acpiHashes : TdxRtmr0AcpiHashes) (m : TdxMeasurements),
      I.Holds imageDir f → f.fwData = fw →
      I.tdxOsImageMeasurementForImageDir imageDir = .ok measurement →
      cbor.RoundTrips measurement.toCbor →
      tdxMeasurementsFromMeasurementDocument cbor
        (.fromMeasurement cbor checksumFile measurement) vmConfig acpiHashes = .ok m →
      (m.mrtd = declaredMrtd t vmConfig version
        ↔ DeclarationHonoured t vmConfig) := by
  constructor
  · intro acpi read image m hfw hm
    obtain ⟨machine, opts, htwo, hqemu, hopts, hd⟩ :=
      computeMeasurements_mrtd hfw hparse hm
    rw [← hd]
    exact sha384_order_iff hcf htwo hqemu hversion hopts
  · intro I imageDir f measurement cbor checksumFile acpiHashes m hf hfw hmeasurement
      hcbor hm
    obtain ⟨g, t', hg, hmeasured⟩ :=
      Images.tdxOsImageMeasurementForImageDir_ok hmeasurement
    have hgf : g = f := hg.unique hf
    subst hgf
    have hparse' := hmeasured.parsed
    rw [hfw] at hparse'
    have ht : t' = t := Except.ok.inj (hparse'.symm.trans hparse)
    subst ht
    obtain ⟨_, _, hlite⟩ := tdxMeasurementsFromMeasurementDocument_ok hcbor hm
    obtain ⟨opts, hopts, hd⟩ := selectMrtd_ok hmeasured hlite.mrtd
    rw [← hd]
    exact sha384_order_iff hcf rfl rfl hversion hopts

-- == a small image

def sampleKernel : Bytes :=
  writeAt (writeAt (writeAt (writeAt (zeros 240) 0x3c (leBytes 4 0x40)) 0x40
    (leBytes 4 0x4550)) 88 (leBytes 2 0x20b)) 148 (leBytes 4 240)

def sampleInitrd : Bytes := [1, 2, 3, 4]

def samplePaths : ImagePaths where
  imageDir := "/images"
  fwPath := "/images/ovmf.fd"
  kernelPath := "/images/bzImage"
  initrdPath := "/images/initramfs.cpio.gz"
  kernelCmdline := "console=ttyS0 initrd=initrd"
  isDev := false
  version := "0.5.10"
  kernelHeaderNormalized := true

def sampleRead : ReadFile := fun path =>
  if path = "/images/ovmf.fd" then .ok sampleFirmware
  else if path = "/images/bzImage" then .ok sampleKernel
  else if path = "/images/initramfs.cpio.gz" then .ok sampleInitrd
  else .error "No such file or directory (os error 2)"

def sampleConfig (singlePass : Option Bool) (qemuVersion : Option String) : VmConfig where
  cpuCount := 1
  memorySize := 0x80000000
  qemuSinglePassAddPages := singlePass
  qemuVersion := qemuVersion

def sampleMachine (vmConfig : VmConfig) : Machine :=
  machineFor vmConfig samplePaths.fwPath samplePaths.kernelPath
    samplePaths.initrdPath samplePaths.kernelCmdline true .pre202505

lemma computeMeasurements_sample {acpi : AcpiBuild} {singlePass : Option Bool}
    {qemuVersion : Option String} {opts : VersionedOptions} {tables : Tables}
    (hopts : (sampleMachine (sampleConfig singlePass qemuVersion)).versionedOptions
      = .ok opts)
    (htables : (sampleMachine (sampleConfig singlePass qemuVersion)).buildTables acpi
      = .ok tables) :
    ∃ m, computeMeasurements acpi sampleRead (sampleConfig singlePass qemuVersion)
        samplePaths = .ok m ∧ m.mrtd = sha384 (sampleTdvf.records opts.order) := by
  obtain ⟨hob, hhob⟩ := Result.exists_of_isOk
    (show (sampleTdvf.measureTdHob 0x80000000).isOk = true by decide +kernel)
  obtain ⟨log0, hlog0⟩ := Result.exists_of_isOk
    (show (rtmr0LogFromTdHobHashWithAcpiHashes hob .pre202505
      ⟨measureSha384 tables.loader, measureSha384 tables.rsdp,
        measureSha384 tables.tables⟩).isOk = true from rfl)
  obtain ⟨log1, hlog1⟩ := Result.exists_of_isOk
    (show (rtmr1Log sampleKernel 4 0x80000000 0x28000 true).isOk = true
      by decide +kernel)
  have hmrtd := (Tdvf.mrtd_ok (Tdvf.parse_wellFormed parse_sample).2).mpr
    ⟨opts, hopts, rfl⟩
  have hrtmr0 : sampleTdvf.rtmr0Log acpi
      (sampleMachine (sampleConfig singlePass qemuVersion)) = .ok log0 := by
    unfold Tdvf.rtmr0Log Tdvf.rtmr0LogWithAcpiHashes
    simp only [bind_eq_ok]
    exact ⟨tables, htables, hob, hhob, hlog0⟩
  unfold computeMeasurements Machine.measure
  simp only [ok_iff]
  exact ⟨_, ⟨sampleFirmware, rfl, sampleKernel, rfl, sampleInitrd, rfl, sampleTdvf,
    parse_sample, _, hmrtd, log0, hrtmr0, log1, hlog1, rfl⟩, rfl⟩

/-- A configuration that declares a single pass is expected to have been
measured in two, and the digests differ. -/
theorem declared_single_pass_expected_in_two :
    declaredOrder (sampleConfig (some true) none) (9, 1, 0) = .singlePass
      ∧ ∀ (acpi : AcpiBuild) (tables : Tables),
        (sampleMachine (sampleConfig (some true) none)).buildTables acpi = .ok tables →
        ∃ m, computeMeasurements acpi sampleRead (sampleConfig (some true) none)
            samplePaths = .ok m
          ∧ m.mrtd = sha384 (sampleTdvf.records .twoPass)
          ∧ m.mrtd ≠ declaredMrtd sampleTdvf (sampleConfig (some true) none)
              (9, 1, 0) := by
  refine ⟨rfl, ?_⟩
  intro acpi tables htables
  have hopts : (sampleMachine (sampleConfig (some true) none)).versionedOptions
      = .ok ⟨(9, 1, 0), false, true⟩ := rfl
  obtain ⟨m, hm, hmrtd⟩ := computeMeasurements_sample hopts htables
  refine ⟨m, hm, hmrtd, ?_⟩
  rw [hmrtd]
  exact sample_digests_differ.symm

lemma sample_collisionFree : Sha384.CollisionFreeOn
    [sampleTdvf.records .singlePass, sampleTdvf.records .twoPass] := by
  intro a ha b hb hab
  simp only [List.mem_cons, List.not_mem_nil, or_false] at ha hb
  rcases ha with rfl | rfl <;> rcases hb with rfl | rfl
  · rfl
  · exact absurd hab sample_digests_differ
  · exact absurd hab.symm sample_digests_differ
  · rfl

/-- Left to QEMU 8.2.2, the sample is expected in the two passes that
version makes. -/
theorem sample_mrtd_by_version :
    resolveVersion (some "8.2.2") = .ok (8, 2, 2)
      ∧ ∀ (acpi : AcpiBuild) (tables : Tables),
        (sampleMachine (sampleConfig none (some "8.2.2"))).buildTables acpi
          = .ok tables →
        ∃ m, computeMeasurements acpi sampleRead (sampleConfig none (some "8.2.2"))
            samplePaths = .ok m
          ∧ m.mrtd = declaredMrtd sampleTdvf (sampleConfig none (some "8.2.2"))
              (8, 2, 2) := by
  have hversion : resolveVersion (some "8.2.2") = .ok (8, 2, 2) := by decide +kernel
  refine ⟨hversion, ?_⟩
  intro acpi tables htables
  have hopts : (sampleMachine (sampleConfig none (some "8.2.2"))).versionedOptions
      = .ok ⟨(8, 2, 2), true, true⟩ :=
    Machine.versionedOptions_ok.mpr ⟨(8, 2, 2), hversion, by decide, rfl⟩
  obtain ⟨m, hm, -⟩ := computeMeasurements_sample hopts htables
  refine ⟨m, hm, ?_⟩
  have hiff := (mrtd_declared_iff parse_sample
    (show resolveVersion (sampleConfig none (some "8.2.2")).qemuVersion = _ from hversion)
    sample_collisionFree).1 acpi sampleRead samplePaths m rfl hm
  exact hiff.mpr (.inl rfl)

end Dstack.Verifier
