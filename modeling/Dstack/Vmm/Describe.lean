/-
The VM configuration that the VMM hands to the guest and to verifiers
(`vmm/src/app.rs`: `make_vm_config`).

It is JSON: the fields of `VmConfig`, and a few members beside them. The
measured topology is rebuilt from it (`Mr.machineFor`), so it has to say
how many devices of each kind the launch attaches.
-/
import Dstack.Mr.SevLaunch
import Dstack.Vmm.Launch

namespace Dstack.Vmm

open Lib

structure VmDescription where
  vmConfig : Dstack.VmConfig
  image : Option String
  specVersion : Nat
  awsPcrReplay : Option AwsPcrReplay
  gcpTpmReplay : Option GcpTpmReplay
  mrConfig : Option String
  sevSnpMeasurement : Option Mr.Sev.SnpMeasurementDocument

structure DescribeFormats where
  mrConfigV3 : String → Result MrConfigV3
  cbor : MeasurementCbor

def imageSupportsTdxLite (image : Image) : Bool :=
  image.digest.any (fun d => trim d ≠ "") && image.tdxMeasurement.isSome

/-- From the app's `tdx_measure_acpi_tables` requirement. -/
def tdxAttestationVariantFromRequirements (measureAcpiTables : Option Bool) :
    Option TdxAttestationVariant :=
  measureAcpiTables.map fun measured => if measured then .legacy else .lite

def awsMeasurementFromBootPcrs (replay : AwsPcrReplay) : Result Bytes := do
  let check (label : String) (pcr : Bytes) : Result Unit :=
    Result.ensure (pcr.length = 48) ("AwsOsImageMeasurement: " ++ label
      ++ " has invalid length " ++ toString pcr.length ++ ", expected 48")
  check "pcr4" replay.pcr4
  check "pcr7" replay.pcr7
  check "pcr12" replay.pcr12
  pure (sha256 (replay.pcr4 ++ replay.pcr7 ++ replay.pcr12))

section Describe

variable (formats : DescribeFormats) (host : LaunchHost) (cfg : NodeConfig)
  (manifest : Manifest) (image : Image)

def resolvedVariant (isTdx : Bool) (measureAcpiTables : Option Bool) : TdxAttestationVariant :=
  if isTdx then
    (tdxAttestationVariantFromRequirements measureAcpiTables).getD
      (cfg.tdxAttestationVariant.resolve (imageSupportsTdxLite image))
  else .legacy

def tdxMaterial (isTdx : Bool) (variant : TdxAttestationVariant) :
    Result (Option TdxOsImageMeasurementDocument) :=
  if isTdx = false then .ok none
  else if variant = .lite then do
    let document ← Result.ofOption image.tdxMeasurement
      ("tdx lite attestation requested but "
        ++ "image is missing measurement.tdx.cbor/sha256sum.txt measurement material")
    pure (some document)
  else .ok image.tdxMeasurement

def simulatedMaterial (variant : TeeVariant) (document : Option MeasurementMaterial)
    (missing : String) : Result (Option MeasurementMaterial) :=
  if manifest.simulatedTee = some variant then do
    let document ← Result.ofOption document missing
    pure (some document)
  else .ok none

def describedNodes (gpus : GpuConfig) (pxbBuses : List Nat) : List NumaNodeConfig :=
  if pxbBuses = [firstPxbBus] ∧ gpus.gpus ≠ [] then []
  else pxbBuses.map fun bus => { pxbBus := some bus }

def launchBuses : Option (BTreeMap Nat Nat) → Result (List Nat)
  | some nodes => pxbBuses nodes
  | none => .ok []

def awsReplay : Result (Option AwsPcrReplay) :=
  if manifest.simulatedTee = some .dstackAwsNitroTpm then do
    let replay ← Result.ofOption image.awsPcrReplay
      "AWS NitroTPM simulation requires measurement.aws.replay.json"
    let replayMeasurement ← awsMeasurementFromBootPcrs replay
    let document ← Result.ofOption image.awsMeasurement
      "AWS NitroTPM image is missing measurement.aws.cbor"
    let imageMeasurement ← AwsOsImageMeasurement.fromCborSlice formats.cbor document.measurement
    Result.ensure (replayMeasurement = imageMeasurement)
      "measurement.aws.replay.json does not match measurement.aws.cbor"
    pure (some replay)
  else .ok none

def gcpReplay : Result (Option GcpTpmReplay) :=
  if manifest.simulatedTee = some .dstackGcpTdx then do
    let replay ← Result.ofOption image.gcpTpmReplay
      "GCP TDX simulation requires measurement.gcp.eventlog.bin"
    pure (some replay)
  else .ok none

/-- The `mr_config` and `sev_snp_measurement` members. -/
def snpMembers (isAmdSevSnp : Bool) (mrConfig : Option String) (vcpus : Nat) :
    Result (Option String × Option Mr.Sev.SnpMeasurementDocument) :=
  if isAmdSevSnp then do
    mrConfig.forM fun document =>
      ((formats.mrConfigV3 document).context "Invalid mr_config document").map fun _ => ()
    let material ← Result.ofOption image.sevMeasurement
      ("amd sev-snp image is missing "
        ++ "measurement.snp.cbor/sha256sum.txt measurement material")
    pure (mrConfig, some
      { checksumFile := material.checksumFile
        measurement := material.measurement
        vcpus := vcpus
        vcpuType := some "EPYC-v4"
        guestFeatures := 1 })
  else .ok (none, none)

def makeVmConfig (mrConfig : Option String) (measureAcpiTables : Option Bool) :
    Result VmDescription := do
  let platform := cfg.resolvedPlatform host
  let isAmdSevSnp : Bool := platform = .amdSevSnp ∧ manifest.noTee = false
  let isTdx : Bool := platform = .tdx ∧ manifest.noTee = false
  let variant := resolvedVariant cfg image isTdx measureAcpiTables
  let osImageHash := (image.digest.bind fun d => (hexDecode d).toOption).getD []
  let tdxMeasurement ← tdxMaterial image isTdx variant
  let gpus := allocateGpus cfg manifest
  let nodes ← launchNodes host manifest gpus
  let vcpus := effectiveVcpuCount manifest.vcpu (nodeCount nodes)
  let memoryMb := effectiveMemoryMb manifest.memory (nodeCount nodes)
  let buses ← launchBuses nodes
  let networks := resolvedNetworks manifest.networks cfg.network manifest.vcpu
  let gcpMeasurement ← simulatedMaterial manifest .dstackGcpTdx image.gcpMeasurement
    "GCP TDX image is missing measurement.gcp.cbor measurement material"
  let awsMeasurement ← simulatedMaterial manifest .dstackAwsNitroTpm image.awsMeasurement
    "AWS NitroTPM image is missing measurement.aws.cbor measurement material"
  let qemuVersion ← cfg.resolveQemuVersion host
  let awsPcrReplay ← awsReplay formats manifest image
  let gcpTpmReplay ← gcpReplay manifest image
  let (mrConfig, sevSnpMeasurement) ← snpMembers formats image isAmdSevSnp mrConfig vcpus
  pure
    { vmConfig :=
        { osImageHash := osImageHash
          cpuCount := vcpus
          memorySize := memoryMb * 1024 * 1024
          qemuSinglePassAddPages := cfg.qemuSinglePassAddPages
          pic := cfg.qemuPic
          qemuVersion := some qemuVersion
          pciHole64Size := cfg.qemuPciHole64Size
          hugepages := manifest.hugepages
          numaNodes := describedNodes gpus buses
          numGpus := asU32 gpus.gpus.length
          numNvswitches := asU32 gpus.bridges.length
          numNics := asU32 networks.length
          numVerityVolumes := asU32 manifest.volumes.length
          extraRootDevices := []
          swtpm := manifest.swtpm
          hostShareMode := cfg.hostShareMode
          hotplugOff := cfg.qemuHotplugOff
          ovmfVariant := image.info.ovmfVariant
          tdxAttestationVariant := variant
          tdxMeasurement := tdxMeasurement
          gcpMeasurement := gcpMeasurement
          awsMeasurement := awsMeasurement }
      image := some manifest.image
      specVersion := 1
      awsPcrReplay := awsPcrReplay
      gcpTpmReplay := gcpTpmReplay
      mrConfig := mrConfig
      sevSnpMeasurement := sevSnpMeasurement }

end Describe

end Dstack.Vmm
