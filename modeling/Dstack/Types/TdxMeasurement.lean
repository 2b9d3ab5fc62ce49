/-
The TDX measurement material of an OS image (`dstack-types`).

`TdxOsImageMeasurement` is what an image contributes to the TDX
measurement registers. It is stored as CBOR in `measurement.tdx.cbor`;
the codec is the CBOR library's work and a parameter.
-/
import Dstack.Types

namespace Dstack

open Lib

structure TdxMrtdCandidates where
  singlePass : Bytes
  twoPass : Bytes
  deriving DecidableEq

structure TdxImageMeasurement where
  baseCmdline : String
  kernelAuthenticode : Bytes
  initrdSha384 : Bytes
  deriving DecidableEq

structure TdxTdvfMeasurement where
  ovmfVariant : OvmfVariant
  mrtd : TdxMrtdCandidates
  tdHobWitness : Bytes
  deriving DecidableEq

structure TdxOsImageMeasurement where
  image : TdxImageMeasurement
  tdvf : TdxTdvfMeasurement
  kernelHeaderNormalized : Bool
  deriving DecidableEq

/-- The stored form of a measurement: a version, and the kernel header
flag among the image's fields. -/
structure CborTdxImageMeasurement where
  baseCmdline : String
  kernelAuthenticode : Bytes
  kernelHeaderNormalized : Bool
  initrdSha384 : Bytes
  deriving DecidableEq

structure CborTdxOsImageMeasurement where
  version : Nat
  image : CborTdxImageMeasurement
  tdvf : TdxTdvfMeasurement
  deriving DecidableEq

structure TdxCbor where
  encode : CborTdxOsImageMeasurement → Bytes
  decode : Bytes → Result (CborTdxOsImageMeasurement × Nat)

def TdxCbor.RoundTrips (cbor : TdxCbor) (m : CborTdxOsImageMeasurement) : Prop :=
  cbor.decode (cbor.encode m) = .ok (m, (cbor.encode m).length)

namespace TdxOsImageMeasurement

def version : Nat := 4

def maxCmdlineLen : Nat := 2048

def toCbor (m : TdxOsImageMeasurement) : CborTdxOsImageMeasurement where
  version := version
  image := {
    baseCmdline := m.image.baseCmdline
    kernelAuthenticode := m.image.kernelAuthenticode
    kernelHeaderNormalized := m.kernelHeaderNormalized
    initrdSha384 := m.image.initrdSha384 }
  tdvf := m.tdvf

def ofCbor (c : CborTdxOsImageMeasurement) : TdxOsImageMeasurement where
  kernelHeaderNormalized := c.image.kernelHeaderNormalized
  image := {
    baseCmdline := c.image.baseCmdline
    kernelAuthenticode := c.image.kernelAuthenticode
    initrdSha384 := c.image.initrdSha384 }
  tdvf := c.tdvf

def toCborVec (cbor : TdxCbor) (m : TdxOsImageMeasurement) : Bytes :=
  cbor.encode m.toCbor

def fromCborSlice (cbor : TdxCbor) (bytes : Bytes) :
    Result TdxOsImageMeasurement := do
  let c ← cborFromSlice cbor.decode bytes "TdxOsImageMeasurement"
  Result.ensure (c.version = version)
    ("TdxOsImageMeasurement: unsupported version " ++ toString c.version
      ++ ", expected " ++ toString version
      ++ ". rebuild the image so measurement.tdx.cbor carries the kernel "
      ++ "command line, then re-register its os_image_hash.")
  let cmdlineLen := (utf8 c.image.baseCmdline).length
  Result.ensure (¬ cmdlineLen > maxCmdlineLen)
    ("TdxOsImageMeasurement: kernel command line is " ++ toString cmdlineLen
      ++ " bytes, over the " ++ toString maxCmdlineLen
      ++ " byte x86_64 COMMAND_LINE_SIZE")
  pure (ofCbor c)

end TdxOsImageMeasurement

namespace TdxOsImageMeasurementDocument

def fromMeasurement (cbor : TdxCbor) (checksumFile : Bytes)
    (m : TdxOsImageMeasurement) : TdxOsImageMeasurementDocument :=
  ⟨checksumFile, m.toCborVec cbor⟩

def decodeMeasurement (cbor : TdxCbor) (d : TdxOsImageMeasurementDocument) :
    Result TdxOsImageMeasurement :=
  TdxOsImageMeasurement.fromCborSlice cbor d.measurement

lemma decodeMeasurement_fromMeasurement {cbor : TdxCbor} {checksumFile : Bytes}
    {m n : TdxOsImageMeasurement} (hcbor : cbor.RoundTrips m.toCbor) :
    (fromMeasurement cbor checksumFile m).decodeMeasurement cbor = .ok n
      ↔ n = m ∧ (utf8 m.image.baseCmdline).length
        ≤ TdxOsImageMeasurement.maxCmdlineLen := by
  have hslice : cborFromSlice cbor.decode (m.toCborVec cbor) "TdxOsImageMeasurement"
      = .ok m.toCbor := by
    unfold cborFromSlice
    simp only [ok_iff]
    exact ⟨_, hcbor, (), Nat.sub_self _, rfl⟩
  unfold decodeMeasurement TdxOsImageMeasurement.fromCborSlice
  simp only [fromMeasurement, ok_iff]
  constructor
  · rintro ⟨c, hc, _, -, _, hlen, rfl⟩
    cases hslice.symm.trans hc
    exact ⟨rfl, Nat.le_of_not_gt hlen⟩
  · rintro ⟨rfl, hlen⟩
    exact ⟨_, hslice, (), rfl, (), Nat.not_lt.mpr hlen, rfl⟩

end TdxOsImageMeasurementDocument

end Dstack
