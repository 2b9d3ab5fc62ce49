/-
Measurement material of an OS image (`dstack-types`).

The image identity is the digest of `sha256sum.txt`. A document carries
that file with one of the files it lists, so that a verifier can learn
the file's contents without the image: the list must hash to the
identity and the file to its entry in the list. The four documents
differ in the listed name and in what the file decodes to.
-/
import Dstack.Lib.Sha2
import Dstack.Types.Sha256sum

namespace Dstack

open Lib

structure MeasurementMaterial where
  checksumFile : Bytes
  measurement : Bytes
  deriving DecidableEq

def imageHashFromSha256sum (checksumFile : Bytes) : Bytes :=
  sha256 checksumFile

def verifyMeasurementMaterial (osImageHash checksumFile measurement : Bytes)
    (filename : String) : Result Unit := do
  Result.ensure (imageHashFromSha256sum checksumFile = osImageHash)
    ("os_image_hash mismatch: expected sha256(sha256sum.txt)="
      ++ hexEncode osImageHash ++ ", actual="
      ++ hexEncode (imageHashFromSha256sum checksumFile))
  let expectedMeasurementHash ← Sha256sum.entryHash checksumFile filename
  let actualMeasurementHash := sha256 measurement
  Result.ensure (expectedMeasurementHash = actualMeasurementHash)
    (filename ++ " hash mismatch: sha256sum.txt="
      ++ hexEncode expectedMeasurementHash ++ ", actual="
      ++ hexEncode actualMeasurementHash)

/-- Decode one CBOR document, and only one. The decoder returns the
value with the number of bytes it read. -/
def cborFromSlice {α : Type} (decode : Bytes → Result (α × Nat))
    (bytes : Bytes) (context : String) : Result α := do
  let (value, position) ← (decode bytes).context
    (context ++ ": failed to decode CBOR")
  Result.ensure (bytes.length - position = 0)
    (context ++ ": " ++ toString (bytes.length - position)
      ++ " trailing byte(s) after the CBOR document")
  pure value

-- == platforms

structure CborGcpOsImageMeasurement where
  version : Nat
  ukiAuthenticodeSha256 : Bytes
  deriving DecidableEq

structure CborAwsOsImageMeasurement where
  version : Nat
  bootPcrDigest : Bytes
  deriving DecidableEq

structure OvmfSection where
  gpa : Nat
  size : Nat
  sectionType : Nat
  deriving DecidableEq

structure SevOsImageMeasurement where
  baseCmdline : String
  ovmfHash : Bytes
  kernelHash : Bytes
  initrdHash : Bytes
  sevHashesTableGpa : Nat
  sevEsResetEip : Nat
  ovmfSections : List OvmfSection
  deriving DecidableEq

structure MeasurementCbor where
  gcp : Bytes → Result (CborGcpOsImageMeasurement × Nat)
  aws : Bytes → Result (CborAwsOsImageMeasurement × Nat)
  sev : Bytes → Result ((Nat × SevOsImageMeasurement) × Nat)

def GcpOsImageMeasurement.fromCborSlice (cbor : MeasurementCbor)
    (bytes : Bytes) : Result Bytes := do
  let measurement ← cborFromSlice cbor.gcp bytes "GcpOsImageMeasurement"
  Result.ensure (measurement.version = 1)
    ("GcpOsImageMeasurement unsupported version "
      ++ toString measurement.version ++ ", expected 1")
  Result.ensure (measurement.ukiAuthenticodeSha256.length = 32)
    ("GcpOsImageMeasurement: UKI Authenticode hash has invalid length "
      ++ toString measurement.ukiAuthenticodeSha256.length ++ ", expected 32")
  pure measurement.ukiAuthenticodeSha256

def AwsOsImageMeasurement.fromCborSlice (cbor : MeasurementCbor)
    (bytes : Bytes) : Result Bytes := do
  let measurement ← cborFromSlice cbor.aws bytes "AwsOsImageMeasurement"
  Result.ensure (measurement.version = 1)
    ("AwsOsImageMeasurement: unsupported version "
      ++ toString measurement.version ++ ", expected 1")
  Result.ensure (measurement.bootPcrDigest.length = 32)
    ("AwsOsImageMeasurement: boot_pcr_digest has invalid length "
      ++ toString measurement.bootPcrDigest.length ++ ", expected 32")
  pure measurement.bootPcrDigest

def SevOsImageMeasurement.fromCborSlice (cbor : MeasurementCbor)
    (bytes : Bytes) : Result SevOsImageMeasurement := do
  let (version, measurement) ←
    cborFromSlice cbor.sev bytes "SevOsImageMeasurement"
  Result.ensure (version = 3) ("SevOsImageMeasurement: unsupported version "
    ++ toString version ++ ", expected 3")
  pure measurement

abbrev GcpOsImageMeasurementDocument := MeasurementMaterial

def GcpOsImageMeasurementDocument.verify (d : GcpOsImageMeasurementDocument)
    (osImageHash : Bytes) : Result Unit :=
  verifyMeasurementMaterial osImageHash d.checksumFile d.measurement
    "measurement.gcp.cbor"

abbrev AwsOsImageMeasurementDocument := MeasurementMaterial

def AwsOsImageMeasurementDocument.verify (d : AwsOsImageMeasurementDocument)
    (osImageHash : Bytes) : Result Unit :=
  verifyMeasurementMaterial osImageHash d.checksumFile d.measurement
    "measurement.aws.cbor"

abbrev SevOsImageMeasurementDocument := MeasurementMaterial

def SevOsImageMeasurementDocument.verify (d : SevOsImageMeasurementDocument)
    (osImageHash : Bytes) : Result Unit :=
  verifyMeasurementMaterial osImageHash d.checksumFile d.measurement
    "measurement.snp.cbor"

abbrev TdxOsImageMeasurementDocument := MeasurementMaterial

end Dstack
