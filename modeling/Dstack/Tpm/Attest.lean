/-
TPM quotes and the attested message inside them (`tpm-types`, and
`parse_tpm_attest` of `tpm-qvl/src/verify.rs`).

A quote travels as a `TPMS_ATTEST` message with a signature, and next
to it the values of the quoted PCRs and an event log. Only the message
is signed. It names the PCRs by a bitmap per hash bank and carries one
digest over all their values.
-/
import Dstack.Lib.Reader
import Dstack.Lib.Text

namespace Dstack.Tpm

open Lib

inductive Platform where
  | dstack
  | gcp
  | nitroEnclave
  | awsEc2
  deriving DecidableEq

structure PcrValue where
  index : Nat
  algorithm : String
  value : Bytes
  deriving DecidableEq

structure TpmEvent where
  pcrIndex : Nat
  digest : Bytes
  deriving DecidableEq

structure TpmQuote where
  message : Bytes
  signature : Bytes
  pcrValues : List PcrValue
  akCert : Bytes
  platform : Platform
  eventLog : List TpmEvent
  deriving DecidableEq

structure PcrSelection where
  hashAlg : Nat
  pcrIndices : List Nat
  deriving DecidableEq

structure QuoteInfo where
  pcrSelections : List PcrSelection
  pcrDigest : Bytes
  deriving DecidableEq

structure ClockInfo where
  clock : Nat
  resetCount : Nat
  restartCount : Nat
  safe : Nat
  deriving DecidableEq

/-- A decoded `TPMS_ATTEST` message. -/
structure TpmAttest where
  magic : Nat
  type : Nat
  qualifiedSigner : Bytes
  qualifiedData : Bytes
  clockInfo : ClockInfo
  firmwareVersion : Nat
  attestedQuoteInfo : QuoteInfo
  deriving DecidableEq

-- == parsing

def parseSizedBuffer : Reader Bytes := do
  let size ← Reader.be 2
  Reader.take size

def bitmapIndices (bitmap : Bytes) : List Nat :=
  bitmap.zipIdx.flatMap fun (byte, byteIdx) =>
    ((List.range 8).filter fun bitIdx => byte.toNat.testBit bitIdx).map
      fun bitIdx => byteIdx * 8 + bitIdx

def parsePcrSelection : Reader PcrSelection := do
  let hashAlg ← Reader.be 2
  let sizeofSelect ← Reader.be 1
  let pcrBitmap ← Reader.take sizeofSelect
  pure { hashAlg, pcrIndices := bitmapIndices pcrBitmap }

def parseAttest : Reader TpmAttest := do
  let magic ← Reader.be 4
  let type ← Reader.be 2
  let qualifiedSigner ← parseSizedBuffer
  let qualifiedData ← parseSizedBuffer
  let clock ← Reader.be 8
  let resetCount ← Reader.be 4
  let restartCount ← Reader.be 4
  let safe ← Reader.be 1
  let firmwareVersion ← Reader.be 8
  let pcrSelectCount ← Reader.be 4
  let pcrSelections ← Reader.replicate parsePcrSelection pcrSelectCount
  let pcrDigest ← parseSizedBuffer
  pure {
    magic, type, qualifiedSigner, qualifiedData
    clockInfo := { clock, resetCount, restartCount, safe }
    firmwareVersion
    attestedQuoteInfo := { pcrSelections, pcrDigest } }

/-- Decode a `TPMS_ATTEST` message. Bytes after the digest are ignored. -/
def parseTpmAttest (data : Bytes) : Result TpmAttest := do
  let (attest, _) ← (parseAttest.run data).mapError fun input =>
    "parse error: Parsing Error: Error \x7b input: "
      ++ debugList (input.map fun b => toString b.toNat) ++ ", code: Eof \x7d"
  Result.ensure (attest.magic = 0xff544347)
    ("invalid magic number: 0x" ++ hexPadded 8 attest.magic)
  Result.ensure (attest.type = 0x8018)
    ("invalid attest type: 0x" ++ hexPadded 4 attest.type)
  pure attest

end Dstack.Tpm
