/-
Attestations and what verifies them (`dstack-attest`): the platform
evidence with its event log, the stack evidence that travels beside it,
and the verifiers for each kind of quote.

Nothing in the stack evidence is signed by itself. `reportData` is
compared with the quote, `runtimeEvents` are replayed against a quoted
register on the platforms that have one, and `config` is only a claim
until the OS-image check confirms it.
-/
import Dstack.EventLog.Tdx
import Dstack.Nsm.Verify
import Dstack.SevSnp.Verify
import Dstack.Tpm.Verify
import Dstack.Types

namespace Dstack.Attest

open Lib EventLog

structure TDReport10 where
  mrTd : Bytes
  rtMr0 : Bytes
  rtMr1 : Bytes
  rtMr2 : Bytes
  rtMr3 : Bytes
  mrConfigId : Bytes
  mrOwner : Bytes
  mrOwnerConfig : Bytes
  mrSignerSeam : Bytes
  tdAttributes : Bytes
  reportData : Bytes
  deriving DecidableEq

inductive Report where
  | td10 (report : TDReport10)
  | td15 (base : TDReport10) (mrServiceTd : Bytes)
  | sgxEnclave (attributes : Bytes)
  deriving DecidableEq

def Report.asTd10 : Report → Option TDReport10
  | .td10 r => some r
  | .td15 base _ => some base
  | .sgxEnclave _ => none

structure TdxVerifiedReport where
  status : String
  advisoryIds : List String
  report : Report
  ppid : Bytes
  deriving DecidableEq

inductive PlatformEvidence where
  | tdx (quote : Bytes) (eventLog : List TdxEvent)
  | gcpTdx (quote : Bytes) (eventLog : List TdxEvent) (tpmQuote : Tpm.TpmQuote)
  | nitroEnclave (nsmQuote : Bytes)
  | awsNitroTpm (attestationDoc : Bytes)
  | sevSnp (report : Bytes) (certChain : List Bytes) (mrConfig : String)
  deriving DecidableEq

def PlatformEvidence.tdxEventLog : PlatformEvidence → Option (List TdxEvent)
  | .tdx _ eventLog | .gcpTdx _ eventLog _ => some eventLog
  | .nitroEnclave _ | .awsNitroTpm _ | .sevSnp _ _ _ => none

structure StackEvidence where
  reportData : Bytes
  runtimeEvents : List RuntimeEvent
  config : String
  reportDataPayload : Option String
  deriving DecidableEq

structure AttestationV1 where
  platform : PlatformEvidence
  stack : StackEvidence
  deriving DecidableEq

structure NitroPcrs where
  pcr0 : Bytes
  pcr1 : Bytes
  pcr2 : Bytes
  pcr4 : Bytes
  deriving DecidableEq

structure NitroVerifiedReport where
  moduleId : String
  pcrs : NitroPcrs
  userData : Bytes
  timestamp : Nat
  deriving DecidableEq

structure AwsNitroTpmVerifiedReport where
  moduleId : String
  pcrs : List (Nat × Bytes)
  publicKey : Option Bytes
  userData : Bytes
  nonce : Option Bytes
  timestamp : Nat
  deriving DecidableEq

inductive DstackVerifiedReport where
  | dstackTdx (report : TdxVerifiedReport)
  | dstackGcpTdx (tdxReport : TdxVerifiedReport) (tpmReport : Tpm.VerifiedReport)
  | dstackNitroEnclave (report : NitroVerifiedReport)
  | dstackAmdSevSnp (report : SevSnp.VerifiedAmdSnpReport)
  | dstackAwsNitroTpm (report : AwsNitroTpmVerifiedReport)
  deriving DecidableEq

def DstackVerifiedReport.tdxReport :
    DstackVerifiedReport → Option TdxVerifiedReport
  | .dstackTdx report => some report
  | .dstackAmdSevSnp _ => none
  | .dstackGcpTdx tdxReport _ => some tdxReport
  | .dstackNitroEnclave _ | .dstackAwsNitroTpm _ => none

inductive AttestationQuote where
  | dstackTdx (quote : Bytes) (eventLog : List TdxEvent)
  | dstackGcpTdx (quote : Bytes) (eventLog : List TdxEvent)
      (tpmQuote : Tpm.TpmQuote)
  | dstackNitroEnclave (nsmQuote : Bytes)
  | dstackAmdSevSnp (report : Bytes) (certChain : List Bytes) (mrConfig : String)
  | dstackAwsNitroTpm (attestationDoc : Bytes)
  deriving DecidableEq

def platformIntoLegacyQuote : PlatformEvidence → AttestationQuote
  | .tdx quote eventLog => .dstackTdx quote eventLog
  | .sevSnp report certChain mrConfig => .dstackAmdSevSnp report certChain mrConfig
  | .gcpTdx quote eventLog tpmQuote => .dstackGcpTdx quote eventLog tpmQuote
  | .nitroEnclave nsmQuote => .dstackNitroEnclave nsmQuote
  | .awsNitroTpm attestationDoc => .dstackAwsNitroTpm attestationDoc

/-- An attestation with a report of type `R` attached. -/
structure Attestation (R : Type) where
  quote : AttestationQuote
  runtimeEvents : List RuntimeEvent
  reportData : Bytes
  config : String
  report : R
  deriving DecidableEq

abbrev VerifiedAttestation := Attestation DstackVerifiedReport

/-- The verifiers for each platform. TDX quotes go to the DCAP library
with its collateral service; the clock is read when no time is given. -/
structure AttestationVerifier where
  verifyTdxQuote : Bytes → Result TdxVerifiedReport
  tpmCrypto : Tpm.Crypto
  tpmRootCaPem : String
  tpmCollateral : Tpm.TpmQuote → Result Tpm.QuoteCollateral
  awsNitroEnclave : Nsm.QuoteVerifier
  awsNitroTpm : Nsm.QuoteVerifier
  sevSnp : SevSnp.Library
  json : Json
  clock : Nat

end Dstack.Attest
