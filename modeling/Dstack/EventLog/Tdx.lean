/-
The TDX event log carried in an attestation (`cc-eventlog/src/tdx.rs`):
boot-time firmware events and dstack runtime events in one list. A V2
runtime event that is shown to a relying party carries its digest
preimage, and `validateV2Preimages` holds it to the canonical one.
-/
import Dstack.Lib.Sha2
import Dstack.EventLog.Runtime

namespace Dstack.EventLog

open Lib

structure TdxEvent where
  imr : Nat
  eventType : Nat
  digest : Bytes
  event : String
  eventPayload : Bytes
  version : EventLogVersion
  preimage : Option String
  deriving DecidableEq

namespace TdxEvent

def isRuntimeEvent (e : TdxEvent) : Bool :=
  e.eventType = dstackRuntimeEventType

def toRuntimeEvent (e : TdxEvent) : Option RuntimeEvent :=
  if e.isRuntimeEvent then some ⟨e.event, e.eventPayload, e.version⟩ else none

def fillPreimage (e : TdxEvent) : TdxEvent :=
  if e.preimage.isSome then e
  else
    match e.toRuntimeEvent with
    | some runtimeEvent =>
      { e with preimage := some (hexEncode runtimeEvent.preimage) }
    | none => e

end TdxEvent

def fillV2Preimages (events : List TdxEvent) : List TdxEvent :=
  events.map fun e => if e.version = .V2 then e.fillPreimage else e

/-- Hold one V2 runtime event's supplied preimage to its digest and to
the canonical form of its fields. Other entries pass. -/
def validateV2Preimage (index : Nat) (e : TdxEvent) : Result Unit :=
  let named := "V2 runtime event " ++ toString index
  if ¬ e.isRuntimeEvent ∨ e.version ≠ .V2 then .ok ()
  else do
    let suppliedHex ← Result.ofOption e.preimage
      (named ++ " is missing its digest preimage")
    let supplied ← (hexDecode suppliedHex).context
      (named ++ " has a malformed digest preimage")
    Result.ensure (sha384 supplied = e.digest)
      (named ++ " digest does not match its preimage")
    match e.toRuntimeEvent with
    | none => .ok ()
    | some runtimeEvent =>
      Result.ensure (supplied = runtimeEvent.preimage)
        (named ++ " preimage is not the canonical event representation")

def validateV2Preimages (events : List TdxEvent) : Result Unit :=
  events.zipIdx.forM fun (e, index) => validateV2Preimage index e

end Dstack.EventLog
