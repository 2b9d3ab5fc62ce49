/-
Runtime events and their replay (`cc-eventlog/src/runtime_events.rs`).

A runtime event is a name, a payload and the version of the digest
format it was logged under. Its digest is the hash of its PREIMAGE: for
V1 a delimiter-joined concatenation, for V2 the canonical JSON of the
two fields. `replayEvents` extends a zero register by each digest in
order and is what a verifier compares with the quoted register; with a
`toEvent` it stops after the first event of that name, which is how the
boot-time value of the register is recovered from a full log.
-/
import Dstack.Lib.Hash
import Dstack.Lib.Text

namespace Dstack.EventLog

open Lib

def dstackRuntimeEventType : Nat := 0x08000001

inductive EventLogVersion where
  | V1
  | V2
  deriving DecidableEq

structure RuntimeEvent where
  event : String
  payload : Bytes
  version : EventLogVersion
  deriving DecidableEq

/-- The JCS canonical JSON that is the V2 digest input: members in key
order, no whitespace, the payload in hexadecimal. -/
def canonicalEventJsonV2 (event : String) (payload : Bytes) : String :=
  "\x7b\"name\":" ++ jsonString event ++
    (",\"payload\":" ++ jsonString (hexEncode payload) ++
      (",\"type\":" ++ toString dstackRuntimeEventType ++ "\x7d"))

namespace RuntimeEvent

def preimage (e : RuntimeEvent) : Bytes :=
  match e.version with
  | .V1 =>
    leBytes 4 dstackRuntimeEventType ++ utf8 ":" ++ utf8 e.event
      ++ utf8 ":" ++ e.payload
  | .V2 => utf8 (canonicalEventJsonV2 e.event e.payload)

/-- The event's digest under `H`. -/
def digest (H : Hasher) (e : RuntimeEvent) : Bytes := H.hash e.preimage

def content (e : RuntimeEvent) : String × Bytes := (e.event, e.payload)

end RuntimeEvent

def replayEventsFrom (H : Hasher) (toEvent : Option String) :
    Bytes → List RuntimeEvent → Bytes
  | mr, [] => mr
  | mr, e :: es =>
    let mr := H.hash (mr ++ e.digest H)
    -- `break` once the named event has been extended
    if toEvent = some e.event then mr else replayEventsFrom H toEvent mr es

/-- Replay an event log, up to and including the first event named
`toEvent` if one is given. -/
def replayEvents (H : Hasher) (eventlog : List RuntimeEvent)
    (toEvent : Option String) : Bytes :=
  replayEventsFrom H toEvent H.zero eventlog

-- == what replay computes

lemma replayEventsFrom_none (H : Hasher) (log : List RuntimeEvent) :
    ∀ mr, replayEventsFrom H none mr log
      = (log.map (·.digest H)).foldl H.extend mr := by
  induction log with
  | nil => intro mr; rfl
  | cons e es ih =>
    intro mr
    rw [replayEventsFrom, if_neg (by simp), ih, List.map_cons,
      List.foldl_cons]
    rfl

lemma replayEvents_none (H : Hasher) (log : List RuntimeEvent) :
    replayEvents H log none = H.replay (log.map (·.digest H)) :=
  replayEventsFrom_none H log H.zero

/-- Every input hashed by a full replay: the preimages, and the
register and digest of each extension. -/
def replayEventsInputs (H : Hasher) (log : List RuntimeEvent) : List Bytes :=
  log.map (·.preimage) ++ H.replayInputs (log.map (·.digest H))

end Dstack.EventLog
