/-
The lazy fetch of port policies (`gateway/src/proxy/port_policy.rs`), next
to everything else that happens to a gateway.

A fetch reads the address of an instance, lets go of the lock, asks
whoever is at that address, and takes the lock again to write the answer.
Anything can happen in between.

`stated` is not in the code: it is what was said, by which instance and
under which compose hash, by a registration or in answer to a fetch.
-/
import Dstack.Gateway.ProxyState

namespace Dstack.Gateway

open Lib

/-- An instance states its policy. -/
structure Stated where
  id : String
  composeHash : String
  policy : PortPolicy
  deriving DecidableEq

/-- How far a fetch got; of an answer, who gave it and when is what the
code does not keep. -/
inductive Fetch where
  | asking (ip : Ipv4Addr)
  | answered (answer : Stated)

/-- The table, the fetches under way, and all that was stated. -/
structure World where
  table : ProxyState
  inFlight : BTreeMap String Fetch := .empty
  stated : List Stated := []

/-- A call, a statement of a peer's, or a step of a fetch. -/
inductive Event where
  | op (op : Op)
  | peers (stated : List Stated)
  | snapshot (id : String)
  | answer (id by_ : String) (policy : PortPolicy)
  /-- No answer. -/
  | fail (id : String)
  | store (fails : Faults) (id : String)

def statedBy (id composeHash : String) (reported : ReportedCapabilities) (s : ProxyState) :
    List Stated :=
  match reported.portPolicy, s.instances.get? id with
  | some policy, some info =>
    if info.portPolicyHash = composeHash ∧ info.portPolicy = some policy then
      [⟨id, composeHash, policy⟩] else []
  | _, _ => []

def Op.statedIn (s : ProxyState) : Op → List Stated
  | .registerCvm _ _ _ _ instanceId _ composeHash reported =>
    statedBy instanceId composeHash reported s
  | .newClient _ _ id _ _ composeHash reported => statedBy id composeHash reported s
  | _ => []

namespace World

/-- The first part of `fetch_and_store`. -/
def snapshot (id : String) (w : World) : World :=
  match w.inFlight.get? id, w.table.instances.get? id with
  | none, some info => { w with inFlight := w.inFlight.insert id (.asking info.ip) }
  | _, _ => w

/-- The answer to `Info()`, from an instance that is at the address. -/
def answer (id by_ : String) (policy : PortPolicy) (w : World) : World :=
  match w.inFlight.get? id, w.table.instances.get? by_ with
  | some (.asking ip), some info =>
    if info.ip = ip then
      let answer : Stated := ⟨by_, info.portPolicyHash, policy⟩
      { w with
        inFlight := w.inFlight.insert id (.answered answer)
        stated := answer :: w.stated }
    else w
  | _, _ => w

/-- The last part of `fetch_and_store`. -/
def store (fails : Faults) (id : String) (w : World) : World :=
  match w.inFlight.get? id with
  | some (.answered answer) =>
    { w with
      table := w.table.updateInstancePortPolicy fails id answer.policy
      inFlight := w.inFlight.erase id }
  | _ => w

def step (G : Setup) (w : World) : Event → World
  -- Only a fetch writes a policy on its own.
  | .op (.updatePortPolicy ..) => w
  | .op op =>
    let table := Gateway.step G w.table op
    { w with table, stated := op.statedIn table ++ w.stated }
  | .peers stated => { w with stated := stated ++ w.stated }
  | .snapshot id => w.snapshot id
  | .answer id by_ policy => w.answer id by_ policy
  | .fail id => { w with inFlight := w.inFlight.erase id }
  | .store fails id => w.store fails id

def start (G : Setup) (now : SystemTime) (kv : KvStore) (stated : List Stated) : World where
  table := .buildStateFromKvStore G now kv
  stated

def run (G : Setup) (w : World) (events : List Event) : World := events.foldl (step G) w

end World

end Dstack.Gateway
