/-
The poller that asks instances for their health
(`gateway/src/proxy/health_check.rs`).

A round takes down whom to ask under the lock and asks outside it. What an
agent answers is recorded when it comes, on whatever is in the table by
then. A round has the time of one interval. What has not been answered by
then is given up, and the next round starts as many places further as
answers came.
-/
import Dstack.Gateway.Passes
import Dstack.Lib.Buffered

namespace Dstack.Gateway

open Lib

structure HealthCheckConfig where
  concurrency : Nat
  failureThreshold : Nat
  deriving DecidableEq

structure Target where
  id : String
  ip : Ipv4Addr
  publicKey : String
  deriving DecidableEq

inductive PollResult where
  | healthy
  | unhealthy (reason : String)
  | unreachable (reason : String)
  deriving DecidableEq

structure Observation where
  state : HealthState
  reason : String
  deriving DecidableEq

/-- Calls in a row that did not reach an agent, by instance. -/
abbrev Failures := BTreeMap String Nat

def applyHysteresis (result : PollResult) (target : Target) (config : HealthCheckConfig)
    (failures : Failures) : Option Observation × Failures :=
  match result with
  | .healthy => (some ⟨.healthy, ""⟩, failures.erase target.id)
  | .unhealthy reason => (some ⟨.unhealthy, reason⟩, failures.erase target.id)
  | .unreachable reason =>
    let seen := ((failures.get? target.id).getD 0 + 1) % 2 ^ 32
    let failures := failures.insert target.id seen
    if seen < config.failureThreshold then (none, failures)
    else
      (some ⟨.unhealthy, reason ++ " (" ++ toString seen ++ " consecutive failures)"⟩, failures)

/-- The instances worth asking: those that want to be, unless their tunnel
was up once and is not any more. -/
def selectTargets (G : Setup) (handshakes : Handshakes) (s : ProxyState) : List Target :=
  (s.instances.entries.filter fun e =>
    e.2.healthCheck
      && (handshakes.get? e.2.publicKey).all fun h => h.2 < G.config.handshakeStale).map
    fun e => ⟨e.2.id, e.2.ip, e.2.publicKey⟩

/-- The failures so far, where the next round begins, and the round under way.
-/
structure Poller where
  failures : Failures := .empty
  cursor : Nat := 0
  round : Option (Buffered Target) := none

namespace Poller

def order (cursor : Nat) (targets : List Target) : List Target :=
  targets.rotate (cursor % targets.length)

def begin (config : HealthCheckConfig) (targets : List Target) (p : Poller) : Poller :=
  let live := targets.map (·.id)
  let dead := (p.failures.entries.map Prod.fst).filter fun id => !live.contains id
  let failures := dead.foldl BTreeMap.erase p.failures
  if targets.isEmpty then { p with failures, cursor := 0 }
  else
    { p with
      failures
      round := some (.start (max config.concurrency 1) (order p.cursor targets)) }

def land (config : HealthCheckConfig) (index : Nat) (result : PollResult) (p : Poller) :
    Option (Target × Option Observation × Poller) := do
  let (target, round) ← (← p.round).land index
  let (observation, failures) := applyHysteresis result target config p.failures
  some (target, observation, { p with failures, round := some round })

def finish (p : Poller) : Poller :=
  match p.round with
  | none => p
  | some round => { p with cursor := (p.cursor + round.landed.length) % 2 ^ 64, round := none }

def asked (config : HealthCheckConfig) (targets : List Target)
    (answers : List (Nat × PollResult)) (p : Poller) : Poller :=
  answers.foldl
    (fun p answer =>
      match p.land config answer.1 answer.2 with
      | none => p
      | some (_, _, p) => p)
    (p.begin config targets)

def pollRound (config : HealthCheckConfig) (targets : List Target) (p : Poller)
    (answers : List (Nat × PollResult)) : Poller :=
  (p.asked config targets answers).finish

end Poller

-- == runs

def NodeEvent.records : NodeEvent → Bool
  | .op (.recordHealth _ _ _ _) => true
  | _ => false

abbrev TableEvent := { e : NodeEvent // e.records = false }

/-- A node and its poller. -/
structure HealthRun where
  node : Node
  poller : Poller := {}

inductive HealthEvent where
  | table (e : TableEvent)
  /-- A round starts; the handshakes were read before the lock. -/
  | tick (handshakes : Handshakes)
  | answer (index : Nat) (result : PollResult)
  | finish

namespace HealthRun

abbrev table (w : HealthRun) : ProxyState := w.node.state

def record (target : Target) (observation : Option Observation) (w : HealthRun) : HealthRun :=
  match observation with
  | none => w
  | some o =>
    { w with node := { w.node with
      state := w.node.state.recordInstanceHealth target.id target.ip target.publicKey
        o.state } }

def step (G : Setup) (config : HealthCheckConfig) (w : HealthRun) : HealthEvent → HealthRun
  | .table e => { w with node := w.node.step G e.1 }
  | .tick handshakes =>
    if w.poller.round.isSome then w
    else { w with poller := w.poller.begin config (selectTargets G handshakes w.table) }
  | .answer index result =>
    match w.poller.land config index result with
    | none => w
    | some (target, observation, poller) => { w with poller }.record target observation
  | .finish => { w with poller := w.poller.finish }

def boot (G : Setup) (now : SystemTime) (kv : KvStore) : HealthRun where
  node := { state := .buildStateFromKvStore G now kv }

end HealthRun

end Dstack.Gateway
