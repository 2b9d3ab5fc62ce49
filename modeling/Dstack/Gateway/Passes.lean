/-
Work that looks first and takes the lock later
(`gateway/src/main_service.rs`).

A reload reads the store before it takes the lock, and a recycle picks
the stale instances, lets the lock go to ask for the handshakes, and takes
it again. In between anything can happen, other passes included. A pass
that acts at once is the operation of the same name.
-/
import Dstack.Gateway.ProxyState

namespace Dstack.Gateway

open Lib

/-- What a reload has read when it takes the lock. -/
structure Snapshot where
  accepted : AcceptedInstances
  overrides : String → Result (Option PortPolicy × Option Bool)

namespace ProxyState

def takeSnapshot (G : Setup) (now : SystemTime) (fails : Faults) (s : ProxyState) :
    Snapshot × ProxyState :=
  let s := { s with kv := s.kv.migrateLegacyInstanceOverrides fails }
  (⟨acceptInstances G s.kv.loadAllInstances now, s.kv.readOverrides⟩, s)

def applySnapshot (now : SystemTime) (snap : Snapshot) (s : ProxyState) : ProxyState :=
  let s := (s.dropped now snap.accepted).foldl (fun s id => (s.forgetInstance id).2) s
  snap.accepted.instances.entries.foldl
    (fun s e => s.applyRecord (snap.overrides e.1) e.1 e.2) s

lemma reload_eq_passes (G : Setup) (now : SystemTime) (fails : Faults) (s : ProxyState) :
    s.reloadInstancesFromKvStore G now fails
      = (s.takeSnapshot G now fails).2.applySnapshot now (s.takeSnapshot G now fails).1 := rfl

def recycleCandidates (G : Setup) (now : SystemTime) (s : ProxyState) :
    List (String × SystemTime) :=
  (s.instances.entries.filter fun e => decide (G.config.recycleTimeout < now - e.2.regTime)).map
    fun e => (e.1, e.2.regTime)

def staleInstances (G : Setup) (now seenAt : SystemTime) (lastSeen : String → Option Nat)
    (s : ProxyState) : List (String × SystemTime) :=
  (s.recycleCandidates G now).filter fun (id, regTime) =>
    decide (G.config.recycleTimeout < seenAt - ((lastSeen id).map decodeTs).getD regTime)

end ProxyState

/-- The state of a node, and the passes that have read and not yet acted. -/
structure Node where
  state : ProxyState
  reloads : BTreeMap Nat Snapshot := .empty
  recycles : BTreeMap Nat (List (String × SystemTime)) := .empty

/-- A call, or one half of a reload or of a recycling pass. -/
inductive NodeEvent where
  | op (op : Op)
  | load (pass : Nat) (now : SystemTime) (fails : Faults)
  | apply (pass : Nat) (now : SystemTime)
  | scan (pass : Nat) (now seenAt : SystemTime) (lastSeen : String → Option Nat)
  | sweep (pass : Nat) (fails : Faults)

namespace Node

def step (G : Setup) (w : Node) : NodeEvent → Node
  | .op op => { w with state := Gateway.step G w.state op }
  | .load pass now fails =>
    if w.reloads.contains pass then w
    else
      let (snap, state) := w.state.takeSnapshot G now fails
      { w with state, reloads := w.reloads.insert pass snap }
  | .apply pass now =>
    match w.reloads.get? pass with
    | none => w
    | some snap =>
      { w with state := w.state.applySnapshot now snap, reloads := w.reloads.erase pass }
  | .scan pass now seenAt lastSeen =>
    if w.recycles.contains pass then w
    else
      let stale := w.state.staleInstances G now seenAt lastSeen
      { w with recycles := w.recycles.insert pass stale }
  | .sweep pass fails =>
    match w.recycles.get? pass with
    | none => w
    | some stale =>
      { w with
        state := (w.state.recycle fails stale).2
        recycles := w.recycles.erase pass }

def run (G : Setup) (w : Node) (events : List NodeEvent) : Node := events.foldl (step G) w

end Node

end Dstack.Gateway
