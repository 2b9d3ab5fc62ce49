/-
Whom a gateway syncs with (`gateway/src/kv/mod.rs`,
`gateway/src/kv/sync_service.rs`, `gateway/src/admin_service.rs`,
`gateway/src/main_service.rs`).

Three things are kept apart: the peers of the two stores, the address of
each node, and a marker for each node that an operator has removed.
Addresses and markers are replicated, the peers are this gateway's own. A
record that was deleted leaves a tombstone, which reads as no record but
can be told from one that was never written.
-/
import Dstack.Lib.BTreeMap
import Dstack.Lib.Result

namespace Dstack.Gateway

open Lib

structure PeerRemovalRecord where
  removedAt : Nat
  removedBy : Nat
  deriving DecidableEq

/-- What is stored under a key; a value that does not decode is an
error. -/
inductive Entry (α : Type) where
  | tombstone
  | live (value : Result α)
  deriving DecidableEq

structure ParsedUrl where
  scheme : String
  host : Option String
  username : String
  password : Option String
  deriving DecidableEq

/-- The URL library, and how the store deletes. -/
structure PeerEnv where
  parseUrl : String → Result ParsedUrl
  /-- Whether a delete leaves a tombstone where there was nothing. -/
  tombstonesAbsent : Bool

/-- A write that can fail. -/
inductive PeerWrite where
  | putMarker
  | deleteMarker
  | putAddr
  | deleteInfo
  | deleteStatus
  | deleteAddr
  | deleteLastSeen
  | addPersistent
  | addEphemeral
  | removePersistent
  | removeEphemeral
  deriving DecidableEq

abbrev PeerFaults := PeerWrite → Nat → Option String

/-- What a node knows of the others. -/
structure PeerStore where
  markers : BTreeMap Nat (Entry PeerRemovalRecord) := .empty
  addrs : BTreeMap Nat (Entry String) := .empty
  /-- Of a node's data and of its status only the presence is read here. -/
  infos : BTreeMap Nat (Entry Unit) := .empty
  statuses : BTreeMap Nat (Entry Unit) := .empty
  persistentPeers : BTreeSet Nat := .empty
  ephemeralPeers : BTreeSet Nat := .empty

/-- `Node::delete` on one key. -/
def deleteEntry {α : Type} (E : PeerEnv) (m : BTreeMap Nat (Entry α)) (id : Nat) :
    BTreeMap Nat (Entry α) :=
  if m.contains id || E.tombstonesAbsent then m.insert id .tombstone else m

/-- The value under a key (`decode_strict`): none if it was deleted. -/
def readEntry {α : Type} (m : BTreeMap Nat (Entry α)) (id : Nat) : Option (Result α) :=
  match m.get? id with
  | some (.live value) => some value
  | _ => none

def validatePeerUrl (E : PeerEnv) (url : String) : Result Unit := do
  let parsed ← (E.parseUrl url).context "invalid peer URL"
  Result.ensure (parsed.scheme = "http" ∨ parsed.scheme = "https")
    "peer URL scheme must be http or https"
  Result.ensure (parsed.host.isSome = true) "peer URL must include a host"
  Result.ensure (parsed.username = "" ∧ parsed.password = none)
    "peer URL must not contain credentials"

namespace PeerStore

-- == the peers

def addPeer (fails : PeerFaults) (id : Nat) (s : PeerStore) : Result Unit × PeerStore :=
  match fails .addPersistent id with
  | some e => (.error e, s)
  | none =>
    let s := { s with persistentPeers := BTreeSet.add s.persistentPeers id }
    match fails .addEphemeral id with
    | some e => (.error e, s)
    | none => (.ok (), { s with ephemeralPeers := BTreeSet.add s.ephemeralPeers id })

def removePeer (fails : PeerFaults) (id : Nat) (s : PeerStore) : Result Bool × PeerStore :=
  match fails .removePersistent id with
  | some e => (.error e, s)
  | none =>
    let removed := decide (s.persistentPeers.mem id)
    let s := { s with persistentPeers := s.persistentPeers.erase id }
    match fails .removeEphemeral id with
    | some e => (.error e, s)
    | none => (.ok removed, { s with ephemeralPeers := s.ephemeralPeers.erase id })

-- == the records

def isPeerRemoved (s : PeerStore) (id : Nat) : Bool := (readEntry s.markers id).isSome

def addrTombstoned (s : PeerStore) (id : Nat) : Bool := s.addrs.get? id = some .tombstone

def markPeerRemoved (fails : PeerFaults) (record : PeerRemovalRecord) (id : Nat)
    (s : PeerStore) : Result Unit × PeerStore :=
  match fails .putMarker id with
  | some e => (.error ("failed to put key __peer_removed/" ++ toString id ++ ": " ++ e), s)
  | none => (.ok (), { s with markers := s.markers.insert id (.live (.ok record)) })

def clearPeerRemoved (E : PeerEnv) (fails : PeerFaults) (id : Nat) (s : PeerStore) :
    Result Bool × PeerStore :=
  match fails .deleteMarker id with
  | some e => (.error e, s)
  | none => (.ok (s.isPeerRemoved id), { s with markers := deleteEntry E s.markers id })

def registerPeerUrl (E : PeerEnv) (fails : PeerFaults) (id : Nat) (url : String)
    (s : PeerStore) : Result Unit × PeerStore :=
  match validatePeerUrl E url with
  | .error e => (.error e, s)
  | .ok () =>
    match fails .putAddr id with
    | some e => (.error ("failed to put key __peer_addr/" ++ toString id ++ ": " ++ e), s)
    | none =>
      -- That the node could not be added as a peer is not an error.
      (.ok (), (addPeer fails id { s with addrs := s.addrs.insert id (.live (.ok url)) }).2)

def syncRemoveNode (E : PeerEnv) (fails : PeerFaults) (id : Nat) (s : PeerStore) :
    Result Bool × PeerStore :=
  let existed := (readEntry s.infos id).isSome || (readEntry s.statuses id).isSome ||
    (readEntry s.addrs id).isSome
  match fails .deleteInfo id with
  | some e => (.error e, s)
  | none =>
    let s := { s with infos := deleteEntry E s.infos id }
    match fails .deleteStatus id with
    | some e => (.error e, s)
    | none =>
      let s := { s with statuses := deleteEntry E s.statuses id }
      match fails .deleteAddr id with
      | some e => (.error e, s)
      | none =>
        let s := { s with addrs := deleteEntry E s.addrs id }
        match fails .deleteLastSeen id with
        | some e => (.error e, s)
        | none => (.ok existed, s)

-- == who is who

def prunable (s : PeerStore) (id : Nat) : Bool := s.addrTombstoned id || s.isPeerRemoved id

def pruneRemovedPeers (fails : PeerFaults) (s : PeerStore) : PeerStore :=
  s.persistentPeers.toList.foldl
    (fun s id => if s.prunable id then (s.removePeer fails id).2 else s) s

def setNodeUrl (E : PeerEnv) (fails : PeerFaults) (id : Nat) (url : String) (s : PeerStore) :
    Result Unit × PeerStore :=
  match s.clearPeerRemoved E fails id with
  | (.error e, s) => (.error e, s)
  | (.ok _, s) => s.registerPeerUrl E fails id url

structure NodeRemoval where
  recordExisted : Bool
  removedFromPeerSet : Bool
  deriving DecidableEq

def removeNode (E : PeerEnv) (fails : PeerFaults) (me : Nat) (record : PeerRemovalRecord)
    (id : Nat) (s : PeerStore) : Result NodeRemoval × PeerStore :=
  if id = me then (.error "a node cannot remove itself", s)
  else
    let wasPeer := decide (s.persistentPeers.mem id)
    match s.markPeerRemoved fails record id with
    | (.error e, s) =>
      (.error ("failed to write the removal marker for node " ++ toString id ++ ": " ++ e), s)
    | (.ok (), s) =>
      match s.removePeer fails id with
      | (.error e, s) => (.error e, s)
      | (.ok _, s) =>
        match s.syncRemoveNode E fails id with
        | (.error e, s) =>
          (.error ("failed to delete node " ++ toString id ++ " from WaveKV: " ++ e), s)
        | (.ok existed, s) =>
          (.ok { recordExisted := existed, removedFromPeerSet := wasPeer }, s)

structure PeerInfo where
  id : Nat
  url : String
  deriving DecidableEq

def adoptPeer (E : PeerEnv) (me : Nat) (s : PeerStore) (entry : PeerInfo × PeerFaults) :
    PeerStore :=
  let (peer, fails) := entry
  if peer.id = me then s
  else
    match s.addPeer fails peer.id with
    | (.error _, s) => s
    | (.ok (), s) =>
      if peer.url = "" then s else (s.registerPeerUrl E fails peer.id peer.url).2

def fetchPeersFromBootnode (E : PeerEnv) (me : Nat) (peers : List (PeerInfo × PeerFaults))
    (s : PeerStore) : PeerStore :=
  peers.foldl (adoptPeer E me) s

-- == a run

/-- A call on this node, or data from another one. -/
inductive Event where
  | setNodeUrl (fails : PeerFaults) (id : Nat) (url : String)
  | removeNode (fails : PeerFaults) (record : PeerRemovalRecord) (id : Nat)
  | pruneRemovedPeers (fails : PeerFaults)
  | fetchPeersFromBootnode (peers : List (PeerInfo × PeerFaults))
  | receive (markers : BTreeMap Nat (Entry PeerRemovalRecord))
      (addrs : BTreeMap Nat (Entry String))

def step (E : PeerEnv) (me : Nat) (s : PeerStore) : Event → PeerStore
  | .setNodeUrl fails id url => (s.setNodeUrl E fails id url).2
  | .removeNode fails record id => (s.removeNode E fails me record id).2
  | .pruneRemovedPeers fails => s.pruneRemovedPeers fails
  | .fetchPeersFromBootnode peers => s.fetchPeersFromBootnode E me peers
  | .receive markers addrs => { s with markers := markers, addrs := addrs }

end PeerStore

end Dstack.Gateway
