/-
What an operator's decision about a node is worth.

Re-admitting a node clears its removal marker before the new address is
looked at, so the call keeps the marker on an error only if there was none,
if clearing it is what failed, or if there is nothing left that can fail.

Pruning looks at every peer and drops those that were removed, and it is
exact as long as dropping them works. It is the only place that looks at
the markers: what a bootnode lists is added as a peer whether or not an
operator has removed it, so a pruned node stays out only until a bootnode
that has not heard of the removal is asked.
-/
import Dstack.Gateway.Peers

namespace Dstack.Gateway

open Lib

variable {E : PeerEnv} {fails : PeerFaults} {me : Nat} {s : PeerStore}

lemma readEntry_deleteEntry_self {α : Type} (E : PeerEnv) (m : BTreeMap Nat (Entry α))
    (id : Nat) : readEntry (deleteEntry E m id) id = none := by
  unfold deleteEntry
  split
  · rw [readEntry, BTreeMap.get?_insert_self]
  next h =>
    have habsent : m.get? id = none := by
      simpa [BTreeMap.contains] using (Bool.or_eq_false_iff.mp (Bool.eq_false_iff.mpr h)).1
    rw [readEntry, habsent]

variable {k : Nat} {url : String}

/-- The two stores have their peers each, and a node is added to both and
dropped from both in this order. -/
inductive PeerSet where
  | persistent
  | ephemeral

namespace PeerSet

/-- Adding a node gets as far as this store. -/
def Adds (fails : PeerFaults) (id : Nat) : PeerSet → Prop
  | .persistent => fails .addPersistent id = none
  | .ephemeral => fails .addPersistent id = none ∧ fails .addEphemeral id = none

/-- Dropping a node gets as far as this store. -/
def Drops (fails : PeerFaults) (id : Nat) : PeerSet → Prop
  | .persistent => fails .removePersistent id = none
  | .ephemeral => fails .removePersistent id = none ∧ fails .removeEphemeral id = none

end PeerSet

namespace PeerStore

def peers (s : PeerStore) : PeerSet → BTreeSet Nat
  | .persistent => s.persistentPeers
  | .ephemeral => s.ephemeralPeers

-- == adding and dropping

@[simp] lemma addPeer_markers (id : Nat) : (s.addPeer fails id).2.markers = s.markers := by
  unfold addPeer
  split
  · rfl
  · dsimp only
    split <;> rfl

@[simp] lemma addPeer_addrs (id : Nat) : (s.addPeer fails id).2.addrs = s.addrs := by
  unfold addPeer
  split
  · rfl
  · dsimp only
    split <;> rfl

lemma mem_addPeer {id : Nat} (p : PeerSet) :
    ((s.addPeer fails id).2.peers p).mem k ↔
      (s.peers p).mem k ∨ (k = id ∧ p.Adds fails id) := by
  unfold addPeer
  cases hp : fails .addPersistent id <;> cases he : fails .addEphemeral id <;>
    cases p <;> simp [peers, PeerSet.Adds, hp, he, BTreeSet.mem_add, or_comm, eq_comm]

@[simp] lemma removePeer_markers (id : Nat) :
    (s.removePeer fails id).2.markers = s.markers := by
  unfold removePeer
  split
  · rfl
  · dsimp only
    split <;> rfl

@[simp] lemma removePeer_addrs (id : Nat) : (s.removePeer fails id).2.addrs = s.addrs := by
  unfold removePeer
  split
  · rfl
  · dsimp only
    split <;> rfl

lemma mem_removePeer {id : Nat} (p : PeerSet) :
    ((s.removePeer fails id).2.peers p).mem k ↔
      (s.peers p).mem k ∧ ¬(k = id ∧ p.Drops fails id) := by
  unfold removePeer
  cases hp : fails .removePersistent id <;> cases he : fails .removeEphemeral id <;>
    cases p <;> simp [peers, PeerSet.Drops, hp, he, BTreeSet.mem_erase, and_comm, eq_comm]

-- == re-admission

lemma registerPeerUrl_eq_of_ok {id : Nat}
    (hurl : validatePeerUrl E url = .ok ()) (hput : fails .putAddr id = none) :
    s.registerPeerUrl E fails id url =
      (.ok (), (addPeer fails id { s with addrs := s.addrs.insert id (.live (.ok url)) }).2) := by
  simp only [registerPeerUrl, hurl, hput]

lemma registerPeerUrl_eq_of_error {id : Nat}
    (h : ¬(validatePeerUrl E url = .ok () ∧ fails .putAddr id = none)) :
    ∃ e, s.registerPeerUrl E fails id url = (.error e, s) := by
  unfold registerPeerUrl
  cases hurl : validatePeerUrl E url with
  | error e => exact ⟨e, rfl⟩
  | ok u =>
    cases hput : fails .putAddr id with
    | some e => exact ⟨_, rfl⟩
    | none => exact absurd ⟨hurl, hput⟩ h

/-- The marker of a node is cleared before its new address is looked at, so
a refused call leaves the node as it was only if there was no marker, if
clearing it failed, or if the address is good and can be written (and the
call is not refused at all). -/
theorem setNodeUrl_keeps_node_on_error (E : PeerEnv) (fails : PeerFaults) (s : PeerStore)
    (id : Nat) (url : String) :
    (∀ e, (s.setNodeUrl E fails id url).1 = .error e →
      readEntry (s.setNodeUrl E fails id url).2.markers id = readEntry s.markers id ∧
        (s.setNodeUrl E fails id url).2.addrs.get? id = s.addrs.get? id) ↔
      s.isPeerRemoved id = false ∨ fails .deleteMarker id ≠ none ∨
        (validatePeerUrl E url = .ok () ∧ fails .putAddr id = none) := by
  unfold setNodeUrl clearPeerRemoved
  cases hdel : fails .deleteMarker id with
  | some e => simp
  | none =>
    by_cases hgood : validatePeerUrl E url = .ok () ∧ fails .putAddr id = none
    · simp [registerPeerUrl_eq_of_ok hgood.1 hgood.2, hgood]
    · -- The address is refused after the marker is gone.
      obtain ⟨e, he⟩ := registerPeerUrl_eq_of_error
        (s := { s with markers := deleteEntry E s.markers id }) hgood
      have hnone : s.isPeerRemoved id = false ↔ none = readEntry s.markers id := by
        rw [isPeerRemoved, Option.isSome_eq_false_iff, Option.isNone_iff_eq_none, eq_comm]
      simp [he, hgood, readEntry_deleteEntry_self, hnone]

end PeerStore

/-- A small part of how a URL is taken apart: nothing but `https` URLs
without credentials. -/
def sampleParseUrl (url : String) : Result ParsedUrl :=
  if url.startsWith "https://" then
    .ok { scheme := "https", host := some (url.drop 8).toString, username := "", password := none }
  else .error "relative URL without a base"

def samplePeerEnv : PeerEnv := { parseUrl := sampleParseUrl, tombstonesAbsent := true }

namespace PeerStore

/-- A store in which node 2 was removed. -/
def removedTwo : PeerStore :=
  { markers := BTreeMap.empty.insert 2 (.live (.ok { removedAt := 1000, removedBy := 1 }))
    addrs := BTreeMap.empty.insert 2 .tombstone }

/-- An empty URL is refused, and the node is no longer removed. -/
theorem refused_url_readmits :
    (removedTwo.setNodeUrl samplePeerEnv (fun _ _ => none) 2 "").1 =
        .error "invalid peer URL: relative URL without a base" ∧
      removedTwo.isPeerRemoved 2 = true ∧
      (removedTwo.setNodeUrl samplePeerEnv (fun _ _ => none) 2 "").2.isPeerRemoved 2 = false := by
  decide +kernel

-- == pruning

/-- What is left after an attempt to drop the removed ones among the nodes
of a list. -/
structure Dropped (fails : PeerFaults) (ids : List Nat) (s s' : PeerStore) : Prop where
  markers : s'.markers = s.markers
  addrs : s'.addrs = s.addrs
  peers (p : PeerSet) (k : Nat) : (s'.peers p).mem k ↔ (s.peers p).mem k ∧
    ¬(k ∈ ids ∧ s.prunable k = true ∧ p.Drops fails k)

lemma prunable_congr {s s' : PeerStore} (hm : s'.markers = s.markers)
    (ha : s'.addrs = s.addrs) (k : Nat) : s'.prunable k = s.prunable k := by
  simp only [prunable, addrTombstoned, isPeerRemoved, hm, ha]

lemma Dropped.one (id : Nat) :
    Dropped fails [id] s (if s.prunable id then (s.removePeer fails id).2 else s) := by
  by_cases hp : s.prunable id = true
  · rw [if_pos hp]
    refine ⟨removePeer_markers id, removePeer_addrs id, fun p k => ?_⟩
    rw [mem_removePeer]
    grind
  · rw [if_neg hp]
    refine ⟨rfl, rfl, fun p k => ?_⟩
    grind

lemma Dropped.trans {s s₁ s₂ : PeerStore} {ids₁ ids₂ : List Nat} (h₁ : Dropped fails ids₁ s s₁)
    (h₂ : Dropped fails ids₂ s₁ s₂) : Dropped fails (ids₁ ++ ids₂) s s₂ := by
  have hsame := prunable_congr h₁.markers h₁.addrs
  refine ⟨h₂.markers.trans h₁.markers, h₂.addrs.trans h₁.addrs, fun p k => ?_⟩
  rw [h₂.peers, h₁.peers, hsame, List.mem_append]
  tauto

lemma foldl_dropped (ids : List Nat) (s : PeerStore) :
    Dropped fails ids s
      (ids.foldl (fun s id => if s.prunable id then (s.removePeer fails id).2 else s) s) := by
  induction ids generalizing s with
  | nil => exact ⟨rfl, rfl, by simp⟩
  | cons id ids ih => exact (Dropped.one id).trans (ih _)

lemma pruneRemovedPeers_dropped :
    Dropped fails s.persistentPeers.toList s (s.pruneRemovedPeers fails) :=
  foldl_dropped _ s

/-- The peers are those there were without the removed ones. -/
def PrunedTo (s s' : PeerStore) : Prop :=
  ∀ k, (s'.persistentPeers.mem k ↔ s.persistentPeers.mem k ∧ s.prunable k = false) ∧
    (s'.ephemeralPeers.mem k ↔ s.ephemeralPeers.mem k ∧ s.prunable k = false)

/-- Every removed node can be dropped: it is a peer of the store that is
looked at, and neither store fails to drop it. -/
def Droppable (fails : PeerFaults) (s : PeerStore) : Prop :=
  ∀ k, s.prunable k = true →
    (s.persistentPeers.mem k → fails .removePersistent k = none) ∧
      (s.ephemeralPeers.mem k → s.persistentPeers.mem k ∧ fails .removePersistent k = none ∧
        fails .removeEphemeral k = none)

lemma pruneRemovedPeers_exact : PrunedTo s (s.pruneRemovedPeers fails) ↔ Droppable fails s := by
  refine forall_congr' fun k => ?_
  have hdropped : Dropped fails _ s (s.pruneRemovedPeers fails) := pruneRemovedPeers_dropped
  have hpersistent := hdropped.peers .persistent k
  have hephemeral := hdropped.peers .ephemeral k
  simp only [peers, PeerSet.Drops, BTreeSet.mem_toList] at hpersistent hephemeral
  rw [hpersistent, hephemeral]
  cases s.prunable k
  · simp
  · simp
    tauto

-- == a bootnode

lemma registerPeerUrl_markers {id : Nat} :
    (s.registerPeerUrl E fails id url).2.markers = s.markers := by
  by_cases hgood : validatePeerUrl E url = .ok () ∧ fails .putAddr id = none
  · rw [registerPeerUrl_eq_of_ok hgood.1 hgood.2, addPeer_markers]
  · obtain ⟨e, he⟩ := registerPeerUrl_eq_of_error (s := s) hgood
    rw [he]

lemma mem_registerPeerUrl {id : Nat} (p : PeerSet) :
    ((s.registerPeerUrl E fails id url).2.peers p).mem k ↔
      (s.peers p).mem k ∨ (k = id ∧ p.Adds fails id ∧
        validatePeerUrl E url = .ok () ∧ fails .putAddr id = none) := by
  by_cases hgood : validatePeerUrl E url = .ok () ∧ fails .putAddr id = none
  · rw [registerPeerUrl_eq_of_ok hgood.1 hgood.2, mem_addPeer]
    cases p <;> simp [peers, hgood]
  · obtain ⟨e, he⟩ := registerPeerUrl_eq_of_error (s := s) hgood
    simp [he, hgood]

/-- One listed peer: the address it comes with changes nothing about who is
a peer, since the node has been added before it is looked at. -/
lemma adoptPeer_cases (E : PeerEnv) (me : Nat) (s : PeerStore) (peer : PeerInfo)
    (fails : PeerFaults) :
    (peer.id = me ∧ adoptPeer E me s (peer, fails) = s) ∨
      (peer.id ≠ me ∧
        (adoptPeer E me s (peer, fails) = (s.addPeer fails peer.id).2 ∨
          ((s.addPeer fails peer.id).1 = .ok () ∧ adoptPeer E me s (peer, fails) =
            ((s.addPeer fails peer.id).2.registerPeerUrl E fails peer.id peer.url).2))) := by
  unfold adoptPeer
  dsimp only
  by_cases hme : peer.id = me
  · exact .inl ⟨hme, if_pos hme⟩
  · refine .inr ⟨hme, ?_⟩
    rw [if_neg hme]
    split
    next e s₁ hadd => exact .inl (by rw [hadd])
    next s₁ hadd =>
      rw [hadd]
      split
      · exact .inl rfl
      · exact .inr ⟨rfl, rfl⟩

lemma adoptPeer_markers (s : PeerStore) (peer : PeerInfo) (fails : PeerFaults) :
    (adoptPeer E me s (peer, fails)).markers = s.markers := by
  obtain ⟨-, h⟩ | ⟨-, h | ⟨-, h⟩⟩ := adoptPeer_cases E me s peer fails
  · rw [h]
  · rw [h, addPeer_markers]
  · rw [h, registerPeerUrl_markers, addPeer_markers]

lemma mem_adoptPeer {peer : PeerInfo} (p : PeerSet) :
    ((adoptPeer E me s (peer, fails)).peers p).mem k ↔
      (s.peers p).mem k ∨ (k = peer.id ∧ peer.id ≠ me ∧ p.Adds fails peer.id) := by
  obtain ⟨hme, h⟩ | ⟨hme, h | ⟨hok, h⟩⟩ := adoptPeer_cases E me s peer fails
  · simp [h, hme]
  · rw [h, mem_addPeer]
    simp [hme]
  · rw [h, mem_registerPeerUrl, mem_addPeer]
    tauto

lemma fetchPeersFromBootnode_markers (peers : List (PeerInfo × PeerFaults)) :
    (s.fetchPeersFromBootnode E me peers).markers = s.markers := by
  unfold fetchPeersFromBootnode
  induction peers generalizing s with
  | nil => rfl
  | cons entry peers ih => rw [List.foldl_cons, ih, adoptPeer_markers]

lemma mem_fetchPeersFromBootnode {listed : List (PeerInfo × PeerFaults)} (p : PeerSet) :
    ((s.fetchPeersFromBootnode E me listed).peers p).mem k ↔
      (s.peers p).mem k ∨ ∃ entry ∈ listed,
        k = entry.1.id ∧ entry.1.id ≠ me ∧ p.Adds entry.2 entry.1.id := by
  unfold fetchPeersFromBootnode
  induction listed generalizing s with
  | nil => simp
  | cons entry listed ih =>
    rw [List.foldl_cons, ih, mem_adoptPeer, List.exists_mem_cons_iff, or_assoc]

-- == staying out

/-- No node that was removed, and still is, has become a peer. -/
def KeepsOut (s s' : PeerStore) : Prop :=
  ∀ k, s.isPeerRemoved k = true → s'.isPeerRemoved k = true →
    (s'.persistentPeers.mem k → s.persistentPeers.mem k) ∧
      (s'.ephemeralPeers.mem k → s.ephemeralPeers.mem k)

/-- A bootnode's answer lists no removed node that is not a peer already,
except for nodes that cannot be added. -/
def ListsNoneRemoved (me : Nat) (peers : List (PeerInfo × PeerFaults)) (s : PeerStore) : Prop :=
  ∀ entry ∈ peers, entry.1.id ≠ me → s.isPeerRemoved entry.1.id = true →
    entry.2 .addPersistent entry.1.id = none →
      s.persistentPeers.mem entry.1.id ∧
        (entry.2 .addEphemeral entry.1.id = none → s.ephemeralPeers.mem entry.1.id)

lemma fetchPeersFromBootnode_keepsOut {peers : List (PeerInfo × PeerFaults)} :
    KeepsOut s (s.fetchPeersFromBootnode E me peers) ↔ ListsNoneRemoved me peers s := by
  have hmarkers : ∀ k, (s.fetchPeersFromBootnode E me peers).isPeerRemoved k =
      s.isPeerRemoved k := fun k => by
    simp only [isPeerRemoved, fetchPeersFromBootnode_markers]
  constructor
  · rintro h entry hentry hme hremoved hadd
    obtain ⟨hpers, heph⟩ := h entry.1.id hremoved (by rw [hmarkers, hremoved])
    constructor
    · exact hpers ((mem_fetchPeersFromBootnode .persistent).mpr
        (.inr ⟨entry, hentry, rfl, hme, hadd⟩))
    · intro hadd'
      exact heph ((mem_fetchPeersFromBootnode .ephemeral).mpr
        (.inr ⟨entry, hentry, rfl, hme, hadd, hadd'⟩))
  · rintro h k hremoved -
    refine ⟨fun hk => ?_, fun hk => ?_⟩
    · obtain hk | ⟨entry, hentry, rfl, hme, hadd⟩ :=
        (mem_fetchPeersFromBootnode .persistent).mp hk
      · exact hk
      · exact (h entry hentry hme hremoved hadd).1
    · obtain hk | ⟨entry, hentry, rfl, hme, hadd, hadd'⟩ :=
        (mem_fetchPeersFromBootnode .ephemeral).mp hk
      · exact hk
      · exact (h entry hentry hme hremoved hadd).2 hadd'

lemma pruneRemovedPeers_keepsOut : KeepsOut s (s.pruneRemovedPeers fails) := by
  rintro k - -
  exact ⟨fun h => ((pruneRemovedPeers_dropped.peers .persistent k).mp h).1,
    fun h => ((pruneRemovedPeers_dropped.peers .ephemeral k).mp h).1⟩

/-- Pruning is exact if and only if every removed node can be dropped.
What replication brings and the pruning that follows make no removed node a
peer; a bootnode's answer makes one a peer unless it lists none, since the
markers are not looked at there. -/
theorem pruning_is_exact_and_lasts (E : PeerEnv) (fails : PeerFaults) (me : Nat)
    (peers : List (PeerInfo × PeerFaults)) (s : PeerStore) :
    (PrunedTo s (s.pruneRemovedPeers fails) ↔ Droppable fails s) ∧
      (KeepsOut s (s.fetchPeersFromBootnode E me peers) ↔ ListsNoneRemoved me peers s) ∧
      (∀ markers addrs, KeepsOut s (s.step E me (.receive markers addrs))) ∧
      KeepsOut s (s.step E me (.pruneRemovedPeers fails)) :=
  ⟨pruneRemovedPeers_exact, fetchPeersFromBootnode_keepsOut, fun _ _ _ _ _ => ⟨id, id⟩,
    pruneRemovedPeers_keepsOut⟩

/-- A bootnode that still lists node 2. -/
def listsTwo : List (PeerInfo × PeerFaults) :=
  [(⟨2, "https://gw2.example.com:9202"⟩, fun _ _ => none)]

/-- The bootnode's list is taken over without a look at the removals. -/
theorem bootnode_brings_removed_node_back :
    removedTwo.isPeerRemoved 2 = true ∧
      ¬(removedTwo.pruneRemovedPeers fun _ _ => none).persistentPeers.mem 2 ∧
      ((removedTwo.pruneRemovedPeers fun _ _ => none).fetchPeersFromBootnode samplePeerEnv 1
        listsTwo).isPeerRemoved 2 = true ∧
      ((removedTwo.pruneRemovedPeers fun _ _ => none).fetchPeersFromBootnode samplePeerEnv 1
        listsTwo).persistentPeers.mem 2 := by
  decide +kernel

-- == a whole run

/-- Who decides about a node: an operator who writes its address back, or a
bootnode that lists it. -/
def Event.Readmits (me k : Nat) : Event → Prop
  | .setNodeUrl _ id _ => id = k
  | .fetchPeersFromBootnode peers => k ≠ me ∧ ∃ entry ∈ peers, entry.1.id = k
  | _ => False

/-- The node is a peer of neither store. -/
def Out (k : Nat) (s : PeerStore) : Prop :=
  ¬s.persistentPeers.mem k ∧ ¬s.ephemeralPeers.mem k

lemma Out.peers (h : Out k s) : ∀ p, ¬(s.peers p).mem k
  | .persistent => h.1
  | .ephemeral => h.2

lemma syncRemoveNode_peers (E : PeerEnv) (fails : PeerFaults) (id : Nat) (s : PeerStore) :
    (s.syncRemoveNode E fails id).2.persistentPeers = s.persistentPeers ∧
      (s.syncRemoveNode E fails id).2.ephemeralPeers = s.ephemeralPeers := by
  unfold syncRemoveNode
  cases fails .deleteInfo id <;> cases fails .deleteStatus id <;>
    cases fails .deleteAddr id <;> cases fails .deleteLastSeen id <;> exact ⟨rfl, rfl⟩

lemma Out.removePeer (h : Out k s) (fails : PeerFaults) (id : Nat) :
    Out k (s.removePeer fails id).2 :=
  ⟨fun hk => h.1 ((mem_removePeer .persistent).mp hk).1,
    fun hk => h.2 ((mem_removePeer .ephemeral).mp hk).1⟩

lemma Out.markPeerRemoved (h : Out k s) (fails : PeerFaults) (record : PeerRemovalRecord)
    (id : Nat) :
    Out k (s.markPeerRemoved fails record id).2 := by
  unfold PeerStore.markPeerRemoved
  split <;> exact h

lemma Out.removeNode (h : Out k s) (record : PeerRemovalRecord) (id : Nat) :
    Out k (s.removeNode E fails me record id).2 := by
  unfold PeerStore.removeNode
  by_cases hme : id = me
  · rw [if_pos hme]
    exact h
  · rw [if_neg hme]
    have hmarked := h.markPeerRemoved fails record id
    dsimp only
    split
    next hm => rwa [hm] at hmarked
    next s₁ hm =>
      rw [hm] at hmarked
      have hremoved := hmarked.removePeer fails id
      split
      next hr => rwa [hr] at hremoved
      next s₂ hr =>
        rw [hr] at hremoved
        have hsync : Out k (s₂.syncRemoveNode E fails id).2 := by
          obtain ⟨hp, he⟩ := syncRemoveNode_peers E fails id s₂
          rwa [Out, hp, he]
        split
        next hs => rwa [hs] at hsync
        next hs => rwa [hs] at hsync

lemma Out.setNodeUrl {id : Nat} (h : Out k s) (hne : id ≠ k) :
    Out k (s.setNodeUrl E fails id url).2 := by
  unfold PeerStore.setNodeUrl clearPeerRemoved
  cases fails .deleteMarker id with
  | some e => exact h
  | none =>
    have hout : ∀ p, ¬((registerPeerUrl E fails id url
        { s with markers := deleteEntry E s.markers id }).2.peers p).mem k := by
      intro p hk
      obtain hk | ⟨rfl, -⟩ := (mem_registerPeerUrl p).mp hk
      · exact h.peers p (by cases p <;> exact hk)
      · exact hne rfl
    exact ⟨hout .persistent, hout .ephemeral⟩

lemma Out.step {e : Event} (h : Out k s) (he : ¬e.Readmits me k) :
    Out k (s.step E me e) := by
  cases e with
  | setNodeUrl fails id url => exact h.setNodeUrl he
  | removeNode fails record id => exact h.removeNode record id
  | pruneRemovedPeers fails =>
    exact ⟨fun hk => h.1 ((pruneRemovedPeers_dropped.peers .persistent k).mp hk).1,
      fun hk => h.2 ((pruneRemovedPeers_dropped.peers .ephemeral k).mp hk).1⟩
  | fetchPeersFromBootnode listed =>
    have hout : ∀ p, ¬((s.fetchPeersFromBootnode E me listed).peers p).mem k := by
      intro p hk
      obtain hk | ⟨entry, hentry, rfl, hme, -⟩ := (mem_fetchPeersFromBootnode p).mp hk
      · exact h.peers p hk
      · exact he ⟨hme, entry, hentry, rfl⟩
    exact ⟨hout .persistent, hout .ephemeral⟩
  | receive markers addrs => exact h

/-- Along a whole run a node that is out stays out, whatever is replicated,
removed or pruned, until an operator or a bootnode brings it back. -/
lemma Out.run {events : List Event} (h : Out k s)
    (hrun : ∀ e ∈ events, ¬e.Readmits me k) : Out k (events.foldl (PeerStore.step E me) s) := by
  induction events generalizing s with
  | nil => exact h
  | cons e events ih =>
    exact ih (h.step (hrun e List.mem_cons_self))
      fun e' he' => hrun e' (List.mem_cons_of_mem _ he')

lemma markPeerRemoved_ok {record : PeerRemovalRecord} {id : Nat} {s' : PeerStore}
    (h : s.markPeerRemoved fails record id = (.ok (), s')) : s'.isPeerRemoved id = true := by
  unfold PeerStore.markPeerRemoved at h
  cases hput : fails .putMarker id <;> rw [hput] at h <;> cases h
  simp [isPeerRemoved, readEntry]

lemma removePeer_ok {id : Nat} {b : Bool} {s' : PeerStore}
    (h : s.removePeer fails id = (.ok b, s')) : Out id s' := by
  unfold PeerStore.removePeer at h
  cases hp : fails .removePersistent id <;> rw [hp] at h
  · cases he : fails .removeEphemeral id <;> simp only [he] at h <;> cases h
    simp [Out, BTreeSet.mem_erase]
  · cases h

lemma syncRemoveNode_ok {id : Nat} {b : Bool} {s' : PeerStore}
    (h : s.syncRemoveNode E fails id = (.ok b, s')) :
    readEntry s'.addrs id = none ∧ s'.markers = s.markers := by
  unfold syncRemoveNode at h
  cases hi : fails .deleteInfo id <;> cases hs : fails .deleteStatus id <;>
    cases ha : fails .deleteAddr id <;> cases hl : fails .deleteLastSeen id <;>
    simp only [hi, hs, ha, hl] at h <;> cases h
  exact ⟨readEntry_deleteEntry_self E _ id, rfl⟩

lemma removeNode_ok {record : PeerRemovalRecord} {id : Nat} {r : NodeRemoval} {s' : PeerStore}
    (h : s.removeNode E fails me record id = (.ok r, s')) :
    Out id s' ∧ s'.isPeerRemoved id = true ∧ readEntry s'.addrs id = none := by
  unfold PeerStore.removeNode at h
  by_cases hme : id = me
  · rw [if_pos hme] at h
    cases h
  · rw [if_neg hme] at h
    dsimp only at h
    split at h
    next => cases h
    next s₁ hm =>
      split at h
      next => cases h
      next s₂ hr =>
        split at h
        next => cases h
        next s₃ hs =>
          cases h
          obtain ⟨hp, he⟩ := syncRemoveNode_peers E fails id s₂
          obtain ⟨haddr, hk⟩ := syncRemoveNode_ok hs
          have hk₁ : (s₁.removePeer fails id).2.markers = _ := removePeer_markers id
          rw [hs] at hp he
          rw [hr] at hk₁
          rw [Out, isPeerRemoved, hp, he, hk, hk₁]
          exact ⟨removePeer_ok hr, markPeerRemoved_ok hm, haddr⟩

/-- A node that an operator has removed is marked, has no address and is no
peer, and stays no peer along any run in which nobody decides otherwise. -/
theorem removed_node_stays_out {record : PeerRemovalRecord} {id : Nat} {r : NodeRemoval}
    {s' : PeerStore} {events : List Event}
    (h : s.removeNode E fails me record id = (.ok r, s'))
    (hrun : ∀ e ∈ events, ¬e.Readmits me id) :
    s'.isPeerRemoved id = true ∧ readEntry s'.addrs id = none
      ∧ Out id (events.foldl (PeerStore.step E me) s') := by
  obtain ⟨hout, hmarked, haddr⟩ := removeNode_ok h
  exact ⟨hmarked, haddr, hout.run hrun⟩

/-- Node 2 is a peer of both stores and has an address. -/
def knownTwo : PeerStore :=
  { addrs := BTreeMap.empty.insert 2 (.live (.ok "https://gw2.example.com:9202"))
    persistentPeers := BTreeSet.add .empty 2
    ephemeralPeers := BTreeSet.add .empty 2 }

/-- After the removal an operator and a bootnode bring node 3 in, and a
peer's records and a pruning follow. -/
def laterEvents : List Event :=
  [.setNodeUrl (fun _ _ => none) 3 "https://gw3.example.com:9202",
    .fetchPeersFromBootnode [(⟨3, "https://gw3.example.com:9202"⟩, fun _ _ => none)],
    .receive .empty .empty, .pruneRemovedPeers fun _ _ => none]

/-- Node 2 stays out when node 3 comes in. -/
theorem removed_two_stays_out :
    ∃ r s', knownTwo.removeNode samplePeerEnv (fun _ _ => none) 1 ⟨2000, 1⟩ 2 = (.ok r, s')
      ∧ r = ⟨true, true⟩ ∧ (laterEvents.foldl (step samplePeerEnv 1) s').persistentPeers.mem 3
      ∧ Out 2 (laterEvents.foldl (step samplePeerEnv 1) s') := by
  have h : knownTwo.removeNode samplePeerEnv (fun _ _ => none) 1 ⟨2000, 1⟩ 2 = (.ok _, _) := rfl
  refine ⟨_, _, h, by decide, by decide +kernel, (removed_node_stays_out h ?_).2.2⟩
  simp [laterEvents, Event.Readmits]

end PeerStore

end Dstack.Gateway
