/-
What `GetInfo` reports of a VM's interfaces can be sent back, unless the
node has since forbidden the mode or its text has white space around it.

Reporting and requesting are inverse up to trimming (`echo`): the request
made of a stored entry asks for that entry with its names trimmed.
Recording what a request resolves to does not change what it resolves to
(`resolveNetworking_manifestNetwork`). So an entry that comes back at all
comes back as itself as soon as trimming leaves it alone; and of what the
node's policy can say against it, only the mode is not covered by what
the VM already holds. A cap is widened as a whole, so that counts below a
held one come through with it.
-/
import Dstack.Vmm.Network

namespace Dstack.Vmm

open Lib

variable {cfg cfg' : NetworkPolicy} {vcpu : Nat} {n r : NicNetworking}

-- == held configuration

lemma mem_widen_allowedBridges {b : String} : b ∈ (widen cfg n).allowedBridges ↔
    b ∈ cfg.allowedBridges ∨ (n.mode = .bridge ∧ n.bridge ≠ "" ∧ n.bridge = b) := by
  simp only [widen]
  split
  next h => simp [h, eq_comm]
  next h =>
    rw [not_and] at h
    exact ⟨.inl, fun hb => hb.resolve_right fun hn => h hn.1 hn.2.1⟩

lemma mem_widen_allowedMacvtapParents {p : String} :
    p ∈ (widen cfg n).allowedMacvtapParents ↔ p ∈ cfg.allowedMacvtapParents
      ∨ (n.mode = .macvtap ∧ n.parent ≠ "" ∧ n.parent = p) := by
  simp only [widen]
  split
  next h => simp [h, eq_comm]
  next h =>
    rw [not_and] at h
    exact ⟨.inl, fun hp => hp.resolve_right fun hn => h hn.1 hn.2.1⟩

lemma le_widen_maxNetQueues {q : Nat} : q ≤ (widen cfg n).maxNetQueues ↔
    q ≤ cfg.maxNetQueues ∨ ∃ q', n.queues = some q' ∧ q ≤ q' := by
  simp only [widen]
  cases n.queues with
  | none => simp
  | some q' =>
    simp only [Option.some.injEq, exists_eq_left']
    omega

lemma held_same (held : List NicNetworking) :
    (heldNetworkingConfig cfg held).networking = cfg.networking
      ∧ (heldNetworkingConfig cfg held).allowedNetworkModes = cfg.allowedNetworkModes := by
  unfold heldNetworkingConfig
  induction held generalizing cfg with
  | nil => exact ⟨rfl, rfl⟩
  | cons n held ih => exact ih

variable {held : List NicNetworking}

lemma mem_held_allowedBridges {b : String} :
    b ∈ (heldNetworkingConfig cfg held).allowedBridges ↔ b ∈ cfg.allowedBridges
      ∨ ∃ n ∈ held, n.mode = .bridge ∧ n.bridge ≠ "" ∧ n.bridge = b := by
  unfold heldNetworkingConfig
  induction held generalizing cfg with
  | nil => simp
  | cons n held ih => rw [List.foldl_cons, ih, mem_widen_allowedBridges, List.exists_mem_cons_iff,
      or_assoc]

lemma mem_held_allowedMacvtapParents {p : String} :
    p ∈ (heldNetworkingConfig cfg held).allowedMacvtapParents ↔ p ∈ cfg.allowedMacvtapParents
      ∨ ∃ n ∈ held, n.mode = .macvtap ∧ n.parent ≠ "" ∧ n.parent = p := by
  unfold heldNetworkingConfig
  induction held generalizing cfg with
  | nil => simp
  | cons n held ih => rw [List.foldl_cons, ih, mem_widen_allowedMacvtapParents,
      List.exists_mem_cons_iff, or_assoc]

lemma le_held_maxNetQueues {q : Nat} :
    q ≤ (heldNetworkingConfig cfg held).maxNetQueues ↔ q ≤ cfg.maxNetQueues
      ∨ ∃ n ∈ held, ∃ q', n.queues = some q' ∧ q ≤ q' := by
  unfold heldNetworkingConfig
  induction held generalizing cfg with
  | nil => simp
  | cons n held ih => rw [List.foldl_cons, ih, le_widen_maxNetQueues, List.exists_mem_cons_iff,
      or_assoc]

-- == what a request asks for

/-- What every stored entry keeps of the checks on its request. -/
structure Kept (n : NicNetworking) : Prop where
  queues_pos : n.queues ≠ some 0
  queues_le : n.queues.all (· ≤ maxNetQueuesBound) = true
  bridge_of : n.mode ≠ .bridge ∨ n.inheritMode = true → n.bridge = ""
  parent_of : n.mode ≠ .macvtap ∨ n.inheritMode = true → n.parent = ""
  not_custom : n.inheritMode = false → n.mode ≠ .custom
  vhost_of : n.inheritMode = false → n.vhost = some true →
    Networking.modeSupportsVhost n.mode = true
  multiqueue_of : n.inheritMode = false → n.queues.all (· ≤ 1) = false →
    Networking.modeSupportsMultiqueue n.mode = true

/-- The node's own policy permits the mode, the bridge and the parent of
an entry, or the VM holds them. -/
structure NamesPermitted (cfg : NetworkPolicy) (held : List NicNetworking) (n : NicNetworking) :
    Prop where
  mode : n.inheritMode = false → n.mode ∈ cfg.allowedNetworkModes
  bridge : n.bridge = "" ∨ n.bridge = trim cfg.networking.nic.bridge
    ∨ n.bridge ∈ cfg.allowedBridges ∨ ∃ h ∈ held, h.mode = .bridge ∧ h.bridge = n.bridge
  parent : n.parent = "" ∨ n.parent = trim cfg.networking.nic.parent
    ∨ n.parent ∈ cfg.allowedMacvtapParents
    ∨ ∃ h ∈ held, h.mode = .macvtap ∧ h.parent = n.parent

/-- The node's own policy permits all of an entry, or the VM holds it: a
queue count is held if one of the VM's interfaces has this very count. -/
structure Permitted (cfg : NetworkPolicy) (held : List NicNetworking) (n : NicNetworking) : Prop
    extends NamesPermitted cfg held n where
  queues : ∀ q, n.queues = some q → q ≤ cfg.maxNetQueues ∨ ∃ h ∈ held, h.queues = some q

/-- Every count above the node's cap and up to one that the VM holds is
itself one that the VM holds. -/
def QueuesHeld (cfg : NetworkPolicy) (held : List NicNetworking) : Prop :=
  ∀ q, cfg.maxNetQueues < q → (∃ h ∈ held, ∃ q', h.queues = some q' ∧ q ≤ q') →
    ∃ h ∈ held, h.queues = some q

variable {proto : NetworkingProto}

lemma networkingFromProto_inv (h : networkingFromProto proto cfg = .ok (some n)) :
    ∃ chosen, requestedMode proto.mode (trim proto.bridgeName ≠ "" || trim proto.parent ≠ "")
        (proto.vhost.isSome || proto.queues.isSome) cfg.networking.nic.mode
          = .ok (some (n.mode, chosen))
      ∧ checkNetworking proto (trim proto.bridgeName) (trim proto.parent) n.mode chosen cfg
          = .ok ()
      ∧ proto.queues ≠ some 0
      ∧ n = ⟨n.mode, trim proto.bridgeName, trim proto.parent, proto.vhost, proto.queues,
          !chosen⟩ := by
  simp only [networkingFromProto, ok_iff] at h
  obtain ⟨-, hqueues, requested, hmode, h⟩ := h
  cases requested with
  | none => cases h
  | some m =>
    obtain ⟨mode, chosen⟩ := m
    simp only [ok_iff, Option.some.injEq] at h
    obtain ⟨_, hcheck, rfl⟩ := h
    exact ⟨chosen, hmode, hcheck, hqueues, rfl⟩

lemma requestedMode_inv {text : String} {namesBackend tuned : Bool}
    {node mode : NetworkingMode} {chosen : Bool}
    (h : requestedMode text namesBackend tuned node = .ok (some (mode, chosen))) :
    (chosen = true ∧ mode ≠ .custom ∧ text = mode.asStr)
      ∨ (chosen = false ∧ mode = node ∧ namesBackend = false) := by
  unfold requestedMode at h
  split_ifs at h with h1 h2 h3 h4 h5 h6 h7
  all_goals try cases h
  · exact .inl ⟨rfl, by decide, h1⟩
  · exact .inl ⟨rfl, by decide, h2⟩
  · exact .inl ⟨rfl, by decide, h3⟩
  · exact .inl ⟨rfl, by decide, h4⟩
  · exact .inr ⟨rfl, rfl, by simpa using h6⟩

lemma kept_of_networkingFromProto (h : networkingFromProto proto cfg = .ok (some n))
    (hqueues : n.queues.all (· ≤ maxNetQueuesBound) = true) : Kept n := by
  obtain ⟨chosen, hmode, hcheck, hpos, hn⟩ := networkingFromProto_inv h
  simp only [checkNetworking, ok_iff] at hcheck
  obtain ⟨-, -, -, hbridge, -, hparent, -, -, -, -, -, -, -, hvhost, -, -, hmulti⟩ := hcheck
  have hnames : chosen = false → trim proto.bridgeName = "" ∧ trim proto.parent = "" := by
    rintro rfl
    rcases requestedMode_inv hmode with ⟨h, -⟩ | ⟨-, -, h⟩
    · cases h
    · simpa using h
  rw [hn] at hqueues ⊢
  refine ⟨hpos, hqueues, ?_, ?_, ?_, ?_, ?_⟩
  · rintro (hne | hinherit)
    · exact hbridge hne
    · exact (hnames (by simpa using hinherit)).1
  · rintro (hne | hinherit)
    · exact hparent hne
    · exact (hnames (by simpa using hinherit)).2
  · intro hchosen
    rcases requestedMode_inv hmode with ⟨-, h, -⟩ | ⟨h, -⟩
    · exact h
    · rw [h] at hchosen
      cases hchosen
  · intro hchosen
    exact hvhost (by simpa using hchosen)
  · intro hchosen
    exact hmulti (by simpa using hchosen)

lemma permitted_of_held
    (h : networkingFromProto proto (heldNetworkingConfig cfg held) = .ok (some n)) :
    NamesPermitted cfg held n ∧ ∀ q, n.queues = some q →
      q ≤ (heldNetworkingConfig cfg held).maxNetQueues := by
  obtain ⟨chosen, -, hcheck, -, hn⟩ := networkingFromProto_inv h
  simp only [checkNetworking, ok_iff, held_same, mem_held_allowedBridges,
    mem_held_allowedMacvtapParents] at hcheck
  obtain ⟨-, hmode, -, -, -, -, -, -, -, hbridge, -, hparent, -, -, -, hqueues, -⟩ := hcheck
  rw [hn]
  refine ⟨⟨fun hchosen => hmode (by simpa using hchosen), ?_, ?_⟩, ?_⟩
  · refine hbridge.imp_right (·.imp_right (·.imp_right ?_))
    rintro ⟨n, hn, hmode, -, h⟩
    exact ⟨n, hn, hmode, h⟩
  · refine hparent.imp_right (·.imp_right (·.imp_right ?_))
    rintro ⟨n, hn, hmode, -, h⟩
    exact ⟨n, hn, hmode, h⟩
  · intro q hq
    rw [show proto.queues = some q from hq] at hqueues
    simpa using hqueues

lemma trim_empty : trim "" = "" := by decide

/-- A request for nothing but a queue count keeps the node's backend, so
that only the cap can be held against it. -/
lemma networkingFromProto_queues {q : Nat} (hpos : q ≠ 0) (hq : q ≤ cfg.maxNetQueues) :
    networkingFromProto { queues := some q } cfg
      = .ok (some { mode := cfg.networking.nic.mode, queues := some q, inheritMode := true }) := by
  have hcheck : checkNetworking { queues := some q } "" "" cfg.networking.nic.mode false cfg
      = .ok () := by
    simp [checkNetworking, bind_eq_ok, ensure_eq_ok, trim_empty, hq]
  simp only [networkingFromProto, ok_iff, trim_empty]
  exact ⟨(), by simpa using hpos, some (cfg.networking.nic.mode, false), rfl,
    bind_eq_ok.mpr ⟨(), hcheck, rfl⟩⟩

lemma permitted_iff_queuesHeld :
    (∀ proto n, networkingFromProto proto (heldNetworkingConfig cfg held) = .ok (some n) →
      Permitted cfg held n) ↔ QueuesHeld cfg held := by
  constructor
  · intro h q hcap hle
    have haccepted := networkingFromProto_queues (by omega)
      (le_held_maxNetQueues.mpr (.inr hle) : q ≤ (heldNetworkingConfig cfg held).maxNetQueues)
    rcases (h _ _ haccepted).queues q rfl with hq | hq
    · omega
    · exact hq
  · intro hheld proto n h
    obtain ⟨hnames, hqueues⟩ := permitted_of_held h
    refine ⟨hnames, fun q hq => ?_⟩
    by_cases hcap : q ≤ cfg.maxNetQueues
    · exact .inl hcap
    · have hle := (le_held_maxNetQueues.mp (hqueues q hq)).resolve_left hcap
      exact .inr (hheld q (by omega) hle)

-- == recording

lemma ownOr_ownOr (own node : String) : ownOr (ownOr own node) node = ownOr own node := by
  unfold ownOr
  split <;> simp_all

lemma resolveNetworking_manifestNetwork (hnode : cfg'.networking = cfg.networking)
    (hr : Kept r) :
    resolveNetworking (manifestNetwork (resolveNetworking r cfg' vcpu) r) cfg vcpu
      = resolveNetworking r cfg vcpu := by
  by_cases hinherit : r.inheritMode = true
  · rw [manifestNetwork, if_pos hinherit]
  · have hbridge : ownOr (if r.mode = .bridge then ownOr r.bridge cfg.networking.nic.bridge
        else "") cfg.networking.nic.bridge = ownOr r.bridge cfg.networking.nic.bridge := by
      by_cases hmode : r.mode = .bridge
      · rw [if_pos hmode, ownOr_ownOr]
      · rw [if_neg hmode, hr.bridge_of (.inl hmode)]
    have hparent : ownOr (if r.mode = .macvtap then ownOr r.parent cfg.networking.nic.parent
        else "") cfg.networking.nic.parent = ownOr r.parent cfg.networking.nic.parent := by
      by_cases hmode : r.mode = .macvtap
      · rw [if_pos hmode, ownOr_ownOr]
      · rw [if_neg hmode, hr.parent_of (.inl hmode)]
    simp [manifestNetwork, resolveNetworking, hinherit, hnode, hbridge, hparent]

lemma kept_manifestNetwork (hr : Kept r) :
    Kept (manifestNetwork (resolveNetworking r cfg vcpu) r) := by
  by_cases hinherit : r.inheritMode = true
  · rw [manifestNetwork, if_pos hinherit]
    exact hr
  · rw [Bool.not_eq_true] at hinherit
    simp only [manifestNetwork, hinherit, resolveNetworking]
    refine ⟨hr.queues_pos, hr.queues_le, ?_, ?_, ?_, ?_, ?_⟩
    · rintro (hne | h)
      · exact if_neg hne
      · cases h
    · rintro (hne | h)
      · exact if_neg hne
      · cases h
    · exact fun _ => hr.not_custom hinherit
    · exact fun _ => hr.vhost_of hinherit
    · exact fun _ => hr.multiqueue_of hinherit

-- == stored

/-- The interfaces of some VM: of a new one, or of one that was updated,
each time under whatever configuration and host there was. -/
inductive Stored : List NicNetworking → Prop
  | created {hasInterface : String → Bool} {networks : List NetworkingProto}
      {networking : Option NetworkingProto} {vcpu : Nat} {cfg : NetworkPolicy}
      {stored : List NicNetworking}
      (h : networksFromVmConfig hasInterface networks networking vcpu cfg = .ok stored) :
      Stored stored
  | updated {hasInterface : String → Bool} {networks : List NetworkingProto}
      {held : List NicNetworking} {vcpu : Nat} {cfg : NetworkPolicy}
      {stored : List NicNetworking} (hheld : Stored held)
      (h : updatedNetworks hasInterface networks held vcpu cfg = .ok stored) : Stored stored

lemma manifestNetworks_map (requests : List NicNetworking) (cfg : NetworkPolicy) (vcpu : Nat) :
    manifestNetworks (requests.map (resolveNetworking · cfg vcpu)) requests
      = requests.map fun r => manifestNetwork (resolveNetworking r cfg vcpu) r := by
  unfold manifestNetworks
  induction requests with
  | nil => rfl
  | cons r requests ih =>
    rw [List.map_cons, List.zip_cons_cons, List.map_cons, ih, List.map_cons]

variable {stored requests : List NicNetworking} {hasInterface : String → Bool}

lemma resolveRequestedNetworks_eq_ok :
    resolveRequestedNetworks hasInterface requests cfg vcpu = .ok stored ↔
      (∀ r ∈ requests,
          validateResolvedNetwork hasInterface (resolveNetworking r cfg vcpu) = .ok ())
        ∧ (requests.map fun r => manifestNetwork (resolveNetworking r cfg vcpu) r) = stored := by
  simp only [resolveRequestedNetworks, validateResolvedNetworks, ok_iff, Result.forM_eq_ok,
    manifestNetworks_map, List.forall_mem_map, exists_const]

lemma queues_le_of_valid
    (h : validateResolvedNetwork hasInterface (resolveNetworking r cfg vcpu) = .ok ()) :
    r.queues.all (· ≤ maxNetQueuesBound) = true := by
  simp only [validateResolvedNetwork, ok_iff] at h
  obtain ⟨-, hqueues, -⟩ := h
  cases hq : r.queues with
  | none => rfl
  | some q => simpa [resolveNetworking, hq] using hqueues

lemma kept_nodeDefault (cfg : NetworkPolicy) : Kept (nodeDefaultNetworking cfg) :=
  ⟨nofun, rfl, fun _ => rfl, fun _ => rfl, nofun, nofun, nofun⟩

lemma kept_of_requested (h : networkFromRequiredProto proto cfg = .ok n)
    (hqueues : n.queues.all (· ≤ maxNetQueuesBound) = true) : Kept n := by
  simp only [networkFromRequiredProto, ok_iff] at h
  obtain ⟨o, ho, rfl⟩ := h
  cases o with
  | none => exact kept_nodeDefault cfg
  | some n => exact kept_of_networkingFromProto ho hqueues

lemma kept_of_resolved
    (hkept : ∀ r ∈ requests, r.queues.all (· ≤ maxNetQueuesBound) = true → Kept r)
    (h : resolveRequestedNetworks hasInterface requests cfg vcpu = .ok stored) :
    ∀ n ∈ stored, Kept n := by
  obtain ⟨hvalid, rfl⟩ := resolveRequestedNetworks_eq_ok.mp h
  intro n hn
  obtain ⟨r, hr, rfl⟩ := List.mem_map.mp hn
  exact kept_manifestNetwork (hkept r hr (queues_le_of_valid (hvalid r hr)))

lemma kept_of_networksFromProto {networks : List NetworkingProto}
    (h : networksFromProto networks cfg = .ok requests) :
    ∀ r ∈ requests, r.queues.all (· ≤ maxNetQueuesBound) = true → Kept r := by
  unfold networksFromProto at h
  intro r hr
  obtain ⟨proto, -, hproto⟩ := Result.exists_of_mem_mapM h hr
  exact kept_of_requested hproto

lemma Stored.kept (h : Stored stored) : ∀ n ∈ stored, Kept n := by
  induction h with
  | @created hasInterface networks networking vcpu cfg stored h =>
    unfold networksFromVmConfig at h
    split at h
    · cases h
      exact nofun
    · simp only [bind_eq_ok] at h
      obtain ⟨o, ho, h⟩ := h
      cases o with
      | none =>
        cases h
        exact nofun
      | some r =>
        refine kept_of_resolved (fun r' hr' => ?_) h
        rw [List.mem_singleton.mp hr']
        exact kept_of_networkingFromProto ho
    · simp only [bind_eq_ok] at h
      obtain ⟨requests, hrequests, h⟩ := h
      exact kept_of_resolved (kept_of_networksFromProto hrequests) h
  | @updated hasInterface networks held vcpu cfg stored hheld h ih =>
    unfold updatedNetworks at h
    split at h
    · simp only [ok_iff] at h
      obtain ⟨-, -, rfl⟩ := h
      exact nofun
    · simp only [bind_eq_ok] at h
      obtain ⟨requests, hrequests, h⟩ := h
      exact kept_of_resolved (kept_of_networksFromProto hrequests) h

-- == sending back

def echo (cfg : NetworkPolicy) (n : NicNetworking) : NicNetworking :=
  { n with
    mode := if n.inheritMode then cfg.networking.nic.mode else n.mode
    bridge := trim n.bridge
    parent := trim n.parent }

lemma echo_inherited (hn : Kept n) (hinherit : n.inheritMode = true) :
    echo cfg n = ⟨cfg.networking.nic.mode, "", "", n.vhost, n.queues, true⟩ := by
  simp [echo, hinherit, hn.bridge_of (.inr hinherit), hn.parent_of (.inr hinherit), trim_empty]

lemma echo_chosen (hinherit : n.inheritMode = false) :
    echo cfg n = ⟨n.mode, trim n.bridge, trim n.parent, n.vhost, n.queues, false⟩ := by
  simp [echo, hinherit]

lemma requestedMode_asStr {mode : NetworkingMode} (h : mode ≠ .custom)
    (namesBackend tuned : Bool) (node : NetworkingMode) :
    requestedMode mode.asStr namesBackend tuned node = .ok (some (mode, true)) := by
  cases mode with
  | custom => exact absurd rfl h
  | user => rfl
  | bridge => rfl
  | macvtap => rfl
  | passt => rfl

structure Admits (cfg : NetworkPolicy) (n : NicNetworking) : Prop where
  mode : n.inheritMode = false → n.mode ∈ cfg.allowedNetworkModes
  bridge : trim n.bridge = "" ∨ trim n.bridge = trim cfg.networking.nic.bridge
    ∨ trim n.bridge ∈ cfg.allowedBridges
  parent : trim n.parent = "" ∨ trim n.parent = trim cfg.networking.nic.parent
    ∨ trim n.parent ∈ cfg.allowedMacvtapParents
  queues : n.queues.all (· ≤ cfg.maxNetQueues) = true

lemma networkFromRequiredProto_of_mode (proto : NetworkingProto) {mode : NetworkingMode}
    {chosen : Bool} (hqueues : proto.queues ≠ some 0)
    (hmode : requestedMode proto.mode (trim proto.bridgeName ≠ "" || trim proto.parent ≠ "")
      (proto.vhost.isSome || proto.queues.isSome) cfg.networking.nic.mode
        = .ok (some (mode, chosen))) :
    networkFromRequiredProto proto cfg = .ok r ↔
      checkNetworking proto (trim proto.bridgeName) (trim proto.parent) mode chosen cfg = .ok ()
        ∧ ⟨mode, trim proto.bridgeName, trim proto.parent, proto.vhost, proto.queues,
          !chosen⟩ = r := by
  simp only [networkFromRequiredProto, networkingFromProto, ok_iff, hmode]
  constructor
  · rintro ⟨_, ⟨-, -, _, ⟨⟩, h⟩, ho⟩
    obtain ⟨_, hcheck, h⟩ := bind_eq_ok.mp h
    rw [← pure_eq_ok.mp h] at ho
    exact ⟨hcheck, ho⟩
  · rintro ⟨hcheck, hr⟩
    exact ⟨some r, ⟨(), hqueues, _, rfl, bind_eq_ok.mpr
      ⟨(), hcheck, pure_eq_ok.mpr (congrArg some hr)⟩⟩, rfl⟩

lemma networkFromRequiredProto_inherited (hn : Kept n) (hinherit : n.inheritMode = true) :
    networkFromRequiredProto (networkingToProto n) cfg = .ok r ↔
      Admits cfg n ∧ echo cfg n = r := by
  have hbridge : n.bridge = "" := hn.bridge_of (.inr hinherit)
  have hparent : n.parent = "" := hn.parent_of (.inr hinherit)
  have hadmits : Admits cfg n ↔ n.queues.all (· ≤ cfg.maxNetQueues) = true := by
    refine ⟨Admits.queues, fun h => ⟨?_, .inl ?_, .inl ?_, h⟩⟩
    · intro h
      rw [hinherit] at h
      cases h
    · rw [hbridge, trim_empty]
    · rw [hparent, trim_empty]
  have hproto : networkingToProto n = ⟨"", "", "", "", n.vhost, n.queues⟩ := by
    simp [networkingToProto, hinherit]
  rw [hadmits, hproto, echo_inherited hn hinherit]
  cases htuned : n.vhost.isSome || n.queues.isSome with
  | false =>
    rw [Bool.or_eq_false_iff, Option.isSome_eq_false_iff, Option.isSome_eq_false_iff,
      Option.isNone_iff_eq_none, Option.isNone_iff_eq_none] at htuned
    rw [htuned.1, htuned.2]
    simp [networkFromRequiredProto, networkingFromProto, requestedMode, trim_empty,
      bind_eq_ok, nodeDefaultNetworking]
  | true =>
    have hmode : requestedMode "" (trim "" ≠ "" || trim "" ≠ "")
        (n.vhost.isSome || n.queues.isSome) cfg.networking.nic.mode
          = .ok (some (cfg.networking.nic.mode, false)) := by
      rw [htuned, trim_empty]
      rfl
    rw [networkFromRequiredProto_of_mode ⟨"", "", "", "", n.vhost, n.queues⟩ hn.queues_pos hmode]
    simp [checkNetworking, trim_empty, bind_eq_ok]

lemma networkFromRequiredProto_chosen (hn : Kept n) (hinherit : n.inheritMode = false) :
    networkFromRequiredProto (networkingToProto n) cfg = .ok r ↔
      Admits cfg n ∧ echo cfg n = r := by
  have hproto : networkingToProto n
      = ⟨n.mode.asStr, n.bridge, n.parent, "", n.vhost, n.queues⟩ := by
    by_cases hb : n.mode = .bridge
    · simp [networkingToProto, hinherit, hb, hn.parent_of (.inl (by rw [hb]; decide))]
    · by_cases hp : n.mode = .macvtap
      · simp [networkingToProto, hinherit, hp, hn.bridge_of (.inl hb)]
      · simp [networkingToProto, hinherit, hb, hp, hn.bridge_of (.inl hb), hn.parent_of (.inl hp)]
  rw [hproto, echo_chosen hinherit, networkFromRequiredProto_of_mode
    ⟨n.mode.asStr, n.bridge, n.parent, "", n.vhost, n.queues⟩ hn.queues_pos
    (requestedMode_asStr (hn.not_custom hinherit) _ _ _)]
  refine and_congr_left fun _ => ?_
  simp only [checkNetworking, ok_iff]
  constructor
  · rintro ⟨-, hmode, -, -, -, -, -, -, -, hbridge, -, hparent, -, -, -, hqueues, -⟩
    exact ⟨fun _ => hmode trivial, hbridge, hparent, hqueues⟩
  · rintro ⟨hmode, hbridge, hparent, hqueues⟩
    refine ⟨(), fun _ => hmode hinherit, (), fun hne => ?_, (), fun hne => ?_, (),
      .inl trim_empty, (), hbridge, (), hparent, (), fun _ => hn.vhost_of hinherit, (), hqueues,
      fun _ => hn.multiqueue_of hinherit⟩
    · rw [hn.bridge_of (.inl hne), trim_empty]
    · rw [hn.parent_of (.inl hne), trim_empty]

lemma networkFromRequiredProto_report (hn : Kept n) :
    networkFromRequiredProto (networkingToProto n) cfg = .ok r ↔
      Admits cfg n ∧ echo cfg n = r := by
  cases hinherit : n.inheritMode with
  | true => exact networkFromRequiredProto_inherited hn hinherit
  | false => exact networkFromRequiredProto_chosen hn hinherit

lemma networksFromProto_report (hstored : ∀ n ∈ stored, Kept n) :
    networksFromProto (stored.map networkingToProto) cfg = .ok requests ↔
      (∀ n ∈ stored, Admits cfg n) ∧ stored.map (echo cfg) = requests := by
  rw [networksFromProto, mapM_eq_ok, List.forall₂_map_left_iff]
  induction stored generalizing requests with
  | nil => simp [eq_comm]
  | cons n stored ih =>
    rw [List.forall_mem_cons] at hstored
    rw [List.forall₂_cons_left_iff, List.forall_mem_cons, List.map_cons]
    simp only [networkFromRequiredProto_report hstored.1, ih hstored.2]
    constructor
    · rintro ⟨r, requests, ⟨hn, rfl⟩, ⟨hall, rfl⟩, rfl⟩
      exact ⟨⟨hn, hall⟩, rfl⟩
    · rintro ⟨⟨hn, hall⟩, rfl⟩
      exact ⟨_, _, ⟨hn, rfl⟩, ⟨hall, rfl⟩, rfl⟩

def Untrimmed (own node : String) : Prop := trim own = own ∨ (trim own = "" ∧ own = node)

lemma ownOr_trim_iff {own node : String} :
    ownOr (trim own) node = ownOr own node ↔ Untrimmed own node := by
  unfold ownOr Untrimmed
  by_cases hown : own = ""
  · simp [hown, trim_empty]
  · by_cases htrim : trim own = ""
    · simp [hown, htrim, eq_comm]
    · simp [hown, htrim]

lemma resolveNetworking_echo_iff :
    resolveNetworking (echo cfg n) cfg vcpu = resolveNetworking n cfg vcpu ↔
      Untrimmed n.bridge cfg.networking.nic.bridge
        ∧ Untrimmed n.parent cfg.networking.nic.parent := by
  rw [← ownOr_trim_iff, ← ownOr_trim_iff]
  cases hinherit : n.inheritMode <;> simp [resolveNetworking, echo, hinherit]

lemma kept_echo (hn : Kept n) : Kept (echo cfg n) := by
  cases hinherit : n.inheritMode with
  | true =>
    rw [echo_inherited hn hinherit]
    exact ⟨hn.queues_pos, hn.queues_le, fun _ => rfl, fun _ => rfl, nofun, nofun, nofun⟩
  | false =>
    rw [echo_chosen hinherit]
    refine ⟨hn.queues_pos, hn.queues_le, ?_, ?_, fun _ => hn.not_custom hinherit,
      fun _ => hn.vhost_of hinherit, fun _ => hn.multiqueue_of hinherit⟩
    · rintro (hne | h)
      · show trim n.bridge = ""
        rw [hn.bridge_of (.inl hne), trim_empty]
      · cases h
    · rintro (hne | h)
      · show trim n.parent = ""
        rw [hn.parent_of (.inl hne), trim_empty]
      · cases h

/-- What is stored if the interfaces of a VM are sent back as read. -/
def resend (hasInterface : String → Bool) (cfg : NetworkPolicy) (stored : List NicNetworking)
    (vcpu : Nat) : Result (List NicNetworking) := do
  let cvm := heldNetworkingConfig cfg stored
  let networks ← networksFromProto (stored.map networkingToProto) cvm
  resolveRequestedNetworks hasInterface networks cvm vcpu

/-- An entry that can be sent back: it follows the node, or its mode is
still allowed; and its names have no white space around them. -/
def Resendable (cfg : NetworkPolicy) (n : NicNetworking) : Prop :=
  (n.inheritMode = false → n.mode ∈ cfg.allowedNetworkModes)
    ∧ Untrimmed n.bridge cfg.networking.nic.bridge
    ∧ Untrimmed n.parent cfg.networking.nic.parent

lemma echo_congr (h : cfg'.networking = cfg.networking) : echo cfg' n = echo cfg n := by
  rw [echo, h, echo]

lemma Resendable.admits (hkept : Kept n) (hn : n ∈ stored)
    (h : Resendable cfg n) : Admits (heldNetworkingConfig cfg stored) n := by
  obtain ⟨hmode, hbridge, hparent⟩ := h
  refine ⟨fun hchosen => ?_, ?_, ?_, ?_⟩
  · rw [(held_same stored).2]
    exact hmode hchosen
  · rcases hbridge with htrim | ⟨hempty, -⟩
    · by_cases hb : n.bridge = ""
      · exact .inl (by rw [hb, trim_empty])
      · refine .inr (.inr (mem_held_allowedBridges.mpr (.inr ⟨n, hn, ?_, hb, htrim.symm⟩)))
        by_contra hne
        exact hb (hkept.bridge_of (.inl hne))
    · exact .inl hempty
  · rcases hparent with htrim | ⟨hempty, -⟩
    · by_cases hp : n.parent = ""
      · exact .inl (by rw [hp, trim_empty])
      · refine .inr (.inr (mem_held_allowedMacvtapParents.mpr (.inr ⟨n, hn, ?_, hp, htrim.symm⟩)))
        by_contra hne
        exact hp (hkept.parent_of (.inl hne))
    · exact .inl hempty
  · cases hq : n.queues with
    | none => rfl
    | some q =>
      simp only [Option.all_some, decide_eq_true_eq]
      exact le_held_maxNetQueues.mpr (.inr ⟨n, hn, q, hq, Nat.le_refl q⟩)

lemma defaultQueuePairs_le (vcpu maxNetQueues : Nat) :
    Networking.defaultQueuePairs vcpu maxNetQueues ≤ maxNetQueuesBound := by
  unfold Networking.defaultQueuePairs defaultQueueScalingCap maxNetQueuesBound
  omega

lemma validateResolvedNetwork_of_kept (hr : Kept r)
    (hhost : (resolveNetworking r cfg vcpu).nic.mode = .bridge →
      (resolveNetworking r cfg vcpu).nic.bridge ≠ ""
        ∧ hasInterface (resolveNetworking r cfg vcpu).nic.bridge = true) :
    validateResolvedNetwork hasInterface (resolveNetworking r cfg vcpu) = .ok () := by
  simp only [validateResolvedNetwork, ok_iff]
  refine ⟨(), ?_, (), fun hmode => (hhost hmode).1, fun hmode => (hhost hmode).2⟩
  cases hq : r.queues with
  | some q => simpa [resolveNetworking, hq] using hr.queues_le
  | none =>
    have hbound : ∀ c : Bool, (if c then Networking.defaultQueuePairs vcpu cfg.maxNetQueues
        else 1) ≤ maxNetQueuesBound := by
      rintro (_ | _)
      · show 1 ≤ maxNetQueuesBound
        decide
      · exact defaultQueuePairs_le vcpu cfg.maxNetQueues
    simp only [resolveNetworking, hq, Option.getD_none, Option.all_some, decide_eq_true_eq]
    exact hbound _

lemma resolveNetworking_identity (h : cfg'.networking = cfg.networking) :
    (resolveNetworking r cfg' vcpu).nic.mode = (resolveNetworking r cfg vcpu).nic.mode
      ∧ (resolveNetworking r cfg' vcpu).nic.bridge = (resolveNetworking r cfg vcpu).nic.bridge := by
  simp [resolveNetworking, h]

/-- What a VM has stored comes back, and resolves as before, exactly if
each entry is resendable. No mode, bridge or parent comes through that the
node forbids and the VM does not hold; no queue count does exactly if the
VM holds every count between the node's cap and its own largest. -/
theorem stored_networks_resend_iff {stored : List NicNetworking} (hstored : Stored stored)
    (hasInterface : String → Bool) (cfg : NetworkPolicy) (vcpu : Nat)
    (hhost : ∀ n ∈ stored, (resolveNetworking n cfg vcpu).nic.mode = .bridge →
      (resolveNetworking n cfg vcpu).nic.bridge ≠ ""
        ∧ hasInterface (resolveNetworking n cfg vcpu).nic.bridge = true) :
    ((∃ restored, resend hasInterface cfg stored vcpu = .ok restored
        ∧ restored.map (resolveNetworking · cfg vcpu) = stored.map (resolveNetworking · cfg vcpu))
      ↔ ∀ n ∈ stored, Resendable cfg n)
    ∧ (∀ proto n, networkingFromProto proto (heldNetworkingConfig cfg stored) = .ok (some n) →
        NamesPermitted cfg stored n)
    ∧ ((∀ proto n, networkingFromProto proto (heldNetworkingConfig cfg stored) = .ok (some n) →
        Permitted cfg stored n) ↔ QueuesHeld cfg stored) := by
  have hkept := hstored.kept
  have hnode : (heldNetworkingConfig cfg stored).networking = cfg.networking :=
    (held_same stored).1
  -- what is recorded of an echo resolves as the echo
  have hecho : ∀ n ∈ stored, resolveNetworking (manifestNetwork (resolveNetworking
      (echo (heldNetworkingConfig cfg stored) n) (heldNetworkingConfig cfg stored) vcpu)
      (echo (heldNetworkingConfig cfg stored) n)) cfg vcpu
        = resolveNetworking (echo cfg n) cfg vcpu := by
    intro n hn
    rw [resolveNetworking_manifestNetwork hnode (kept_echo (hkept n hn)), echo_congr hnode]
  refine ⟨⟨?_, ?_⟩, fun proto n h => (permitted_of_held h).1, permitted_iff_queuesHeld⟩
  · rintro ⟨restored, hresend, hsame⟩ n hn
    simp only [resend, bind_eq_ok, networksFromProto_report hkept] at hresend
    obtain ⟨_, ⟨hadmits, rfl⟩, hresolved⟩ := hresend
    obtain ⟨-, rfl⟩ := resolveRequestedNetworks_eq_ok.mp hresolved
    rw [List.map_map, List.map_map, List.map_inj_left] at hsame
    have hresolves := (hecho n hn).symm.trans (hsame n hn)
    refine ⟨?_, resolveNetworking_echo_iff.mp hresolves⟩
    have hmode := (hadmits n hn).mode
    rw [(held_same stored).2] at hmode
    exact hmode
  · intro hresendable
    have hsame : ∀ n ∈ stored, resolveNetworking (echo cfg n) cfg vcpu
        = resolveNetworking n cfg vcpu :=
      fun n hn => resolveNetworking_echo_iff.mpr (hresendable n hn).2
    have hvalid : ∀ n ∈ stored, validateResolvedNetwork hasInterface (resolveNetworking
        (echo (heldNetworkingConfig cfg stored) n) (heldNetworkingConfig cfg stored) vcpu)
          = .ok () := by
      intro n hn
      apply validateResolvedNetwork_of_kept (kept_echo (hkept n hn))
      rw [(resolveNetworking_identity hnode).1, (resolveNetworking_identity hnode).2,
        echo_congr hnode, hsame n hn]
      exact hhost n hn
    refine ⟨_, bind_eq_ok.mpr ⟨_, (networksFromProto_report hkept).mpr
      ⟨fun n hn => (hresendable n hn).admits (hkept n hn) hn, rfl⟩,
      resolveRequestedNetworks_eq_ok.mpr ⟨List.forall_mem_map.mpr hvalid, rfl⟩⟩, ?_⟩
    rw [List.map_map, List.map_map, List.map_inj_left]
    intro n hn
    exact (hecho n hn).trans (hsame n hn)

def bridged : List NicNetworking := [{ mode := .bridge, bridge := "br0" }]

lemma bridged_stored : Stored bridged := by
  have h : networksFromVmConfig (· = "br0") [{ mode := "bridge", bridgeName := "br0" }] none 2
      { allowedBridges := ["br0"] } = .ok bridged := by decide
  exact .created h

/-- A VM that was given eight queues while the node allowed them. -/
def queued : List NicNetworking := [{ queues := some 8, inheritMode := true }]

lemma queued_stored : Stored queued := by
  have h : networksFromVmConfig (fun _ => false) [{ queues := some 8 }] none 2 {} = .ok queued := by
    decide
  exact .created h

/-- Since then the node has taken bridges out of `allowed_network_modes`,
or lowered its cap to four: then six queues are accepted, which the node
forbids and the VM never had. -/
theorem bridged_not_resent :
    (Stored bridged
      ∧ resend (· = "br0") { allowedNetworkModes := [.user] } bridged 2
        = .error "networking mode 'bridge' is not allowed by node policy")
    ∧ Stored queued ∧ ∃ proto n, networkingFromProto proto
        (heldNetworkingConfig { maxNetQueues := 4 } queued) = .ok (some n)
      ∧ ¬Permitted { maxNetQueues := 4 } queued n := by
  refine ⟨⟨bridged_stored, by decide⟩, queued_stored, { queues := some 6 },
    { queues := some 6, inheritMode := true }, by decide, fun h => ?_⟩
  have hqueues := h.queues 6 rfl
  revert hqueues
  decide

/-- That another bridge has become the default, that this one is no
longer listed, and that the cap is one does not matter. -/
theorem bridged_resent :
    let cfg : NetworkPolicy :=
      { networking := { nic := { mode := .bridge, bridge := "br1" } }, maxNetQueues := 1 }
    (∃ restored, resend (· = "br0") cfg bridged 2 = .ok restored
      ∧ restored.map (resolveNetworking · cfg 2) = bridged.map (resolveNetworking · cfg 2))
    ∧ ∀ proto n, networkingFromProto proto (heldNetworkingConfig cfg bridged) = .ok (some n) →
        Permitted cfg bridged n := by
  intro cfg
  obtain ⟨hresend, -, hpermitted⟩ :=
    stored_networks_resend_iff bridged_stored (· = "br0") cfg 2 (by decide)
  refine ⟨hresend.mpr fun n hn => ?_, hpermitted.mpr ?_⟩
  · rw [List.mem_singleton.mp hn]
    exact ⟨by decide, .inl (by decide), .inl (by decide)⟩
  · rintro q - ⟨h, hh, q', hq', -⟩
    rw [List.mem_singleton.mp hh] at hq'
    cases hq'

end Dstack.Vmm
