/-
What the operations on a routing table do to its maps.

Every proof about the table starts from these lemmas: an operation is
opened here and nowhere else. Most of them are rules for a property of
states: what is so of every write an operation is made of is so of the
operation.
-/
import Dstack.Gateway.Passes

namespace Dstack.Gateway

open Lib

-- == the store

lemma setInstanceGate_inst (fails : Faults) (kv : KvStore) (id : String) (ready : Bool) :
    (kv.setInstanceGate fails id ready).2.inst = kv.inst := by
  unfold KvStore.setInstanceGate
  cases fails .gate id <;> rfl

lemma setInstancePortPolicyOverride_inst (fails : Faults) (kv : KvStore) (id : String)
    (policy : Option PortPolicy) :
    (kv.setInstancePortPolicyOverride fails id policy).2.inst = kv.inst := by
  unfold KvStore.setInstancePortPolicyOverride
  cases fails .portPolicyOverride id <;> rfl

namespace ProxyState

-- == applications

/-- The application lists the instance. -/
def InApp (s : ProxyState) (a i : String) : Prop :=
  ∃ ids, s.apps.get? a = some ids ∧ ids.mem i

/-- The application is there. -/
def HasApp (s : ProxyState) (a : String) : Prop := ∃ ids, s.apps.get? a = some ids

variable {s : ProxyState} {i a : String}

lemma joinApp_apps (s : ProxyState) (a a' i : String) :
    (s.joinApp a i).apps.get? a'
      = if a = a' then some (BTreeSet.add (s.appInstances a) i) else s.apps.get? a' :=
  BTreeMap.get?_insert _ _ _ _

lemma mem_appInstances : (s.appInstances a).mem i ↔ s.InApp a i := by
  unfold appInstances InApp
  cases s.apps.get? a <;> simp [BTreeSet.not_mem_empty]

lemma joinApp_inApp {a' i' : String} :
    (s.joinApp a i).InApp a' i' ↔ (a = a' ∧ i = i') ∨ s.InApp a' i' := by
  by_cases ha : a = a'
  · subst ha
    simp [InApp, joinApp_apps, BTreeSet.mem_add, mem_appInstances]
  · simp [InApp, joinApp_apps, ha]

lemma joinApp_hasApp {a' : String} (h : s.HasApp a' ∨ a = a') :
    (s.joinApp a i).HasApp a' := by
  unfold HasApp
  rw [joinApp_apps]
  by_cases ha : a = a'
  · rw [if_pos ha]
    exact ⟨_, rfl⟩
  · rw [if_neg ha]
    exact h.resolve_right ha

/-- No application is there without an instance. -/
def NoEmptyApp (s : ProxyState) : Prop :=
  ∀ a ids, s.apps.get? a = some ids → ∃ i, ids.mem i

lemma joinApp_noEmptyApp (h : s.NoEmptyApp) :
    (s.joinApp a i).NoEmptyApp := by
  intro a' ids hids
  rcases BTreeMap.get?_insert_eq_some.mp hids with ⟨-, rfl⟩ | ⟨-, hids⟩
  · exact ⟨i, BTreeSet.mem_add.mpr (.inl rfl)⟩
  · exact h a' ids hids

/-- What leaving an application can do: the set goes down by one id, or
it was the last one and all that is kept by application goes with it. -/
lemma leaveApp_cases :
    ((s.leaveApp a i = s ∧ s.apps.get? a = none)
      ∨ (∃ ids, s.apps.get? a = some ids ∧ (∀ i', ids.mem i' → i' = i)
        ∧ s.leaveApp a i = { s with
          apps := s.apps.erase a
          topN := s.topN.erase a
          allUnhealthyWarned := s.allUnhealthyWarned.erase a })
      ∨ ∃ ids, s.apps.get? a = some ids ∧ (∃ i', i ≠ i' ∧ ids.mem i')
        ∧ s.leaveApp a i = { s with apps := s.apps.insert a (ids.erase i) }) := by
  unfold leaveApp
  cases hids : s.apps.get? a with
  | none => exact .inl ⟨rfl, rfl⟩
  | some ids =>
    dsimp only
    by_cases hempty : (ids.erase i).isEmpty = true
    · rw [if_pos hempty]
      refine .inr (.inl ⟨ids, rfl, ?_, rfl⟩)
      intro i' hmem
      by_contra hne
      exact BTreeSet.isEmpty_iff.mp hempty i'
        (BTreeSet.mem_erase.mpr ⟨fun h => hne h.symm, hmem⟩)
    · rw [if_neg hempty]
      refine .inr (.inr ⟨ids, rfl, ?_, rfl⟩)
      rw [BTreeSet.isEmpty_iff] at hempty
      push Not at hempty
      obtain ⟨i', hmem⟩ := hempty
      exact ⟨i', BTreeSet.mem_erase.mp hmem⟩

lemma leaveApp_table (s : ProxyState) (a i : String) : ∃ apps topN allUnhealthyWarned,
    s.leaveApp a i = { s with apps, topN, allUnhealthyWarned } := by
  rcases leaveApp_cases (s := s) (a := a) (i := i) with ⟨h, -⟩ | ⟨_, -, -, h⟩ | ⟨_, -, -, h⟩
  · exact ⟨_, _, _, h⟩
  · exact ⟨_, _, _, h⟩
  · exact ⟨_, _, _, h⟩

lemma leaveApp_instances (s : ProxyState) (a i : String) :
    (s.leaveApp a i).instances = s.instances := by
  obtain ⟨_, _, _, h⟩ := leaveApp_table s a i
  rw [h]

lemma leaveApp_allocatedAddresses (s : ProxyState) (a i : String) :
    (s.leaveApp a i).allocatedAddresses = s.allocatedAddresses := by
  obtain ⟨_, _, _, h⟩ := leaveApp_table s a i
  rw [h]

lemma leaveApp_kv (s : ProxyState) (a i : String) : (s.leaveApp a i).kv = s.kv := by
  obtain ⟨_, _, _, h⟩ := leaveApp_table s a i
  rw [h]

lemma leaveApp_inApp {a' i' : String} :
    (s.leaveApp a i).InApp a' i' ↔ s.InApp a' i' ∧ ¬(a = a' ∧ i = i') := by
  rcases leaveApp_cases (s := s) (a := a) (i := i) with
    ⟨h, hnone⟩ | ⟨ids, hids, hlast, h⟩ | ⟨ids, hids, -, h⟩
  · by_cases ha : a = a'
    · subst ha
      simp [h, InApp, hnone]
    · simp [h, ha]
  · by_cases ha : a = a'
    · subst ha
      simp only [h, InApp, BTreeMap.get?_erase_self, hids, Option.some.injEq, exists_eq_left']
      simpa using fun hmem => (hlast i' hmem).symm
    · simp [h, InApp, BTreeMap.get?_erase_of_ne ha, ha]
  · by_cases ha : a = a'
    · subst ha
      simp [h, InApp, hids, BTreeSet.mem_erase, and_comm]
    · simp [h, InApp, BTreeMap.get?_insert_of_ne ha, ha]

lemma leaveApp_noEmptyApp (h : s.NoEmptyApp) :
    (s.leaveApp a i).NoEmptyApp := by
  rcases leaveApp_cases (s := s) (a := a) (i := i) with
    ⟨hs, -⟩ | ⟨ids, hids, -, hs⟩ | ⟨ids, hids, ⟨i', hne, hmem⟩, hs⟩
  · rw [hs]
    exact h
  · rw [hs]
    intro a' ids' hids'
    exact h a' ids' (BTreeMap.get?_erase_eq_some.mp hids').2
  · rw [hs]
    intro a' ids' hids'
    rcases BTreeMap.get?_insert_eq_some.mp hids' with ⟨-, rfl⟩ | ⟨-, hids'⟩
    · exact ⟨i', BTreeSet.mem_erase.mpr ⟨hne, hmem⟩⟩
    · exact h a' ids' hids'

-- == writes in place

/-- A record over another one, with the selection it is in dropped if it
depends on the difference. -/
def putBack (id : String) (before info : InstanceInfo) (s : ProxyState) : ProxyState :=
  { s with
    instances := s.instances.insert id info
    topN := if before.routingInputs = info.routingInputs then s.topN
      else s.topN.erase before.appId }

/-- An edit of a record leaves what the rest of the table goes by. -/
structure KeepsIdentity {T : Type} (edit : InstanceInfo → T × InstanceInfo) : Prop where
  id : ∀ before, (edit before).2.id = before.id
  appId : ∀ before, (edit before).2.appId = before.appId
  ip : ∀ before, (edit before).2.ip = before.ip
  connections : ∀ before, (edit before).2.connections = before.connections

variable {T : Type} {edit : InstanceInfo → T × InstanceInfo} {s : ProxyState} {id : String}

lemma editInstance_none (h : s.instances.get? id = none) :
    s.editInstance id edit = (none, s) := by
  unfold editInstance
  rw [h]

lemma editInstance_some (hedit : KeepsIdentity edit) {before : InstanceInfo}
    (h : s.instances.get? id = some before) :
    s.editInstance id edit = (some (edit before).1, s.putBack id before (edit before).2) := by
  unfold editInstance putBack
  rw [h]
  dsimp only
  by_cases hinputs : before.routingInputs = (edit before).2.routingInputs
  · rw [if_pos hinputs, if_pos hinputs]
  · rw [if_neg hinputs, if_neg hinputs, hedit.appId, if_neg (fun hne => hne rfl)]

lemma setReady_keeps (ready : Bool) : KeepsIdentity fun info : InstanceInfo =>
    (info.isReady, { info with ready := some ready }) :=
  ⟨fun _ => rfl, fun _ => rfl, fun _ => rfl, fun _ => rfl⟩

lemma recordHealth_keeps (ip : Ipv4Addr) (publicKey : String) (state : HealthState) :
    KeepsIdentity fun info : InstanceInfo =>
      if info.publicKey ≠ publicKey ∨ info.ip ≠ ip then ((), info)
      else if info.health.state ≠ state then
        ((), { info with health := info.health.observe state })
      else ((), info) := by
  constructor <;>
    · intro before
      split
      · rfl
      · split <;> rfl

-- == removals

lemma forgetInstance_some {info : InstanceInfo} (h : s.instances.get? id = some info) :
    s.forgetInstance id = (some info, leaveApp info.appId id { s with
      instances := s.instances.erase id
      allocatedAddresses := s.allocatedAddresses.erase info.ip
      topN := s.topN.erase info.appId }) := by
  unfold forgetInstance leaveApp
  rw [h]
  dsimp only
  cases s.apps.get? info.appId with
  | none => rfl
  | some ids =>
    dsimp only
    by_cases hempty : (ids.erase id).isEmpty = true
    · rw [if_pos hempty, if_pos hempty, BTreeMap.erase_erase]
    · rw [if_neg hempty, if_neg hempty]

lemma forgetInstance_none (h : s.instances.get? id = none) :
    s.forgetInstance id = (none, s) := by
  unfold forgetInstance
  rw [h]

lemma forgetInstance_instances (s : ProxyState) (id : String) :
    (s.forgetInstance id).2.instances = s.instances.erase id := by
  cases hinfo : s.instances.get? id with
  | none =>
    rw [forgetInstance_none hinfo]
    exact (BTreeMap.erase_eq_self.mpr hinfo).symm
  | some info =>
    rw [forgetInstance_some hinfo]
    exact leaveApp_instances _ _ _

lemma forgetInstance_kv (s : ProxyState) (id : String) :
    (s.forgetInstance id).2.kv = s.kv := by
  cases hinfo : s.instances.get? id with
  | none => rw [forgetInstance_none hinfo]
  | some info =>
    rw [forgetInstance_some hinfo]
    exact leaveApp_kv _ _ _

/-- One entry of a recycle: the instance goes if it registered then. -/
def recycleOne (fails : Faults) (e : String × SystemTime) (s : ProxyState) : ProxyState :=
  if (s.instances.get? e.1).any (·.regTime = e.2) then (s.removeInstance fails e.1).2 else s

lemma recycle_eq_foldl (fails : Faults) (stale : List (String × SystemTime)) (s : ProxyState) :
    (s.recycle fails stale).2 = stale.foldl (fun s e => s.recycleOne fails e) s := by
  induction stale generalizing s with
  | nil => rfl
  | cons e stale ih =>
    obtain ⟨id, regTime⟩ := e
    rw [List.foldl_cons]
    unfold recycle recycleOne
    by_cases hstill : (s.instances.get? id).any (·.regTime = regTime) = true
    · rw [if_pos hstill, if_pos hstill]
      obtain ⟨info, hinfo, -⟩ := (Option.any_eq_true _ _).mp hstill
      unfold removeInstance
      rw [forgetInstance_some hinfo]
      exact ih _
    · rw [if_neg hstill, if_neg hstill]
      exact ih s

lemma removeCvm_table (s : ProxyState) (fails : Faults) (id : String) :
    let kv := (s.kv.syncDeleteInstance fails id).2
    (s.removeCvm fails id).2 = { s with kv }
      ∨ (s.removeCvm fails id).2 = (forgetInstance id { s with kv }).2 := by
  unfold removeCvm
  rcases s.kv.syncDeleteInstance fails id with ⟨_ | _, kv⟩
  · exact .inl rfl
  · exact .inr rfl

lemma removeCvm_kv (s : ProxyState) (fails : Faults) (id : String) :
    (s.removeCvm fails id).2.kv = (s.kv.syncDeleteInstance fails id).2 := by
  rcases removeCvm_table s fails id with h | h
  · rw [h]
  · rw [h, forgetInstance_kv]

lemma removeCvm_gone (s : ProxyState) {fails : Faults} {id : String}
    (h : fails .inst id = none) : (s.removeCvm fails id).2.instances.get? id = none := by
  unfold removeCvm KvStore.syncDeleteInstance
  rw [h]
  exact (congrArg (·.get? id) (forgetInstance_instances _ _)).trans (BTreeMap.get?_erase_self _ _)

lemma removeCvm_ok_of (s : ProxyState) {fails : Faults} {id : String}
    (h : fails .inst id = none) :
    ∃ r, s.removeCvm fails id = (.ok r, (s.removeCvm fails id).2) := by
  unfold removeCvm KvStore.syncDeleteInstance
  rw [h]
  exact ⟨_, rfl⟩

lemma deletes_of_removeCvm_ok {fails : Faults} {r : Bool × Bool} {s' : ProxyState}
    (h : s.removeCvm fails id = (.ok r, s')) : fails .inst id = none := by
  unfold removeCvm KvStore.syncDeleteInstance at h
  cases hfails : fails .inst id with
  | none => rfl
  | some e =>
    rw [hfails] at h
    cases h

lemma leaveApp_keys :
    (∀ a' v, (s.leaveApp a i).topN.get? a' = some v →
      s.topN.get? a' = some v ∧ (s.HasApp a' → (s.leaveApp a i).HasApp a'))
    ∧ ∀ a' t, (s.leaveApp a i).allUnhealthyWarned.get? a' = some t →
      s.allUnhealthyWarned.get? a' = some t ∧ (s.HasApp a' → (s.leaveApp a i).HasApp a') := by
  rcases leaveApp_cases (s := s) (a := a) (i := i) with ⟨h, -⟩ | ⟨ids, -, -, h⟩ | ⟨ids, -, -, h⟩
  · rw [h]
    exact ⟨fun a' v hv => ⟨hv, fun hhas => hhas⟩, fun a' t ht => ⟨ht, fun hhas => hhas⟩⟩
  · have hkept : ∀ a', a ≠ a' → s.HasApp a' → (s.leaveApp a i).HasApp a' := by
      rintro a' hne ⟨ids', hids'⟩
      exact ⟨ids', by rw [h, BTreeMap.get?_erase_of_ne hne, hids']⟩
    refine ⟨fun a' v hv => ?_, fun a' t ht => ?_⟩
    · rw [h] at hv
      obtain ⟨hne, hv⟩ := BTreeMap.get?_erase_eq_some.mp hv
      exact ⟨hv, hkept a' hne⟩
    · rw [h] at ht
      obtain ⟨hne, ht⟩ := BTreeMap.get?_erase_eq_some.mp ht
      exact ⟨ht, hkept a' hne⟩
  · rw [h]
    have hkept : ∀ a', s.HasApp a' →
        ∃ ids', (s.apps.insert a (ids.erase i)).get? a' = some ids' := by
      rintro a' ⟨ids', hids'⟩
      rw [BTreeMap.get?_insert]
      split
      · exact ⟨_, rfl⟩
      · exact ⟨ids', hids'⟩
    exact ⟨fun a' v hv => ⟨hv, hkept a'⟩, fun a' t ht => ⟨ht, hkept a'⟩⟩

-- == records

variable {ip : Ipv4Addr}

section Records

variable {overrides : Result (Option PortPolicy × Option Bool)} {data : InstanceRecord}

lemma inheritHealthFrom_health (i previous : InstanceInfo) :
    ∃ health, i.inheritHealthFrom previous = { i with health } := by
  unfold InstanceInfo.inheritHealthFrom
  split
  · exact ⟨_, rfl⟩
  · exact ⟨_, rfl⟩

lemma recordInfo_eq (overrides : Result (Option PortPolicy × Option Bool))
    (data : InstanceRecord) (s : ProxyState) (id : String) : ∃ connections health,
    s.recordInfo overrides id data
        = { instanceInfoFromRecord overrides id data false connections with health }
      ∧ ∀ existing, s.instances.get? id = some existing →
        connections = existing.connections := by
  unfold recordInfo
  cases s.instances.get? id with
  | none => exact ⟨_, _, rfl, nofun⟩
  | some existing =>
    obtain ⟨health, h⟩ := inheritHealthFrom_health
      (instanceInfoFromRecord overrides id data existing.healthCheck existing.connections) existing
    exact ⟨_, health, h, fun _ hsome => congrArg _ (Option.some.inj hsome)⟩

lemma recordInfo_spec (overrides : Result (Option PortPolicy × Option Bool))
    (data : InstanceRecord) (s : ProxyState) (id : String) :
    (s.recordInfo overrides id data).id = id
    ∧ (s.recordInfo overrides id data).appId = data.appId
    ∧ (s.recordInfo overrides id data).ip = data.ip
    ∧ (s.recordInfo overrides id data).publicKey = data.publicKey
    ∧ (s.recordInfo overrides id data).portPolicy = data.portPolicy
    ∧ (s.recordInfo overrides id data).portPolicyHash = data.portPolicyHash
    ∧ ∀ existing, s.instances.get? id = some existing →
      (s.recordInfo overrides id data).connections = existing.connections := by
  obtain ⟨_, _, h, hconnections⟩ := recordInfo_eq overrides data s id
  rw [h]
  exact ⟨rfl, rfl, rfl, rfl, rfl, rfl, hconnections⟩

lemma vacate_instances (existing info : InstanceInfo) :
    (s.vacate id existing info).instances = s.instances := by
  unfold vacate
  dsimp only
  split
  · exact leaveApp_instances _ _ _
  · rfl

lemma vacate_allocatedAddresses (existing info : InstanceInfo) :
    (s.vacate id existing info).allocatedAddresses
      = if existing.ip ≠ info.ip then s.allocatedAddresses.erase existing.ip
        else s.allocatedAddresses := by
  unfold vacate
  dsimp only
  split
  · exact leaveApp_allocatedAddresses _ _ _
  · rfl

lemma applyRecord_instances :
    (s.applyRecord overrides id data).instances
      = s.instances.insert id (s.recordInfo overrides id data) := by
  unfold applyRecord
  dsimp only [joinApp]
  cases s.instances.get? id with
  | none => rfl
  | some existing =>
    dsimp only
    rw [vacate_instances]

lemma applyRecord_kv : (s.applyRecord overrides id data).kv = s.kv := by
  unfold applyRecord vacate
  dsimp only [joinApp]
  cases s.instances.get? id with
  | none => rfl
  | some existing =>
    dsimp only
    split
    · exact leaveApp_kv _ _ _
    · rfl

lemma applyRecord_allocated :
    (s.applyRecord overrides id data).allocatedAddresses.mem ip
      ↔ data.ip = ip ∨ s.allocatedAddresses.mem ip
        ∧ ∀ existing, s.instances.get? id = some existing →
          existing.ip ≠ data.ip → existing.ip ≠ ip := by
  have hip := (recordInfo_spec overrides data s id).2.2.1
  unfold applyRecord
  dsimp only [joinApp]
  rw [BTreeSet.mem_add, hip]
  refine or_congr_right ?_
  cases s.instances.get? id with
  | none => exact (and_iff_left fun _ h => by cases h).symm
  | some existing =>
    dsimp only
    rw [vacate_allocatedAddresses, hip]
    by_cases hmoves : existing.ip ≠ data.ip
    · rw [if_pos hmoves, BTreeSet.mem_erase, and_comm]
      refine and_congr_right fun _ => ⟨?_, fun h => h existing rfl hmoves⟩
      rintro hne _ h -
      cases h
      exact hne
    · rw [if_neg hmoves]
      refine (and_iff_left ?_).symm
      intro _ h hmoves'
      cases h
      exact absurd hmoves' hmoves

end Records

-- == selection

lemma retainHealthy_table (s : ProxyState) (now : Nat) (appId : String)
    (candidates : List T) (isHealthy : T → Bool) : ∃ allUnhealthyWarned,
      (s.retainHealthy now appId candidates isHealthy).2 = { s with allUnhealthyWarned } := by
  unfold retainHealthy warnAllUnhealthy
  split
  · exact ⟨_, rfl⟩
  · split
    · exact ⟨_, rfl⟩
    · dsimp only
      split
      · exact ⟨_, rfl⟩
      · exact ⟨_, rfl⟩

lemma randomSelectAHost_table (G : Setup) (now : Nat) (handshakes : Result Handshakes)
    (dice : Nat) (id : String) (s : ProxyState) : ∃ allUnhealthyWarned,
      (s.randomSelectAHost G now handshakes dice id).2 = { s with allUnhealthyWarned } := by
  unfold randomSelectAHost
  cases s.instances.get? id with
  | some info => exact ⟨_, rfl⟩
  | none =>
    cases s.apps.get? id with
    | none => exact ⟨_, rfl⟩
    | some ids =>
      cases handshakes with
      | error e => exact ⟨_, rfl⟩
      | ok handshakes => exact retainHealthy_table _ _ _ _ _

lemma selectTopNHosts_table (G : Setup) (now : Nat)
    (handshakes again : Result Handshakes) (dice : Nat) (id : String) (s : ProxyState) :
    ∃ topN allUnhealthyWarned nextCounter,
      (s.selectTopNHosts G now handshakes again dice id).2
        = { s with topN, allUnhealthyWarned, nextCounter } := by
  unfold selectTopNHosts
  by_cases hlocal : (G.config.insecureLocalhostBackend && decide (id = "localhost")) = true
  · rw [if_pos hlocal]
    exact ⟨_, _, _, rfl⟩
  rw [if_neg hlocal]
  cases s.instances.get? id with
  | some info => exact ⟨_, _, _, rfl⟩
  | none =>
    cases s.apps.get? id with
    | none => exact ⟨_, _, _, rfl⟩
    | some ids =>
      dsimp only
      by_cases hn : G.config.connectTopN = 0
      · rw [if_pos hn]
        obtain ⟨warned, h⟩ := randomSelectAHost_table G now handshakes dice id s
        exact ⟨_, warned, _, h⟩
      rw [if_neg hn]
      cases (s.topN.get? id).filter fun cached =>
          !cached.1.isEmpty && now - cached.2 < G.config.cacheTopN with
      | some cached => exact ⟨_, _, _, rfl⟩
      | none =>
        cases handshakes with
        | error e =>
          obtain ⟨warned, h⟩ := randomSelectAHost_table G now again dice id s
          exact ⟨_, warned, _, h⟩
        | ok handshakes =>
          obtain ⟨warned, h⟩ := retainHealthy_table s now id
            (s.candidates G handshakes ids) Candidate.healthy
          dsimp only
          rw [h]
          exact ⟨_, _, _, rfl⟩

-- == registration

/-- The address that is handed out next. -/
def freeIp (G : Setup) (s : ProxyState) : Option Ipv4Addr :=
  G.config.wg.clientIpRange.hosts.find? fun ip =>
    validIp G ip && !decide (s.allocatedAddresses.mem ip)

lemma allocIp_some {G : Setup} (h : s.freeIp G = some ip) :
    s.allocIp G
      = (some ip, { s with allocatedAddresses := BTreeSet.add s.allocatedAddresses ip }) := by
  unfold allocIp
  unfold freeIp at h
  rw [h]

lemma allocIp_none {G : Setup} (h : s.freeIp G = none) : s.allocIp G = (none, s) := by
  unfold allocIp
  unfold freeIp at h
  rw [h]

lemma freeIp_not_mem {G : Setup} (h : s.freeIp G = some ip) :
    ¬s.allocatedAddresses.mem ip := by
  have hfree := List.find?_some h
  simp only [Bool.and_eq_true, Bool.not_eq_true', decide_eq_false_iff_not] at hfree
  exact hfree.2

/-- Who registers, with what and when. -/
structure Request where
  now : SystemTime
  fails : Faults
  id : String
  appId : String
  publicKey : String
  composeHash : String
  reported : ReportedCapabilities

namespace Request

variable (q : Request)

/-- The record of a known instance once it has registered. -/
def renew (before : InstanceInfo) : InstanceInfo :=
  registerEdit q.now q.publicKey q.composeHash q.reported before

/-- The record of an instance that gets an address. -/
def host (ip : Ipv4Addr) (connections : Counter) (previous : Option InstanceInfo) :
    InstanceInfo :=
  hostInfo q.now q.id q.appId q.publicKey q.composeHash q.reported ip connections previous

/-- The search for an address. -/
def allocate (G : Setup) (previous : Option InstanceInfo) (s : ProxyState) :
    Result InstanceInfo × ProxyState :=
  s.allocateClient G q.now q.fails q.id q.appId q.publicKey q.composeHash q.reported previous

lemma renew_keeps : KeepsIdentity fun existing => (q.renew existing, q.renew existing) := by
  have h : ∀ existing, ∃ publicKey regTime health portPolicy portPolicyHash,
      q.renew existing = { existing with
        publicKey, regTime, health, portPolicy, portPolicyHash } := by
    intro existing
    unfold renew registerEdit renewPolicy renewKey
    dsimp only
    split <;> split <;> split <;> exact ⟨_, _, _, _, _, rfl⟩
  constructor <;>
    · intro before
      obtain ⟨_, _, _, _, _, h⟩ := h before
      dsimp only
      rw [h]

end Request

/-- The checks that a registration fails before anything is written. -/
def refuses (G : Setup) (s : ProxyState) (id appId publicKey : String) : Bool :=
  decide (id = "") || decide (appId = "") || !(validateWgPublicKey G publicKey).isOk
    || s.keyTaken id publicKey || s.ownedElsewhere id appId

/-- The table with an address taken for a new record. -/
def takeIp (ip : Ipv4Addr) (s : ProxyState) : ProxyState :=
  { s with
    allocatedAddresses := BTreeSet.add s.allocatedAddresses ip
    nextCounter := s.nextCounter + 1 }

/-- The table with an address given up. -/
def giveUp (ip : Ipv4Addr) (s : ProxyState) : ProxyState :=
  { s with allocatedAddresses := s.allocatedAddresses.erase ip }

section Registration

variable {G : Setup} {q : Request}

/-- What a registration answers and leaves. -/
inductive Registers (G : Setup) (q : Request) (s : ProxyState) :
    Result InstanceInfo × ProxyState → Prop
  /-- Refused before anything was written: by a check, or for want of an
  address for an instance that is not known. -/
  | refused {e : String}
      (he : s.refuses G q.id q.appId q.publicKey = true ∨ s.instances.get? q.id = none) :
      Registers G q s (.error e, s)
  | kept {before : InstanceInfo} (hbefore : s.instances.get? q.id = some before)
      (hip : validIp G before.ip = true) :
      Registers G q s (.ok (q.renew before), { s.putBack q.id before (q.renew before) with
        kv := (s.kv.syncInstance q.fails (q.renew before).id (.ofInfo (q.renew before))).2 })
  | moved {before : InstanceInfo} {ip : Ipv4Addr}
      (hbefore : s.instances.get? q.id = some before) (hip : validIp G before.ip = false)
      (hfree : ((s.putBack q.id before (q.renew before)).giveUp before.ip).freeIp G = some ip) :
      Registers G q s (.ok (q.host ip s.nextCounter (some (q.renew before))),
        (((s.putBack q.id before (q.renew before)).giveUp before.ip).takeIp ip).addInstance
          q.fails (q.host ip s.nextCounter (some (q.renew before))))
  /-- A known instance for which there is no other address. -/
  | stranded {before : InstanceInfo} (hpass : s.refuses G q.id q.appId q.publicKey = false)
      (hbefore : s.instances.get? q.id = some before) (hip : validIp G before.ip = false)
      (hfull : ((s.putBack q.id before (q.renew before)).giveUp before.ip).freeIp G = none) :
      Registers G q s
        (.error poolExhausted, (s.putBack q.id before (q.renew before)).giveUp before.ip)
  | first {ip : Ipv4Addr} (hnew : s.instances.get? q.id = none)
      (hfree : s.freeIp G = some ip) :
      Registers G q s (.ok (q.host ip s.nextCounter none),
        (s.takeIp ip).addInstance q.fails (q.host ip s.nextCounter none))

lemma allocate_some {previous : Option InstanceInfo} (h : s.freeIp G = some ip) :
    q.allocate G previous s = (.ok (q.host ip s.nextCounter previous),
      (s.takeIp ip).addInstance q.fails (q.host ip s.nextCounter previous)) := by
  unfold Request.allocate allocateClient
  rw [allocIp_some h]
  rfl

lemma allocate_none {previous : Option InstanceInfo} (h : s.freeIp G = none) :
    q.allocate G previous s = (.error poolExhausted, s) := by
  unfold Request.allocate allocateClient
  rw [allocIp_none h]

lemma registers_checked (hpass : s.refuses G q.id q.appId q.publicKey = false) :
    Registers G q s
      (match s.editInstance q.id fun existing => (q.renew existing, q.renew existing) with
      | (some existing, s) =>
        if validIp G existing.ip then
          (.ok existing,
            { s with kv := (s.kv.syncInstance q.fails existing.id (.ofInfo existing)).2 })
        else q.allocate G (some existing) (s.giveUp existing.ip)
      | (none, s) => q.allocate G none s) := by
  cases hbefore : s.instances.get? q.id with
  | none =>
    rw [editInstance_none hbefore]
    dsimp only
    cases hfree : s.freeIp G with
    | none =>
      rw [allocate_none hfree]
      exact .refused (.inr hbefore)
    | some ip =>
      rw [allocate_some hfree]
      exact .first hbefore hfree
  | some before =>
    rw [editInstance_some q.renew_keeps hbefore]
    dsimp only
    rw [show (q.renew before).ip = before.ip from q.renew_keeps.ip before]
    by_cases hvalid : validIp G before.ip = true
    · rw [if_pos hvalid]
      exact .kept hbefore hvalid
    · rw [if_neg hvalid]
      have hinvalid : validIp G before.ip = false := Bool.eq_false_iff.mpr hvalid
      cases hfree : ((s.putBack q.id before (q.renew before)).giveUp before.ip).freeIp G with
      | none =>
        rw [allocate_none hfree]
        exact .stranded hpass hbefore hinvalid hfree
      | some ip =>
        rw [allocate_some hfree]
        exact .moved hbefore hinvalid hfree

variable {now : SystemTime} {fails : Faults} {appId publicKey composeHash : String}
  {reported : ReportedCapabilities}

lemma newClientById_refused (h : s.refuses G id appId publicKey = true) :
    ∃ e, s.newClientById G now fails id appId publicKey composeHash reported = (.error e, s) := by
  unfold newClientById
  split
  · exact ⟨_, rfl⟩
  split
  · exact ⟨_, rfl⟩
  split
  · exact ⟨_, rfl⟩
  next hid happ _ hkey =>
  split
  · exact ⟨_, rfl⟩
  split
  · exact ⟨_, rfl⟩
  · simp_all [refuses, Result.isOk]

lemma newClientById_registers :
    Registers G ⟨now, fails, id, appId, publicKey, composeHash, reported⟩ s
      (s.newClientById G now fails id appId publicKey composeHash reported) := by
  cases hrefuses : s.refuses G id appId publicKey with
  | true =>
    obtain ⟨e, he⟩ := newClientById_refused hrefuses
    rw [he]
    exact .refused (.inl hrefuses)
  | false =>
    have hchecked := registers_checked (G := G)
      (q := ⟨now, fails, id, appId, publicKey, composeHash, reported⟩) hrefuses
    simp only [refuses, Bool.or_eq_false_iff, decide_eq_false_iff_not, Bool.not_eq_false']
      at hrefuses
    obtain ⟨⟨⟨⟨hid, happ⟩, hkey⟩, htaken⟩, howner⟩ := hrefuses
    obtain ⟨u, hkey⟩ := Result.exists_of_isOk hkey
    unfold newClientById
    rw [if_neg hid, if_neg happ, hkey, htaken, howner]
    exact hchecked

end Registration

-- == rules

section Rules

variable {P : ProxyState → Prop} {fails : Faults}

lemma doRegisterCvm_rule {G : Setup} {now : SystemTime} {down : Bool}
    {appId publicKey composeHash : String} {reported : ReportedCapabilities} (hs : P s)
    (hnew : P (s.newClientById G now fails id appId publicKey composeHash reported).2) :
    P (s.doRegisterCvm G now fails down appId id publicKey composeHash reported).2 := by
  unfold doRegisterCvm
  split
  · exact hs
  split
  · exact hs
  split
  · exact hs
  split
  · exact hs
  · exact hnew

lemma removeCvm_rule (hdelete : P { s with kv := (s.kv.syncDeleteInstance fails id).2 })
    (hforget : ∀ s, P s → P (s.forgetInstance id).2) : P (s.removeCvm fails id).2 := by
  rcases removeCvm_table s fails id with h | h
  · rw [h]
    exact hdelete
  · rw [h]
    exact hforget _ hdelete

lemma removeInstance_rule (hforget : P (s.forgetInstance id).2)
    (hdelete : ∀ s, P s → P { s with kv := (s.kv.syncDeleteInstance fails id).2 }) :
    P (s.removeInstance fails id).2 := by
  unfold removeInstance
  generalize s.forgetInstance id = r at hforget ⊢
  obtain ⟨_ | info, s'⟩ := r
  · exact hforget
  · exact hdelete s' hforget

lemma recycle_rule {stale : List (String × SystemTime)} (hs : P s)
    (hforget : ∀ e ∈ stale, ∀ s, P s → P (s.forgetInstance e.1).2)
    (hdelete : ∀ e ∈ stale, ∀ s, P s →
      P { s with kv := (s.kv.syncDeleteInstance fails e.1).2 }) :
    P (s.recycle fails stale).2 := by
  rw [recycle_eq_foldl]
  refine List.foldlRecOn _ _ hs fun s hs e he => ?_
  unfold recycleOne
  split
  · exact removeInstance_rule (hforget e he s hs) (hdelete e he)
  · exact hs

lemma applySnapshot_rule {now : SystemTime} {snap : Snapshot} (hs : P s)
    (hforget : ∀ s id, P s → P (s.forgetInstance id).2)
    (happly : ∀ s id data, snap.accepted.instances.get? id = some data → P s →
      P (s.applyRecord (snap.overrides id) id data)) : P (s.applySnapshot now snap) := by
  unfold applySnapshot
  refine List.foldlRecOn _ _ ?_ fun s hs e he =>
    happly s e.1 e.2 (BTreeMap.mem_entries.mp he) hs
  exact List.foldlRecOn _ _ hs fun s hs id _ => hforget s id hs

lemma reload_rule {G : Setup} {now : SystemTime}
    (h : P ((s.takeSnapshot G now fails).2.applySnapshot now (s.takeSnapshot G now fails).1)) :
    P (s.reloadInstancesFromKvStore G now fails) := by
  rw [reload_eq_passes]
  exact h

lemma editInstance_rule (hedit : KeepsIdentity edit) (hs : P s)
    (hput : ∀ before, s.instances.get? id = some before →
      P (s.putBack id before (edit before).2)) : P (s.editInstance id edit).2 := by
  cases hbefore : s.instances.get? id with
  | none =>
    rw [editInstance_none hbefore]
    exact hs
  | some before =>
    rw [editInstance_some hedit hbefore]
    exact hput before hbefore

lemma setReady_rule {ready : Bool} (hs : P s)
    (hput : ∀ before, s.instances.get? id = some before →
      P (s.putBack id before { before with ready := some ready }))
    (hgate : ∀ s ready, P s → P { s with kv := (s.kv.setInstanceGate fails id ready).2 }) :
    P (s.setReady fails id ready).2 := by
  have hedit := editInstance_rule (setReady_keeps ready) hs hput
  unfold setReady persistInstanceGate
  generalize s.editInstance id (fun info =>
    (info.isReady, { info with ready := some ready })) = r at hedit ⊢
  obtain ⟨_ | _, s'⟩ := r
  · exact hedit
  · dsimp only
    cases (s'.instances.get? id).bind (·.ready) with
    | none => exact hedit
    | some ready => exact hgate s' ready hedit

lemma updateInstancePortPolicy_rule {policy : PortPolicy} (hs : P s)
    (hput : ∀ before, s.instances.get? id = some before →
      let info := { before with portPolicy := some policy }
      P { s with
        instances := s.instances.insert id info
        kv := (s.kv.syncInstance fails id (.ofInfo info)).2 }) :
    P (s.updateInstancePortPolicy fails id policy) := by
  unfold updateInstancePortPolicy
  cases hbefore : s.instances.get? id with
  | none => exact hs
  | some before => exact hput before hbefore

lemma setAdminPortPolicy_rule {policy : Option PortPolicy} (hs : P s)
    (hput : ∀ before kv, s.instances.get? id = some before →
      (kv = s.kv ∨ kv = (s.kv.setInstancePortPolicyOverride fails id policy).2) →
      P { s with
        instances := s.instances.insert id { before with adminPortPolicy := policy }, kv }) :
    P (s.setAdminPortPolicy fails id policy).2 := by
  unfold setAdminPortPolicy
  cases hbefore : s.instances.get? id with
  | none => exact hs
  | some before =>
    refine hput before _ hbefore ?_
    split
    · exact .inr rfl
    · exact .inl rfl

lemma selectTopNHosts_rule {G : Setup} {now : Nat} {handshakes again : Result Handshakes}
    {dice : Nat}
    (h : ∀ topN allUnhealthyWarned nextCounter,
      P { s with topN, allUnhealthyWarned, nextCounter }) :
    P (s.selectTopNHosts G now handshakes again dice id).2 := by
  obtain ⟨topN, warned, counter, hs⟩ := selectTopNHosts_table G now handshakes again dice id s
  rw [hs]
  exact h topN warned counter

end Rules

end ProxyState

-- == a small gateway

def base64Value (c : Char) : Option Nat :=
  if 'A' ≤ c ∧ c ≤ 'Z' then some (c.toNat - 65)
  else if 'a' ≤ c ∧ c ≤ 'z' then some (c.toNat - 71)
  else if '0' ≤ c ∧ c ≤ '9' then some (c.toNat + 4)
  else if c = '+' then some 62
  else if c = '/' then some 63
  else none

def base64Quads : List Char → Option Bytes
  | [] => some []
  | [a, b, '=', '='] => do
      let a ← base64Value a
      let b ← base64Value b
      if b % 16 = 0 then some [.ofNat (a * 4 + b / 16)] else none
  | [a, b, c, '='] => do
      let a ← base64Value a
      let b ← base64Value b
      let c ← base64Value c
      if c % 4 = 0 then some [.ofNat (a * 4 + b / 16), .ofNat (b % 16 * 16 + c / 4)] else none
  | a :: b :: c :: d :: rest => do
      let a ← base64Value a
      let b ← base64Value b
      let c ← base64Value c
      let d ← base64Value d
      let rest ← base64Quads rest
      some (.ofNat (a * 4 + b / 16) :: .ofNat (b % 16 * 16 + c / 4)
        :: .ofNat (c % 4 * 64 + d) :: rest)
  | _ => none

def sampleIp (n : Nat) : Ipv4Addr := 10 * 2 ^ 24 + n

/-- A gateway at the first address of a network of 256, which hands out
the addresses of a range. -/
def sampleGateway (clientIpRange : Ipv4Net) (insecureLocalhostBackend : Bool) : Setup where
  config := {
    wg := {
      publicKey := ""
      ip := ⟨sampleIp 1, 24⟩
      reservedNet := [⟨sampleIp 1, 32⟩]
      clientIpRange }
    connectTopN := 3
    cacheTopN := 30 * nanosPerSec
    handshakeStale := 300 * nanosPerSec
    healthCheckEnabled := true
    recycleTimeout := 600 * nanosPerSec
    insecureLocalhostBackend }
  base64Decode s := Result.ofOption (base64Quads s.toList) "Invalid padding"

def sampleKey (c : Char) : String := String.ofList (c :: (List.replicate 42 'A' ++ ['=']))

def sampleRecord (n : Nat) (c : Char) : InstanceRecord where
  appId := "app"
  ip := sampleIp n
  publicKey := sampleKey c
  regTime := 0
  portPolicy := none
  portPolicyHash := ""
  healthCheck := none

def sampleStore (records : List (String × InstanceRecord)) : KvStore where
  inst := records.foldl (fun m e => m.insert e.1 ⟨.ok e.2, none, true⟩) .empty

def noFaults : Faults := fun _ _ => none

end Dstack.Gateway
