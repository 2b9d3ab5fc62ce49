/-
Where the port policies of a routing table come from.

A policy in the table is kept under the compose hash its instance is
registered with. Registrations and reloads keep the two together. The
write at the end of a fetch does not look at the hash again, nor at who
is at the address: it is right exactly as long as neither changed.
-/
import Dstack.Gateway.PortPolicy
import Dstack.Gateway.Proofs.Import
import Dstack.Gateway.Proofs.Index
import Dstack.Gateway.Proofs.Overrides

namespace Dstack.Gateway

open Lib ProxyState

-- == backing

/-- A policy was stated under the compose hash it is kept under. -/
def Backs (stated : List Stated) (id : String) (policy : Option PortPolicy)
    (composeHash : String) : Prop :=
  ∀ p, policy = some p → (⟨id, composeHash, p⟩ : Stated) ∈ stated

lemma Backs.mono {stated stated' : List Stated} {id : String} {policy : Option PortPolicy}
    {composeHash : String} (h : Backs stated id policy composeHash)
    (hsub : stated ⊆ stated') : Backs stated' id policy composeHash :=
  fun p hp => hsub (h p hp)

/-- The policies of the table were. -/
def BacksTable (stated : List Stated) (s : ProxyState) : Prop :=
  ∀ i info, s.instances.get? i = some info →
    Backs stated i info.portPolicy info.portPolicyHash

/-- The policies of the records that can be read were. -/
def BacksStore (stated : List Stated) (kv : KvStore) : Prop :=
  ∀ i entry data, kv.inst.get? i = some entry → entry.record = .ok data →
    Backs stated i data.portPolicy data.portPolicyHash

/-- The policies of a node were, its store included. -/
structure BacksAll (stated : List Stated) (s : ProxyState) : Prop where
  table : BacksTable stated s
  store : BacksStore stated s.kv

lemma BacksAll.mono {stated stated' : List Stated} {s : ProxyState}
    (h : BacksAll stated s) (hsub : stated ⊆ stated') : BacksAll stated' s where
  table i info hinfo := (h.table i info hinfo).mono hsub
  store i entry data hentry hdata := (h.store i entry data hentry hdata).mono hsub

variable {stated : List Stated} {s s' : ProxyState} {id : String}

lemma BacksTable.insert (info : InstanceInfo) (h : BacksTable stated s)
    (hinfo : Backs stated id info.portPolicy info.portPolicyHash)
    (hinstances : s'.instances = s.instances.insert id info) : BacksTable stated s' := by
  intro i other hother
  rw [hinstances] at hother
  rcases BTreeMap.get?_insert_eq_some.mp hother with ⟨rfl, rfl⟩ | ⟨-, hother⟩
  · exact hinfo
  · exact h i other hother

variable {kv : KvStore}

lemma BacksStore.insert (id : String) {kv' : KvStore} {entry : InstEntry}
    (h : BacksStore stated kv) (hentry : ∀ data, entry.record = .ok data →
      Backs stated id data.portPolicy data.portPolicyHash)
    (hinst : kv'.inst = kv.inst.insert id entry) : BacksStore stated kv' := by
  intro i other data hother hdata
  rw [hinst] at hother
  rcases BTreeMap.get?_insert_eq_some.mp hother with ⟨rfl, rfl⟩ | ⟨-, hother⟩
  · exact hentry data hdata
  · exact h i other data hother hdata

lemma BacksStore.of_inst {kv' : KvStore} (h : BacksStore stated kv)
    (hinst : kv'.inst = kv.inst) : BacksStore stated kv' := by
  intro i entry data hentry hdata
  rw [hinst] at hentry
  exact h i entry data hentry hdata

-- == store

variable {fails : Faults} {info : InstanceInfo}

lemma syncInstance_backs (h : BacksStore stated kv)
    (hinfo : Backs stated id info.portPolicy info.portPolicyHash) :
    BacksStore stated (kv.syncInstance fails id (.ofInfo info)).2 := by
  unfold KvStore.syncInstance
  cases fails .inst id with
  | some e => exact h
  | none =>
    refine h.insert id ?_ rfl
    intro data hdata
    cases hdata
    exact hinfo

lemma syncDeleteInstance_backs (h : BacksStore stated kv) :
    BacksStore stated (kv.syncDeleteInstance fails id).2 := by
  have hinst : (kv.syncDeleteInstance fails id).2.inst = kv.inst
      ∨ (kv.syncDeleteInstance fails id).2.inst = kv.inst.erase id := by
    unfold KvStore.syncDeleteInstance
    cases fails .inst id <;> cases fails .gate id <;> cases fails .portPolicyOverride id <;>
      first | exact .inl rfl | exact .inr rfl
  rcases hinst with hinst | hinst
  · exact h.of_inst hinst
  · intro i entry data hentry hdata
    rw [hinst] at hentry
    exact h i entry data (BTreeMap.get?_erase_eq_some.mp hentry).2 hdata

-- == records

variable {G : Setup}

lemma accepted_backs {now : SystemTime}
    (h : BacksStore stated kv) {i : String} {data : InstanceRecord}
    (hdata : (acceptInstances G kv.loadAllInstances now).instances.get? i = some data) :
    Backs stated i data.portPolicy data.portPolicyHash := by
  obtain ⟨entry, hentry, hrecord⟩ := accepted_record hdata
  exact h i entry data hentry hrecord

-- == registration

lemma renewKey_policy (now : SystemTime) (publicKey : String)
    (reported : ReportedCapabilities) (before : InstanceInfo) :
    (renewKey now publicKey reported before).portPolicy = before.portPolicy
    ∧ (renewKey now publicKey reported before).portPolicyHash = before.portPolicyHash := by
  unfold renewKey
  dsimp only
  split <;> exact ⟨rfl, rfl⟩

lemma renewPolicy_policy (composeHash : String) (reported : ReportedCapabilities)
    (info : InstanceInfo) :
    (renewPolicy composeHash reported info).portPolicyHash = composeHash
    ∧ ∀ p, (renewPolicy composeHash reported info).portPolicy = some p →
      reported.portPolicy = some p
        ∨ info.portPolicyHash = composeHash ∧ info.portPolicy = some p := by
  unfold renewPolicy
  dsimp only
  by_cases hhash : info.portPolicyHash ≠ composeHash
  · rw [if_pos hhash]
    split
    · exact ⟨rfl, fun p hp => .inl hp⟩
    · exact ⟨rfl, fun p hp => by cases hp⟩
  · rw [if_neg hhash]
    have hsame := of_not_not hhash
    split
    · exact ⟨hsame, fun p hp => .inl hp⟩
    · exact ⟨hsame, fun p hp => .inr ⟨hsame, hp⟩⟩

lemma mem_statedBy {composeHash : String} {reported : ReportedCapabilities}
    {p : PortPolicy} (hinfo : s.instances.get? id = some info)
    (hhash : info.portPolicyHash = composeHash) (hpolicy : info.portPolicy = some p)
    (hreported : reported.portPolicy = some p) :
    (⟨id, composeHash, p⟩ : Stated) ∈ statedBy id composeHash reported s := by
  unfold statedBy
  rw [hreported, hinfo]
  dsimp only
  rw [if_pos ⟨hhash, hpolicy⟩]
  exact List.mem_cons_self

/-- A registration leaves the hash it came with; a policy then is the one
it reported, or one that was there under the same hash. -/
lemma ProxyState.Written.policy {q : Request} (h : Written q s info) :
    info.portPolicyHash = q.composeHash
    ∧ ∀ p, info.portPolicy = some p → q.reported.portPolicy = some p
      ∨ ∃ before, s.instances.get? q.id = some before
        ∧ before.portPolicyHash = q.composeHash ∧ before.portPolicy = some p := by
  cases h with
  | @renewed before hbefore =>
    obtain ⟨hpolicy, hhash⟩ := renewKey_policy q.now q.publicKey q.reported before
    obtain ⟨hnew, hsource⟩ := renewPolicy_policy q.composeHash q.reported
      (renewKey q.now q.publicKey q.reported before)
    rw [hpolicy, hhash] at hsource
    exact ⟨hnew, fun p hp => (hsource p hp).imp_right fun h => ⟨before, hbefore, h⟩⟩
  | moved hbefore => exact ⟨rfl, fun p hp => .inl hp⟩
  | first hnew => exact ⟨rfl, fun p hp => .inl hp⟩

lemma registers_backs {q : Request} {r : Result InstanceInfo} (hc : s.Coherent)
    (h : BacksAll stated s) (hr : Registers G q s (r, s')) :
    BacksAll (statedBy q.id q.composeHash q.reported s' ++ stated) s' := by
  have hall := h.mono (List.subset_append_right (statedBy q.id q.composeHash q.reported s') stated)
  rcases registers_settles hc hr with ⟨rfl, -⟩ | ⟨info, hwritten, hsettles, hkv⟩
  · exact hall
  · have hnew : Backs (statedBy q.id q.composeHash q.reported s' ++ stated) q.id
        info.portPolicy info.portPolicyHash := by
      obtain ⟨hhash, hsource⟩ := hwritten.policy
      intro p hp
      rw [hhash]
      rcases hsource p hp with hreported | ⟨before, hbefore, hsame, hkept⟩
      · exact List.mem_append_left _ (mem_statedBy hsettles.self hhash hp hreported)
      · exact hsame ▸ hall.table q.id before hbefore p hkept
    refine ⟨hall.table.insert info hnew hsettles.instances, ?_⟩
    rcases hkv with ⟨hkv, -⟩ | hkv <;> rw [hkv]
    · exact hall.store
    · exact syncInstance_backs hall.store hnew

-- == other operations

lemma forgetInstance_backs (h : BacksAll stated s) :
    BacksAll stated (s.forgetInstance id).2 where
  table i info hinfo := by
    rw [forgetInstance_instances] at hinfo
    exact h.table i info (BTreeMap.get?_erase_eq_some.mp hinfo).2
  store := by
    rw [forgetInstance_kv]
    exact h.store

lemma applyRecord_backs {overrides : Result (Option PortPolicy × Option Bool)}
    {data : InstanceRecord} (h : BacksAll stated s)
    (hdata : Backs stated id data.portPolicy data.portPolicyHash) :
    BacksAll stated (s.applyRecord overrides id data) where
  table := by
    obtain ⟨-, -, -, -, hpolicy, hhash, -⟩ :=
      recordInfo_spec overrides data s id
    refine h.table.insert _ ?_ applyRecord_instances
    rw [hpolicy, hhash]
    exact hdata
  store := by
    rw [applyRecord_kv]
    exact h.store

lemma BacksAll.reload {now : SystemTime} (h : BacksAll stated s) :
    BacksAll stated (s.reloadInstancesFromKvStore G now fails) := by
  have hstore : BacksStore stated (s.kv.migrateLegacyInstanceOverrides fails) :=
    h.store.of_inst (KvStore.migrate_inst fails s.kv)
  exact reload_rule (applySnapshot_rule ⟨h.table, hstore⟩ (fun _ _ h => forgetInstance_backs h)
    fun _ _ _ hdata h => applyRecord_backs h (accepted_backs hstore hdata))

lemma BacksAll.delete (h : BacksAll stated s) :
    BacksAll stated { s with kv := (s.kv.syncDeleteInstance fails id).2 } :=
  ⟨h.table, syncDeleteInstance_backs h.store⟩

/-- An edit that leaves the policy and its hash. -/
lemma BacksAll.edit {before : InstanceInfo} (info : InstanceInfo) (h : BacksAll stated s)
    (hbefore : s.instances.get? id = some before) (hpolicy : info.portPolicy = before.portPolicy)
    (hhash : info.portPolicyHash = before.portPolicyHash)
    (hinstances : s'.instances = s.instances.insert id info)
    (hinst : s'.kv.inst = s.kv.inst) : BacksAll stated s' := by
  refine ⟨h.table.insert info ?_ hinstances, h.store.of_inst hinst⟩
  rw [hpolicy, hhash]
  exact h.table id before hbefore

lemma updateInstancePortPolicy_backs {policy : PortPolicy} (h : BacksAll stated s)
    (hstated : ∀ info, s.instances.get? id = some info →
      (⟨id, info.portPolicyHash, policy⟩ : Stated) ∈ stated) :
    BacksAll stated (s.updateInstancePortPolicy fails id policy) := by
  refine updateInstancePortPolicy_rule h fun before hbefore => ?_
  have hnew : Backs stated id (some policy) before.portPolicyHash := by
    intro p hp
    cases hp
    exact hstated before hbefore
  exact ⟨h.table.insert { before with portPolicy := some policy } hnew rfl,
    syncInstance_backs h.store hnew⟩

lemma step_backs (hc : s.Coherent) (h : BacksAll stated s) (op : Op)
    (hfetch : ∀ fails id policy, op ≠ .updatePortPolicy fails id policy)
    (hmerge : ∀ kv, op = .merge kv → BacksStore stated kv) :
    BacksAll (op.statedIn (step G s op) ++ stated) (step G s op) := by
  cases op with
  | registerCvm now fails down appId instanceId clientPublicKey composeHash reported =>
    exact doRegisterCvm_rule
      (P := fun s' => BacksAll (statedBy instanceId composeHash reported s' ++ stated) s')
      (h.mono (List.subset_append_right _ _)) (registers_backs hc h newClientById_registers)
  | newClient => exact registers_backs hc h newClientById_registers
  | reload => exact h.reload
  | merge kv => exact ⟨h.table, hmerge kv rfl⟩
  | removeCvm => exact removeCvm_rule h.delete fun _ h => forgetInstance_backs h
  | recycle =>
    exact recycle_rule h (fun _ _ _ h => forgetInstance_backs h) fun _ _ _ h => h.delete
  | setReady _ _ ready =>
    refine setReady_rule h (fun before hbefore => ?_) fun _ _ h => ?_
    · exact h.edit { before with ready := some ready } hbefore rfl rfl rfl rfl
    · exact ⟨h.table, h.store.of_inst (setInstanceGate_inst _ _ _ _)⟩
  | recordHealth _ ip publicKey state =>
    refine editInstance_rule (recordHealth_keeps ip publicKey state) h fun before hbefore =>
      h.edit _ hbefore ?_ ?_ rfl rfl
    all_goals
      split
      · rfl
      · split <;> rfl
  | updatePortPolicy fails instanceId policy => exact absurd rfl (hfetch fails instanceId policy)
  | setAdminPortPolicy _ _ policy =>
    refine setAdminPortPolicy_rule h fun before kv hbefore hkv => ?_
    refine h.edit { before with adminPortPolicy := policy } hbefore rfl rfl rfl ?_
    rcases hkv with rfl | rfl
    · rfl
    · exact setInstancePortPolicyOverride_inst _ _ _ _
  | select => exact selectTopNHosts_rule fun _ _ _ => ⟨h.table, h.store⟩

-- == worlds

variable {w : World}

namespace World

structure Backed (w : World) : Prop where
  coherent : w.table.Coherent
  all : BacksAll w.stated w.table
  answers : ∀ id answer, w.inFlight.get? id = some (.answered answer) → answer ∈ w.stated

/-- When an event may happen: other gateways write only what was stated,
and an answer is written only for the instance that gave it, registered
as it was then. -/
def Faithful (w : World) : Event → Prop
  | .op (.merge kv) => BacksStore w.stated kv
  | .store _ id => ∀ answer, w.inFlight.get? id = some (.answered answer) →
      ∀ info, w.table.instances.get? id = some info →
        answer.id = id ∧ answer.composeHash = info.portPolicyHash
  | _ => True

lemma step_op (G : Setup) (w : World) {op : Op}
    (hfetch : ∀ fails id policy, op ≠ .updatePortPolicy fails id policy) :
    w.step G (.op op) = { w with
      table := Gateway.step G w.table op
      stated := op.statedIn (Gateway.step G w.table op) ++ w.stated } := by
  cases op with
  | updatePortPolicy fails id policy => exact absurd rfl (hfetch fails id policy)
  | _ => rfl

lemma snapshot_backed {id : String} (hw : w.Backed) :
    (w.snapshot id).Backed := by
  unfold snapshot
  split
  · refine ⟨hw.coherent, hw.all, ?_⟩
    intro id' answer h
    dsimp only at h
    rcases BTreeMap.get?_insert_eq_some.mp h with ⟨-, h⟩ | ⟨-, h⟩
    · cases h
    · exact hw.answers id' answer h
  · exact hw

lemma answer_backed {id by_ : String} {policy : PortPolicy} (hw : w.Backed) :
    (w.answer id by_ policy).Backed := by
  unfold World.answer
  split
  · split
    · refine ⟨hw.coherent, hw.all.mono (List.subset_cons_self _ _), ?_⟩
      intro id' answer h
      dsimp only at h
      rcases BTreeMap.get?_insert_eq_some.mp h with ⟨-, h⟩ | ⟨-, h⟩
      · cases h
        exact List.mem_cons_self
      · exact List.mem_cons_of_mem _ (hw.answers id' answer h)
    · exact hw
  · exact hw

lemma store_backed {id : String} (hw : w.Backed)
    (he : w.Faithful (.store fails id)) : (w.store fails id).Backed := by
  unfold store
  split
  · next answer hanswer =>
      refine ⟨updateInstancePortPolicy_coherent hw.coherent,
        updateInstancePortPolicy_backs hw.all ?_, ?_⟩
      · intro info hinfo
        obtain ⟨hid, hhash⟩ := he answer hanswer info hinfo
        have hmem := hw.answers id answer hanswer
        obtain ⟨id', composeHash, policy⟩ := answer
        dsimp only at hid hhash hmem ⊢
        rw [← hhash]
        rw [hid] at hmem
        exact hmem
      · intro id' answer' h
        exact hw.answers id' answer' (BTreeMap.get?_erase_eq_some.mp h).2
  · exact hw

lemma step_backed {e : Event} (hw : w.Backed) (he : w.Faithful e) : (w.step G e).Backed := by
  cases e with
  | op op =>
    by_cases hfetch : ∃ fails id policy, op = .updatePortPolicy fails id policy
    · obtain ⟨fails, id, policy, rfl⟩ := hfetch
      exact hw
    · have hother : ∀ fails id policy, op ≠ .updatePortPolicy fails id policy :=
        fun fails id policy heq => hfetch ⟨fails, id, policy, heq⟩
      rw [step_op G w hother]
      refine ⟨step_coherent hw.coherent op, step_backs hw.coherent hw.all op hother ?_, ?_⟩
      · rintro kv rfl
        exact he
      · exact fun id answer h => List.mem_append_right _ (hw.answers id answer h)
  | peers stated =>
    have hsub : w.stated ⊆ stated ++ w.stated := List.subset_append_right _ _
    exact ⟨hw.coherent, hw.all.mono hsub, fun id answer h => hsub (hw.answers id answer h)⟩
  | snapshot id => exact snapshot_backed hw
  | answer id by_ policy => exact answer_backed hw
  | fail id =>
    refine ⟨hw.coherent, hw.all, ?_⟩
    intro id' answer h
    exact hw.answers id' answer (BTreeMap.get?_erase_eq_some.mp h).2
  | store fails id => exact store_backed hw he

end World

lemma fileRecord_backs {overrides : Result (Option PortPolicy × Option Bool)}
    {data : InstanceRecord} (h : BacksTable stated s)
    (hdata : Backs stated id data.portPolicy data.portPolicyHash) :
    BacksTable stated (s.fileRecord overrides id data) :=
  h.insert (instanceInfoFromRecord overrides id data false s.nextCounter) hdata rfl

lemma buildStateFromKvStore_backs {now : SystemTime}
    (h : BacksStore stated kv) : BacksAll stated (buildStateFromKvStore G now kv) := by
  unfold buildStateFromKvStore
  refine List.foldlRecOn (motive := BacksAll stated) _ _ ⟨?_, h⟩ ?_
  · intro i info hinfo
    cases hinfo
  · intro s hs e he
    exact ⟨fileRecord_backs hs.table (accepted_backs h (BTreeMap.mem_entries.mp he)), hs.store⟩

/-- As long as every answer is written for the instance that gave it, with
the compose hash it was registered with then, every policy of the table
was stated by its instance under the hash it is kept with. -/
theorem faithful_run_policy_stated (G : Setup) (now : SystemTime) (kv : KvStore)
    (stated : List Stated) (events : List Event) (hkv : BacksStore stated kv)
    (h : Along (World.step G) World.Faithful (World.start G now kv stated) events) :
    let w := World.run G (World.start G now kv stated) events
    ∀ i info p, w.table.instances.get? i = some info → info.portPolicy = some p →
      (⟨i, info.portPolicyHash, p⟩ : Stated) ∈ w.stated := by
  intro w
  have hw : w.Backed := by
    refine Along.foldl (P := World.Backed) (fun w e hw he => World.step_backed hw he) h ?_
    refine ⟨buildStateFromKvStore_coherent G now kv, buildStateFromKvStore_backs hkv, ?_⟩
    intro id answer h
    cases h
  exact fun i info p hinfo hp => hw.all.table i info hinfo p hp

lemma faithful_store_of {id : String}
    (h : (match w.inFlight.get? id, w.table.instances.get? id with
      | some (.answered answer), some info =>
        decide (answer.id = id ∧ answer.composeHash = info.portPolicyHash)
      | _, _ => true) = true) : w.Faithful (.store fails id) := by
  intro answer hanswer info hinfo
  rw [hanswer, hinfo] at h
  exact of_decide_eq_true h

def openPolicy : PortPolicy := ⟨.empty, false⟩

/-- A registration without a policy, and a fetch of it. -/
theorem fetched_policy_stated :
    let G := sampleGateway ⟨sampleIp 0, 29⟩ false
    let events : List Event :=
      [.op (.newClient 0 noFaults "cvm" "app" (sampleKey 'B') "1" ⟨none, none⟩),
        .snapshot "cvm", .answer "cvm" "cvm" openPolicy, .store noFaults "cvm"]
    let w := World.run G (World.start G 0 {} []) events
    (w.table.instances.get? "cvm").map (·.portPolicy) = some (some openPolicy)
    ∧ ∀ i info p, w.table.instances.get? i = some info → info.portPolicy = some p →
      (⟨i, info.portPolicyHash, p⟩ : Stated) ∈ w.stated := by
  intro G events w
  refine ⟨by decide +kernel, faithful_run_policy_stated G 0 {} [] events ?_ ?_⟩
  · intro i entry data h
    cases h
  · exact ⟨trivial, trivial, trivial, faithful_store_of (by decide +kernel), trivial⟩

/-- The instance is upgraded between its answer and the write: the policy
of the old compose file is kept under the new hash. -/
theorem upgrade_during_fetch_keeps_old_policy :
    ∃ (G : Setup) (now : SystemTime) (events : List Event),
      (∀ e ∈ events, ∀ kv, e ≠ .op (.merge kv))
      ∧ let w := World.run G (World.start G now {} []) events
        ∃ i info p, w.table.instances.get? i = some info ∧ info.portPolicy = some p
          ∧ (⟨i, info.portPolicyHash, p⟩ : Stated) ∉ w.stated := by
  refine ⟨sampleGateway ⟨sampleIp 0, 29⟩ false, 0,
    [.op (.newClient 0 noFaults "cvm" "app" (sampleKey 'B') "1" ⟨none, none⟩),
      .snapshot "cvm", .answer "cvm" "cvm" openPolicy,
      .op (.newClient 0 noFaults "cvm" "app" (sampleKey 'B') "2" ⟨none, none⟩),
      .store noFaults "cvm"], ?_, ?_⟩
  · intro e he kv heq
    subst heq
    simp at he
  · intro w
    have hkept : (w.table.instances.get? "cvm").map (fun i => (i.portPolicy, i.portPolicyHash))
        = some (some openPolicy, "2") := by decide +kernel
    obtain ⟨info, hinfo, hpolicy⟩ := Option.map_eq_some_iff.mp hkept
    rw [Prod.mk.injEq] at hpolicy
    refine ⟨"cvm", info, openPolicy, hinfo, hpolicy.1, ?_⟩
    rw [hpolicy.2]
    decide +kernel

end Dstack.Gateway
