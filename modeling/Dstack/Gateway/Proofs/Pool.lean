/-
The addresses in use, and what a failed registration leaves behind.

A registration of a known instance whose address this node would not hand
out changes the record and gives the address up before it looks for
another one. If there is none, it fails, and both stay done.
-/
import Dstack.Gateway.Proofs.Index
import Dstack.Lib.Along

namespace Dstack.Gateway

open Lib ProxyState

-- == failed registrations

/-- A registration that fails leaves instances, applications, addresses
and store as they were, unless it passes the checks, is of an instance
that is known at an address not handed out here, and there is no other:
then they are as before only if there was nothing to change in the record
and no address to give up. -/
theorem failed_registration_unchanged_iff (G : Setup) (now : SystemTime) (fails : Faults)
    (id appId publicKey composeHash : String) (reported : ReportedCapabilities)
    (s : ProxyState) (e : String)
    (h : (s.newClientById G now fails id appId publicKey composeHash reported).1 = .error e) :
    let s' := (s.newClientById G now fails id appId publicKey composeHash reported).2
    (s'.instances = s.instances ∧ s'.apps = s.apps
      ∧ s'.allocatedAddresses = s.allocatedAddresses ∧ s'.kv = s.kv)
    ↔ (s.refuses G id appId publicKey = false → ∀ before, s.instances.get? id = some before →
        validIp G before.ip = false → (s.giveUp before.ip).freeIp G = none →
        registerEdit now publicKey composeHash reported before = before
        ∧ ¬s.allocatedAddresses.mem before.ip) := by
  have hends : Registers G ⟨now, fails, id, appId, publicKey, composeHash, reported⟩ s
    (s.newClientById G now fails id appId publicKey composeHash reported) :=
    newClientById_registers
  generalize s.newClientById G now fails id appId publicKey composeHash reported = r at h hends ⊢
  intro s'
  cases hends with
  | refused he =>
    cases h
    refine iff_of_true ⟨rfl, rfl, rfl, rfl⟩ ?_
    intro hpass before hbefore
    rcases he with he | he
    · rw [hpass] at he
      cases he
    · rw [hbefore] at he
      cases he
  | kept hbefore hip => cases h
  | moved hbefore hip hfree => cases h
  | first hnew hfree => cases h
  | stranded hpass hbefore hip hfull =>
    cases h
    constructor
    · rintro ⟨hinstances, -, hallocated, -⟩ - before' hbefore' - -
      rw [hbefore] at hbefore'
      cases hbefore'
      constructor
      · have hself := BTreeMap.insert_eq_self.mp hinstances
        rw [hbefore] at hself
        exact (Option.some.inj hself).symm
      · intro hmem
        have hnone := BTreeMap.erase_eq_self.mp hallocated
        exact absurd (hmem.symm.trans hnone) (Option.some_ne_none ())
    · intro hsame
      obtain ⟨hedit, hfree⟩ := hsame hpass _ hbefore hip hfull
      refine ⟨?_, rfl, ?_, rfl⟩
      · exact BTreeMap.insert_eq_self.mpr (hbefore.trans (congrArg some hedit.symm))
      · refine BTreeMap.erase_eq_self.mpr (Option.eq_none_iff_forall_ne_some.mpr ?_)
        intro u hu
        exact hfree hu

/-- A new instance that finds no address leaves everything as it was. -/
theorem full_pool_refuses_unchanged :
    let G := sampleGateway ⟨sampleIp 2, 32⟩ false
    let s := buildStateFromKvStore G 0 (sampleStore [("b", sampleRecord 2 'C')])
    let s' := (s.newClientById G 0 noFaults "a" "app" (sampleKey 'D') "" ⟨none, none⟩).2
    (s.newClientById G 0 noFaults "a" "app" (sampleKey 'D') "" ⟨none, none⟩).1.toOption = none
    ∧ s'.instances = s.instances ∧ s'.apps = s.apps
    ∧ s'.allocatedAddresses = s.allocatedAddresses ∧ s'.kv = s.kv := by
  intro G s s'
  have hnone : s.instances.get? "a" = none := by decide +kernel
  have h : (s.newClientById G 0 noFaults "a" "app" (sampleKey 'D') "" ⟨none, none⟩).1.toOption
      = none := by decide +kernel
  refine ⟨h, ?_⟩
  obtain ⟨e, he⟩ := Result.error_of_toOption h
  refine (failed_registration_unchanged_iff G 0 noFaults "a" "app" (sampleKey 'D') ""
    ⟨none, none⟩ s e he).mpr ?_
  intro _ before hbefore
  rw [hnone] at hbefore
  cases hbefore

/-- A known instance at an address out of range, and no other address:
the call fails, with the new key in the table and the address given up. -/
theorem stranded_registration_changes :
    ∃ (G : Setup) (now : SystemTime) (kv : KvStore) (ops : List Op),
      let s := run G (buildStateFromKvStore G now kv) ops
      ∃ (fails : Faults) (id appId publicKey composeHash : String)
        (reported : ReportedCapabilities) (e : String),
        let r := s.newClientById G now fails id appId publicKey composeHash reported
        r.1 = .error e ∧ r.2.instances ≠ s.instances
        ∧ r.2.allocatedAddresses ≠ s.allocatedAddresses := by
  refine ⟨sampleGateway ⟨sampleIp 2, 32⟩ false, 0,
    sampleStore [("a", sampleRecord 9 'B'), ("b", sampleRecord 2 'C')], [],
    noFaults, "a", "app", sampleKey 'D', "", ⟨none, none⟩, ?_⟩
  obtain ⟨e, he⟩ := Result.error_of_toOption (r := (newClientById
    (sampleGateway ⟨sampleIp 2, 32⟩ false) 0 noFaults "a" "app" (sampleKey 'D') "" ⟨none, none⟩
    (buildStateFromKvStore (sampleGateway ⟨sampleIp 2, 32⟩ false) 0
      (sampleStore [("a", sampleRecord 9 'B'), ("b", sampleRecord 2 'C')]))).1)
    (by decide +kernel)
  exact ⟨e, he, by decide +kernel, by decide +kernel⟩

-- == the pool

variable {G : Setup}

namespace ProxyState

/-- The address of every instance is in use. -/
def Pooled (s : ProxyState) : Prop :=
  ∀ i info, s.instances.get? i = some info → s.allocatedAddresses.mem info.ip

/-- No other instance is at the address of an instance. -/
def Unshared (s : ProxyState) (id : String) : Prop :=
  ∀ info, s.instances.get? id = some info →
    ∀ i other, s.instances.get? i = some other → other.ip = info.ip → i = id

variable {s : ProxyState} {id : String}

lemma forgetInstance_pooled (hs : s.Pooled) (hsafe : s.Unshared id) :
    (s.forgetInstance id).2.Pooled := by
  cases hinfo : s.instances.get? id with
  | none =>
    rw [forgetInstance_none hinfo]
    exact hs
  | some info =>
    rw [forgetInstance_some hinfo]
    intro i other hother
    rw [leaveApp_instances] at hother
    rw [leaveApp_allocatedAddresses]
    obtain ⟨hne, hother⟩ := BTreeMap.get?_erase_eq_some.mp hother
    refine BTreeSet.mem_erase.mpr ⟨?_, hs i other hother⟩
    intro hip
    exact hne (hsafe info hinfo i other hother hip.symm).symm

lemma applyRecord_pooled {overrides : Result (Option PortPolicy × Option Bool)}
    {data : InstanceRecord} (hs : s.Pooled)
    (hsafe : ∀ existing, s.instances.get? id = some existing → existing.ip ≠ data.ip →
      s.Unshared id) :
    (s.applyRecord overrides id data).Pooled := by
  intro i info hinfo
  rw [applyRecord_instances] at hinfo
  rw [applyRecord_allocated]
  rcases BTreeMap.get?_insert_eq_some.mp hinfo with ⟨-, rfl⟩ | ⟨hi, hinfo⟩
  · exact .inl (recordInfo_spec _ _ s id).2.2.1.symm
  · refine .inr ⟨hs i info hinfo, ?_⟩
    intro existing hexisting hmoves hip
    exact hi (hsafe existing hexisting hmoves existing hexisting i info hinfo hip.symm).symm

lemma fileRecord_pooled {overrides : Result (Option PortPolicy × Option Bool)}
    {data : InstanceRecord} (hs : s.Pooled) : (s.fileRecord overrides id data).Pooled := by
  intro i info hinfo
  have hget : (s.instances.insert id
      (instanceInfoFromRecord overrides id data false s.nextCounter)).get? i = some info := hinfo
  refine BTreeSet.mem_add.mpr ?_
  rcases BTreeMap.get?_insert_eq_some.mp hget with ⟨-, rfl⟩ | ⟨-, hget⟩
  · exact .inl rfl
  · exact .inr (hs i info hget)

lemma insert_pooled {s' : ProxyState} {before : InstanceInfo} (info : InstanceInfo)
    (hs : s.Pooled) (hbefore : s.instances.get? id = some before) (hip : info.ip = before.ip)
    (hinstances : s'.instances = s.instances.insert id info)
    (hallocated : s'.allocatedAddresses = s.allocatedAddresses) : s'.Pooled := by
  intro i other hother
  rw [hinstances] at hother
  rw [hallocated]
  rcases BTreeMap.get?_insert_eq_some.mp hother with ⟨-, rfl⟩ | ⟨-, hother⟩
  · rw [hip]
    exact hs id before hbefore
  · exact hs i other hother

variable {fails : Faults}

lemma addInstance_pooled {info : InstanceInfo} (hself : s.allocatedAddresses.mem info.ip)
    (hothers : ∀ i other, info.id ≠ i → s.instances.get? i = some other →
      s.allocatedAddresses.mem other.ip) :
    (s.addInstance fails info).Pooled := by
  intro i other hother
  have hget : (s.instances.insert info.id info).get? i = some other := hother
  show s.allocatedAddresses.mem other.ip
  rcases BTreeMap.get?_insert_eq_some.mp hget with ⟨-, rfl⟩ | ⟨hi, hget⟩
  · exact hself
  · exact hothers i other hi hget

/-- A registration that makes its instance move finds the address it
leaves to be nobody else's, and another one free. -/
def MoveSafe (G : Setup) (s : ProxyState) (id : String) : Prop :=
  ∀ before, s.instances.get? id = some before → validIp G before.ip = false →
    s.Unshared id ∧ ((s.giveUp before.ip).freeIp G).isSome = true

lemma registers_pooled {q : Request} {r : Result InstanceInfo} {s' : ProxyState}
    (hc : s.Coherent) (hs : s.Pooled) (hsafe : s.MoveSafe G q.id)
    (h : Registers G q s (r, s')) : s'.Pooled := by
  cases h with
  | refused he => exact hs
  | @kept before hbefore hip =>
    exact insert_pooled _ hs hbefore (q.renew_keeps.ip before) rfl rfl
  | @moved before ip hbefore hip hfree =>
    refine addInstance_pooled (BTreeSet.mem_add.mpr (.inl rfl)) ?_
    intro i other hne hother
    have hi : q.id ≠ i := by
      rw [← hc.renew_id hbefore]
      exact hne
    have hother' : s.instances.get? i = some other :=
      (BTreeMap.get?_insert_of_ne hi).symm.trans hother
    refine BTreeSet.mem_add.mpr (.inr (BTreeSet.mem_erase.mpr ⟨?_, hs i other hother'⟩))
    intro hsame
    exact hi ((hsafe before hbefore hip).1 before hbefore i other hother' hsame.symm).symm
  | @stranded before hpass hbefore hip hfull =>
    have hfree := (hsafe before hbefore hip).2
    rw [show (s.giveUp before.ip).freeIp G = none from hfull] at hfree
    cases hfree
  | @first ip hnew hfree =>
    refine addInstance_pooled (BTreeSet.mem_add.mpr (.inl rfl)) ?_
    intro i other _ hother
    exact BTreeSet.mem_add.mpr (.inr (hs i other hother))

/-- An operation gives up no address that another instance is at, and
leaves no instance without one. A registration that is refused gives up
none. -/
def Safe (G : Setup) (s : ProxyState) : Op → Prop
  | .registerCvm _ _ down appId instanceId clientPublicKey _ _ =>
    down = true ∨ s.refuses G instanceId appId clientPublicKey = true ∨ s.MoveSafe G instanceId
  | .newClient _ _ id appId publicKey _ _ =>
    s.refuses G id appId publicKey = true ∨ s.MoveSafe G id
  | .reload now fails =>
    let kv := s.kv.migrateLegacyInstanceOverrides fails
    let accepted := acceptInstances G kv.loadAllInstances now
    -- First the instances that are dropped, then the records, one by one.
    let forget := fun s id => (forgetInstance id s).2
    let s : ProxyState := { s with kv }
    Along forget Unshared s (s.dropped now accepted)
    ∧ Along (fun s e => applyRecord (kv.readOverrides e.1) e.1 e.2 s)
      (fun s e => ∀ existing, s.instances.get? e.1 = some existing →
        existing.ip ≠ e.2.ip → s.Unshared e.1)
      ((s.dropped now accepted).foldl forget s) accepted.instances.entries
  | .removeCvm _ instanceId => s.Unshared instanceId
  | .recycle fails stale =>
    Along (fun s e => recycleOne fails e s)
      (fun s e => (s.instances.get? e.1).any (·.regTime = e.2) = true → s.Unshared e.1)
      s stale
  | _ => True

lemma reloadInstancesFromKvStore_pooled {now : SystemTime}
    (hs : s.Pooled) (hsafe : s.Safe G (.reload now fails)) :
    (s.reloadInstancesFromKvStore G now fails).Pooled := by
  obtain ⟨hforget, happly⟩ := hsafe
  refine Along.foldl (P := Pooled) ?_ happly ?_
  · exact fun s e hs hsafe => applyRecord_pooled hs hsafe
  · refine Along.foldl (P := Pooled) ?_ hforget hs
    exact fun s id hs hsafe => forgetInstance_pooled hs hsafe

lemma newClientById_pooled {now : SystemTime} {appId publicKey composeHash : String}
    {reported : ReportedCapabilities} (hc : s.Coherent) (hs : s.Pooled)
    (hsafe : s.refuses G id appId publicKey = true ∨ s.MoveSafe G id) :
    (s.newClientById G now fails id appId publicKey composeHash reported).2.Pooled := by
  rcases hsafe with hrefused | hsafe
  · obtain ⟨e, he⟩ := newClientById_refused hrefused
    rw [he]
    exact hs
  · exact registers_pooled hc hs hsafe newClientById_registers

lemma recycle_pooled {stale : List (String × SystemTime)}
    (hs : s.Pooled) (hsafe : s.Safe G (.recycle fails stale)) :
    (s.recycle fails stale).2.Pooled := by
  rw [recycle_eq_foldl]
  refine Along.foldl (P := Pooled) ?_ hsafe hs
  intro s e hs hsafe
  unfold recycleOne
  by_cases hstill : (s.instances.get? e.1).any (·.regTime = e.2) = true
  · rw [if_pos hstill]
    exact removeInstance_rule (forgetInstance_pooled hs (hsafe hstill)) fun _ h => h
  · rw [if_neg hstill]
    exact hs

end ProxyState

lemma step_pooled {s : ProxyState} (hc : s.Coherent) (hs : s.Pooled)
    {op : Op} (hsafe : s.Safe G op) : (step G s op).Pooled := by
  cases op with
  | registerCvm now fails down =>
    rcases hsafe with rfl | hsafe
    · exact hs
    · exact doRegisterCvm_rule hs (newClientById_pooled hc hs hsafe)
  | newClient => exact newClientById_pooled hc hs hsafe
  | reload => exact reloadInstancesFromKvStore_pooled hs hsafe
  | merge kv => exact hs
  | removeCvm fails id =>
    show (s.removeCvm fails id).2.Pooled
    rcases removeCvm_table s fails id with h | h <;> rw [h]
    · exact hs
    · exact forgetInstance_pooled hs hsafe
  | recycle => exact recycle_pooled hs hsafe
  | setReady _ _ ready =>
    exact setReady_rule hs (fun before hbefore =>
      insert_pooled { before with ready := some ready } hs hbefore rfl rfl rfl) fun _ _ h => h
  | recordHealth _ ip publicKey state =>
    have hkeeps := recordHealth_keeps ip publicKey state
    exact editInstance_rule hkeeps hs fun before hbefore =>
      insert_pooled _ hs hbefore (hkeeps.ip before) rfl rfl
  | updatePortPolicy _ _ policy =>
    exact updateInstancePortPolicy_rule hs fun before hbefore =>
      insert_pooled { before with portPolicy := some policy } hs hbefore rfl rfl rfl
  | setAdminPortPolicy _ _ policy =>
    exact setAdminPortPolicy_rule hs fun before _ hbefore _ =>
      insert_pooled { before with adminPortPolicy := policy } hs hbefore rfl rfl rfl
  | select => exact selectTopNHosts_rule fun _ _ _ => hs

lemma buildStateFromKvStore_pooled (G : Setup) (now : SystemTime) (kv : KvStore) :
    (buildStateFromKvStore G now kv).Pooled :=
  List.foldlRecOn _ _ (fun i info h => by cases h) fun s hs e _ => fileRecord_pooled hs

lemma allocIp_fresh {s : ProxyState} (hs : s.Pooled) {ip : Ipv4Addr}
    (h : (s.allocIp G).1 = some ip) (i : String) (info : InstanceInfo)
    (hinfo : s.instances.get? i = some info) : info.ip ≠ ip := by
  rintro rfl
  cases hfree : s.freeIp G with
  | none =>
    rw [allocIp_none hfree] at h
    cases h
  | some ip =>
    rw [allocIp_some hfree] at h
    cases h
    exact freeIp_not_mem hfree (hs i info hinfo)

/-- As long as no operation gives up an address that another instance is
at, nor leaves an instance without one, the addresses of all instances
are in use, and none of them is handed out again. -/
theorem safe_run_pool_sound (G : Setup) (now : SystemTime) (kv : KvStore) (ops : List Op)
    (h : Along (step G) (Safe G) (buildStateFromKvStore G now kv) ops) :
    let s := run G (buildStateFromKvStore G now kv) ops
    (∀ i info, s.instances.get? i = some info → s.allocatedAddresses.mem info.ip)
    ∧ ∀ ip, (s.allocIp G).1 = some ip →
      ∀ i info, s.instances.get? i = some info → info.ip ≠ ip := by
  intro s
  have hs : s.Coherent ∧ s.Pooled := by
    refine Along.foldl (P := fun s => s.Coherent ∧ s.Pooled) ?_ h
      ⟨buildStateFromKvStore_coherent G now kv, buildStateFromKvStore_pooled G now kv⟩
    rintro s op ⟨hc, hs⟩ hsafe
    exact ⟨step_coherent hc op, step_pooled hc hs hsafe⟩
  exact ⟨hs.2, fun ip hip i info hinfo => allocIp_fresh hs.2 hip i info hinfo⟩

lemma unshared_of_all {s : ProxyState} {id : String} (h : ((s.instances.get? id).all fun info =>
      s.instances.entries.all fun e => e.2.ip ≠ info.ip || e.1 = id) = true) :
    s.Unshared id := by
  intro info hinfo i other hother hip
  rw [hinfo, Option.all_some, List.all_eq_true] at h
  have hi := h (i, other) (BTreeMap.mem_entries.mpr hother)
  rw [Bool.or_eq_true, decide_eq_true_iff, decide_eq_true_iff] at hi
  exact hi.resolve_left fun hne => hne hip

/-- An instance comes and goes, beside two that stay. -/
theorem come_and_go_pool_sound :
    let G := sampleGateway ⟨sampleIp 0, 29⟩ false
    let kv := sampleStore [("a", sampleRecord 2 'B'), ("b", sampleRecord 3 'C')]
    let ops := [.newClient 0 noFaults "c" "app" (sampleKey 'D') "" ⟨none, none⟩,
      .removeCvm noFaults "c"]
    let s := run G (buildStateFromKvStore G 0 kv) ops
    (s.allocIp G).1 = some (sampleIp 4)
    ∧ (∀ i info, s.instances.get? i = some info → s.allocatedAddresses.mem info.ip)
    ∧ ∀ ip, (s.allocIp G).1 = some ip →
      ∀ i info, s.instances.get? i = some info → info.ip ≠ ip := by
  intro G kv ops s
  refine ⟨by decide +kernel, safe_run_pool_sound G 0 kv ops ⟨.inr ?_, ?_, trivial⟩⟩
  · intro before hbefore
    have hnone : (buildStateFromKvStore G 0 kv).instances.get? "c" = none := by decide +kernel
    rw [hnone] at hbefore
    cases hbefore
  · exact unshared_of_all (by decide +kernel)

/-- Two instances exchange their addresses: the second gives up the one
the first has just taken, and it is the next to be handed out. -/
theorem exchange_loses_address :
    ∃ (G : Setup) (now : SystemTime) (kv : KvStore) (ops : List Op),
      let s := run G (buildStateFromKvStore G now kv) ops
      ∃ i info, s.instances.get? i = some info ∧ ¬s.allocatedAddresses.mem info.ip
        ∧ (s.allocIp G).1 = some info.ip := by
  refine ⟨sampleGateway ⟨sampleIp 0, 29⟩ false, 0,
    sampleStore [("a", sampleRecord 2 'B'), ("b", sampleRecord 3 'C')],
    [.merge (sampleStore [("a", sampleRecord 3 'B'), ("b", sampleRecord 2 'C')]),
      .reload 0 noFaults], ?_⟩
  intro s
  have hip : (s.instances.get? "a").map InstanceInfo.ip = some (sampleIp 3) := by decide +kernel
  obtain ⟨info, hinfo, hip⟩ := Option.map_eq_some_iff.mp hip
  refine ⟨"a", info, hinfo, ?_, ?_⟩
  · rw [hip]
    decide +kernel
  · rw [hip]
    decide +kernel

end Dstack.Gateway
