/-
A removed instance and the passes that still know it.

The removal deletes the record and the instance under one lock. A reload
that read the store before puts the instance back when its turn comes,
and the next one, which finds no record, lets it stay if it registered
less than a minute ago.
-/
import Dstack.Gateway.Proofs.Index
import Dstack.Gateway.Proofs.Overrides
import Dstack.Gateway.Proofs.Reload

namespace Dstack.Gateway

open Lib

variable {fails : Faults} {G : Setup} {now : SystemTime} {snap : Snapshot}

namespace ProxyState

variable {s s' : ProxyState} {id : String}

-- == addresses

/-- Every address in use is that of an instance. -/
def Owned (s : ProxyState) : Prop :=
  ∀ ip, s.allocatedAddresses.mem ip → ∃ i info, s.instances.get? i = some info ∧ info.ip = ip

lemma Settles.owned {info : InstanceInfo} (h : Settles id info s s') (hs : s.Owned) :
    s'.Owned := by
  intro ip hip
  rcases h.addresses ip hip with hown | ⟨hold, hleft⟩
  · exact ⟨id, info, h.self, hown⟩
  · obtain ⟨i, other, hother, hat⟩ := hs ip hold
    have hne : i ≠ id := by
      rintro rfl
      exact hleft other hother hat
    exact ⟨i, other, (h.others hne).trans hother, hat⟩

lemma Owned.edit {before : InstanceInfo} (info : InstanceInfo) (hs : s.Owned)
    (hbefore : s.instances.get? id = some before) (hip : info.ip = before.ip)
    (hinstances : s'.instances = s.instances.insert id info)
    (hallocated : s'.allocatedAddresses = s.allocatedAddresses) : s'.Owned := by
  have hsettles : Settles id info s s' := settles_edit hbefore hip hinstances fun ip h => by
    rwa [hallocated] at h
  exact hsettles.owned hs

lemma forgetInstance_owned (hs : s.Owned) : (s.forgetInstance id).2.Owned := by
  cases hinfo : s.instances.get? id with
  | none =>
    rw [forgetInstance_none hinfo]
    exact hs
  | some info =>
    intro ip hip
    rw [forgetInstance_some hinfo, leaveApp_allocatedAddresses] at hip
    rw [forgetInstance_instances]
    obtain ⟨hne, hmem⟩ := BTreeSet.mem_erase.mp hip
    obtain ⟨i, other, hother, hat⟩ := hs ip hmem
    refine ⟨i, other, BTreeMap.get?_erase_eq_some.mpr ⟨?_, hother⟩, hat⟩
    rintro rfl
    rw [hinfo] at hother
    cases hother
    exact hne hat

lemma applyRecord_settles (overrides : Result (Option PortPolicy × Option Bool))
    (data : InstanceRecord) (s : ProxyState) (id : String) :
    Settles id (s.recordInfo overrides id data) s (s.applyRecord overrides id data) := by
  refine ⟨applyRecord_instances, fun ip hmem => ?_⟩
  rw [(recordInfo_spec overrides data s id).2.2.1]
  by_cases hat : data.ip = ip
  · exact .inl hat
  · rcases applyRecord_allocated.mp hmem with hat' | ⟨hold, hmoved⟩
    · exact absurd hat' hat
    · refine .inr ⟨hold, fun before hbefore => ?_⟩
      by_cases hsame : before.ip = data.ip
      · rwa [hsame]
      · exact hmoved before hbefore hsame

lemma registers_owned {q : Request} {r : Result InstanceInfo} (hs : s.Coherent) (ho : s.Owned)
    (h : Registers G q s (r, s')) : s'.Owned := by
  rcases registers_settles hs h with ⟨rfl, -⟩ | ⟨info, -, hsettles, -⟩
  · exact ho
  · exact hsettles.owned ho

lemma applySnapshot_owned (hs : s.Owned) : (s.applySnapshot now snap).Owned :=
  applySnapshot_rule hs (fun _ _ hs => forgetInstance_owned hs)
    fun _ _ _ _ hs => (applyRecord_settles _ _ _ _).owned hs

lemma buildStateFromKvStore_owned (G : Setup) (now : SystemTime) (kv : KvStore) :
    (buildStateFromKvStore G now kv).Owned := by
  refine fileRecords_rec (fun s id overrides data hs hnew => ?_)
    (acceptInstances G kv.loadAllInstances now).instances.sorted ?_ fun _ _ => rfl
  · have hsettles : Settles id (instanceInfoFromRecord overrides id data false s.nextCounter) s
        (s.fileRecord overrides id data) := settles_first hnew rfl rfl
    exact hsettles.owned hs
  · exact fun ip h => absurd h (BTreeSet.not_mem_empty ip)

end ProxyState

open ProxyState

variable {s : ProxyState}

lemma step_owned (hs : s.Coherent) (ho : s.Owned) (op : Op) :
    (step G s op).Owned := by
  cases op with
  | registerCvm =>
    exact doRegisterCvm_rule ho (registers_owned hs ho newClientById_registers)
  | newClient => exact registers_owned hs ho newClientById_registers
  | reload => exact reload_rule (applySnapshot_owned ho)
  | merge kv => exact ho
  | removeCvm => exact removeCvm_rule ho fun _ ho => forgetInstance_owned ho
  | recycle =>
    exact recycle_rule ho (fun _ _ _ ho => forgetInstance_owned ho) fun _ _ _ ho => ho
  | setReady _ _ ready =>
    refine setReady_rule ho (fun before hbefore => ?_) fun _ _ ho => ho
    exact ho.edit { before with ready := some ready } hbefore rfl rfl rfl
  | recordHealth _ ip publicKey state =>
    have hkeeps := recordHealth_keeps ip publicKey state
    exact editInstance_rule hkeeps ho fun before hbefore =>
      ho.edit _ hbefore (hkeeps.ip before) rfl rfl
  | updatePortPolicy _ _ policy =>
    exact updateInstancePortPolicy_rule ho fun before hbefore =>
      ho.edit { before with portPolicy := some policy } hbefore rfl rfl rfl
  | setAdminPortPolicy _ _ policy =>
    exact setAdminPortPolicy_rule ho fun before kv hbefore _ =>
      ho.edit { before with adminPortPolicy := policy } hbefore rfl rfl rfl
  | select => exact selectTopNHosts_rule fun _ _ _ => ho

-- == records

/-- Whether an operation writes the record of an instance: a registration,
here or at a node the store comes from, or a policy kept for it. -/
def Op.WritesRecord (id : String) : Op → Prop
  | .registerCvm _ _ _ _ instanceId _ _ _ => instanceId = id
  | .newClient _ _ i _ _ _ _ => i = id
  | .merge kv => kv.inst.get? id ≠ none
  | .updatePortPolicy _ instanceId _ => instanceId = id
  | _ => False

variable {i : String}

lemma KvStore.syncInstance_other {kv : KvStore} {id : String}
    {data : InstanceRecord} (hne : i ≠ id) :
    (kv.syncInstance fails i data).2.inst.get? id = kv.inst.get? id := by
  unfold syncInstance
  cases fails .inst i with
  | some e => rfl
  | none => exact BTreeMap.get?_insert_of_ne hne

lemma KvStore.syncDeleteInstance_unrecorded {kv : KvStore} {id : String}
    (h : kv.inst.get? id = none) : (kv.syncDeleteInstance fails i).2.inst.get? id = none := by
  rw [(syncDeleteInstance_keys fails kv i).1]
  split
  · rw [BTreeMap.get?_erase]
    split
    · rfl
    · exact h
  · exact h

variable {s' : ProxyState}

/-- What cannot come up: a record where none was, and an instance where
neither was. -/
structure Quiet (id : String) (s s' : ProxyState) : Prop where
  record : s.kv.inst.get? id = none → s'.kv.inst.get? id = none
  table : s.kv.inst.get? id = none → s.instances.get? id = none → s'.instances.get? id = none

lemma Quiet.of_same {id : String} (htable : s'.instances.get? id = s.instances.get? id)
    (hrecord : s'.kv.inst.get? id = s.kv.inst.get? id) : Quiet id s s' :=
  ⟨hrecord.trans, fun _ => htable.trans⟩

lemma Quiet.trans {id : String} {s'' : ProxyState} (h : Quiet id s s')
    (h' : Quiet id s' s'') : Quiet id s s'' :=
  ⟨fun hs => h'.record (h.record hs), fun hs ht => h'.table (h.record hs) (h.table hs ht)⟩

lemma Quiet.of_insert {id : String} {before : InstanceInfo}
    (info : InstanceInfo) (hbefore : s.instances.get? i = some before)
    (hinstances : s'.instances = s.instances.insert i info) (hinst : s'.kv.inst = s.kv.inst) :
    Quiet id s s' := by
  refine ⟨fun hs => hinst ▸ hs, fun _ ht => ?_⟩
  have hne : i ≠ id := by
    rintro rfl
    rw [hbefore] at ht
    cases ht
  rw [hinstances, BTreeMap.get?_insert_of_ne hne]
  exact ht

lemma forgetInstance_quiet (id i : String) (s : ProxyState) :
    Quiet id s (s.forgetInstance i).2 := by
  refine ⟨fun hs => ?_, fun _ ht => ?_⟩
  · rw [forgetInstance_kv]
    exact hs
  · rw [forgetInstance_instances, BTreeMap.get?_erase]
    split
    · rfl
    · exact ht

lemma syncDelete_quiet {id : String} :
    Quiet id s { s with kv := (s.kv.syncDeleteInstance fails i).2 } :=
  ⟨fun hs => KvStore.syncDeleteInstance_unrecorded hs, fun _ ht => ht⟩

lemma recycle_quiet {id : String}
    {stale : List (String × SystemTime)} : Quiet id s (s.recycle fails stale).2 :=
  recycle_rule (.of_same rfl rfl) (fun e _ _ h => h.trans (forgetInstance_quiet id e.1 _))
    fun _ _ _ h => h.trans syncDelete_quiet

lemma applySnapshot_quiet {id : String}
    (h : snap.accepted.instances.get? id = none) : Quiet id s (s.applySnapshot now snap) := by
  refine ⟨fun hs => ?_, fun _ ht => ?_⟩
  · rw [applySnapshot_kv]
    exact hs
  · refine Option.eq_none_iff_forall_ne_some.mpr fun info hinfo => ?_
    obtain ⟨hknown, -⟩ := ((applySnapshot_get? now snap s).2 id info h).mp hinfo
    rw [ht] at hknown
    cases hknown

lemma takeSnapshot_quiet (G : Setup) (now : SystemTime) (fails : Faults) (id : String)
    (s : ProxyState) : Quiet id s (s.takeSnapshot G now fails).2 :=
  .of_same rfl (congrArg (·.get? id) (KvStore.migrate_inst fails s.kv))

lemma takeSnapshot_unrecorded (G : Setup) (now : SystemTime) (fails : Faults) {id : String}
    (h : s.kv.inst.get? id = none) :
    (s.takeSnapshot G now fails).1.accepted.instances.get? id = none
    ∧ id ∉ (s.takeSnapshot G now fails).1.accepted.unreadable :=
  accepted_of_unrecorded ((takeSnapshot_quiet G now fails id s).record h) G now

lemma reload_quiet (G : Setup) (now : SystemTime) (fails : Faults) (id : String)
    (s : ProxyState) : Quiet id s (s.reloadInstancesFromKvStore G now fails) := by
  rw [reload_eq_passes]
  have hquiet (h : s.kv.inst.get? id = none) : Quiet id s
      ((s.takeSnapshot G now fails).2.applySnapshot now (s.takeSnapshot G now fails).1) :=
    (takeSnapshot_quiet G now fails id s).trans
      (applySnapshot_quiet (takeSnapshot_unrecorded G now fails h).1)
  exact ⟨fun h => (hquiet h).record h, fun h => (hquiet h).table h⟩

lemma registers_quiet {id : String} {q : Request} {r : Result InstanceInfo} (hs : s.Coherent)
    (h : Registers G q s (r, s')) (hne : q.id ≠ id) : Quiet id s s' := by
  rcases registers_settles hs h with ⟨rfl, -⟩ | ⟨info, -, hsettles, hkv⟩
  · exact .of_same rfl rfl
  · refine .of_same (hsettles.others hne.symm) ?_
    rcases hkv with ⟨hkv, -⟩ | hkv
    · rw [hkv]
    · rw [hkv]
      exact KvStore.syncInstance_other hne

lemma step_quiet {id : String} (hs : s.Coherent) (op : Op)
    (hop : ¬op.WritesRecord id) : Quiet id s (step G s op) := by
  cases op with
  | registerCvm =>
    exact doRegisterCvm_rule (.of_same rfl rfl)
      (registers_quiet hs newClientById_registers hop)
  | newClient => exact registers_quiet hs newClientById_registers hop
  | reload now fails => exact reload_quiet G now fails id s
  | merge kv => exact ⟨fun _ => of_not_not hop, fun _ ht => ht⟩
  | removeCvm _ i =>
    exact removeCvm_rule syncDelete_quiet fun _ h => h.trans (forgetInstance_quiet id i _)
  | recycle => exact recycle_quiet
  | setReady =>
    refine setReady_rule (.of_same rfl rfl) (fun _ hbefore => .of_insert _ hbefore rfl rfl) ?_
    exact fun s _ h => h.trans (.of_same rfl (congrArg (·.get? id) (setInstanceGate_inst _ _ _ _)))
  | recordHealth _ ip publicKey state =>
    exact editInstance_rule (recordHealth_keeps ip publicKey state) (.of_same rfl rfl)
      fun _ hbefore => .of_insert _ hbefore rfl rfl
  | updatePortPolicy =>
    exact updateInstancePortPolicy_rule (.of_same rfl rfl) fun _ _ =>
      .of_same (BTreeMap.get?_insert_of_ne hop) (KvStore.syncInstance_other hop)
  | setAdminPortPolicy _ _ policy =>
    refine setAdminPortPolicy_rule (.of_same rfl rfl) fun before kv hbefore hkv => ?_
    refine .of_insert { before with adminPortPolicy := policy } hbefore rfl ?_
    rcases hkv with rfl | rfl
    · rfl
    · exact setInstancePortPolicyOverride_inst _ _ _ _
  | select => exact selectTopNHosts_rule fun _ _ _ => .of_same rfl rfl

-- == passes

variable {pass : Nat} {w : Node}

namespace Node

/-- What an event does to a node. -/
inductive Takes (G : Setup) (w : Node) : NodeEvent → Node → Prop
  | op (op : Op) : Takes G w (.op op) { w with state := Gateway.step G w.state op }
  /-- A pass that has looked already, or not yet. -/
  | idle {e : NodeEvent} : Takes G w e w
  | load {pass : Nat} {now : SystemTime} {fails : Faults} (h : w.reloads.get? pass = none) :
      Takes G w (.load pass now fails) { w with
        state := (w.state.takeSnapshot G now fails).2
        reloads := w.reloads.insert pass (w.state.takeSnapshot G now fails).1 }
  | apply {pass : Nat} {now : SystemTime} {snap : Snapshot}
      (h : w.reloads.get? pass = some snap) :
      Takes G w (.apply pass now) { w with
        state := w.state.applySnapshot now snap
        reloads := w.reloads.erase pass }
  | scan {pass : Nat} {now seenAt : SystemTime} {lastSeen : String → Option Nat}
      (h : w.recycles.get? pass = none) :
      Takes G w (.scan pass now seenAt lastSeen) { w with
        recycles := w.recycles.insert pass (w.state.staleInstances G now seenAt lastSeen) }
  | sweep {pass : Nat} {fails : Faults} {stale : List (String × SystemTime)}
      (h : w.recycles.get? pass = some stale) :
      Takes G w (.sweep pass fails) { w with
        state := (w.state.recycle fails stale).2
        recycles := w.recycles.erase pass }

lemma step_load (now : SystemTime) (fails : Faults) (h : w.reloads.get? pass = none) :
    w.step G (.load pass now fails) = { w with
      state := (w.state.takeSnapshot G now fails).2
      reloads := w.reloads.insert pass (w.state.takeSnapshot G now fails).1 } := by
  have hidle : ¬w.reloads.contains pass = true := by
    rw [BTreeMap.contains, h]
    exact Bool.false_ne_true
  exact if_neg hidle

lemma step_apply (now : SystemTime) (h : w.reloads.get? pass = some snap) :
    w.step G (.apply pass now) = { w with
      state := w.state.applySnapshot now snap
      reloads := w.reloads.erase pass } := by
  simp only [step, h]

lemma step_scan (now seenAt : SystemTime)
    (lastSeen : String → Option Nat) (h : w.recycles.get? pass = none) :
    w.step G (.scan pass now seenAt lastSeen) = { w with
      recycles := w.recycles.insert pass (w.state.staleInstances G now seenAt lastSeen) } := by
  have hidle : ¬w.recycles.contains pass = true := by
    rw [BTreeMap.contains, h]
    exact Bool.false_ne_true
  exact if_neg hidle

lemma step_sweep {stale : List (String × SystemTime)}
    (fails : Faults) (h : w.recycles.get? pass = some stale) :
    w.step G (.sweep pass fails) = { w with
      state := (w.state.recycle fails stale).2
      recycles := w.recycles.erase pass } := by
  simp only [step, h]

lemma step_takes (G : Setup) (w : Node) (e : NodeEvent) : Takes G w e (w.step G e) := by
  cases e with
  | op op => exact .op op
  | load pass now fails =>
    cases h : w.reloads.get? pass with
    | none =>
      rw [step_load now fails h]
      exact .load h
    | some snap =>
      rw [show w.step G (.load pass now fails) = w from if_pos (Option.isSome_of_eq_some h)]
      exact .idle
  | apply pass now =>
    cases h : w.reloads.get? pass with
    | none =>
      have hidle : w.step G (.apply pass now) = w := by
        simp only [step, h]
      rw [hidle]
      exact .idle
    | some snap =>
      rw [step_apply now h]
      exact .apply h
  | scan pass now seenAt lastSeen =>
    cases h : w.recycles.get? pass with
    | none =>
      rw [step_scan now seenAt lastSeen h]
      exact .scan h
    | some stale =>
      rw [show w.step G (.scan pass now seenAt lastSeen) = w from
        if_pos (Option.isSome_of_eq_some h)]
      exact .idle
  | sweep pass fails =>
    cases h : w.recycles.get? pass with
    | none =>
      have hidle : w.step G (.sweep pass fails) = w := by
        simp only [step, h]
      rw [hidle]
      exact .idle
    | some stale =>
      rw [step_sweep fails h]
      exact .sweep h

variable {G : Setup} {w w' : Node} {e : NodeEvent} {id : String}

/-- The table agrees with itself, addresses included. -/
structure Sound (w : Node) : Prop where
  coherent : w.state.Coherent
  owned : w.state.Owned

lemma Takes.sound (h : Takes G w e w') (hw : w.Sound) : w'.Sound := by
  cases h with
  | op op => exact ⟨step_coherent hw.coherent op, step_owned hw.coherent hw.owned op⟩
  | idle => exact hw
  | load h => exact ⟨hw.coherent.of_maps rfl rfl rfl rfl, hw.owned⟩
  | apply h => exact ⟨applySnapshot_coherent hw.coherent, applySnapshot_owned hw.owned⟩
  | scan h => exact ⟨hw.coherent, hw.owned⟩
  | @sweep _ fails stale h =>
    exact ⟨recycle_coherent hw.coherent,
      step_owned (G := G) hw.coherent hw.owned (.recycle fails stale)⟩

/-- A node that has just read its store. -/
def start (G : Setup) (now : SystemTime) (kv : KvStore) : Node :=
  { state := buildStateFromKvStore G now kv }

lemma start_sound (G : Setup) (now : SystemTime) (kv : KvStore) : (start G now kv).Sound :=
  ⟨buildStateFromKvStore_coherent G now kv, buildStateFromKvStore_owned G now kv⟩

lemma run_sound (hw : w.Sound) (events : List NodeEvent) : (w.run G events).Sound :=
  List.foldlRecOn events (step G) hw fun w hw e _ => (step_takes G w e).sound hw

lemma run_keeps {P : Node → Prop} {ok : NodeEvent → Prop}
    (hstep : ∀ w e w', Takes G w e w' → w.Sound → ok e → P w → P w')
    (hw : w.Sound) {events : List NodeEvent} (hok : ∀ e ∈ events, ok e) (h : P w) :
    P (w.run G events) :=
  (List.foldlRecOn (motive := fun w => w.Sound ∧ P w) events (step G) ⟨hw, h⟩
    fun w hw e he => ⟨(step_takes G w e).sound hw.1,
      hstep w e _ (step_takes G w e) hw.1 (hok e he) hw.2⟩).2

end Node

/-- Whether an event writes the record of an instance. -/
def NodeEvent.WritesRecord (id : String) : NodeEvent → Prop
  | .op operation => operation.WritesRecord id
  | _ => False

namespace Node

variable {G : Setup} {w w' : Node} {e : NodeEvent} {id : String}

lemma Takes.unrecorded (h : Takes G w e w') (hw : w.Sound) (he : ¬e.WritesRecord id)
    (hrecord : w.state.kv.inst.get? id = none) : w'.state.kv.inst.get? id = none := by
  cases h with
  | op op => exact (step_quiet hw.coherent op he).record hrecord
  | idle => exact hrecord
  | @load _ now fails h => exact (takeSnapshot_quiet G now fails id w.state).record hrecord
  | @apply _ now snap h =>
    show (w.state.applySnapshot now snap).kv.inst.get? id = none
    rw [applySnapshot_kv]
    exact hrecord
  | scan h => exact hrecord
  | sweep h => exact recycle_quiet.record hrecord

/-- Nothing knows of an instance: neither the table nor the store nor a
pass in flight. -/
structure Unknown (id : String) (w : Node) : Prop where
  table : w.state.instances.get? id = none
  record : w.state.kv.inst.get? id = none
  reloads : ∀ pass snap, w.reloads.get? pass = some snap →
    snap.accepted.instances.get? id = none

lemma Takes.unknown (h : Takes G w e w') (hw : w.Sound) (he : ¬e.WritesRecord id)
    (hunknown : w.Unknown id) : w'.Unknown id := by
  have hrecord := h.unrecorded hw he hunknown.record
  obtain ⟨htable, hstore, hreloads⟩ := hunknown
  cases h with
  | op op => exact ⟨(step_quiet hw.coherent op he).table hstore htable, hrecord, hreloads⟩
  | idle => exact ⟨htable, hrecord, hreloads⟩
  | @load _ now fails h =>
    refine ⟨htable, hrecord, fun pass snap hsnap => ?_⟩
    rcases BTreeMap.get?_insert_eq_some.mp hsnap with ⟨-, rfl⟩ | ⟨-, hsnap⟩
    · exact (takeSnapshot_unrecorded G now fails hstore).1
    · exact hreloads pass snap hsnap
  | apply h =>
    refine ⟨(applySnapshot_quiet (hreloads _ _ h)).table hstore htable, hrecord, ?_⟩
    intro pass snap hsnap
    exact hreloads pass snap (BTreeMap.get?_erase_eq_some.mp hsnap).2
  | scan h => exact ⟨htable, hrecord, hreloads⟩
  | sweep h => exact ⟨recycle_quiet.table hstore htable, hrecord, hreloads⟩

lemma Takes.inFlight (h : Takes G w e w')
    (he : ∀ now, e ≠ .apply pass now) (hsnap : w.reloads.get? pass = some snap) :
    w'.reloads.get? pass = some snap := by
  cases h with
  | op op => exact hsnap
  | idle => exact hsnap
  | @load pass' _ _ h =>
    have hne : pass' ≠ pass := by
      rintro rfl
      rw [hsnap] at h
      cases h
    exact (BTreeMap.get?_insert_of_ne hne).trans hsnap
  | @apply pass' now _ h =>
    have hne : pass' ≠ pass := fun heq => he now (heq ▸ rfl)
    exact (BTreeMap.get?_erase_of_ne hne).trans hsnap
  | scan h => exact hsnap
  | sweep h => exact hsnap

end Node

lemma removeCvm_ok {id : String} {r : Bool × Bool} (h : s.removeCvm fails id = (.ok r, s')) :
    s'.instances.get? id = none ∧ s'.kv.inst.get? id = none := by
  have hdeletes := deletes_of_removeCvm_ok h
  obtain rfl : (s.removeCvm fails id).2 = s' := congrArg Prod.snd h
  refine ⟨removeCvm_gone s hdeletes, ?_⟩
  rw [removeCvm_kv, (KvStore.syncDeleteInstance_keys fails s.kv id).1, hdeletes,
    if_pos Option.isNone_none]
  exact BTreeMap.get?_erase_self _ _

/-- Nothing of an instance is left in a table: neither its record nor its id
nor an address that is not another instance's. -/
structure Gone (id : String) (s : ProxyState) : Prop where
  instances : s.instances.get? id = none
  apps : ∀ app ids, s.apps.get? app = some ids → ¬ids.mem id
  address : ∀ ip, s.allocatedAddresses.mem ip →
    ∃ i info, i ≠ id ∧ s.instances.get? i = some info ∧ info.ip = ip

lemma Node.Sound.gone_iff {id : String} (hw : w.Sound) :
    Gone id w.state ↔ w.state.instances.get? id = none := by
  refine ⟨Gone.instances, fun hnone => ⟨hnone, ?_, ?_⟩⟩
  · intro app ids hids hmem
    obtain ⟨info, hinfo, -⟩ := (hw.coherent.inApp app id).mp ⟨ids, hids, hmem⟩
    rw [hnone] at hinfo
    cases hinfo
  · intro ip hip
    obtain ⟨i, info, hinfo, hat⟩ := hw.owned ip hip
    refine ⟨i, info, ?_, hinfo, hat⟩
    rintro rfl
    rw [hnone] at hinfo
    cases hinfo

/-- After an instance was removed, a reload that has looked since and acts
without a record of it being written finds it gone, exactly if the table
does not have it again with a registration of the last minute. Only a
pass that looked before the removal puts it back: where none knows the
instance, it stays gone. -/
theorem removed_stays_gone_iff (G : Setup) (now : SystemTime) (kv : KvStore)
    (events : List NodeEvent) (fails : Faults) (id : String) (r : Bool × Bool) (s' : ProxyState)
    (after between : List NodeEvent) (pass : Nat) (loadAt applyAt : SystemTime) (fails' : Faults) :
    let w := (Node.start G now kv).run G events
    let removed := w.step G (.op (.removeCvm fails id))
    let settled := removed.run G after
    let acting := (settled.step G (.load pass loadAt fails')).run G between
    w.state.removeCvm fails id = (.ok r, s') →
    (∀ e ∈ after ++ between, ¬e.WritesRecord id) →
    settled.reloads.get? pass = none →
    (∀ e ∈ between, ∀ t, e ≠ .apply pass t) →
      (Gone id (acting.step G (.apply pass applyAt)).state
        ↔ ∀ info, acting.state.instances.get? id = some info →
          localRegistrationGrace < applyAt - info.regTime)
      ∧ ((∀ pass snap, w.reloads.get? pass = some snap →
          snap.accepted.instances.get? id = none) → Gone id settled.state) := by
  intro w removed settled acting hremove hsilent hidle hflying
  have hafter : ∀ e ∈ after, ¬e.WritesRecord id := fun e he =>
    hsilent e (List.mem_append_left _ he)
  have hbetween : ∀ e ∈ between, ¬e.WritesRecord id := fun e he =>
    hsilent e (List.mem_append_right _ he)
  have hw : w.Sound := Node.run_sound (Node.start_sound G now kv) events
  have hremoved : removed.Sound := (Node.step_takes G w _).sound hw
  have hsettled : settled.Sound := Node.run_sound hremoved after
  obtain ⟨htable, hrecord⟩ : removed.state.instances.get? id = none
      ∧ removed.state.kv.inst.get? id = none := by
    rw [show removed.state = s' from congrArg Prod.snd hremove]
    exact removeCvm_ok hremove
  constructor
  · -- The pass looked at a store without the record.
    have hunrecorded : settled.state.kv.inst.get? id = none :=
      Node.run_keeps (fun w e w' h hw he => h.unrecorded hw he) hremoved hafter hrecord
    obtain ⟨hnone, hread⟩ := takeSnapshot_unrecorded G loadAt fails' hunrecorded
    have hacting : acting.Sound :=
      Node.run_sound ((Node.step_takes G settled _).sound hsettled) between
    have hsnap : acting.reloads.get? pass
        = some (settled.state.takeSnapshot G loadAt fails').1 := by
      refine Node.run_keeps (fun w e w' h hw he => h.inFlight he)
        ((Node.step_takes G settled _).sound hsettled) hflying ?_
      rw [Node.step_load loadAt fails' hidle]
      exact BTreeMap.get?_insert_self _ _ _
    rw [((Node.step_takes G acting _).sound hacting).gone_iff, Node.step_apply applyAt hsnap]
    have hkept := fun info =>
      (applySnapshot_get? applyAt (settled.state.takeSnapshot G loadAt fails').1
        acting.state).2 id info hnone
    constructor
    · intro hgone info hinfo
      refine Nat.lt_of_not_le fun hyoung => ?_
      have := (hkept info).mpr ⟨hinfo, hnone, .inr hyoung⟩
      rw [hgone] at this
      cases this
    · intro hold
      refine Option.eq_none_iff_forall_ne_some.mpr fun info hinfo => ?_
      obtain ⟨hinfo, -, hunreadable | hyoung⟩ := (hkept info).mp hinfo
      · exact hread hunreadable
      · exact Nat.not_le_of_lt (hold info hinfo) hyoung
  · intro hnone
    have hunknown : settled.Unknown id :=
      Node.run_keeps (fun w e w' h hw he => h.unknown hw he) hremoved hafter
        ⟨htable, hrecord, hnone⟩
    exact hsettled.gone_iff.mpr hunknown.table

def registeredThenSeen : List NodeEvent :=
  [.op (.newClient (1000 * nanosPerSec) noFaults "a" "app" (sampleKey 'B') "" ⟨none, none⟩),
    .load 0 (1001 * nanosPerSec) noFaults]

/-- That pass puts the instance back after its removal; a reload two
minutes later drops it. -/
theorem late_reload_drops_removed :
    let G := sampleGateway ⟨sampleIp 0, 29⟩ false
    let w := (Node.start G 0 {}).run G registeredThenSeen
    let settled := (w.step G (.op (.removeCvm noFaults "a"))).run G [.apply 0 (1002 * nanosPerSec)]
    let acting := settled.step G (.load 1 (1120 * nanosPerSec) noFaults)
    (settled.state.instances.get? "a").isSome = true
    ∧ Gone "a" (acting.step G (.apply 1 (1121 * nanosPerSec))).state := by
  intro G w settled acting
  have hruns : (settled.state.instances.get? "a").isSome = true
      ∧ (settled.reloads.get? 1).isNone = true
      ∧ ((acting.state.instances.get? "a").all fun info => decide
        (localRegistrationGrace < 1121 * nanosPerSec - info.regTime)) = true := by decide +kernel
  obtain ⟨hback, hidle, hold⟩ := hruns
  obtain ⟨r, hremove⟩ := w.state.removeCvm_ok_of (show noFaults .inst "a" = none from rfl)
  refine ⟨hback, ((removed_stays_gone_iff G 0 {} registeredThenSeen noFaults "a" r _
    [.apply 0 (1002 * nanosPerSec)] [] 1 (1120 * nanosPerSec) (1121 * nanosPerSec) noFaults
    hremove ?_ (Option.isNone_iff_eq_none.mp hidle) ?_).1).mpr ?_⟩
  · intro e he
    rw [List.mem_singleton.mp he]
    exact id
  · intro e he
    cases he
  · intro info hinfo
    have hinfo : acting.state.instances.get? "a" = some info := hinfo
    rw [hinfo] at hold
    exact of_decide_eq_true hold

/-- Within the minute the reload lets it stay. -/
theorem early_reload_keeps_removed :
    ∃ (G : Setup) (now : SystemTime) (kv : KvStore) (events : List NodeEvent) (fails : Faults)
      (id : String) (r : Bool × Bool) (s' : ProxyState) (after between : List NodeEvent)
      (pass : Nat) (loadAt applyAt : SystemTime) (fails' : Faults),
      let w := (Node.start G now kv).run G events
      let removed := w.step G (.op (.removeCvm fails id))
      let settled := removed.run G after
      let acting := (settled.step G (.load pass loadAt fails')).run G between
      w.state.removeCvm fails id = (.ok r, s')
      ∧ (∀ e ∈ after ++ between, ¬e.WritesRecord id)
      ∧ settled.reloads.get? pass = none
      ∧ (∀ e ∈ between, ∀ t, e ≠ .apply pass t)
      ∧ ¬Gone id (acting.step G (.apply pass applyAt)).state := by
  let G := sampleGateway ⟨sampleIp 0, 29⟩ false
  let w := (Node.start G 0 {}).run G registeredThenSeen
  let settled := (w.step G (.op (.removeCvm noFaults "a"))).run G [.apply 0 (1002 * nanosPerSec)]
  let acting := settled.step G (.load 1 (1003 * nanosPerSec) noFaults)
  have hruns : (settled.reloads.get? 1).isNone = true
      ∧ ((acting.step G (.apply 1 (1004 * nanosPerSec))).state.instances.get? "a").isSome
        = true := by decide +kernel
  obtain ⟨r, hremove⟩ := w.state.removeCvm_ok_of (show noFaults .inst "a" = none from rfl)
  refine ⟨G, 0, {}, registeredThenSeen, noFaults, "a", r, _, [.apply 0 (1002 * nanosPerSec)], [],
    1, 1003 * nanosPerSec, 1004 * nanosPerSec, noFaults, hremove, ?_,
    Option.isNone_iff_eq_none.mp hruns.1, ?_, ?_⟩
  · intro e he
    rw [List.mem_singleton.mp he]
    exact id
  · intro e he
    cases he
  · intro hgone
    have hback := hruns.2
    have hnone : (acting.step G (.apply 1 (1004 * nanosPerSec))).state.instances.get? "a" = none :=
      hgone.instances
    rw [hnone] at hback
    cases hback

end Dstack.Gateway
