/-
What an operator did not say does not come up.

Everything that happens to a gateway but a word about the instance leaves
its overrides: an instance keeps those it has, gets none when it is new,
and takes what the store answers on a reload. A clear and a deletion are
judged by what the store answers afterwards.
-/
import Dstack.Gateway.Proofs.Index
import Dstack.Gateway.Proofs.Overrides
import Dstack.Gateway.Proofs.Reload

namespace Dstack.Gateway

open Lib

/-- What an operator set for an instance: a port policy and a gate. -/
def InstanceInfo.overrides (i : InstanceInfo) : Option PortPolicy × Option Bool :=
  (i.adminPortPolicy, i.ready)

/-- What overrides come to once they were read: an instance whose
overrides cannot be read is kept out of rotation. -/
def readOut : Result (Option PortPolicy × Option Bool) → Option PortPolicy × Option Bool
  | .ok o => o
  | .error _ => (none, some false)

variable {fails : Faults}

namespace ProxyState

variable {s s' : ProxyState} {id : String}

lemma recordInfo_overrides (overrides : Result (Option PortPolicy × Option Bool))
    (data : InstanceRecord) (s : ProxyState) (id : String) :
    (s.recordInfo overrides id data).overrides = readOut overrides := by
  obtain ⟨_, _, h, -⟩ := recordInfo_eq overrides data s id
  rw [h]
  cases overrides <;> rfl

lemma registerEdit_overrides (now : SystemTime) (publicKey composeHash : String)
    (reported : ReportedCapabilities) (before : InstanceInfo) :
    (registerEdit now publicKey composeHash reported before).overrides = before.overrides := by
  have hkey : (renewKey now publicKey reported before).overrides = before.overrides := by
    unfold renewKey
    dsimp only
    split <;> rfl
  unfold registerEdit renewPolicy
  dsimp only
  rw [← hkey]
  split <;> split <;> rfl

-- == frames

/-- Nothing new is said about the overrides of an instance: the store
answers as it did or with none, and the table has what it had, none, or
what the store answers. -/
structure Frame (id : String) (s s' : ProxyState) : Prop where
  gate : s'.kv.gateOf id = s.kv.gateOf id ∨ s'.kv.gateOf id = .ok none
  policy : s'.kv.policyOf id = s.kv.policyOf id ∨ s'.kv.policyOf id = .ok none
  table : ∀ info', s'.instances.get? id = some info' →
    (∃ info, s.instances.get? id = some info ∧ info'.overrides = info.overrides)
    ∨ info'.overrides = (none, none)
    ∨ info'.overrides = readOut (s.kv.readOverrides id)

/-- An instance and its keys in the store are left alone. -/
structure Untouched (id : String) (s s' : ProxyState) : Prop where
  instances : s'.instances.get? id = s.instances.get? id
  keys : KvStore.SameKeys s.kv s'.kv id

lemma Untouched.frame (h : Untouched id s s') : Frame id s s' where
  gate := .inl h.keys.gateOf
  policy := .inl h.keys.policyOf
  table info' hinfo' := .inl ⟨info', h.instances ▸ hinfo', rfl⟩

lemma Untouched.refl (s : ProxyState) : Untouched id s s := ⟨rfl, ⟨rfl, rfl, rfl⟩⟩

lemma Untouched.trans {s'' : ProxyState} (h : Untouched id s s') (h' : Untouched id s' s'') :
    Untouched id s s'' :=
  ⟨h'.instances.trans h.instances, ⟨h'.keys.inst.trans h.keys.inst,
    h'.keys.gate.trans h.keys.gate, h'.keys.portPolicy.trans h.keys.portPolicy⟩⟩

/-- A write of the instance `i` that leaves its overrides. -/
lemma Frame.of_write (i : String) (info : InstanceInfo)
    (hinfo : (∃ before, s.instances.get? i = some before ∧ info.overrides = before.overrides)
      ∨ info.overrides = (none, none))
    (hinstances : s'.instances = s.instances.insert i info)
    (hkv : s'.kv = s.kv ∨ ∃ fails data, s'.kv = (s.kv.syncInstance fails i data).2) :
    Frame id s s' where
  gate := by
    rcases hkv with hkv | ⟨fails, data, hkv⟩ <;> rw [hkv]
    · exact .inl rfl
    · exact KvStore.gateOf_syncInstance fails s.kv i data id
  policy := by
    rcases hkv with hkv | ⟨fails, data, hkv⟩ <;> rw [hkv]
    · exact .inl rfl
    · exact KvStore.policyOf_syncInstance fails s.kv i data id
  table := by
    intro info' hinfo'
    rw [hinstances] at hinfo'
    by_cases hi : i = id
    · subst hi
      rw [BTreeMap.get?_insert_self] at hinfo'
      cases hinfo'
      rcases hinfo with hinfo | hinfo
      · exact .inl hinfo
      · exact .inr (.inl hinfo)
    · rw [BTreeMap.get?_insert_of_ne hi] at hinfo'
      exact .inl ⟨info', hinfo', rfl⟩

-- == ops

variable {i : String}

lemma Written.overrides {q : Request} {info : InstanceInfo} (h : Written q s info) :
    (∃ before, s.instances.get? q.id = some before ∧ info.overrides = before.overrides)
      ∨ info.overrides = (none, none) := by
  cases h with
  | @renewed before hbefore => exact .inl ⟨before, hbefore, registerEdit_overrides _ _ _ _ before⟩
  | @moved before ip hbefore => exact .inl ⟨before, hbefore, registerEdit_overrides _ _ _ _ before⟩
  | first hnew => exact .inr rfl

lemma registers_frame {G : Setup} {q : Request} {r : Result InstanceInfo} (hs : s.Coherent)
    (h : Registers G q s (r, s')) : Frame id s s' := by
  rcases registers_settles hs h with ⟨rfl, -⟩ | ⟨info, hwritten, hsettles, hkv⟩
  · exact (Untouched.refl s').frame
  · exact .of_write q.id info hwritten.overrides hsettles.instances
      (hkv.imp And.left fun h => ⟨_, _, h⟩)

lemma reload_frame (G : Setup) (now : SystemTime) (fails : Faults) (s : ProxyState) :
    Frame id s (s.reloadInstancesFromKvStore G now fails) := by
  have hkv : (s.reloadInstancesFromKvStore G now fails).kv
      = s.kv.migrateLegacyInstanceOverrides fails := reload_kv G now fails s
  refine ⟨.inl ?_, .inl ?_, ?_⟩
  · rw [hkv, KvStore.gateOf_migrate]
  · rw [hkv, KvStore.policyOf_migrate]
  · intro info' hinfo'
    obtain ⟨hrecords, hkept⟩ := reload_get? G now fails s
    cases hdata : (acceptInstances G (s.kv.migrateLegacyInstanceOverrides fails).loadAllInstances
        now).instances.get? id with
    | some data =>
      obtain ⟨s₁, hinfo⟩ := hrecords id data hdata
      rw [hinfo] at hinfo'
      cases hinfo'
      rw [recordInfo_overrides, KvStore.readOverrides_migrate]
      exact .inr (.inr rfl)
    | none =>
      have hold := (hkept id info' hdata).mp hinfo'
      exact .inl ⟨info', hold.1, rfl⟩

lemma forgetInstance_untouched (hne : i ≠ id) :
    Untouched id s (s.forgetInstance i).2 := by
  refine ⟨?_, ?_⟩
  · rw [forgetInstance_instances]
    exact BTreeMap.get?_erase_of_ne hne
  · rw [forgetInstance_kv]
    exact ⟨rfl, rfl, rfl⟩

lemma syncDelete_untouched (hne : i ≠ id) :
    Untouched id s { s with kv := (s.kv.syncDeleteInstance fails i).2 } :=
  ⟨rfl, KvStore.syncDeleteInstance_sameKeys hne⟩

lemma setReady_policy (s : ProxyState) (fails : Faults) (id : String) (ready : Bool) :
    (s.setReady fails id ready).2.kv.policyOf id = s.kv.policyOf id
    ∧ ∀ info', (s.setReady fails id ready).2.instances.get? id = some info' →
      ∃ info, s.instances.get? id = some info ∧ info'.adminPortPolicy = info.adminPortPolicy := by
  refine setReady_rule (P := fun s' => s'.kv.policyOf id = s.kv.policyOf id
    ∧ ∀ info', s'.instances.get? id = some info' → ∃ info, s.instances.get? id = some info
      ∧ info'.adminPortPolicy = info.adminPortPolicy) ?_ ?_ ?_
  · exact ⟨rfl, fun info' hinfo' => ⟨info', hinfo', rfl⟩⟩
  · intro before hbefore
    refine ⟨rfl, fun info' hinfo' => ⟨before, hbefore, ?_⟩⟩
    rw [show info' = { before with ready := some ready } from
      (Option.some.inj ((BTreeMap.get?_insert_self _ _ _).symm.trans hinfo')).symm]
  · rintro s' ready' ⟨hpolicy, htable⟩
    refine ⟨Eq.trans ?_ hpolicy, htable⟩
    unfold KvStore.policyOf KvStore.legacyOf KvStore.setInstanceGate
    cases fails .gate id <;> rfl

end ProxyState

open ProxyState

-- == runs

/-- Whether an operation has a say about the port policy an operator set
for an instance: it writes it, or deletes it, here or at another node. -/
def Op.WritesPolicy (id : String) (s : ProxyState) : Op → Prop
  | .merge kv => kv.policyOf id ≠ s.kv.policyOf id
  | .removeCvm _ instanceId => instanceId = id
  | .recycle _ stale => ∃ e ∈ stale, e.1 = id
  | .setAdminPortPolicy _ instanceId _ => instanceId = id
  | _ => False

/-- The same for the gate. -/
def Op.WritesGate (id : String) (s : ProxyState) : Op → Prop
  | .merge kv => kv.gateOf id ≠ s.kv.gateOf id
  | .removeCvm _ instanceId => instanceId = id
  | .recycle _ stale => ∃ e ∈ stale, e.1 = id
  | .setReady _ instanceId _ => instanceId = id
  | _ => False

variable {s : ProxyState}

lemma step_frame {G : Setup} {id : String} (hs : s.Coherent) (op : Op)
    (hpolicy : ¬op.WritesPolicy id s) (hgate : ¬op.WritesGate id s) :
    Frame id s (step G s op) := by
  cases op with
  | registerCvm =>
    exact doRegisterCvm_rule (Untouched.refl s).frame (registers_frame hs newClientById_registers)
  | newClient => exact registers_frame hs newClientById_registers
  | reload now fails => exact reload_frame G now fails s
  | merge kv =>
    have hpolicy : kv.policyOf id = s.kv.policyOf id := of_not_not hpolicy
    have hgate : kv.gateOf id = s.kv.gateOf id := of_not_not hgate
    exact ⟨.inl hgate, .inl hpolicy, fun info' hinfo' => .inl ⟨info', hinfo', rfl⟩⟩
  | removeCvm =>
    exact Untouched.frame (removeCvm_rule (syncDelete_untouched hpolicy)
      fun _ h => h.trans (forgetInstance_untouched hpolicy))
  | recycle _ stale =>
    have hne : ∀ e ∈ stale, e.1 ≠ id := fun e he heq => hpolicy ⟨e, he, heq⟩
    exact Untouched.frame (recycle_rule (.refl s)
      (fun e he _ h => h.trans (forgetInstance_untouched (hne e he)))
      fun e he _ h => h.trans (syncDelete_untouched (hne e he)))
  | setReady =>
    exact Untouched.frame (setReady_rule (.refl s)
      (fun _ _ => ⟨BTreeMap.get?_insert_of_ne hgate, rfl, rfl, rfl⟩)
      fun _ ready h => h.trans ⟨rfl, KvStore.setInstanceGate_sameKeys hgate ready⟩)
  | recordHealth i ip publicKey state =>
    refine editInstance_rule (recordHealth_keeps ip publicKey state) (Untouched.refl s).frame
      fun before hbefore => .of_write i _ (.inl ⟨before, hbefore, ?_⟩) rfl (.inl rfl)
    split
    · rfl
    · split <;> rfl
  | updatePortPolicy _ i policy =>
    exact updateInstancePortPolicy_rule (Untouched.refl s).frame fun before hbefore =>
      .of_write i { before with portPolicy := some policy } (.inl ⟨before, hbefore, rfl⟩) rfl
        (.inr ⟨_, _, rfl⟩)
  | setAdminPortPolicy _ i policy =>
    refine Untouched.frame (setAdminPortPolicy_rule (.refl s) fun before kv _ hkv => ?_)
    refine ⟨BTreeMap.get?_insert_of_ne hpolicy, ?_⟩
    rcases hkv with rfl | rfl
    · exact ⟨rfl, rfl, rfl⟩
    · exact KvStore.setInstancePortPolicyOverride_sameKeys hpolicy policy
  | select => exact Untouched.frame (selectTopNHosts_rule fun _ _ _ => ⟨rfl, rfl, rfl, rfl⟩)

-- == clearing

/-- No port policy is set for an instance, in the table or in what the
store answers. -/
structure Cleared (id : String) (s : ProxyState) : Prop where
  store : ∀ policy, s.kv.policyOf id ≠ .ok (some policy)
  table : ∀ info, s.instances.get? id = some info → info.adminPortPolicy = none

variable {s' : ProxyState}

lemma ProxyState.Frame.cleared {id : String} (h : Frame id s s')
    (hs : Cleared id s) : Cleared id s' := by
  constructor
  · intro policy hpolicy
    rcases h.policy with hsame | hnone
    · exact hs.store policy (hsame.symm.trans hpolicy)
    · rw [hnone] at hpolicy
      cases hpolicy
  · intro info' hinfo'
    rcases h.table info' hinfo' with ⟨info, hinfo, hsame⟩ | hnone | hread
    · exact (congrArg Prod.fst hsame).trans (hs.table info hinfo)
    · exact congrArg Prod.fst hnone
    · cases hoverrides : s.kv.readOverrides id with
      | error e =>
        rw [hoverrides] at hread
        exact congrArg Prod.fst hread
      | ok o =>
        rw [hoverrides] at hread
        have hpolicy := (KvStore.readOverrides_ok hoverrides).2
        rw [show info'.adminPortPolicy = o.1 from congrArg Prod.fst hread]
        cases ho : o.1 with
        | none => rfl
        | some policy =>
          rw [ho] at hpolicy
          exact absurd hpolicy (hs.store policy)

lemma step_cleared {G : Setup} {id : String} (hs : s.Coherent) (op : Op)
    (hop : ¬op.WritesPolicy id s) (h : Cleared id s) : Cleared id (step G s op) := by
  by_cases hgate : op.WritesGate id s
  · -- The word is about the gate only.
    cases op with
    | setReady fails instanceId ready =>
      obtain rfl : instanceId = id := hgate
      obtain ⟨hpolicy, hinfo⟩ := setReady_policy s fails instanceId ready
      constructor
      · intro policy hp
        exact h.store policy (hpolicy.symm.trans hp)
      · intro info' hinfo'
        obtain ⟨info, hold, hsame⟩ := hinfo info' hinfo'
        exact hsame.trans (h.table info hold)
    | merge kv =>
      have hsame : kv.policyOf id = s.kv.policyOf id := of_not_not hop
      exact ⟨fun policy hp => h.store policy (hsame.symm.trans hp), h.table⟩
    | removeCvm fails instanceId => exact absurd hgate hop
    | recycle fails stale => exact absurd hgate hop
    | registerCvm => exact hgate.elim
    | newClient => exact hgate.elim
    | reload => exact hgate.elim
    | recordHealth => exact hgate.elim
    | updatePortPolicy => exact hgate.elim
    | setAdminPortPolicy => exact hgate.elim
    | select => exact hgate.elim
  · exact (step_frame hs op hop hgate).cleared h

/-- Whether a clear gets through: the table has an override and its
clearing is written, or the store answers with none anyway. -/
def ClearHolds (fails : Faults) (id : String) (s : ProxyState) : Prop :=
  (∃ info policy, s.instances.get? id = some info ∧ info.adminPortPolicy = some policy
    ∧ fails .portPolicyOverride id = none)
  ∨ ∀ policy, s.kv.policyOf id ≠ .ok (some policy)

/-- What a clear that returns `Ok` leaves. -/
lemma clear_spec {id : String} (h : s.setAdminPortPolicy fails id none = (.ok (), s')) :
    ∃ info, s.instances.get? id = some info
      ∧ s'.instances = s.instances.insert id { info with adminPortPolicy := none }
      ∧ s'.kv = if info.adminPortPolicy.isSome then
          (s.kv.setInstancePortPolicyOverride fails id none).2 else s.kv := by
  unfold setAdminPortPolicy at h
  cases hinfo : s.instances.get? id with
  | none =>
    rw [hinfo] at h
    cases h
  | some info =>
    rw [hinfo] at h
    cases h
    refine ⟨info, rfl, rfl, ?_⟩
    simp only [Option.isSome_none, Bool.false_eq_true, false_or]

lemma clear_ok {id : String} {info : InstanceInfo} (fails : Faults)
    (h : s.instances.get? id = some info) :
    s.setAdminPortPolicy fails id none = (.ok (), (s.setAdminPortPolicy fails id none).2) := by
  unfold setAdminPortPolicy
  rw [h]

lemma clear_policyOf_iff {id : String} (h : s.setAdminPortPolicy fails id none = (.ok (), s')) :
    (∀ policy, s'.kv.policyOf id ≠ .ok (some policy)) ↔ ClearHolds fails id s := by
  obtain ⟨info, hinfo, -, hkv⟩ := clear_spec h
  unfold ClearHolds
  rw [hinfo, hkv]
  cases hpolicy : info.adminPortPolicy with
  | none =>
    rw [if_neg (by decide)]
    constructor
    · exact .inr
    · rintro (⟨info', policy, hsome, hset, -⟩ | hnone)
      · cases hsome
        rw [hpolicy] at hset
        cases hset
      · exact hnone
  | some old =>
    rw [if_pos Option.isSome_some]
    unfold KvStore.setInstancePortPolicyOverride
    cases hfails : fails .portPolicyOverride id with
    | none =>
      refine iff_of_true ?_ (.inl ⟨info, old, rfl, hpolicy, rfl⟩)
      intro policy hp
      unfold KvStore.policyOf at hp
      dsimp only at hp
      rw [BTreeMap.get?_insert_self] at hp
      cases hp
    | some e =>
      constructor
      · exact .inr
      · rintro (⟨_, _, _, _, hwritten⟩ | hnone)
        · cases hwritten
        · exact hnone

/-- A clear that gets through sticks: whatever happens to the gateway, as
long as nobody has a say about the override, the instance has none. And
no other clear does: the first reload that lets the record in and can read
the gate brings the override back. -/
theorem clear_sticks_iff (G : Setup) (now : SystemTime) (kv : KvStore) (ops : List Op)
    (fails : Faults) (id : String) (s' : ProxyState)
    (hclear : (run G (buildStateFromKvStore G now kv) ops).setAdminPortPolicy fails id none
      = (.ok (), s')) :
    let s := run G (buildStateFromKvStore G now kv) ops
    (ClearHolds fails id s →
      ∀ later, Along (step G) (fun s op => ¬op.WritesPolicy id s) s' later →
        ∀ info, (run G s' later).instances.get? id = some info → info.adminPortPolicy = none)
    ∧ ∀ (reloadAt : SystemTime) (fails' : Faults) (data : InstanceRecord) (ready : Option Bool),
        (acceptInstances G (s'.kv.migrateLegacyInstanceOverrides fails').loadAllInstances
          reloadAt).instances.get? id = some data →
        s'.kv.gateOf id = .ok ready →
        ((∀ info, (s'.reloadInstancesFromKvStore G reloadAt fails').instances.get? id = some info →
            info.adminPortPolicy = none)
          ↔ ClearHolds fails id s) := by
  intro s
  have hcoherent : s.Coherent := run_coherent G now kv ops
  have hcoherent' : s'.Coherent := by
    have h := step_coherent (G := G) hcoherent (.setAdminPortPolicy fails id none)
    rwa [show step G s (.setAdminPortPolicy fails id none) = s' from congrArg Prod.snd hclear] at h
  have hiff := clear_policyOf_iff hclear
  constructor
  · intro hholds later halong info hinfo
    obtain ⟨before, -, hinstances, -⟩ := clear_spec hclear
    have hcleared : Cleared id s' := by
      refine ⟨hiff.mpr hholds, fun info hinfo => ?_⟩
      rw [hinstances, BTreeMap.get?_insert_self] at hinfo
      cases hinfo
      rfl
    have hrun := halong.foldl (P := fun s => s.Coherent ∧ Cleared id s)
      (fun s op h hop => ⟨step_coherent h.1 op, step_cleared h.1 op hop h.2⟩)
      ⟨hcoherent', hcleared⟩
    exact hrun.2.table info hinfo
  · intro reloadAt fails' data ready hdata hgate
    rw [← hiff]
    obtain ⟨s₁, hinfo⟩ := (reload_get? G reloadAt fails' s').1 id data hdata
    have hread := recordInfo_overrides
      ((s'.kv.migrateLegacyInstanceOverrides fails').readOverrides id) data s₁ id
    rw [KvStore.readOverrides_migrate] at hinfo hread
    -- The gate is readable, so the policy is what the store answers.
    have hpolicy : (recordInfo (s'.kv.readOverrides id) id data s₁).adminPortPolicy
        = (readOut ((s'.kv.policyOf id).map fun policy => (policy, ready))).1 := by
      have hfst := congrArg Prod.fst hread
      nth_rewrite 2 [KvStore.readOverrides_eq] at hfst
      rwa [hgate] at hfst
    constructor
    · intro hnone policy hp
      rw [hp, hnone _ hinfo] at hpolicy
      cases hpolicy
    · intro hnone info hinfo'
      rw [hinfo] at hinfo'
      cases hinfo'
      rw [hpolicy]
      cases hp : s'.kv.policyOf id with
      | error e => rfl
      | ok policy =>
        cases policy with
        | none => rfl
        | some policy => exact absurd hp (hnone policy)

/-- A policy set and cleared here stays cleared. -/
theorem cleared_policy_stays_out :
    let G := sampleGateway ⟨sampleIp 0, 29⟩ false
    let kv := sampleStore [("a", sampleRecord 2 'B')]
    let ops := [Op.setAdminPortPolicy noFaults "a" (some ⟨.empty, true⟩)]
    let s := run G (buildStateFromKvStore G 0 kv) ops
    (s.instances.get? "a").bind (·.adminPortPolicy) = some ⟨.empty, true⟩
    ∧ ∀ info, (run G (s.setAdminPortPolicy noFaults "a" none).2
        [.reload 0 noFaults]).instances.get? "a" = some info → info.adminPortPolicy = none := by
  intro G kv ops s
  have hset : (s.instances.get? "a").bind (·.adminPortPolicy) = some ⟨.empty, true⟩ := by
    decide +kernel
  obtain ⟨info, hinfo, hpolicy⟩ := Option.bind_eq_some_iff.mp hset
  exact ⟨hset, (clear_sticks_iff G 0 kv ops noFaults "a" _ (clear_ok noFaults hinfo)).1
    (.inl ⟨info, _, hinfo, hpolicy, rfl⟩) [.reload 0 noFaults] ⟨id, trivial⟩⟩

/-- A store with a policy set for the instance `a`. -/
def overriddenStore : KvStore :=
  { sampleStore [("a", sampleRecord 2 'B')] with
    portPolicy := BTreeMap.empty.insert "a" (.ok (some ⟨.empty, true⟩)) }

/-- The table does not have the policy yet, so nothing is written, and
the next reload brings it in. -/
theorem unseen_policy_outlives_clear :
    ∃ (G : Setup) (now : SystemTime) (kv : KvStore) (ops : List Op) (fails : Faults)
      (id : String) (s' : ProxyState),
      (run G (buildStateFromKvStore G now kv) ops).setAdminPortPolicy fails id none = (.ok (), s')
      ∧ ∃ info policy, (s'.reloadInstancesFromKvStore G now fails).instances.get? id = some info
        ∧ info.adminPortPolicy = some policy := by
  let G := sampleGateway ⟨sampleIp 0, 29⟩ false
  let kv := sampleStore [("a", sampleRecord 2 'B')]
  let s := run G (buildStateFromKvStore G 0 kv) [.merge overriddenStore]
  let s' := (s.setAdminPortPolicy noFaults "a" none).2
  have hruns : (s.instances.get? "a").isSome = true
      ∧ ((s'.reloadInstancesFromKvStore G 0 noFaults).instances.get? "a").bind
        (·.adminPortPolicy) = some ⟨.empty, true⟩ := by decide +kernel
  obtain ⟨before, hbefore⟩ := Option.isSome_iff_exists.mp hruns.1
  obtain ⟨info, hinfo, hpolicy⟩ := Option.bind_eq_some_iff.mp hruns.2
  exact ⟨G, 0, kv, [.merge overriddenStore], noFaults, "a", s', clear_ok noFaults hbefore,
    info, _, hinfo, hpolicy⟩

-- == deletion

/-- The store answers with no override. -/
structure KvStore.Blank (id : String) (kv : KvStore) : Prop where
  gate : kv.gateOf id = .ok none
  policy : kv.policyOf id = .ok none

lemma KvStore.Blank.readOverrides {id : String} {kv : KvStore} (h : kv.Blank id) :
    kv.readOverrides id = .ok (none, none) := by
  rw [readOverrides_eq, h.gate, h.policy]
  rfl

/-- Once every key of an instance is deleted nothing is left to answer,
with what an older build left in the record gone along with it. -/
lemma KvStore.syncDeleteInstance_blank {id : String} (kv : KvStore)
    (hdeletes : ∀ key, fails key id = none) : (kv.syncDeleteInstance fails id).2.Blank id := by
  obtain ⟨hinst, hgate, hpolicy⟩ := syncDeleteInstance_keys fails kv id
  rw [hdeletes, if_pos Option.isNone_none] at hinst hgate hpolicy
  have hlegacy : (kv.syncDeleteInstance fails id).2.legacyOf id = none := by
    unfold legacyOf
    rw [hinst, BTreeMap.get?_erase_self]
    rfl
  constructor
  · unfold gateOf
    rw [hgate, BTreeMap.get?_erase_self, hlegacy]
    rfl
  · unfold policyOf
    rw [hpolicy, BTreeMap.get?_erase_self, hlegacy]
    rfl

lemma ProxyState.Frame.blank {id : String} (h : Frame id s s')
    (hs : s.kv.Blank id) : s'.kv.Blank id :=
  ⟨h.gate.elim (fun h => h.trans hs.gate) fun h => h,
    h.policy.elim (fun h => h.trans hs.policy) fun h => h⟩

/-- The table has no override for an instance. -/
def Default (id : String) (s : ProxyState) : Prop :=
  ∀ info, s.instances.get? id = some info → info.overrides = (none, none)

lemma ProxyState.Frame.default {id : String} (h : Frame id s s')
    (hblank : s.kv.Blank id) (hs : Default id s) : Default id s' := by
  intro info' hinfo'
  rcases h.table info' hinfo' with ⟨info, hinfo, hsame⟩ | hnone | hread
  · exact hsame.trans (hs info hinfo)
  · exact hnone
  · rw [hblank.readOverrides] at hread
    exact hread

/-- Nobody has a say about the overrides of an instance. -/
def Op.Silent (id : String) (s : ProxyState) (op : Op) : Prop :=
  ¬op.WritesPolicy id s ∧ ¬op.WritesGate id s

/-- What the store of a gateway is once the keys of an instance were
deleted, here or at another node, answers with no override however often
the id registers again and the table is reloaded. A node that has
forgotten the instance routes to it by none, and so does every node once
it lets a record of the id in. -/
theorem recycled_id_inherits_nothing (G : Setup) (now : SystemTime) (kv before : KvStore)
    (ops : List Op) (fails : Faults) (id : String) (hdeletes : ∀ key, fails key id = none)
    (hkv : (run G (buildStateFromKvStore G now kv) ops).kv
      = (before.syncDeleteInstance fails id).2)
    (later : List Op) :
    let s := run G (buildStateFromKvStore G now kv) ops
    let s' := run G s later
    Along (step G) (Op.Silent id) s later →
      s'.kv.readOverrides id = .ok (none, none)
      ∧ (s.instances.get? id = none → Default id s')
      ∧ ∀ (reloadAt : SystemTime) (fails' : Faults) (data : InstanceRecord),
          (acceptInstances G (s'.kv.migrateLegacyInstanceOverrides fails').loadAllInstances
            reloadAt).instances.get? id = some data →
          Default id (s'.reloadInstancesFromKvStore G reloadAt fails') := by
  intro s s' halong
  have hcoherent : s.Coherent := run_coherent G now kv ops
  have hblank : s.kv.Blank id := by
    rw [hkv]
    exact before.syncDeleteInstance_blank hdeletes
  have hblank' : s'.kv.Blank id :=
    (halong.foldl (P := fun s => s.Coherent ∧ s.kv.Blank id)
      (fun s op h hop => ⟨step_coherent h.1 op, (step_frame h.1 op hop.1 hop.2).blank h.2⟩)
      ⟨hcoherent, hblank⟩).2
  refine ⟨hblank'.readOverrides, ?_, ?_⟩
  · intro hgone
    have hdefault : Default id s := fun info hinfo => by
      rw [hgone] at hinfo
      cases hinfo
    exact (halong.foldl (P := fun s => s.Coherent ∧ s.kv.Blank id ∧ Default id s)
      (fun s op h hop => ⟨step_coherent h.1 op, (step_frame h.1 op hop.1 hop.2).blank h.2.1,
        (step_frame h.1 op hop.1 hop.2).default h.2.1 h.2.2⟩)
      ⟨hcoherent, hblank, hdefault⟩).2.2
  · intro reloadAt fails' data hdata info hinfo
    obtain ⟨s₁, hrecord⟩ := (reload_get? G reloadAt fails' s').1 id data hdata
    rw [hrecord] at hinfo
    cases hinfo
    rw [recordInfo_overrides, KvStore.readOverrides_migrate, hblank'.readOverrides]
    rfl

/-- A store with the instance `a` kept out of rotation by its own record. -/
def legacyStore : KvStore where
  inst := BTreeMap.empty.insert "a" ⟨.ok (sampleRecord 2 'B'), some ⟨none, some false⟩, true⟩

/-- A gate an older build left closed in a record goes with the record: the
id registers again and is routed to. -/
theorem deleted_gate_is_not_inherited :
    let G := sampleGateway ⟨sampleIp 0, 29⟩ false
    let ops := [Op.removeCvm noFaults "a"]
    let later := [Op.newClient 0 noFaults "a" "app" (sampleKey 'C') "" ⟨none, none⟩,
      .reload 0 noFaults]
    let s := run G (buildStateFromKvStore G 0 legacyStore) ops
    legacyStore.readOverrides "a" = .ok (none, some false)
    ∧ (run G s later).kv.readOverrides "a" = .ok (none, none) ∧ Default "a" (run G s later) := by
  intro G ops later s
  have hremoved : s = ((buildStateFromKvStore G 0 legacyStore).removeCvm noFaults "a").2 := rfl
  have hkv : s.kv = ((buildStateFromKvStore G 0 legacyStore).kv.syncDeleteInstance noFaults
      "a").2 := by
    rw [hremoved]
    exact removeCvm_kv _ _ _
  have hgone : s.instances.get? "a" = none := by
    rw [hremoved]
    exact removeCvm_gone _ rfl
  have hsilent : Along (step G) (Op.Silent "a") s later := ⟨⟨id, id⟩, ⟨id, id⟩, trivial⟩
  obtain ⟨hstore, htable, -⟩ := recycled_id_inherits_nothing G 0 legacyStore _ ops noFaults "a"
    (fun _ => rfl) hkv later hsilent
  exact ⟨rfl, hstore, htable hgone⟩

end Dstack.Gateway
