/-
An instance that comes back while a recycle is under way.

A recycle picks its instances with the times they registered, and removes
those that still have that time when it gets the lock again. An instance
that registers in between under the key it had keeps its time, and is
removed like one that never came back.
-/
import Dstack.Gateway.Proofs.Clearing
import Dstack.Gateway.Proofs.Removal

namespace Dstack.Gateway

open Lib ProxyState

variable {s s' : ProxyState} {id : String}

-- == the sweep

variable {fails : Faults}

lemma removeInstance_gone : (s.removeInstance fails id).2.instances.get? id = none := by
  refine removeInstance_rule (P := fun s => s.instances.get? id = none) ?_ fun _ h => h
  rw [forgetInstance_instances, BTreeMap.get?_erase_self]

lemma removeInstance_untouched {i : String} (hne : i ≠ id) :
    Untouched id s (s.removeInstance fails i).2 :=
  removeInstance_rule (forgetInstance_untouched hne) fun _ h => h.trans (syncDelete_untouched hne)

lemma recycle_none (fails : Faults) (stale : List (String × SystemTime))
    (h : s.instances.get? id = none) : (s.recycle fails stale).2.instances.get? id = none := by
  refine recycle_rule (P := fun s => s.instances.get? id = none) h ?_ fun _ _ _ h => h
  intro e _ s h
  rw [forgetInstance_instances]
  exact Option.eq_none_iff_forall_ne_some.mpr fun info hinfo =>
    Option.some_ne_none info ((BTreeMap.get?_erase_eq_some.mp hinfo).2.symm.trans h)

lemma recycle_some (fails : Faults) (stale : List (String × SystemTime)) {info : InstanceInfo}
    (h : s.instances.get? id = some info) :
    ((id, info.regTime) ∈ stale → (s.recycle fails stale).2.instances.get? id = none)
    ∧ ((id, info.regTime) ∉ stale → Untouched id s (s.recycle fails stale).2) := by
  rw [recycle_eq_foldl]
  induction stale generalizing s with
  | nil => exact ⟨fun hin => (by cases hin), fun _ => .refl s⟩
  | cons e stale ih =>
    rw [List.foldl_cons]
    by_cases hhit : e = (id, info.regTime)
    · -- This entry removes it, and nothing brings it back.
      subst hhit
      refine ⟨fun _ => ?_, fun hout => absurd List.mem_cons_self hout⟩
      have hone : s.recycleOne fails (id, info.regTime) = (s.removeInstance fails id).2 := by
        unfold recycleOne
        rw [h]
        exact if_pos (decide_eq_true rfl)
      rw [hone, ← recycle_eq_foldl]
      exact recycle_none fails stale removeInstance_gone
    · have hone : Untouched id s (s.recycleOne fails e) := by
        unfold recycleOne
        split
        · next hstill =>
            refine removeInstance_untouched fun hid => hhit ?_
            obtain ⟨other, hother, htime⟩ := (Option.any_eq_true _ _).mp hstill
            rw [hid, h] at hother
            cases hother
            exact Prod.ext hid (of_decide_eq_true htime).symm
        · exact .refl s
      obtain ⟨hgone, hkept⟩ := ih (hone.instances.trans h)
      refine ⟨fun hin => hgone ?_, fun hout => hone.trans (hkept fun hin => hout ?_)⟩
      · exact (List.mem_cons.mp hin).resolve_left fun heq => hhit heq.symm
      · exact List.mem_cons_of_mem _ hin

-- == registrations

/-- An operation registers an instance. -/
def Op.IsRegistration : Op → Prop
  | .registerCvm .. => True
  | .newClient .. => True
  | _ => False

/-- An operation registers the instance `id`, and is answered `Ok`. -/
def Op.Succeeds (G : Setup) (id : String) (fails : Faults) (s : ProxyState) : Op → Prop
  | .registerCvm now f down appId instanceId clientPublicKey composeHash reported =>
    instanceId = id ∧ f = fails ∧ ∃ info, (s.doRegisterCvm G now f down appId instanceId
      clientPublicKey composeHash reported).1 = .ok info
  | .newClient now f i appId publicKey composeHash reported =>
    i = id ∧ f = fails ∧ ∃ info,
      (s.newClientById G now f i appId publicKey composeHash reported).1 = .ok info
  | _ => False

/-- The key and the time with which an operation registers an instance. -/
def Op.registers (id : String) : Op → Option (String × SystemTime)
  | .registerCvm now _ _ _ instanceId clientPublicKey _ _ =>
    if instanceId = id then some (clientPublicKey, now) else none
  | .newClient now _ i _ publicKey _ _ => if i = id then some (publicKey, now) else none
  | _ => none

lemma KvStore.syncInstance_recorded {kv : KvStore} {i id : String}
    {data : InstanceRecord} (h : kv.inst.get? id ≠ none) :
    (kv.syncInstance fails i data).2.inst.get? id ≠ none := by
  unfold syncInstance
  cases fails .inst i with
  | some e => exact h
  | none =>
    dsimp only
    rw [BTreeMap.get?_insert]
    split
    · exact Option.some_ne_none _
    · exact h

lemma KvStore.syncInstance_written {kv : KvStore} {id : String}
    {data : InstanceRecord} (h : fails .inst id = none) :
    (kv.syncInstance fails id data).2.inst.get? id ≠ none := by
  unfold syncInstance
  rw [h]
  dsimp only
  rw [BTreeMap.get?_insert_self]
  exact Option.some_ne_none _

/-- An instance is in the table, and in the store if it was written. -/
structure Known (id : String) (written : Prop) (s : ProxyState) : Prop where
  table : s.instances.get? id ≠ none
  record : written → s.kv.inst.get? id ≠ none

variable {G : Setup}

lemma registers_known {q : Request} {r : Result InstanceInfo} {written : Prop} (hs : s.Coherent)
    (hknown : Known id written s) (h : Registers G q s (r, s')) : Known id written s' := by
  rcases registers_settles hs h with ⟨rfl, -⟩ | ⟨info, -, hsettles, hkv⟩
  · exact hknown
  · constructor
    · by_cases hid : id = q.id
      · rw [hid, hsettles.self]
        exact Option.some_ne_none _
      · rw [hsettles.others hid]
        exact hknown.table
    · intro hwritten
      rcases hkv with ⟨hkv, -⟩ | hkv
      · rw [hkv]
        exact hknown.record hwritten
      · rw [hkv]
        exact KvStore.syncInstance_recorded (hknown.record hwritten)

lemma step_known {written : Prop} (hs : s.Coherent) {op : Op}
    (hop : op.IsRegistration) (hknown : Known id written s) : Known id written (step G s op) := by
  cases op with
  | registerCvm =>
    exact doRegisterCvm_rule hknown (registers_known hs hknown newClientById_registers)
  | newClient => exact registers_known hs hknown newClientById_registers
  | _ => exact hop.elim

lemma registers_ok {q : Request} {info : InstanceInfo} (hs : s.Coherent)
    (h : Registers G q s (.ok info, s')) : Known q.id (q.fails .inst q.id = none) s' := by
  rcases registers_settles hs h with ⟨-, e, he⟩ | ⟨info, -, hsettles, ⟨-, e, he⟩ | hkv⟩
  · cases he
  · cases he
  · refine ⟨?_, fun hwritten => ?_⟩
    · rw [hsettles.self]
      exact Option.some_ne_none _
    · rw [hkv]
      exact KvStore.syncInstance_written hwritten

lemma registerEdit_regTime (now : SystemTime) (publicKey composeHash : String)
    (reported : ReportedCapabilities) (before : InstanceInfo) :
    (registerEdit now publicKey composeHash reported before).regTime
      = if before.publicKey = publicKey then before.regTime else now := by
  have hpolicy (info : InstanceInfo) : (renewPolicy composeHash reported info).regTime
      = info.regTime := by
    unfold renewPolicy
    dsimp only
    split <;> split <;> rfl
  unfold registerEdit
  rw [hpolicy]
  unfold renewKey
  by_cases h : before.publicKey = publicKey <;> simp [h]

/-- A known instance keeps the time it has registered at, unless it has
another key or must move. -/
lemma registers_regTime {q : Request} {info before : InstanceInfo} (hs : s.Coherent)
    (hbefore : s.instances.get? q.id = some before) (h : Registers G q s (.ok info, s')) :
    (s'.instances.get? q.id).map (·.regTime) = some
      (if before.publicKey = q.publicKey ∧ validIp G before.ip = true then before.regTime
        else q.now) := by
  rcases h with _ | @⟨before', hbefore', hip⟩ | @⟨before', ip, hbefore', hip, hfree⟩ | _ |
    @⟨ip, hnew, hfree⟩
  · rw [hbefore] at hbefore'
    cases hbefore'
    show ((s.instances.insert q.id _).get? q.id).map _ = _
    rw [BTreeMap.get?_insert_self, hip]
    exact congrArg some ((registerEdit_regTime _ _ _ _ before).trans (by simp))
  · rw [hbefore] at hbefore'
    cases hbefore'
    have hid : (q.host ip s.nextCounter (some (q.renew before))).id = q.id := hs.renew_id hbefore
    show (((s.instances.insert q.id _).insert _ _).get? q.id).map _ = _
    rw [hid, BTreeMap.get?_insert_self, if_neg (by simp [hip])]
    rfl
  · rw [hbefore] at hnew
    cases hnew

lemma step_unregistered (hs : s.Coherent) {op : Op} (hop : op.IsRegistration)
    (h : op.registers id = none) : (step G s op).instances.get? id = s.instances.get? id := by
  have hothers {q : Request} {r : Result InstanceInfo} {s' : ProxyState}
      (hr : Registers G q s (r, s')) (hne : q.id ≠ id) :
      s'.instances.get? id = s.instances.get? id := by
    rcases registers_settles hs hr with ⟨rfl, -⟩ | ⟨info, -, hsettles, -⟩
    · rfl
    · exact hsettles.others hne.symm
  cases op with
  | registerCvm =>
    exact doRegisterCvm_rule (P := fun s' => s'.instances.get? id = s.instances.get? id) rfl
      (hothers newClientById_registers (by simpa [Op.registers] using h))
  | newClient => exact hothers newClientById_registers (by simpa [Op.registers] using h)
  | _ => exact hop.elim

lemma doRegisterCvm_ok {now : SystemTime} {down : Bool}
    {appId instanceId clientPublicKey composeHash : String} {reported : ReportedCapabilities}
    {info : InstanceInfo}
    (h : (s.doRegisterCvm G now fails down appId instanceId clientPublicKey composeHash
      reported).1 = .ok info) :
    s.newClientById G now fails instanceId appId clientPublicKey composeHash reported
      = (.ok info, (s.doRegisterCvm G now fails down appId instanceId clientPublicKey composeHash
        reported).2) := by
  unfold doRegisterCvm at h ⊢
  by_cases hdown : down = true
  · rw [if_pos hdown] at h
    cases h
  rw [if_neg hdown] at h ⊢
  by_cases happ : appId = ""
  · rw [if_pos happ] at h
    cases h
  rw [if_neg happ] at h ⊢
  by_cases hid : instanceId = ""
  · rw [if_pos hid] at h
    cases h
  rw [if_neg hid] at h ⊢
  cases hkey : (validateWgPublicKey G clientPublicKey).context
      ("[" ++ instanceId ++ "] invalid client public key") with
  | error e =>
    rw [hkey] at h
    cases h
  | ok u =>
    rw [hkey] at h
    exact Prod.ext (context_eq_ok.mp h) rfl

lemma Op.Succeeds.registers {op : Op} (h : op.Succeeds G id fails s) :
    ∃ q info, q.id = id ∧ q.fails = fails ∧ op.registers id = some (q.publicKey, q.now)
      ∧ Registers G q s (.ok info, step G s op) := by
  cases op with
  | registerCvm now f down appId instanceId clientPublicKey composeHash reported =>
    obtain ⟨rfl, rfl, info, hok⟩ := h
    have hregisters :
        Registers G ⟨now, f, instanceId, appId, clientPublicKey, composeHash, reported⟩ s _ :=
      newClientById_registers
    rw [doRegisterCvm_ok hok] at hregisters
    exact ⟨_, info, rfl, rfl, by simp [Op.registers], hregisters⟩
  | newClient now f i appId publicKey composeHash reported =>
    obtain ⟨rfl, rfl, info, hok⟩ := h
    have hregisters : Registers G ⟨now, f, i, appId, publicKey, composeHash, reported⟩ s _ :=
      newClientById_registers
    rw [show s.newClientById G now f i appId publicKey composeHash reported
      = (.ok info, _) from Prod.ext hok rfl] at hregisters
    exact ⟨_, info, rfl, rfl, by simp [Op.registers], hregisters⟩
  | _ => exact h.elim

-- == recycles

/-- An instance is in the table and in the store. -/
def Node.Live (id : String) (w : Node) : Prop :=
  w.state.instances.get? id ≠ none ∧ w.state.kv.inst.get? id ≠ none

lemma run_ops_recycles (G : Setup) (w : Node) (ops : List Op) :
    (w.run G (ops.map .op)).recycles = w.recycles := by
  induction ops generalizing w with
  | nil => rfl
  | cons op ops ih => exact ih (w.step G (.op op))

lemma run_ops_state (G : Setup) (w : Node) (ops : List Op) :
    (w.run G (ops.map .op)).state = run G w.state ops := by
  induction ops generalizing w with
  | nil => rfl
  | cons op ops ih => exact ih (w.step G (.op op))

/-- An instance that registers after a recycle has picked the stale ones is
in the table and in the store when it is through, exactly if it was not
picked with the time it is registered with by then, and its record is
there; which it is once it was written. If it registers once, the time is
that of its earlier registration, or of this one when it came with another
key or had to move. -/
theorem returning_survives_iff (G : Setup) (now : SystemTime) (kv : KvStore)
    (events : List NodeEvent) (pass : Nat) (scanAt seenAt : SystemTime)
    (lastSeen : String → Option Nat) (before after : List Op) (registration : Op)
    (fails fails' : Faults) (id : String) :
    let w := (Node.start G now kv).run G events
    let picked := w.state.staleInstances G scanAt seenAt lastSeen
    let scanned := w.step G (.scan pass scanAt seenAt lastSeen)
    let returned := scanned.run G ((before ++ registration :: after).map .op)
    let done := returned.step G (.sweep pass fails')
    w.recycles.get? pass = none →
    (∀ op ∈ before ++ after, op.IsRegistration) →
    registration.Succeeds G id fails (scanned.run G (before.map .op)).state →
      (done.Live id
        ↔ (∀ info, returned.state.instances.get? id = some info → (id, info.regTime) ∉ picked)
          ∧ returned.state.kv.inst.get? id ≠ none)
      ∧ (fails .inst id = none → returned.state.kv.inst.get? id ≠ none)
      ∧ ∀ old publicKey at', (scanned.run G (before.map .op)).state.instances.get? id = some old →
        registration.registers id = some (publicKey, at') →
        (∀ op ∈ after, op.registers id = none) →
          (returned.state.instances.get? id).map (·.regTime) = some
            (if old.publicKey = publicKey ∧ validIp G old.ip = true then old.regTime
              else at') := by
  intro w picked scanned returned done hidle hothers hsucceeds
  have hscanned : scanned.Sound := (Node.step_takes G w _).sound
    (Node.run_sound (Node.start_sound G now kv) events)
  have hbefore : (run G scanned.state before).Coherent :=
    List.foldlRecOn before (step G) hscanned.coherent fun s hs op _ => step_coherent hs op
  have hreturned : returned.state
      = run G (step G (run G scanned.state before) registration) after := by
    rw [run_ops_state]
    exact List.foldl_append
  rw [run_ops_state] at hsucceeds
  obtain ⟨q, _, rfl, rfl, hregisters, hends⟩ := hsucceeds.registers
  have hafter : (step G (run G scanned.state before) registration).Coherent :=
    step_coherent hbefore registration
  -- The registration makes the instance known, and the later ones leave it so.
  have hknown : Known q.id (q.fails .inst q.id = none) returned.state := by
    rw [hreturned]
    refine (List.foldlRecOn (motive := fun s => s.Coherent ∧ Known q.id _ s) after (step G)
      ⟨hafter, registers_ok hbefore hends⟩ ?_).2
    intro s hs op hop
    exact ⟨step_coherent hs.1 op, step_known hs.1 (hothers op (List.mem_append_right _ hop)) hs.2⟩
  have hpicked : returned.recycles.get? pass = some picked := by
    have hscan : scanned = _ := Node.step_scan scanAt seenAt lastSeen hidle
    rw [run_ops_recycles, hscan]
    exact BTreeMap.get?_insert_self _ _ _
  have hdone : done.state = (returned.state.recycle fails' picked).2 :=
    congrArg Node.state (Node.step_sweep fails' hpicked)
  obtain ⟨info, hinfo⟩ := Option.ne_none_iff_exists'.mp hknown.table
  obtain ⟨hgone, hkept⟩ := recycle_some fails' picked hinfo
  unfold Node.Live
  rw [hdone]
  refine ⟨⟨?_, ?_⟩, hknown.record, ?_⟩
  · rintro ⟨htable, hrecord⟩
    have hout : (q.id, info.regTime) ∉ picked := fun hin => htable (hgone hin)
    refine ⟨fun info' hinfo' => ?_, ?_⟩
    · rw [hinfo] at hinfo'
      cases hinfo'
      exact hout
    · rwa [(hkept hout).keys.inst] at hrecord
  · rintro ⟨hout, hrecord⟩
    have huntouched := hkept (hout info hinfo)
    rw [huntouched.instances, huntouched.keys.inst]
    exact ⟨hknown.table, hrecord⟩
  · intro old publicKey at' hold hkey hlater
    rw [run_ops_state] at hold
    cases hregisters.symm.trans hkey
    rw [hreturned, ← registers_regTime hbefore hold hends]
    refine congrArg _ (List.foldlRecOn (motive := fun s' => s'.Coherent ∧ s'.instances.get? q.id
      = (step G (run G scanned.state before) registration).instances.get? q.id)
      after (step G) ⟨hafter, rfl⟩ ?_).2
    intro s hs op hop
    refine ⟨step_coherent hs.1 op, (step_unregistered hs.1 ?_ (hlater op hop)).trans hs.2⟩
    exact hothers op (List.mem_append_right _ hop)

/-- One instance, registered when the node started. -/
def registeredLongAgo : List NodeEvent :=
  [.op (.newClient 0 noFaults "a" "app" (sampleKey 'B') "" ⟨none, none⟩)]

/-- It comes back with a new key while a recycle is under way. -/
theorem new_key_survives_recycle :
    let G := sampleGateway ⟨sampleIp 0, 29⟩ false
    let hour := 3600 * nanosPerSec
    let w := (Node.start G 0 {}).run G registeredLongAgo
    let returning := .newClient (hour + 1) noFaults "a" "app" (sampleKey 'C') "" ⟨none, none⟩
    let returned := (w.step G (.scan 0 hour hour fun _ => none)).run G [.op returning]
    let done := returned.step G (.sweep 0 noFaults)
    ("a", 0) ∈ w.state.staleInstances G hour hour (fun _ => none)
    ∧ (returned.state.instances.get? "a").map (·.regTime) = some (hour + 1)
    ∧ done.Live "a" := by
  intro G hour w returning returned done
  have hruns : ("a", 0) ∈ w.state.staleInstances G hour hour (fun _ => none)
      ∧ ("a", hour + 1) ∉ w.state.staleInstances G hour hour (fun _ => none)
      ∧ (w.state.newClientById G (hour + 1) noFaults "a" "app" (sampleKey 'C') ""
        ⟨none, none⟩).1.isOk = true
      ∧ (w.state.instances.get? "a").map (·.publicKey) = some (sampleKey 'B') := by
    decide +kernel
  obtain ⟨hpicked, hout, hok, hold⟩ := hruns
  obtain ⟨old, hold, hkey⟩ := Option.map_eq_some_iff.mp hold
  obtain ⟨hiff, hwritten, htime⟩ := returning_survives_iff G 0 {} registeredLongAgo 0 hour hour
    (fun _ => none) [] [] returning noFaults noFaults "a" rfl (fun op hop => by cases hop)
    ⟨rfl, rfl, Result.exists_of_isOk hok⟩
  have htime : (returned.state.instances.get? "a").map (·.regTime) = some (hour + 1) := by
    refine (htime old (sampleKey 'C') (hour + 1) hold rfl fun op hop => by cases hop).trans ?_
    rw [hkey, if_neg fun h => absurd h.1 (by decide)]
  refine ⟨hpicked, htime, hiff.mpr ⟨fun info hinfo hin => hout ?_, hwritten rfl⟩⟩
  rw [show returned.state.instances.get? "a" = some info from hinfo] at htime
  rwa [← Option.some.inj htime]

/-- With the key it had, it is removed. -/
theorem same_key_is_recycled :
    ∃ (G : Setup) (now : SystemTime) (kv : KvStore) (events : List NodeEvent) (pass : Nat)
      (scanAt seenAt : SystemTime) (lastSeen : String → Option Nat) (registration : Op)
      (fails fails' : Faults) (id : String),
      let w := (Node.start G now kv).run G events
      let scanned := w.step G (.scan pass scanAt seenAt lastSeen)
      w.recycles.get? pass = none
      ∧ registration.Succeeds G id fails scanned.state
      ∧ (∀ key i, fails key i = none)
      ∧ ¬((scanned.run G [.op registration]).step G (.sweep pass fails')).Live id := by
  let G := sampleGateway ⟨sampleIp 0, 29⟩ false
  let hour := 3600 * nanosPerSec
  let w := (Node.start G 0 {}).run G registeredLongAgo
  let scanned := w.step G (.scan 0 hour hour fun _ => none)
  let returning := Op.newClient (hour + 1) noFaults "a" "app" (sampleKey 'B') "" ⟨none, none⟩
  let done := (scanned.run G [.op returning]).step G (.sweep 0 noFaults)
  have hruns : (scanned.state.newClientById G (hour + 1) noFaults "a" "app" (sampleKey 'B') ""
        ⟨none, none⟩).1.isOk = true
      ∧ (done.state.instances.get? "a").isNone = true := by decide +kernel
  have hgone : ¬done.Live "a" := fun hlive => hlive.1 (Option.isNone_iff_eq_none.mp hruns.2)
  exact ⟨G, 0, {}, registeredLongAgo, 0, hour, hour, fun _ => none, returning, noFaults, noFaults,
    "a", rfl, ⟨rfl, rfl, Result.exists_of_isOk hruns.1⟩, fun _ _ => rfl, hgone⟩

end Dstack.Gateway
