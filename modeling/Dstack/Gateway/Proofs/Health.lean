/-
Gates and verdicts.

An instance that did not ask to be polled reads as ungated, and one that
did never does. Registrations, reloads and removals keep this by
themselves: what they leave is either the initial state of a declaration,
or the health an instance of the same id and key had before
(`VerdictsFrom`). One relation covers them all, because it composes.

The poller is the other writer. It compares the key and the address of
what it finds with what it asked, and not the declaration. An instance
that withdraws its declaration while it is being asked keeps both, so the
answer lands on it: it is out of rotation, nobody asks it again, and every
reload hands the verdict on. `StillGated` is what is missing.
-/
import Dstack.Gateway.HealthCheck
import Dstack.Gateway.Proofs.Removal

namespace Dstack.Gateway

open Lib ProxyState

-- == the property

/-- Ungated is what an instance reads as that did not ask to be polled, and
no other. -/
def Health.Agrees (h : Health) : Prop :=
  (h.gated = false → h.state = .ungated) ∧ (h.gated = true → h.state ≠ .ungated)

/-- Every instance of the table reads as it asked. -/
def ProxyState.GatesAgree (s : ProxyState) : Prop :=
  ∀ id info, s.instances.get? id = some info → info.health.Agrees

/-- Nothing was observed yet. -/
def Health.Fresh (h : Health) : Prop := h = .ofBool h.gated

lemma Health.Fresh.agrees {h : Health} (hh : h.Fresh) : h.Agrees := by
  obtain ⟨gated, state⟩ := h
  have hstate : state = .initial gated := congrArg Health.state hh
  subst hstate
  cases gated
  · exact ⟨fun _ => rfl, fun h => (by cases h)⟩
  · exact ⟨fun h => (by cases h), fun _ h => (by cases h)⟩

/-- What a table says about the health of instances it has from another:
nothing that was observed is about another id or key. -/
def VerdictsFrom (before after : BTreeMap String InstanceInfo) : Prop :=
  ∀ id info, after.get? id = some info → info.health.Fresh
    ∨ ∃ known, before.get? id = some known ∧ known.publicKey = info.publicKey
      ∧ known.health = info.health

lemma VerdictsFrom.refl (m : BTreeMap String InstanceInfo) : VerdictsFrom m m :=
  fun _ info h => .inr ⟨info, h, rfl, rfl⟩

lemma VerdictsFrom.trans {m m' m'' : BTreeMap String InstanceInfo} (h : VerdictsFrom m m')
    (h' : VerdictsFrom m' m'') : VerdictsFrom m m'' := by
  intro id info hinfo
  rcases h' id info hinfo with hfresh | ⟨known, hknown, hkey, hhealth⟩
  · exact .inl hfresh
  · rcases h id known hknown with hfresh | ⟨first, hfirst, hkey', hhealth'⟩
    · exact .inl (hhealth ▸ hfresh)
    · exact .inr ⟨first, hfirst, hkey'.trans hkey, hhealth'.trans hhealth⟩

variable {s : ProxyState}

lemma VerdictsFrom.gatesAgree {s' : ProxyState} (h : VerdictsFrom s.instances s'.instances)
    (hs : s.GatesAgree) : s'.GatesAgree := by
  intro id info hinfo
  rcases h id info hinfo with hfresh | ⟨known, hknown, -, hhealth⟩
  · exact hfresh.agrees
  · exact hhealth ▸ hs id known hknown

lemma VerdictsFrom.erase (m : BTreeMap String InstanceInfo) (id : String) :
    VerdictsFrom m (m.erase id) := by
  intro id' info h
  exact .inr ⟨info, (BTreeMap.get?_erase_eq_some.mp h).2, rfl, rfl⟩

lemma VerdictsFrom.insert {m : BTreeMap String InstanceInfo} {id : String} {info : InstanceInfo}
    (h : info.health.Fresh ∨ ∃ known, m.get? id = some known
      ∧ known.publicKey = info.publicKey ∧ known.health = info.health) :
    VerdictsFrom m (m.insert id info) := by
  intro id' info' hinfo'
  rcases BTreeMap.get?_insert_eq_some.mp hinfo' with ⟨rfl, rfl⟩ | ⟨-, hinfo'⟩
  · exact h
  · exact .inr ⟨info', hinfo', rfl, rfl⟩

-- == the writers

lemma Health.forget_fresh (h : Health) : h.forget.Fresh := rfl

lemma Health.declare_cases (h : Health) (gated : Bool) :
    (h.declare gated).Fresh ∨ h.declare gated = h := by
  unfold Health.declare
  split
  · exact .inl rfl
  · exact .inr rfl

lemma Health.declare_fresh {h : Health} (hh : h.Fresh) (gated : Bool) :
    (h.declare gated).Fresh := by
  rcases Health.declare_cases h gated with hfresh | heq
  · exact hfresh
  · rw [heq]
    exact hh

lemma registerEdit_health (now : SystemTime) (publicKey composeHash : String)
    (reported : ReportedCapabilities) (before : InstanceInfo) :
    let info := registerEdit now publicKey composeHash reported before
    info.publicKey = publicKey
    ∧ (info.health.Fresh ∨ before.publicKey = info.publicKey ∧ before.health = info.health) := by
  have hpolicy : ∀ i : InstanceInfo, (renewPolicy composeHash reported i).publicKey = i.publicKey
      ∧ (renewPolicy composeHash reported i).health = i.health := by
    intro i
    unfold renewPolicy
    dsimp only
    split <;> split <;> exact ⟨rfl, rfl⟩
  obtain ⟨hkey, hhealth⟩ := hpolicy (renewKey now publicKey reported before)
  dsimp only [registerEdit]
  rw [hkey, hhealth]
  unfold renewKey
  dsimp only
  by_cases hchanged : before.publicKey ≠ publicKey
  · rw [if_pos hchanged, if_pos hchanged]
    exact ⟨rfl, .inl (Health.declare_fresh before.health.forget_fresh _)⟩
  · rw [if_neg hchanged, if_neg hchanged]
    have hsame : before.publicKey = publicKey := of_not_not hchanged
    rcases Health.declare_cases before.health
        (reported.healthCheck.getD before.healthCheck) with hfresh | heq
    · exact ⟨hsame, .inl hfresh⟩
    · exact ⟨hsame, .inr ⟨rfl, heq.symm⟩⟩

lemma ProxyState.Written.health {q : Request} {info : InstanceInfo} (h : Written q s info) :
    info.health.Fresh ∨ ∃ known, s.instances.get? q.id = some known
      ∧ known.publicKey = info.publicKey ∧ known.health = info.health := by
  cases h with
  | @renewed before hbefore =>
    exact (registerEdit_health _ _ _ _ before).2.imp_right fun h => ⟨before, hbefore, h⟩
  | @moved before _ hbefore =>
    obtain ⟨hkey, hhealth⟩ :=
      registerEdit_health q.now q.publicKey q.composeHash q.reported before
    rw [hkey] at hhealth
    exact hhealth.imp_right fun h => ⟨before, hbefore, h⟩
  | first hnew => exact .inl rfl

lemma registers_verdictsFrom {G : Setup} {q : Request} {r : Result InstanceInfo}
    {s' : ProxyState} (hs : s.Coherent) (h : Registers G q s (r, s')) :
    VerdictsFrom s.instances s'.instances := by
  rcases registers_settles hs h with ⟨rfl, -⟩ | ⟨info, hwritten, hsettles, -⟩
  · exact .refl _
  · rw [hsettles.instances]
    exact .insert hwritten.health

lemma recordInfo_health (overrides : Result (Option PortPolicy × Option Bool)) (id : String)
    (data : InstanceRecord) (s : ProxyState) :
    (s.recordInfo overrides id data).health.Fresh
    ∨ ∃ known, s.instances.get? id = some known
      ∧ known.publicKey = (s.recordInfo overrides id data).publicKey
      ∧ known.health = (s.recordInfo overrides id data).health := by
  unfold recordInfo
  cases s.instances.get? id with
  | none => exact .inl rfl
  | some known =>
    dsimp only
    unfold InstanceInfo.inheritHealthFrom
    split
    · rename_i hsame
      refine .inr ⟨known, rfl, hsame.2.symm, ?_⟩
      have hgated : known.health.gated = _ := hsame.1.symm
      exact congrArg (Health.mk · known.health.state) hgated
    · exact .inl rfl

lemma applyRecord_verdictsFrom (overrides : Result (Option PortPolicy × Option Bool))
    (id : String) (data : InstanceRecord) (s : ProxyState) :
    VerdictsFrom s.instances (s.applyRecord overrides id data).instances := by
  rw [applyRecord_instances]
  exact .insert (recordInfo_health overrides id data s)

lemma forgetInstance_verdictsFrom (id : String) (s : ProxyState) :
    VerdictsFrom s.instances (s.forgetInstance id).2.instances := by
  rw [forgetInstance_instances]
  exact .erase _ _

lemma applySnapshot_verdictsFrom (now : SystemTime) (snap : Snapshot) (s : ProxyState) :
    VerdictsFrom s.instances (s.applySnapshot now snap).instances :=
  applySnapshot_rule (P := fun s' => VerdictsFrom s.instances s'.instances) (.refl _)
    (fun s id h => h.trans (forgetInstance_verdictsFrom id s))
    fun s id data _ h => h.trans (applyRecord_verdictsFrom (snap.overrides id) id data s)

lemma recycle_verdictsFrom (fails : Faults) (stale : List (String × SystemTime))
    (s : ProxyState) : VerdictsFrom s.instances (s.recycle fails stale).2.instances :=
  recycle_rule (P := fun s' => VerdictsFrom s.instances s'.instances) (.refl _)
    (fun e _ s h => h.trans (forgetInstance_verdictsFrom e.1 s)) fun _ _ _ h => h

lemma step_verdictsFrom {G : Setup} (hs : s.Coherent) {op : Op}
    (hop : (NodeEvent.op op).records = false) :
    VerdictsFrom s.instances (step G s op).instances := by
  let P (s' : ProxyState) : Prop := VerdictsFrom s.instances s'.instances
  cases op with
  | registerCvm =>
    exact doRegisterCvm_rule (P := P) (.refl _)
      (registers_verdictsFrom hs newClientById_registers)
  | newClient => exact registers_verdictsFrom hs newClientById_registers
  | reload now => exact reload_rule (P := P) (applySnapshot_verdictsFrom now _ _)
  | merge kv => exact .refl _
  | removeCvm _ id =>
    exact removeCvm_rule (P := P) (.refl _)
      fun s h => VerdictsFrom.trans h (forgetInstance_verdictsFrom id s)
  | recycle fails stale => exact recycle_verdictsFrom fails stale s
  | setReady =>
    exact setReady_rule (P := P) (.refl _)
      (fun before hbefore => .insert (.inr ⟨before, hbefore, rfl, rfl⟩)) fun _ _ h => h
  | recordHealth => cases hop
  | updatePortPolicy =>
    exact updateInstancePortPolicy_rule (P := P) (.refl _)
      fun before hbefore => .insert (.inr ⟨before, hbefore, rfl, rfl⟩)
  | setAdminPortPolicy =>
    exact setAdminPortPolicy_rule (P := P) (.refl _)
      fun before _ hbefore _ => .insert (.inr ⟨before, hbefore, rfl, rfl⟩)
  | select => exact selectTopNHosts_rule (P := P) fun _ _ _ => .refl _

lemma Node.Takes.verdictsFrom {G : Setup} {w w' : Node} {e : NodeEvent}
    (h : Node.Takes G w e w') (hw : w.state.Coherent) (he : e.records = false) :
    VerdictsFrom w.state.instances w'.state.instances := by
  cases h with
  | op op => exact step_verdictsFrom hw he
  | idle => exact .refl _
  | load h => exact .refl _
  | apply h => exact applySnapshot_verdictsFrom _ _ _
  | scan h => exact .refl _
  | sweep h => exact recycle_verdictsFrom _ _ _

-- == the poller

/-- An instance is the boot that was asked. -/
def Target.Is (target : Target) (info : InstanceInfo) : Prop :=
  info.publicKey = target.publicKey ∧ info.ip = target.ip

instance (target : Target) (info : InstanceInfo) : Decidable (target.Is info) :=
  inferInstanceAs (Decidable (_ ∧ _))

variable {target : Target}

lemma recordInstanceHealth_is {info : InstanceInfo}
    (state : HealthState) (hinfo : s.instances.get? target.id = some info)
    (his : target.Is info) :
    (s.recordInstanceHealth target.id target.ip target.publicKey state).instances
      = s.instances.insert target.id { info with health := info.health.observe state } := by
  unfold recordInstanceHealth
  rw [editInstance_some (recordHealth_keeps target.ip target.publicKey state) hinfo]
  show s.instances.insert target.id _ = _
  congr 1
  have hmatch : ¬(info.publicKey ≠ target.publicKey ∨ info.ip ≠ target.ip) := by
    rintro (hkey | hip)
    · exact hkey his.1
    · exact hip his.2
  rw [if_neg hmatch]
  by_cases hstate : info.health.state = state
  · rw [if_neg (not_not.mpr hstate), ← hstate]
    rfl
  · rw [if_pos hstate]

lemma recordInstanceHealth_not (state : HealthState)
    (h : ∀ info, s.instances.get? target.id = some info → ¬target.Is info) :
    (s.recordInstanceHealth target.id target.ip target.publicKey state).instances
      = s.instances := by
  unfold recordInstanceHealth
  cases hinfo : s.instances.get? target.id with
  | none => rw [editInstance_none hinfo]
  | some info =>
    rw [editInstance_some (recordHealth_keeps target.ip target.publicKey state) hinfo]
    have hdiffers : info.publicKey ≠ target.publicKey ∨ info.ip ≠ target.ip := by
      by_contra hsame
      rw [not_or, not_ne_iff, not_ne_iff] at hsame
      exact h info hinfo hsame
    show s.instances.insert target.id _ = _
    rw [if_pos hdiffers]
    exact BTreeMap.insert_eq_self.mpr hinfo

variable {result : PollResult}

lemma applyHysteresis_state {config : HealthCheckConfig} {failures : Failures} {o : Observation}
    (h : (applyHysteresis result target config failures).1 = some o) : o.state ≠ .ungated := by
  unfold applyHysteresis at h
  cases result with
  | healthy =>
    cases h
    decide
  | unhealthy reason =>
    cases h
    exact HealthState.noConfusion
  | unreachable reason =>
    dsimp only at h
    split at h
    · cases h
    · cases h
      exact HealthState.noConfusion

namespace HealthRun

variable {G : Setup} {config : HealthCheckConfig} {w : HealthRun} {e : HealthEvent}

/-- An event is the answer of a boot in flight. -/
def Answers (w : HealthRun) (e : HealthEvent) (target : Target) : Prop :=
  ∃ index result round, e = .answer index result ∧ w.poller.round = some round
    ∧ round.inFlight[index]? = some target

/-- What an event leaves observed was observed before, of the same id and
key, or is the answer of that very boot, which is gated. -/
def OnPolledBoot (G : Setup) (config : HealthCheckConfig) (w : HealthRun)
    (e : HealthEvent) : Prop :=
  ∀ id info, (w.step G config e).table.instances.get? id = some info →
    info.health.Fresh
    ∨ (∃ known, w.table.instances.get? id = some known ∧ known.publicKey = info.publicKey
      ∧ known.health = info.health)
    ∨ ∃ target, w.Answers e target ∧ target.id = id ∧ target.Is info ∧ info.healthCheck = true

/-- An answer that lands does so on an instance that still asks to be
polled. -/
def StillGated (config : HealthCheckConfig) (w : HealthRun) : HealthEvent → Prop
  | .answer index result =>
    ∀ target o poller, w.poller.land config index result = some (target, some o, poller) →
      ∀ info, w.table.instances.get? target.id = some info → target.Is info →
        info.healthCheck = true
  | _ => True

lemma step_answer_none {index : Nat} (h : w.poller.land config index result = none) :
    w.step G config (.answer index result) = w := by
  simp only [step, h]

lemma step_answer {index : Nat} {o : Option Observation} {poller : Poller}
    (h : w.poller.land config index result = some (target, o, poller)) :
    w.step G config (.answer index result) = { w with poller }.record target o := by
  simp only [step, h]

lemma land_eq_some {p : Poller} {index : Nat} {o : Option Observation} {p' : Poller}
    (h : p.land config index result = some (target, o, p')) :
    ∃ round, p.round = some round ∧ round.inFlight[index]? = some target
      ∧ (applyHysteresis result target config p.failures).1 = o := by
  unfold Poller.land at h
  obtain ⟨round, hround, h⟩ := Option.bind_eq_some_iff.mp h
  obtain ⟨⟨target', round'⟩, hland, h⟩ := Option.bind_eq_some_iff.mp h
  obtain ⟨job, hjob, heq⟩ := Option.map_eq_some_iff.mp hland
  cases heq
  cases h
  exact ⟨round, hround, hjob, rfl⟩

lemma step_cases (G : Setup) (config : HealthCheckConfig) (hw : w.table.Coherent)
    (e : HealthEvent) :
    (VerdictsFrom w.table.instances (w.step G config e).table.instances ∧ StillGated config w e)
    ∨ ∃ index result target o poller info, e = .answer index result
      ∧ w.poller.land config index result = some (target, some o, poller)
      ∧ w.table.instances.get? target.id = some info ∧ target.Is info
      ∧ (w.step G config e).table.instances = w.table.instances.insert target.id
        { info with health := info.health.observe o.state } := by
  cases e with
  | table e => exact .inl ⟨(Node.step_takes G w.node e.1).verdictsFrom hw e.2, trivial⟩
  | tick handshakes =>
    refine .inl ⟨?_, trivial⟩
    show VerdictsFrom _ (if w.poller.round.isSome then w else _ : HealthRun).table.instances
    split <;> exact .refl _
  | finish => exact .inl ⟨.refl _, trivial⟩
  | answer index result =>
    rcases hland : w.poller.land config index result with _ | ⟨target, _ | o, poller⟩
    · rw [step_answer_none hland]
      refine .inl ⟨.refl _, fun _ _ _ h => ?_⟩
      rw [hland] at h
      cases h
    · rw [step_answer hland]
      refine .inl ⟨.refl _, fun _ _ _ h => ?_⟩
      rw [hland] at h
      cases h
    · rw [step_answer hland]
      by_cases hinfo : ∃ info, w.table.instances.get? target.id = some info ∧ target.Is info
      · obtain ⟨info, hinfo, his⟩ := hinfo
        exact .inr ⟨index, result, target, o, poller, info, rfl, hland, hinfo, his,
          recordInstanceHealth_is o.state hinfo his⟩
      · have hnot : ∀ info, w.table.instances.get? target.id = some info → ¬target.Is info :=
          fun info h his => hinfo ⟨info, h, his⟩
        refine .inl ⟨?_, ?_⟩
        · show VerdictsFrom w.table.instances (w.table.recordInstanceHealth target.id
            target.ip target.publicKey o.state).instances
          rw [recordInstanceHealth_not o.state hnot]
          exact .refl _
        · intro target' o' poller' h info hinfo' his
          rw [hland] at h
          cases h
          exact absurd his (hnot info hinfo')

lemma step_sound (hw : w.node.Sound) (e : HealthEvent) : (w.step G config e).node.Sound := by
  cases e with
  | table e => exact (Node.step_takes G w.node e.1).sound hw
  | tick handshakes =>
    show (if w.poller.round.isSome then w else _ : HealthRun).node.Sound
    split <;> exact hw
  | finish => exact hw
  | answer index result =>
    rcases hland : w.poller.land config index result with _ | ⟨target, _ | o, poller⟩
    · rw [step_answer_none hland]
      exact hw
    · rw [step_answer hland]
      exact hw
    · rw [step_answer hland]
      let op := Op.recordHealth target.id target.ip target.publicKey o.state
      exact ⟨step_coherent (G := G) hw.coherent op,
        step_owned (G := G) hw.coherent hw.owned op⟩

lemma step_iff (G : Setup) (config : HealthCheckConfig) (hw : w.node.Sound)
    (hgates : w.table.GatesAgree) (e : HealthEvent) :
    (OnPolledBoot G config w e ∧ (w.step G config e).table.GatesAgree)
      ↔ StillGated config w e := by
  rcases step_cases G config hw.coherent e with ⟨hfrom, hstill⟩
    | ⟨index, result, target, o, poller, info, rfl, hland, hinfo, his, htable⟩
  · refine ⟨fun _ => hstill, fun _ => ⟨?_, hfrom.gatesAgree hgates⟩⟩
    intro id info hinfo
    exact (hfrom id info hinfo).imp_right .inl
  obtain ⟨round, hround, htarget, hobserved⟩ := land_eq_some hland
  have hverdict := applyHysteresis_state hobserved
  constructor
  · rintro ⟨-, hafter⟩ target' o' poller' hland' info' hinfo' his'
    rw [hland] at hland'
    cases hland'
    rw [hinfo] at hinfo'
    cases hinfo'
    -- The verdict is in the table, so the record cannot be an ungated one.
    by_contra hgate
    have hagrees := hafter target.id { info with health := info.health.observe o.state }
      (by rw [htable, BTreeMap.get?_insert_self])
    exact hverdict (hagrees.1 (Bool.eq_false_iff.mpr hgate))
  · intro hstill
    have hgated := hstill target o poller hland info hinfo his
    constructor
    · intro id info' hinfo'
      rw [htable] at hinfo'
      rcases BTreeMap.get?_insert_eq_some.mp hinfo' with ⟨hid, rfl⟩ | ⟨-, hinfo'⟩
      · exact .inr (.inr ⟨target, ⟨index, result, round, rfl, hround, htarget⟩, hid, his,
          hgated⟩)
      · exact .inr (.inl ⟨info', hinfo', rfl, rfl⟩)
    · intro id info' hinfo'
      rw [htable] at hinfo'
      rcases BTreeMap.get?_insert_eq_some.mp hinfo' with ⟨-, rfl⟩ | ⟨-, hinfo'⟩
      · refine ⟨fun hfalse => ?_, fun _ => hverdict⟩
        have : info.health.gated = false := hfalse
        rw [show info.health.gated = true from hgated] at this
        cases this
      · exact hgates id info' hinfo'

end HealthRun

lemma buildStateFromKvStore_gatesAgree (G : Setup) (now : SystemTime) (kv : KvStore) :
    (buildStateFromKvStore G now kv).GatesAgree := by
  unfold buildStateFromKvStore
  refine List.foldlRecOn (motive := ProxyState.GatesAgree) _ _ ?_ ?_
  · intro id info h
    cases h
  · intro s hs e _
    refine VerdictsFrom.gatesAgree ?_ hs
    exact VerdictsFrom.insert (.inl rfl)

-- == the result

namespace HealthRun

/-- Whatever registers, reloads and answers, in whatever order: every gate
agrees with its state and every verdict is on the boot that was polled, at
every point of a run, exactly if no verdict comes in for an instance that
has stopped asking for one. -/
theorem verdicts_respect_gates (G : Setup) (config : HealthCheckConfig) (now : SystemTime)
    (kv : KvStore) (events : List HealthEvent) :
    ((boot G now kv).table.GatesAgree
      ∧ Along (step G config)
        (fun w e => OnPolledBoot G config w e ∧ (w.step G config e).table.GatesAgree)
        (boot G now kv) events)
    ↔ Along (step G config) (StillGated config) (boot G now kv) events := by
  have hgates := buildStateFromKvStore_gatesAgree G now kv
  rw [and_iff_right (show (boot G now kv).table.GatesAgree from hgates)]
  refine Along.congr (P := fun w => w.node.Sound ∧ w.table.GatesAgree) ?_ ?_
    ⟨Node.start_sound G now kv, hgates⟩
  · intro w e hw
    exact step_iff G config hw.1 hw.2 e
  · intro w e hw hok
    exact ⟨step_sound hw.1 e, hok.2⟩

/-- An instance registers, a round asks it, and it registers again under
the same key without asking for polls. Then the answer comes. -/
def withdrawal : List HealthEvent :=
  [.table ⟨.op (.newClient (1000 * nanosPerSec) noFaults "a" "app" (sampleKey 'B') ""
      ⟨none, some true⟩), rfl⟩,
    .tick .empty,
    .table ⟨.op (.newClient (1001 * nanosPerSec) noFaults "a" "app" (sampleKey 'B') ""
      ⟨none, some false⟩), rfl⟩,
    .answer 0 (.unhealthy "web is starting")]

/-- The instance is not gated and yet not healthy. -/
theorem late_answer_on_ungated :
    ∃ (G : Setup) (config : HealthCheckConfig) (now : SystemTime) (kv : KvStore)
      (events : List HealthEvent),
      ¬(events.foldl (step G config) (boot G now kv)).table.GatesAgree := by
  let G := sampleGateway ⟨sampleIp 0, 29⟩ false
  have hhealth : ((withdrawal.foldl (step G ⟨8, 3⟩) (boot G 0 {})).table.instances.get? "a").map
      InstanceInfo.health = some ⟨false, .unhealthy⟩ := by decide +kernel
  refine ⟨G, ⟨8, 3⟩, 0, {}, withdrawal, fun hgates => ?_⟩
  obtain ⟨info, hinfo, hstate⟩ := Option.map_eq_some_iff.mp hhealth
  have hagrees := hgates "a" info hinfo
  rw [hstate] at hagrees
  cases hagrees.1 rfl

end HealthRun

end Dstack.Gateway
