/-
The maps of the routing table agree, and no cached selection is stale.

Every write to the table replaces what is known of one instance, by
another record or by nothing (`Replaces`): it moves the id between
applications, drops what belongs to an application that has no instance
left, and drops the cached selection of the application the instance was
in, unless the new record looks the same to a selection. That keeps the
table coherent, whatever the record. `registers_settles` is what all later
proofs know of a registration: the one record it writes, and where.
-/
import Dstack.Gateway.Proofs.Table

namespace Dstack.Gateway

open Lib

variable {G : Setup} {s : ProxyState}

namespace ProxyState

-- == coherence

/-- The maps agree: an application lists its instances and has one, nothing
is kept for an application that is not there, and a cached selection names
instances as they are. -/
structure Coherent (s : ProxyState) : Prop where
  ids : ∀ i info, s.instances.get? i = some info → info.id = i
  inApp : ∀ a i, s.InApp a i ↔ ∃ info, s.instances.get? i = some info ∧ info.appId = a
  noEmptyApp : s.NoEmptyApp
  topN : ∀ a v, s.topN.get? a = some v → s.HasApp a
  warned : ∀ a t, s.allUnhealthyWarned.get? a = some t → s.HasApp a
  fresh : ∀ a group t, s.topN.get? a = some (group, t) → ∀ target ∈ group,
    ∃ info, s.instances.get? target.instanceId = some info ∧ info.appId = a
      ∧ info.addressInfo = target ∧ info.isReady = true

/-- Two records that a selection does not tell apart. -/
def SameTarget (old new : InstanceInfo) : Prop :=
  new.appId = old.appId ∧ new.addressInfo = old.addressInfo ∧ new.isReady = old.isReady

/-- A write to what is known of one instance. -/
structure Replaces (s s' : ProxyState) (id : String) (new : Option InstanceInfo) : Prop where
  self : s'.instances.get? id = new
  others : ∀ i, id ≠ i → s'.instances.get? i = s.instances.get? i
  inSelf : ∀ a, s'.InApp a id ↔ ∃ info, new = some info ∧ info.appId = a
  inOthers : ∀ a i, id ≠ i → (s'.InApp a i ↔ s.InApp a i)
  noEmptyApp : s'.NoEmptyApp
  topN : ∀ a v, s'.topN.get? a = some v → s.topN.get? a = some v ∧ s'.HasApp a
  warned : ∀ a t, s'.allUnhealthyWarned.get? a = some t → s'.HasApp a
  /-- The selection the instance may be in is dropped, unless the new
  record is the same target. -/
  dropped : ∀ old, s.instances.get? id = some old →
    (∃ info, new = some info ∧ SameTarget old info) ∨ s'.topN.get? old.appId = none

variable {s' : ProxyState}

lemma Replaces.coherent {id : String} {new : Option InstanceInfo}
    (hs : s.Coherent) (h : Replaces s s' id new) (hid : ∀ info, new = some info → info.id = id) :
    s'.Coherent where
  ids i info hi := by
    by_cases he : id = i
    · subst he
      rw [h.self] at hi
      exact hid info hi
    · rw [h.others i he] at hi
      exact hs.ids i info hi
  inApp a i := by
    by_cases he : id = i
    · subst he
      rw [h.self]
      exact h.inSelf a
    · rw [h.others i he, h.inOthers a i he]
      exact hs.inApp a i
  noEmptyApp := h.noEmptyApp
  topN a v hv := (h.topN a v hv).2
  warned := h.warned
  fresh a group t hgroup target htarget := by
    obtain ⟨info, hinfo, happ, haddr, hready⟩ :=
      hs.fresh a group t (h.topN a _ hgroup).1 target htarget
    by_cases he : id = target.instanceId
    · subst he
      -- The write was to the target itself: it is still the same one, or
      -- the selection that names it would be gone.
      rcases h.dropped info hinfo with ⟨new, hnew, happ', haddr', hready'⟩ | hnone
      · exact ⟨new, h.self.trans hnew, happ'.trans happ, haddr'.trans haddr,
          hready'.trans hready⟩
      · rw [happ, hgroup] at hnone
        cases hnone
    · exact ⟨info, (h.others _ he).trans hinfo, happ, haddr, hready⟩

lemma Coherent.of_maps (hs : s.Coherent)
    (happs : s'.apps = s.apps) (hinstances : s'.instances = s.instances)
    (htopN : s'.topN = s.topN) (hwarned : s'.allUnhealthyWarned = s.allUnhealthyWarned) :
    s'.Coherent := by
  obtain ⟨apps, instances, allocated, topN, warned, kv, counter⟩ := s
  obtain ⟨apps', instances', allocated', topN', warned', kv', counter'⟩ := s'
  dsimp only at happs hinstances htopN hwarned
  subst happs hinstances htopN hwarned
  exact ⟨hs.ids, hs.inApp, hs.noEmptyApp, hs.topN, hs.warned, hs.fresh⟩

-- == writes in place

variable {info before : InstanceInfo}

lemma replaces_inPlace {id : String}
    (hs : s.Coherent) (hbefore : s.instances.get? id = some before)
    (happ : info.appId = before.appId)
    (hinstances : s'.instances = s.instances.insert id info) (happs : s'.apps = s.apps)
    (hwarned : s'.allUnhealthyWarned = s.allUnhealthyWarned)
    (htopN : SameTarget before info ∧ s'.topN = s.topN
      ∨ s'.topN = s.topN.erase before.appId) :
    Replaces s s' id (some info) := by
  have hin : ∀ a i, s'.InApp a i ↔ s.InApp a i := by
    intro a i
    unfold InApp
    rw [happs]
  have hhas : ∀ a, s.HasApp a → s'.HasApp a := by
    intro a h
    unfold HasApp
    rw [happs]
    exact h
  constructor
  case self => rw [hinstances, BTreeMap.get?_insert_self]
  case others =>
    intro i hne
    rw [hinstances, BTreeMap.get?_insert_of_ne hne]
  case inSelf =>
    intro a
    rw [hin, hs.inApp, hbefore]
    constructor
    · rintro ⟨_, h, ha⟩
      cases h
      exact ⟨info, rfl, happ.trans ha⟩
    · rintro ⟨_, h, ha⟩
      cases h
      exact ⟨before, rfl, happ.symm.trans ha⟩
  case inOthers => exact fun a i _ => hin a i
  case noEmptyApp =>
    intro a ids hids
    rw [happs] at hids
    exact hs.noEmptyApp a ids hids
  case topN =>
    intro a v hv
    have hold : s.topN.get? a = some v := by
      rcases htopN with ⟨-, h⟩ | h
      · rw [h] at hv
        exact hv
      · rw [h] at hv
        exact (BTreeMap.get?_erase_eq_some.mp hv).2
    exact ⟨hold, hhas a (hs.topN a v hold)⟩
  case warned =>
    intro a t ht
    rw [hwarned] at ht
    exact hhas a (hs.warned a t ht)
  case dropped =>
    intro old hold
    rw [hbefore] at hold
    cases hold
    rcases htopN with ⟨h, -⟩ | h
    · exact .inl ⟨info, rfl, h⟩
    · refine .inr ?_
      rw [h, BTreeMap.get?_erase_self]

variable {T : Type} {edit : InstanceInfo → T × InstanceInfo} {s : ProxyState} {id : String}

lemma KeepsIdentity.sameTarget (hedit : KeepsIdentity edit)
    (h : before.routingInputs = (edit before).2.routingInputs) :
    SameTarget before (edit before).2 := by
  refine ⟨hedit.appId before, ?_, ?_⟩
  · unfold InstanceInfo.addressInfo
    rw [hedit.ip, hedit.connections, hedit.id]
  · have hready := congrArg RoutingInputs.ready h
    unfold InstanceInfo.isReady
    exact congrArg (Option.getD · true) hready.symm

lemma putBack_coherent (hs : s.Coherent) (hedit : KeepsIdentity edit)
    (hbefore : s.instances.get? id = some before) :
    (s.putBack id before (edit before).2).Coherent := by
  refine Replaces.coherent hs
    (replaces_inPlace hs hbefore (hedit.appId before) rfl rfl rfl ?_) ?_
  · by_cases hinputs : before.routingInputs = (edit before).2.routingInputs
    · exact .inl ⟨hedit.sameTarget hinputs, if_pos hinputs⟩
    · exact .inr (if_neg hinputs)
  · intro info hinfo
    cases hinfo
    rw [hedit.id]
    exact hs.ids id before hbefore

lemma sameTarget_coherent (info : InstanceInfo) (hs : s.Coherent)
    (hbefore : s.instances.get? id = some before) (hsame : SameTarget before info)
    (hinstances : s'.instances = s.instances.insert id info) (happs : s'.apps = s.apps)
    (htopN : s'.topN = s.topN) (hwarned : s'.allUnhealthyWarned = s.allUnhealthyWarned) :
    s'.Coherent := by
  refine Replaces.coherent hs
    (replaces_inPlace hs hbefore hsame.1 hinstances happs hwarned (.inl ⟨hsame, htopN⟩)) ?_
  intro _ h
  cases h
  rw [show info.id = before.id from congrArg AddressInfo.instanceId hsame.2.1]
  exact hs.ids id before hbefore

-- == removals

lemma forgetInstance_replaces (hs : s.Coherent) (h : s.instances.get? id = some info) :
    Replaces s (s.forgetInstance id).2 id none := by
  rw [forgetInstance_some h]
  constructor
  case self => rw [leaveApp_instances, BTreeMap.get?_erase_self]
  case others =>
    intro i hne
    rw [leaveApp_instances, BTreeMap.get?_erase_of_ne hne]
  case inSelf =>
    intro a
    rw [leaveApp_inApp]
    constructor
    · rintro ⟨hin, hne⟩
      obtain ⟨_, hinfo, happ⟩ := (hs.inApp a id).mp hin
      rw [h] at hinfo
      cases hinfo
      exact absurd ⟨happ, rfl⟩ hne
    · rintro ⟨_, hnone, -⟩
      cases hnone
  case inOthers =>
    intro a i hne
    rw [leaveApp_inApp]
    exact ⟨And.left, fun hin => ⟨hin, fun heq => hne heq.2⟩⟩
  case noEmptyApp => exact leaveApp_noEmptyApp hs.noEmptyApp
  case topN =>
    intro a v hv
    obtain ⟨hv, hhas⟩ := leaveApp_keys.1 a v hv
    have hold := (BTreeMap.get?_erase_eq_some.mp hv).2
    exact ⟨hold, hhas (hs.topN a v hold)⟩
  case warned =>
    intro a t ht
    obtain ⟨hold, hhas⟩ := leaveApp_keys.2 a t ht
    exact hhas (hs.warned a t hold)
  case dropped =>
    intro old hold
    rw [h] at hold
    cases hold
    refine .inr (Option.eq_none_iff_forall_ne_some.mpr fun v hv => ?_)
    have hkept := (leaveApp_keys.1 _ v hv).1
    exact (BTreeMap.get?_erase_eq_some.mp hkept).1 rfl

lemma forgetInstance_coherent (hs : s.Coherent) : (s.forgetInstance id).2.Coherent := by
  cases hinfo : s.instances.get? id with
  | none =>
    rw [forgetInstance_none hinfo]
    exact hs
  | some info =>
    exact (forgetInstance_replaces hs hinfo).coherent hs (fun _ h => by cases h)

-- == additions

lemma replaces_join (s₁ : ProxyState) (info : InstanceInfo) (hs : s.Coherent)
    (hinstances : s₁.instances = s.instances) (hself : ∀ a, s₁.InApp a id → info.appId = a)
    (hothers : ∀ a i, id ≠ i → (s₁.InApp a i ↔ s.InApp a i)) (hempty : s₁.NoEmptyApp)
    (htopN : ∀ a v, s₁.topN.get? a = some v →
      s.topN.get? a = some v ∧ (s.HasApp a → s₁.HasApp a))
    (hwarned : ∀ a t, s₁.allUnhealthyWarned.get? a = some t →
      s.allUnhealthyWarned.get? a = some t ∧ (s.HasApp a → s₁.HasApp a))
    (hdropped : ∀ old, s.instances.get? id = some old →
      SameTarget old info ∨ s₁.topN.get? old.appId = none) :
    Replaces s { s₁.joinApp info.appId id with instances := s₁.instances.insert id info }
      id (some info) := by
  constructor
  case self => exact BTreeMap.get?_insert_self _ _ _
  case others =>
    intro i hne
    rw [← hinstances]
    exact BTreeMap.get?_insert_of_ne hne
  case inSelf =>
    intro a
    refine joinApp_inApp.trans ?_
    constructor
    · rintro (⟨ha, -⟩ | hin)
      · exact ⟨info, rfl, ha⟩
      · exact ⟨info, rfl, hself a hin⟩
    · rintro ⟨_, h, ha⟩
      cases h
      exact .inl ⟨ha, rfl⟩
  case inOthers =>
    intro a i hne
    refine joinApp_inApp.trans ?_
    rw [hothers a i hne]
    exact or_iff_right fun heq => hne heq.2
  case noEmptyApp => exact joinApp_noEmptyApp hempty
  case topN =>
    intro a v hv
    obtain ⟨hold, hhas⟩ := htopN a v hv
    exact ⟨hold, joinApp_hasApp (.inl (hhas (hs.topN a v hold)))⟩
  case warned =>
    intro a t ht
    obtain ⟨hold, hhas⟩ := hwarned a t ht
    exact joinApp_hasApp (.inl (hhas (hs.warned a t hold)))
  case dropped =>
    intro old hold
    rcases hdropped old hold with h | h
    · exact .inl ⟨info, rfl, h⟩
    · exact .inr h

variable {fails : Faults}

lemma addInstance_coherent (hs : s.Coherent)
    (happ : ∀ old, s.instances.get? info.id = some old → old.appId = info.appId) :
    (s.addInstance fails info).Coherent := by
  have h : Replaces s (s.addInstance fails info) info.id (some info) := by
    refine replaces_join { s with
      topN := s.topN.erase info.appId
      kv := (s.kv.syncInstance fails info.id (.ofInfo info)).2 } info
      hs rfl ?_ (fun a i _ => Iff.rfl) hs.noEmptyApp ?_ (fun a t ht => ⟨ht, id⟩) ?_
    · intro a hin
      obtain ⟨old, hold, ha⟩ := (hs.inApp a info.id).mp hin
      exact (happ old hold).symm.trans ha
    · intro a v hv
      exact ⟨(BTreeMap.get?_erase_eq_some.mp hv).2, id⟩
    · intro old hold
      rw [happ old hold]
      exact .inr (BTreeMap.get?_erase_self _ _)
  refine h.coherent hs ?_
  intro _ hsome
  cases hsome
  rfl

variable {a : String}

section Records

variable {overrides : Result (Option PortPolicy × Option Bool)} {data : InstanceRecord}

variable {existing : InstanceInfo}

lemma vacate_inApp {i : String} :
    (s.vacate id existing info).InApp a i
      ↔ s.InApp a i ∧ ¬(existing.appId ≠ info.appId ∧ existing.appId = a ∧ id = i) := by
  unfold vacate
  dsimp only
  split
  next happ =>
    refine leaveApp_inApp.trans (and_congr_right fun _ => ?_)
    exact not_congr (and_iff_right happ).symm
  next happ => exact ⟨fun hin => ⟨hin, fun h => happ h.1⟩, And.left⟩

lemma vacate_noEmptyApp (h : s.NoEmptyApp) :
    (s.vacate id existing info).NoEmptyApp := by
  unfold vacate
  dsimp only
  split
  · exact leaveApp_noEmptyApp h
  · exact h

lemma vacate_keys :
    (∀ a v, (s.vacate id existing info).topN.get? a = some v →
      s.topN.get? a = some v ∧ (s.HasApp a → (s.vacate id existing info).HasApp a))
    ∧ ∀ a t, (s.vacate id existing info).allUnhealthyWarned.get? a = some t →
      s.allUnhealthyWarned.get? a = some t
        ∧ (s.HasApp a → (s.vacate id existing info).HasApp a) := by
  have herase : ∀ {m : BTreeMap String (AddressGroup × Nat)} {a v},
      (if existing.routingInputs ≠ info.routingInputs then
        (m.erase info.appId).erase existing.appId else m).get? a = some v →
      m.get? a = some v := by
    intro m a v hv
    split at hv
    · exact (BTreeMap.get?_erase_eq_some.mp (BTreeMap.get?_erase_eq_some.mp hv).2).2
    · exact hv
  unfold vacate
  dsimp only
  by_cases happ : existing.appId ≠ info.appId
  · rw [if_pos happ]
    exact ⟨fun a v hv => leaveApp_keys.1 a v (herase hv), fun a t ht => leaveApp_keys.2 a t ht⟩
  · rw [if_neg happ]
    exact ⟨fun a v hv => ⟨herase hv, fun h => h⟩, fun a t ht => ⟨ht, fun h => h⟩⟩

lemma vacate_dropped (h : existing.routingInputs ≠ info.routingInputs) :
    (s.vacate id existing info).topN.get? existing.appId = none := by
  unfold vacate
  dsimp only
  rw [if_pos h]
  exact BTreeMap.get?_erase_self _ _

lemma applyRecord_replaces (hs : s.Coherent) :
    Replaces s (s.applyRecord overrides id data) id
      (some (s.recordInfo overrides id data)) := by
  obtain ⟨hid, -, -, -, -, -, hconnections⟩ :=
    recordInfo_spec overrides data s id
  unfold applyRecord
  generalize s.recordInfo overrides id data = info at hid hconnections ⊢
  dsimp only
  cases hexisting : s.instances.get? id with
  | none =>
    refine replaces_join { s with
      nextCounter := s.nextCounter + 1
      topN := s.topN.erase info.appId
      allocatedAddresses := BTreeSet.add s.allocatedAddresses info.ip } info
      hs rfl ?_ (fun a i _ => Iff.rfl) hs.noEmptyApp ?_ (fun a t ht => ⟨ht, fun h => h⟩) ?_
    · intro a hin
      obtain ⟨_, h, -⟩ := (hs.inApp a id).mp hin
      rw [hexisting] at h
      cases h
    · exact fun a v hv => ⟨(BTreeMap.get?_erase_eq_some.mp hv).2, fun h => h⟩
    · intro _ h
      rw [hexisting] at h
      cases h
  | some existing =>
    dsimp only
    refine replaces_join { vacate id existing info { s with
        nextCounter := s.nextCounter + 1 } with
      allocatedAddresses := BTreeSet.add
        (vacate id existing info { s with nextCounter := s.nextCounter + 1 }).allocatedAddresses
        info.ip } info
      hs (vacate_instances existing info) ?_ ?_ (vacate_noEmptyApp hs.noEmptyApp)
      vacate_keys.1 vacate_keys.2 ?_
    · intro a hin
      obtain ⟨hin, hstays⟩ := vacate_inApp.mp hin
      obtain ⟨_, h, ha⟩ := (hs.inApp a id).mp hin
      rw [hexisting] at h
      cases h
      by_contra hne
      exact hstays ⟨fun heq => hne (heq.symm.trans ha), ha, rfl⟩
    · intro a i hne
      refine vacate_inApp.trans ?_
      exact ⟨And.left, fun hin => ⟨hin, fun h => hne h.2.2⟩⟩
    · intro old hold
      rw [hexisting] at hold
      cases hold
      by_cases hinputs : existing.routingInputs = info.routingInputs
      · refine .inl ⟨(congrArg RoutingInputs.appId hinputs).symm, ?_, ?_⟩
        · unfold InstanceInfo.addressInfo
          rw [hid, hconnections existing hexisting, hs.ids id existing hexisting,
            ← show existing.ip = info.ip from congrArg RoutingInputs.ip hinputs]
        · exact congrArg (Option.getD · true) (congrArg RoutingInputs.ready hinputs).symm
      · exact .inr (vacate_dropped hinputs)

lemma applyRecord_coherent (hs : s.Coherent) :
    (s.applyRecord overrides id data).Coherent := by
  refine (applyRecord_replaces hs).coherent hs ?_
  intro info h
  cases h
  exact (recordInfo_spec _ _ s id).1

end Records

-- == operations

/-- What a registration makes of the record of its instance. -/
inductive Written (q : Request) (s : ProxyState) : InstanceInfo → Prop
  | renewed {before : InstanceInfo} (hbefore : s.instances.get? q.id = some before) :
      Written q s (q.renew before)
  | moved {before : InstanceInfo} {ip : Ipv4Addr}
      (hbefore : s.instances.get? q.id = some before) :
      Written q s (q.host ip s.nextCounter (some (q.renew before)))
  | first {ip : Ipv4Addr} (hnew : s.instances.get? q.id = none) :
      Written q s (q.host ip s.nextCounter none)

/-- One instance is written, and of the addresses there were its old one
is not kept beside the new one. -/
structure Settles (id : String) (info : InstanceInfo) (s s' : ProxyState) : Prop where
  instances : s'.instances = s.instances.insert id info
  addresses : ∀ ip, s'.allocatedAddresses.mem ip → info.ip = ip ∨ s.allocatedAddresses.mem ip
    ∧ ∀ before, s.instances.get? id = some before → before.ip ≠ ip

lemma Settles.self (h : Settles id info s s') : s'.instances.get? id = some info := by
  rw [h.instances, BTreeMap.get?_insert_self]

lemma Settles.others (h : Settles id info s s') {i : String} (hi : i ≠ id) :
    s'.instances.get? i = s.instances.get? i := by
  rw [h.instances, BTreeMap.get?_insert_of_ne hi.symm]

lemma settles_edit (hbefore : s.instances.get? id = some before) (hip : info.ip = before.ip)
    (hinstances : s'.instances = s.instances.insert id info)
    (hallocated : ∀ ip, s'.allocatedAddresses.mem ip → s.allocatedAddresses.mem ip) :
    Settles id info s s' := by
  refine ⟨hinstances, fun ip hmem => ?_⟩
  by_cases hat : info.ip = ip
  · exact .inl hat
  · refine .inr ⟨hallocated ip hmem, fun other hother => ?_⟩
    rw [hbefore] at hother
    cases hother
    rwa [← hip]

lemma settles_first (hnew : s.instances.get? id = none)
    (hinstances : s'.instances = s.instances.insert id info)
    (hallocated : s'.allocatedAddresses = BTreeSet.add s.allocatedAddresses info.ip) :
    Settles id info s s' := by
  refine ⟨hinstances, fun ip hmem => ?_⟩
  rw [hallocated] at hmem
  refine (BTreeSet.mem_add.mp hmem).imp_right fun hold => ⟨hold, fun before hbefore => ?_⟩
  rw [hnew] at hbefore
  cases hbefore

section Registration

variable {q : Request} {r : Result InstanceInfo}

lemma Coherent.renew_id (hs : s.Coherent) (hbefore : s.instances.get? q.id = some before) :
    (q.renew before).id = q.id :=
  (q.renew_keeps.id before).trans (hs.ids q.id before hbefore)

/-- A registration fails and leaves everything, or writes the record of its
instance to the table, and to the store unless it fails. -/
lemma registers_settles (hs : s.Coherent) (h : Registers G q s (r, s')) :
    (s' = s ∧ ∃ e, r = .error e) ∨ ∃ info, Written q s info ∧ Settles q.id info s s'
      ∧ (s'.kv = s.kv ∧ (∃ e, r = .error e)
        ∨ s'.kv = (s.kv.syncInstance q.fails q.id (.ofInfo info)).2) := by
  cases h with
  | refused he => exact .inl ⟨rfl, _, rfl⟩
  | @kept before hbefore hip =>
    refine .inr ⟨_, .renewed hbefore,
      settles_edit hbefore (q.renew_keeps.ip before) rfl fun ip h => h, .inr ?_⟩
    rw [hs.renew_id hbefore]
  | @moved before ip hbefore hip hfree =>
    have hid : (q.host ip s.nextCounter (some (q.renew before))).id = q.id := hs.renew_id hbefore
    refine .inr ⟨_, @Written.moved _ _ before ip hbefore, ⟨?_, fun ip' hmem => ?_⟩, .inr ?_⟩
    · show (s.instances.insert q.id _).insert _ _ = _
      rw [hid, BTreeMap.insert_insert]
    · refine (BTreeSet.mem_add.mp hmem).imp_right fun hold => ?_
      obtain ⟨hne, hold⟩ := BTreeSet.mem_erase.mp hold
      refine ⟨hold, fun other hother => ?_⟩
      rw [hbefore] at hother
      cases hother
      exact hne
    · show (s.kv.syncInstance q.fails (q.host ip _ _).id _).2 = _
      rw [hid]
  | @stranded before hpass hbefore hip hfull =>
    exact .inr ⟨_, .renewed hbefore, settles_edit hbefore (q.renew_keeps.ip before) rfl
      fun ip h => (BTreeSet.mem_erase.mp h).2, .inl ⟨rfl, _, rfl⟩⟩
  | first hnew hfree => exact .inr ⟨_, .first hnew, settles_first hnew rfl rfl, .inr rfl⟩

lemma registers_coherent (hs : s.Coherent) (h : Registers G q s (r, s')) : s'.Coherent := by
  have hput : ∀ {before}, s.instances.get? q.id = some before →
      (s.putBack q.id before (q.renew before)).Coherent := putBack_coherent hs q.renew_keeps
  cases h with
  | refused he => exact hs
  | kept hbefore hip => exact (hput hbefore).of_maps rfl rfl rfl rfl
  | @moved before ip hbefore hip hfree =>
    refine addInstance_coherent ((hput hbefore).of_maps rfl rfl rfl rfl) fun old hold => ?_
    have hold : (s.instances.insert q.id (q.renew before)).get? (q.renew before).id
        = some old := hold
    rw [hs.renew_id hbefore, BTreeMap.get?_insert_self] at hold
    cases hold
    rfl
  | stranded hpass hbefore hip hfull => exact (hput hbefore).of_maps rfl rfl rfl rfl
  | first hnew hfree =>
    refine addInstance_coherent (hs.of_maps rfl rfl rfl rfl) fun old hold => ?_
    rw [show s.instances.get? q.id = some old from hold] at hnew
    cases hnew

end Registration

lemma applySnapshot_coherent {now : SystemTime} {snap : Snapshot} (hs : s.Coherent) :
    (s.applySnapshot now snap).Coherent :=
  applySnapshot_rule hs (fun _ _ hs => forgetInstance_coherent hs)
    fun _ _ _ _ hs => applyRecord_coherent hs

lemma recycle_coherent {stale : List (String × SystemTime)} (hs : s.Coherent) :
    (s.recycle fails stale).2.Coherent :=
  recycle_rule hs (fun _ _ _ hs => forgetInstance_coherent hs)
    fun _ _ _ hs => hs.of_maps rfl rfl rfl rfl

lemma updateInstancePortPolicy_coherent {policy : PortPolicy} (hs : s.Coherent) :
    (s.updateInstancePortPolicy fails id policy).Coherent :=
  updateInstancePortPolicy_rule hs fun before hbefore =>
    sameTarget_coherent { before with portPolicy := some policy } hs hbefore ⟨rfl, rfl, rfl⟩
      rfl rfl rfl rfl

-- == selection

variable {now : Nat}

lemma warnAllUnhealthy_coherent (hs : s.Coherent)
    (ha : s.HasApp a) : (s.warnAllUnhealthy now a).Coherent := by
  unfold warnAllUnhealthy
  split
  · exact hs
  · refine ⟨hs.ids, hs.inApp, hs.noEmptyApp, hs.topN, ?_, hs.fresh⟩
    intro a' t ht
    rcases BTreeMap.get?_insert_eq_some.mp ht with ⟨rfl, -⟩ | ⟨-, ht⟩
    · exact ha
    · exact hs.warned a' t ht

lemma retainHealthy_spec (now : Nat) (candidates : List T)
    (isHealthy : T → Bool) (hs : s.Coherent) (ha : s.HasApp a) :
    (s.retainHealthy now a candidates isHealthy).1 ⊆ candidates
    ∧ (s.retainHealthy now a candidates isHealthy).2.Coherent
    ∧ (s.retainHealthy now a candidates isHealthy).2.instances = s.instances
    ∧ (s.retainHealthy now a candidates isHealthy).2.apps = s.apps := by
  unfold retainHealthy
  split
  · exact ⟨List.filter_subset_self _, hs, rfl, rfl⟩
  · split
    · exact ⟨List.Subset.refl _, hs, rfl, rfl⟩
    · refine ⟨List.Subset.refl _, warnAllUnhealthy_coherent hs ha, ?_, ?_⟩ <;>
      · unfold warnAllUnhealthy
        split <;> rfl

/-- What a selection for an application may name: an instance of it that
is ready, at the address and with the counter it has. -/
def IsTarget (s : ProxyState) (a : String) (target : AddressInfo) : Prop :=
  ∃ info, s.instances.get? target.instanceId = some info ∧ info.appId = a
    ∧ info.addressInfo = target ∧ info.isReady = true

lemma candidates_isTarget {handshakes : Handshakes}
    {ids : BTreeSet String} (hs : s.Coherent) (hids : s.apps.get? a = some ids)
    {c : Candidate} (hc : c ∈ s.candidates G handshakes ids) :
    s.IsTarget a c.info.addressInfo := by
  unfold candidates at hc
  obtain ⟨i, hi, hc⟩ := List.mem_filterMap.mp hc
  obtain ⟨info, hinfo, hc⟩ := Option.bind_eq_some_iff.mp hc
  split at hc
  · next heligible =>
      obtain ⟨_, -, hc⟩ := Option.bind_eq_some_iff.mp hc
      cases hc
      obtain ⟨_, hinfo', happ⟩ := (hs.inApp a i).mp ⟨ids, hids, BTreeSet.mem_toList.mp hi⟩
      rw [hinfo] at hinfo'
      cases hinfo'
      have hready : info.isReady = true := (Bool.and_eq_true_iff.mp heligible).1
      refine ⟨info, ?_, happ, rfl, hready⟩
      rw [show info.addressInfo.instanceId = i from hs.ids i info hinfo]
      exact hinfo
  · cases hc

lemma IsTarget.of_instances {target : AddressInfo}
    (h : s.IsTarget a target) (hinstances : s'.instances = s.instances) :
    s'.IsTarget a target := by
  unfold IsTarget
  rw [hinstances]
  exact h

structure Selects (s : ProxyState) (a : String) (group : AddressGroup) (s' : ProxyState) :
    Prop where
  coherent : s'.Coherent
  instances : s'.instances = s.instances
  targets : ∀ target ∈ group, s'.IsTarget a target

lemma randomSelectAHost_selects {handshakes : Result Handshakes}
    {dice : Nat} (hs : s.Coherent) (ha : s.instances.get? a = none) :
    Selects s a ((s.randomSelectAHost G now handshakes dice a).1.getD [])
      (s.randomSelectAHost G now handshakes dice a).2 := by
  have hnone : Selects s a [] s := ⟨hs, rfl, fun target h => by cases h⟩
  unfold randomSelectAHost
  rw [ha]
  dsimp only
  cases hids : s.apps.get? a with
  | none => exact hnone
  | some ids =>
    cases handshakes with
    | error e => exact hnone
    | ok handshakes =>
      dsimp only
      obtain ⟨hsub, hcoherent, hinstances, -⟩ :=
        retainHealthy_spec now (s.candidates G handshakes ids)
          Candidate.healthy hs ⟨ids, hids⟩
      refine ⟨hcoherent, hinstances, ?_⟩
      intro target htarget
      generalize (s.retainHealthy now a (s.candidates G handshakes ids)
        Candidate.healthy).1 = eligible at hsub htarget
      cases hc : eligible[dice % eligible.length]? with
      | none =>
        rw [hc] at htarget
        cases htarget
      | some c =>
        rw [hc] at htarget
        rw [List.mem_singleton.mp htarget]
        exact (candidates_isTarget hs hids (hsub (List.mem_of_getElem? hc))).of_instances
          hinstances

lemma cache_selects {ids : BTreeSet String} {group : AddressGroup}
    (hs : s.Coherent) (hids : s.apps.get? a = some ids)
    (hgroup : ∀ target ∈ group, s.IsTarget a target) :
    Selects s a group { s with topN := s.topN.insert a (group, now) } := by
  refine ⟨⟨hs.ids, hs.inApp, hs.noEmptyApp, ?_, hs.warned, ?_⟩, rfl, hgroup⟩
  · intro a' v hv
    rcases BTreeMap.get?_insert_eq_some.mp hv with ⟨rfl, -⟩ | ⟨-, hv⟩
    · exact ⟨ids, hids⟩
    · exact hs.topN a' v hv
  · intro a' group' t hv target htarget
    rcases BTreeMap.get?_insert_eq_some.mp hv with ⟨rfl, heq⟩ | ⟨-, hv⟩
    · cases heq
      exact hgroup target htarget
    · exact hs.fresh a' group' t hv target htarget

lemma Selects.trans_instances {s₁ : ProxyState} {group : AddressGroup}
    (h : Selects s₁ a group s') (hinstances : s₁.instances = s.instances) :
    Selects s a group s' :=
  ⟨h.coherent, h.instances.trans hinstances, h.targets⟩

lemma selectTopNHosts_selects (now : Nat) (handshakes again : Result Handshakes) (dice : Nat)
    (hs : s.Coherent) (ha : s.instances.get? a = none)
    (hlocal : (G.config.insecureLocalhostBackend && a = "localhost") = false) :
    (∃ e, s.selectTopNHosts G now handshakes again dice a = (.error e, s))
    ∨ ∃ group s', s.selectTopNHosts G now handshakes again dice a = (.ok group, s')
      ∧ Selects s a group s' := by
  unfold selectTopNHosts
  rw [hlocal, if_neg Bool.false_ne_true, ha]
  dsimp only
  cases hids : s.apps.get? a with
  | none => exact .inl ⟨_, rfl⟩
  | some ids =>
    refine .inr ?_
    dsimp only
    by_cases hn : G.config.connectTopN = 0
    · rw [if_pos hn]
      exact ⟨_, _, rfl, randomSelectAHost_selects hs ha⟩
    · rw [if_neg hn]
      cases hcached : (s.topN.get? a).filter fun cached =>
          !cached.1.isEmpty && now - cached.2 < G.config.cacheTopN with
      | some cached =>
        refine ⟨_, _, rfl, hs, rfl, ?_⟩
        have hget := (Option.filter_eq_some_iff.mp hcached).1
        exact hs.fresh a cached.1 cached.2 hget
      | none =>
        dsimp only
        cases handshakes with
        | error e => exact ⟨_, _, rfl, randomSelectAHost_selects hs ha⟩
        | ok handshakes =>
          refine ⟨_, _, rfl, ?_⟩
          obtain ⟨hsub, hcoherent, hinstances, happs⟩ :=
            retainHealthy_spec now (s.candidates G handshakes ids)
              Candidate.healthy hs ⟨ids, hids⟩
          refine (cache_selects hcoherent (happs ▸ hids) ?_).trans_instances hinstances
          intro target htarget
          obtain ⟨c, hc, rfl⟩ := List.mem_map.mp htarget
          have hmem := List.mem_insertionSort _ |>.mp (List.mem_of_mem_take hc)
          exact (candidates_isTarget hs hids (hsub hmem)).of_instances hinstances

lemma selectTopNHosts_coherent
    {handshakes again : Result Handshakes} {dice : Nat} (hs : s.Coherent) :
    (s.selectTopNHosts G now handshakes again dice id).2.Coherent := by
  cases hlocal : (G.config.insecureLocalhostBackend && id = "localhost") with
  | true =>
    unfold selectTopNHosts
    rw [if_pos hlocal]
    exact hs.of_maps rfl rfl rfl rfl
  | false =>
    cases hinstance : s.instances.get? id with
    | some info =>
      unfold selectTopNHosts
      rw [hlocal, if_neg Bool.false_ne_true, hinstance]
      exact hs
    | none =>
      rcases selectTopNHosts_selects now handshakes again dice hs hinstance hlocal with
        ⟨e, h⟩ | ⟨group, s', h, hsel⟩
      · rw [h]
        exact hs
      · rw [h]
        exact hsel.coherent

-- == runs

lemma empty_coherent (kv : KvStore) : Coherent { kv } where
  ids i info h := by cases h
  inApp a i := by
    constructor
    · rintro ⟨ids, h, -⟩
      cases h
    · rintro ⟨info, h, -⟩
      cases h
  noEmptyApp a ids h := by cases h
  topN a v h := by cases h
  warned a t h := by cases h
  fresh a group t h := by cases h

lemma fileRecord_coherent {overrides : Result (Option PortPolicy × Option Bool)}
    {data : InstanceRecord} (hs : s.Coherent) (hnew : s.instances.get? id = none) :
    (s.fileRecord overrides id data).Coherent := by
  have h : Replaces s (s.fileRecord overrides id data) id
      (some (instanceInfoFromRecord overrides id data false s.nextCounter)) := by
    refine replaces_join { s with
      nextCounter := s.nextCounter + 1
      allocatedAddresses := BTreeSet.add s.allocatedAddresses data.ip }
      (instanceInfoFromRecord overrides id data false s.nextCounter)
      hs rfl ?_ (fun a i _ => Iff.rfl) hs.noEmptyApp (fun a v hv => ⟨hv, fun h => h⟩)
      (fun a t ht => ⟨ht, fun h => h⟩) ?_
    · intro a hin
      obtain ⟨_, h, -⟩ := (hs.inApp a id).mp hin
      rw [hnew] at h
      cases h
    · intro _ h
      rw [hnew] at h
      cases h
  refine h.coherent hs ?_
  intro _ hsome
  cases hsome
  rfl

lemma fileRecords_rec {P : ProxyState → Prop}
    (hfile : ∀ s id overrides data, P s → s.instances.get? id = none →
      P (fileRecord overrides id data s))
    {overrides : String → Result (Option PortPolicy × Option Bool)}
    {entries : List (String × InstanceRecord)}
    (hsorted : entries.Pairwise fun e e' => e.1 < e'.1) (hs : P s)
    (hnew : ∀ e ∈ entries, s.instances.get? e.1 = none) :
    P (entries.foldl (fun s e => s.fileRecord (overrides e.1) e.1 e.2) s) := by
  induction entries generalizing s with
  | nil => exact hs
  | cons e entries ih =>
    obtain ⟨hlt, hsorted⟩ := List.pairwise_cons.mp hsorted
    rw [List.foldl_cons]
    refine ih hsorted (hfile s e.1 _ e.2 hs (hnew e List.mem_cons_self)) ?_
    intro e' he'
    refine (BTreeMap.get?_insert_of_ne (ne_of_lt (hlt e' he'))).trans ?_
    exact hnew e' (List.mem_cons_of_mem _ he')

lemma buildStateFromKvStore_coherent (G : Setup) (now : SystemTime) (kv : KvStore) :
    (buildStateFromKvStore G now kv).Coherent :=
  fileRecords_rec (fun _ _ _ _ hs hnew => fileRecord_coherent hs hnew)
    (acceptInstances G kv.loadAllInstances now).instances.sorted (empty_coherent kv)
    fun _ _ => rfl

end ProxyState

open ProxyState

lemma step_coherent (hs : s.Coherent) (op : Op) :
    (step G s op).Coherent := by
  cases op with
  | registerCvm =>
    exact doRegisterCvm_rule hs (registers_coherent hs newClientById_registers)
  | newClient => exact registers_coherent hs newClientById_registers
  | reload => exact reload_rule (applySnapshot_coherent (hs.of_maps rfl rfl rfl rfl))
  | merge kv => exact hs.of_maps rfl rfl rfl rfl
  | removeCvm =>
    exact removeCvm_rule (hs.of_maps rfl rfl rfl rfl) fun _ hs => forgetInstance_coherent hs
  | recycle => exact recycle_coherent hs
  | setReady _ _ ready =>
    exact setReady_rule hs (fun _ hbefore => putBack_coherent hs (setReady_keeps ready) hbefore)
      fun s _ hs => hs.of_maps rfl rfl rfl rfl
  | recordHealth _ ip publicKey state =>
    have hkeeps := recordHealth_keeps ip publicKey state
    exact editInstance_rule hkeeps hs fun before hbefore => putBack_coherent hs hkeeps hbefore
  | updatePortPolicy => exact updateInstancePortPolicy_coherent hs
  | setAdminPortPolicy _ _ policy =>
    exact setAdminPortPolicy_rule hs fun before kv hbefore _ =>
      sameTarget_coherent { before with adminPortPolicy := policy } hs hbefore ⟨rfl, rfl, rfl⟩
        rfl rfl rfl rfl
  | select => exact selectTopNHosts_coherent hs

lemma run_coherent (G : Setup) (now : SystemTime) (kv : KvStore) (ops : List Op) :
    (run G (buildStateFromKvStore G now kv) ops).Coherent :=
  List.foldlRecOn ops (step G) (buildStateFromKvStore_coherent G now kv)
    fun _ hs op _ => step_coherent hs op

/-- The maps of the routing table agree in every state a gateway reaches:
an application lists its instances, it has one, and nothing is cached or
remembered for an application that is not there. -/
theorem index_agrees (G : Setup) (now : SystemTime) (kv : KvStore) (ops : List Op) :
    let s := run G (buildStateFromKvStore G now kv) ops
    (∀ i a, (∃ ids, s.apps.get? a = some ids ∧ ids.mem i)
      ↔ ∃ info, s.instances.get? i = some info ∧ info.appId = a)
    ∧ (∀ a ids, s.apps.get? a = some ids → ids ≠ .empty)
    ∧ (∀ a, s.topN.contains a = true → s.apps.contains a = true)
    ∧ ∀ a, s.allUnhealthyWarned.contains a = true → s.apps.contains a = true := by
  intro s
  have hs : s.Coherent := run_coherent G now kv ops
  refine ⟨fun i a => hs.inApp a i, ?_, ?_, ?_⟩
  · rintro a _ hids rfl
    obtain ⟨i, hi⟩ := hs.noEmptyApp a .empty hids
    exact BTreeSet.not_mem_empty i hi
  · intro a ha
    obtain ⟨v, hv⟩ := Option.isSome_iff_exists.mp ha
    exact Option.isSome_iff_exists.mpr (hs.topN a v hv)
  · intro a ha
    obtain ⟨t, ht⟩ := Option.isSome_iff_exists.mp ha
    exact Option.isSome_iff_exists.mpr (hs.warned a t ht)

/-- Whatever a gateway answers for an application, cached or not, is an
instance it has now, of that application, at that address, with that
counter, and ready. The one exception is the address `localhost` where
the settings turn it into this host. -/
theorem selection_is_current (G : Setup) (now : SystemTime) (kv : KvStore) (ops : List Op)
    (at_ : Nat) (handshakes again : Result Handshakes) (dice : Nat) (a : String)
    (group : AddressGroup) (s' : ProxyState)
    (ha : (run G (buildStateFromKvStore G now kv) ops).instances.get? a = none)
    (hlocal : ¬(G.config.insecureLocalhostBackend = true ∧ a = "localhost"))
    (h : (run G (buildStateFromKvStore G now kv) ops).selectTopNHosts G at_ handshakes again
      dice a = (.ok group, s')) :
    ∀ target ∈ group, ∃ info, s'.instances.get? target.instanceId = some info
      ∧ info.id = target.instanceId ∧ info.appId = a ∧ info.ip = target.ip
      ∧ info.connections = target.counter ∧ info.isReady = true := by
  have hs := run_coherent G now kv ops
  have hoff : (G.config.insecureLocalhostBackend && decide (a = "localhost")) = false := by
    rw [Bool.eq_false_iff, Ne, Bool.and_eq_true, decide_eq_true_iff]
    exact hlocal
  intro target htarget
  rcases selectTopNHosts_selects at_ handshakes again dice hs ha hoff with
    ⟨e, he⟩ | ⟨group', s'', he, hsel⟩
  · rw [h] at he
    cases he
  · rw [h] at he
    cases he
    obtain ⟨info, hinfo, happ, rfl, hready⟩ := hsel.targets target htarget
    exact ⟨info, hinfo, rfl, happ, rfl, rfl, hready⟩

/-- A gateway that registered one instance, and saw it a second ago. -/
theorem registered_selection_is_current :
    let G := sampleGateway ⟨sampleIp 0, 29⟩ false
    let s := run G (buildStateFromKvStore G 0 {}) [.newClient 0 noFaults "cvm" "app"
      (sampleKey 'B') "" ⟨none, none⟩]
    let seen : Handshakes := BTreeMap.insert .empty (sampleKey 'B') (0, nanosPerSec)
    (s.selectTopNHosts G 0 (.ok seen) (.ok seen) 0 "app").1.toOption
      = some [⟨sampleIp 2, 0, "cvm"⟩]
    ∧ ∀ target ∈ [(⟨sampleIp 2, 0, "cvm"⟩ : AddressInfo)], ∃ info,
      (s.selectTopNHosts G 0 (.ok seen) (.ok seen) 0 "app").2.instances.get? target.instanceId
          = some info
      ∧ info.id = target.instanceId ∧ info.appId = "app" ∧ info.ip = target.ip
      ∧ info.connections = target.counter ∧ info.isReady = true := by
  intro G s seen
  have h : (s.selectTopNHosts G 0 (.ok seen) (.ok seen) 0 "app").1.toOption
      = some [⟨sampleIp 2, 0, "cvm"⟩] := by decide +kernel
  refine ⟨h, selection_is_current G 0 {} [.newClient 0 noFaults "cvm" "app"
      (sampleKey 'B') "" ⟨none, none⟩] 0 (.ok seen) (.ok seen) 0 "app" _ _
      (by decide +kernel) (fun hon => Bool.noConfusion hon.1) (Prod.ext ?_ rfl)⟩
  exact Result.ok_of_toOption h

/-- With the debug setting on, `localhost` is this host and no instance. -/
theorem localhost_selection_is_no_instance :
    ¬∀ (G : Setup) (now : SystemTime) (kv : KvStore) (ops : List Op) (at_ : Nat)
      (handshakes again : Result Handshakes) (dice : Nat) (a : String) (group : AddressGroup)
      (s' : ProxyState),
      (run G (buildStateFromKvStore G now kv) ops).instances.get? a = none →
      (run G (buildStateFromKvStore G now kv) ops).selectTopNHosts G at_ handshakes again
        dice a = (.ok group, s') →
      ∀ target ∈ group, ∃ info, s'.instances.get? target.instanceId = some info
        ∧ info.id = target.instanceId ∧ info.appId = a ∧ info.ip = target.ip
        ∧ info.connections = target.counter ∧ info.isReady = true := by
  intro h
  obtain ⟨info, hinfo, -⟩ := h (sampleGateway ⟨sampleIp 0, 29⟩ true) 0 {} [] 0
    (.error "no handshakes") (.error "no handshakes") 0 "localhost" _ _ rfl rfl
    ⟨127 * 2 ^ 24 + 1, 0, "localhost"⟩ List.mem_cons_self
  cases hinfo

end Dstack.Gateway
