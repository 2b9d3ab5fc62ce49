/-
What a reload leaves in the table.

The records that are let in have different addresses and keys. The table
then has these, and the instances it kept: those whose record could not
be read, and those that registered a moment ago. Nothing compares the
two.
-/
import Dstack.Gateway.Passes
import Dstack.Gateway.Proofs.Import

namespace Dstack.Gateway

open Lib ProxyState

-- == the table

namespace ProxyState

/-- A reload leaves the instance although no record of it is let in: its record
cannot be read, or it is young. -/
def Kept (s : ProxyState) (now : SystemTime) (accepted : AcceptedInstances) (id : String)
    (info : InstanceInfo) : Prop :=
  s.instances.get? id = some info ∧ accepted.instances.get? id = none
    ∧ (id ∈ accepted.unreadable ∨ now - info.regTime ≤ localRegistrationGrace)

lemma forgetAll_get? (ids : List String) (s : ProxyState) (id : String) :
    (ids.foldl (fun s id => (forgetInstance id s).2) s).instances.get? id
      = if id ∈ ids then none else s.instances.get? id := by
  induction ids generalizing s with
  | nil => rfl
  | cons id' ids ih =>
    rw [List.foldl_cons, ih, forgetInstance_instances, BTreeMap.get?_erase]
    by_cases hmem : id ∈ ids
    · rw [if_pos hmem, if_pos (List.mem_cons_of_mem _ hmem)]
    · rw [if_neg hmem]
      by_cases hid : id' = id
      · rw [if_pos hid, if_pos (List.mem_cons.mpr (.inl hid.symm))]
      · rw [if_neg hid, if_neg]
        intro h
        rcases List.mem_cons.mp h with h | h
        · exact hid h.symm
        · exact hmem h

lemma applyAll_get? (overrides : String → Result (Option PortPolicy × Option Bool))
    {entries : List (String × InstanceRecord)}
    (hsorted : entries.Pairwise fun e e' => e.1 < e'.1) (s : ProxyState) :
    (∀ e ∈ entries, ∃ s₁,
      (entries.foldl (fun s e => applyRecord (overrides e.1) e.1 e.2 s) s).instances.get? e.1
        = some (recordInfo (overrides e.1) e.1 e.2 s₁))
    ∧ ∀ id, (∀ e ∈ entries, e.1 ≠ id) →
      (entries.foldl (fun s e => applyRecord (overrides e.1) e.1 e.2 s) s).instances.get? id
        = s.instances.get? id := by
  induction entries generalizing s with
  | nil => exact ⟨fun e h => (by cases h), fun id _ => rfl⟩
  | cons e entries ih =>
    obtain ⟨hlt, hsorted⟩ := List.pairwise_cons.mp hsorted
    obtain ⟨hrecords, hothers⟩ := ih hsorted (applyRecord (overrides e.1) e.1 e.2 s)
    constructor
    · intro e' he'
      rcases List.mem_cons.mp he' with rfl | he'
      · refine ⟨s, ?_⟩
        rw [List.foldl_cons, hothers e'.1 fun e he => (ne_of_lt (hlt e he)).symm,
          applyRecord_instances, BTreeMap.get?_insert_self]
      · exact hrecords e' he'
    · intro id hid
      rw [List.foldl_cons, hothers id fun e' he' => hid e' (List.mem_cons_of_mem _ he'),
        applyRecord_instances, BTreeMap.get?_insert_of_ne (hid e List.mem_cons_self)]

lemma forgetAll_kv (ids : List String) (s : ProxyState) :
    (ids.foldl (fun s id => (forgetInstance id s).2) s).kv = s.kv := by
  induction ids generalizing s with
  | nil => rfl
  | cons id ids ih => rw [List.foldl_cons, ih, forgetInstance_kv]

lemma applyAll_kv (overrides : String → Result (Option PortPolicy × Option Bool))
    (entries : List (String × InstanceRecord)) (s : ProxyState) :
    (entries.foldl (fun s e => applyRecord (overrides e.1) e.1 e.2 s) s).kv = s.kv := by
  induction entries generalizing s with
  | nil => rfl
  | cons e entries ih => rw [List.foldl_cons, ih, applyRecord_kv]

lemma applySnapshot_kv (now : SystemTime) (snap : Snapshot) (s : ProxyState) :
    (s.applySnapshot now snap).kv = s.kv := by
  unfold applySnapshot
  rw [applyAll_kv, forgetAll_kv]

lemma reload_kv (G : Setup) (now : SystemTime) (fails : Faults) (s : ProxyState) :
    (s.reloadInstancesFromKvStore G now fails).kv
      = s.kv.migrateLegacyInstanceOverrides fails := by
  rw [reload_eq_passes]
  exact applySnapshot_kv now _ _

lemma mem_dropped {s : ProxyState} {now : SystemTime} {accepted : AcceptedInstances}
    {id : String} : id ∈ s.dropped now accepted ↔ ∃ info, s.instances.get? id = some info
      ∧ accepted.instances.get? id = none ∧ id ∉ accepted.unreadable
      ∧ localRegistrationGrace < now - info.regTime := by
  unfold dropped
  constructor
  · intro h
    obtain ⟨⟨i, info⟩, he, rfl⟩ := List.mem_map.mp h
    obtain ⟨hmem, hcond⟩ := List.mem_filter.mp he
    simp only [Bool.and_eq_true, Bool.not_eq_true', BTreeMap.contains,
      Option.isSome_eq_false_iff, Option.isNone_iff_eq_none, decide_eq_true_iff] at hcond
    refine ⟨info, BTreeMap.mem_entries.mp hmem, hcond.1.1, ?_, hcond.2⟩
    intro hin
    have := List.contains_iff_mem.mpr hin
    rw [hcond.1.2] at this
    cases this
  · rintro ⟨info, hinfo, hnone, hread, hold⟩
    refine List.mem_map.mpr ⟨(id, info), List.mem_filter.mpr
      ⟨BTreeMap.mem_entries.mpr hinfo, ?_⟩, rfl⟩
    simp only [Bool.and_eq_true, Bool.not_eq_true', BTreeMap.contains,
      Option.isSome_eq_false_iff, Option.isNone_iff_eq_none, decide_eq_true_iff]
    refine ⟨⟨hnone, ?_⟩, hold⟩
    exact Bool.eq_false_iff.mpr fun h => hread (List.contains_iff_mem.mp h)

lemma applySnapshot_get? (now : SystemTime) (snap : Snapshot) (s : ProxyState) :
    let s' := s.applySnapshot now snap
    (∀ id data, snap.accepted.instances.get? id = some data →
      ∃ s₁, s'.instances.get? id = some (recordInfo (snap.overrides id) id data s₁))
    ∧ ∀ id info, snap.accepted.instances.get? id = none →
      (s'.instances.get? id = some info ↔ s.Kept now snap.accepted id info) := by
  intro s'
  obtain ⟨hrecords, hothers⟩ := applyAll_get? snap.overrides snap.accepted.instances.sorted
    ((s.dropped now snap.accepted).foldl (fun s id => (forgetInstance id s).2) s)
  constructor
  · intro id data hdata
    exact hrecords (id, data) (BTreeMap.mem_entries.mpr hdata)
  · intro id info hnone
    have hother : s'.instances.get? id = if id ∈ s.dropped now snap.accepted then none
        else s.instances.get? id := by
      refine (hothers id ?_).trans (forgetAll_get? _ _ id)
      rintro ⟨id', data⟩ he rfl
      rw [BTreeMap.mem_entries.mp he] at hnone
      cases hnone
    rw [hother]
    by_cases hdropped : id ∈ s.dropped now snap.accepted
    · rw [if_pos hdropped]
      refine ⟨fun h => (by cases h), ?_⟩
      rintro ⟨hinfo, -, hkept⟩
      obtain ⟨info', hinfo', -, hread, hold⟩ := mem_dropped.mp hdropped
      rw [hinfo] at hinfo'
      cases hinfo'
      rcases hkept with h | h
      · exact absurd h hread
      · exact absurd h (Nat.not_le_of_lt hold)
    · rw [if_neg hdropped]
      refine ⟨fun hinfo => ⟨hinfo, hnone, ?_⟩, And.left⟩
      by_contra hneither
      rw [not_or] at hneither
      exact hdropped (mem_dropped.mpr
        ⟨info, hinfo, hnone, hneither.1, Nat.lt_of_not_le hneither.2⟩)

lemma reload_get? (G : Setup) (now : SystemTime) (fails : Faults) (s : ProxyState) :
    let accepted := acceptInstances G
      (s.kv.migrateLegacyInstanceOverrides fails).loadAllInstances now
    let s' := s.reloadInstancesFromKvStore G now fails
    (∀ id data, accepted.instances.get? id = some data → ∃ s₁, s'.instances.get? id
      = some (recordInfo ((s.kv.migrateLegacyInstanceOverrides fails).readOverrides id) id data s₁))
    ∧ ∀ id info, accepted.instances.get? id = none →
      (s'.instances.get? id = some info ↔ s.Kept now accepted id info) :=
  applySnapshot_get? now (s.takeSnapshot G now fails).1 (s.takeSnapshot G now fails).2

end ProxyState

/-- Two instances share neither an address nor a key. -/
def Apart (i j : InstanceInfo) : Prop := i.ip ≠ j.ip ∧ i.publicKey ≠ j.publicKey

lemma Apart.symm {i j : InstanceInfo} (h : Apart i j) : Apart j i :=
  ⟨h.1.symm, h.2.symm⟩

/-- After a reload no two instances share an address or a key, and no
instance whose record lost is left, exactly if all this is so of the
instances it keeps without a record: none of them lost, and none has the
address or key of a record that was let in, or of another one kept. -/
theorem reload_apart_iff (G : Setup) (now : SystemTime) (fails : Faults) (s : ProxyState) :
    let accepted := acceptInstances G
      (s.kv.migrateLegacyInstanceOverrides fails).loadAllInstances now
    let s' := s.reloadInstancesFromKvStore G now fails
    ((∀ i j info info', s'.instances.get? i = some info → s'.instances.get? j = some info' →
        i ≠ j → Apart info info')
      ∧ ∀ id, accepted.Lost id → s'.instances.get? id = none)
    ↔ ∀ i info, s.Kept now accepted i info →
      ¬accepted.Lost i
      ∧ (∀ j data, accepted.instances.get? j = some data →
        data.ip ≠ info.ip ∧ data.publicKey ≠ info.publicKey)
      ∧ ∀ j info', s.Kept now accepted j info' → i ≠ j → Apart info info' := by
  intro accepted s'
  obtain ⟨hinfos, hkept⟩ := reload_get? G now fails s
  have hrecords : ∀ id data, accepted.instances.get? id = some data → ∃ info,
      s'.instances.get? id = some info ∧ info.ip = data.ip ∧ info.publicKey = data.publicKey := by
    intro id data hdata
    obtain ⟨s₁, hinfo⟩ := hinfos id data hdata
    obtain ⟨-, -, hip, hkey, -⟩ := recordInfo_spec
      ((s.kv.migrateLegacyInstanceOverrides fails).readOverrides id) data s₁ id
    exact ⟨_, hinfo, hip, hkey⟩
  have hconsidered := acceptInstances_considered G (s.kv.migrateLegacyInstanceOverrides fails) now
  constructor
  · rintro ⟨hapart, hlost⟩ i info hi
    have hin : s'.instances.get? i = some info := (hkept i info hi.2.1).mpr hi
    refine ⟨?_, ?_, ?_⟩
    · intro h
      rw [hlost i h] at hin
      cases hin
    · intro j data hdata
      obtain ⟨info', hinfo', hip, hkey⟩ := hrecords j data hdata
      have hne : j ≠ i := by
        rintro rfl
        rw [show accepted.instances.get? j = none from hi.2.1] at hdata
        cases hdata
      have h := hapart j i info' info hinfo' hin hne
      rw [← hip, ← hkey]
      exact h
    · intro j info' hj hne
      exact hapart i j info info' hin ((hkept j info' hj.2.1).mpr hj) hne
  · intro hclean
    constructor
    · intro i j info info' hi hj hne
      -- Each of the two is as its record says, or was kept.
      cases hdata : accepted.instances.get? i with
      | some data =>
        obtain ⟨_, hi', hip, hkey⟩ := hrecords i data hdata
        obtain rfl : info = _ := Option.some.inj (hi.symm.trans hi')
        cases hdata' : accepted.instances.get? j with
        | some data' =>
          obtain ⟨_, hj', hip', hkey'⟩ := hrecords j data' hdata'
          obtain rfl : info' = _ := Option.some.inj (hj.symm.trans hj')
          have happart := hconsidered.apart (i, data) (j, data') hdata hdata' hne
          rw [Apart, hip, hip', hkey, hkey']
          exact happart
        | none =>
          have h := (hclean j info' ((hkept j info' hdata').mp hj)).2.1 i data hdata
          refine ⟨?_, ?_⟩
          · rw [hip]
            exact h.1
          · rw [hkey]
            exact h.2
      | none =>
        have hi' := (hkept i info hdata).mp hi
        cases hdata' : accepted.instances.get? j with
        | some data' =>
          obtain ⟨_, hj', hip', hkey'⟩ := hrecords j data' hdata'
          obtain rfl : info' = _ := Option.some.inj (hj.symm.trans hj')
          have h := (hclean i info hi').2.1 j data' hdata'
          rw [← hip', ← hkey'] at h
          exact Apart.symm h
        | none =>
          exact (hclean i info hi').2.2 j info' ((hkept j info' hdata').mp hj) hne
    · intro id hlost
      have hnone := hconsidered.get?_of_lost (loadAllInstances_nodup _) hlost
      refine Option.eq_none_iff_forall_ne_some.mpr fun info hinfo => ?_
      exact (hclean id info ((hkept id info hnone).mp hinfo)).1 hlost

/-- An instance that registered a second ago, at an address that a record
of a peer had before: the record wins, and the instance stays. -/
theorem young_loser_stays :
    ∃ (G : Setup) (now : SystemTime) (kv : KvStore) (ops : List Op) (reloadAt : SystemTime)
      (fails : Faults),
      let s := run G (buildStateFromKvStore G now kv) ops
      let accepted := acceptInstances G
        (s.kv.migrateLegacyInstanceOverrides fails).loadAllInstances reloadAt
      let s' := s.reloadInstancesFromKvStore G reloadAt fails
      ∃ winner loser info info', s'.instances.get? winner = some info
        ∧ s'.instances.get? loser = some info' ∧ winner ≠ loser ∧ info.ip = info'.ip
        ∧ accepted.Lost loser := by
  refine ⟨sampleGateway ⟨sampleIp 0, 29⟩ false, 0, {},
    [.newClient (1000 * nanosPerSec) noFaults "b" "app" (sampleKey 'C') "" ⟨none, none⟩,
      .merge (sampleStore [("a", sampleRecord 2 'B'),
        ("b", { sampleRecord 2 'C' with regTime := 1000 })])],
    1001 * nanosPerSec, noFaults, ?_⟩
  intro s accepted s'
  have ha : (s'.instances.get? "a").map InstanceInfo.ip = some (sampleIp 2) := by decide +kernel
  have hb : (s'.instances.get? "b").map InstanceInfo.ip = some (sampleIp 2) := by decide +kernel
  obtain ⟨info, hinfo, hip⟩ := Option.map_eq_some_iff.mp ha
  obtain ⟨info', hinfo', hip'⟩ := Option.map_eq_some_iff.mp hb
  refine ⟨"a", "b", info, info', hinfo, hinfo', by decide, hip.trans hip'.symm, ?_⟩
  have hlost : (accepted.rejected.find? fun r =>
      r.instanceId = "b" ∧ r.rejection = .lostConflict).isSome = true := by decide +kernel
  obtain ⟨r, hr⟩ := Option.isSome_iff_exists.mp hlost
  have h := List.find?_some hr
  rw [decide_eq_true_iff] at h
  exact ⟨r, List.mem_of_find?_eq_some hr, h.1, h.2⟩

end Dstack.Gateway
