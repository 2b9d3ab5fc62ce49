/-
What is let in of the records of a store (`kv/import.rs`).

The records are gone through by age and each is let in unless one
already let in has its address or its key. What comes out is a
resolution by precedence, so it depends on the usable records only. Which
records are usable is for each gateway to say.
-/
import Dstack.Gateway.Proofs.Table
import Dstack.Lib.Resolution

namespace Dstack.Gateway

open Lib

-- == records

/-- A gateway has nothing to say against the record itself. -/
def Usable (G : Setup) (now : Nat) (e : String × InstanceRecord) : Prop :=
  validateInstance G now e.1 e.2 = .ok ()

/-- Registered earlier, or in the same second under a smaller id. -/
def Before (e e' : String × InstanceRecord) : Prop :=
  e.2.regTime < e'.2.regTime ∨ e.2.regTime = e'.2.regTime ∧ e.1 < e'.1

/-- Two records claim one address or one key. -/
def Clash (e e' : String × InstanceRecord) : Prop :=
  e.2.ip = e'.2.ip ∨ e.2.publicKey = e'.2.publicKey

def age (e : String × InstanceRecord) : ℕ ×ₗ String := toLex (e.2.regTime, e.1)

variable {e : String × InstanceRecord}

lemma before_iff {e' : String × InstanceRecord} : Before e e' ↔ age e < age e' := by
  rw [age, age, Prod.Lex.toLex_lt_toLex, Before]

lemma registeredBefore_iff {e' : String × InstanceRecord} :
    registeredBefore e e' ↔ age e ≤ age e' := by
  rw [age, age, Prod.Lex.toLex_le_toLex, registeredBefore]

instance : IsStrictOrder (String × InstanceRecord) Before where
  irrefl _ h := lt_irrefl _ (before_iff.mp h)
  trans _ _ _ h h' := before_iff.mpr ((before_iff.mp h).trans (before_iff.mp h'))

lemma before_or_before {e' : String × InstanceRecord} (h : e.1 ≠ e'.1) :
    Before e e' ∨ Before e' e := by
  rw [before_iff, before_iff]
  refine lt_or_gt_of_ne fun heq => h ?_
  exact congrArg (fun a => (ofLex a).2) heq

/-- No id occurs twice, among all records that were read. -/
def LoadedInstances.IdsDistinct (loaded : LoadedInstances) : Prop :=
  (loaded.decoded.map Prod.fst ++ loaded.undecodable.map Prod.fst).Nodup

lemma eq_of_fst_eq {α β : Type} {l : List (α × β)} (hnodup : (l.map Prod.fst).Nodup)
    {e e' : α × β} (he : e ∈ l) (he' : e' ∈ l) (h : e.1 = e'.1) : e = e' :=
  List.inj_on_of_nodup_map hnodup he he' h

lemma sorted_before {entries : List (String × InstanceRecord)}
    (hnodup : (entries.map Prod.fst).Nodup) :
    (entries.insertionSort registeredBefore).Pairwise fun e e' => Before e e' ∧ e.1 ≠ e'.1 := by
  have : Std.Total registeredBefore := ⟨fun e e' => by
    rw [registeredBefore_iff, registeredBefore_iff]
    exact le_total _ _⟩
  have : IsTrans _ registeredBefore := ⟨fun e e' e'' h h' =>
    registeredBefore_iff.mpr ((registeredBefore_iff.mp h).trans (registeredBefore_iff.mp h'))⟩
  have hsorted := List.pairwise_insertionSort registeredBefore entries
  have hids : (entries.insertionSort registeredBefore).Pairwise fun e e' => e.1 ≠ e'.1 :=
    List.pairwise_map.mp
      (((List.perm_insertionSort registeredBefore entries).map Prod.fst).nodup_iff.mpr hnodup)
  refine hsorted.imp₂ ?_ hids
  rintro e e' (h | ⟨h, hid⟩) hne
  · exact ⟨.inl h, hne⟩
  · exact ⟨.inr ⟨h, lt_of_le_of_ne hid hne⟩, hne⟩

-- == admission

variable {a : AcceptedInstances}

namespace AcceptedInstances

/-- The id is rejected as the loser of a conflict. -/
def Lost (a : AcceptedInstances) (id : String) : Prop :=
  ∃ r ∈ a.rejected, r.instanceId = id ∧ r.rejection = .lostConflict

/-- The records let in. -/
def taken (a : AcceptedInstances) : Set (String × InstanceRecord) :=
  {e | a.instances.get? e.1 = some e.2}

/-- What the check of a record comes to, by what was claimed before it. -/
inductive Checked (G : Setup) (now : Nat) (a : AcceptedInstances)
    (e : String × InstanceRecord) : Except (Rejection × String) Unit → Prop
  | unusable (reason : String) : ¬Usable G now e → Checked G now a e (.error (.unusable, reason))
  | lost (reason : String) : Usable G now e →
      (∃ owner, a.claimedIps.get? e.2.ip = some owner) ∨ a.claimedKeys.mem e.2.publicKey →
      Checked G now a e (.error (.lostConflict, reason))
  | taken : Usable G now e → a.claimedIps.get? e.2.ip = none →
      ¬a.claimedKeys.mem e.2.publicKey → Checked G now a e (.ok ())

lemma check_checked (G : Setup) (now : Nat) (a : AcceptedInstances) (id : String)
    (data : InstanceRecord) : Checked G now a (id, data) (a.check G now id data) := by
  unfold check
  cases hvalid : validateInstance G now id data with
  | error reason =>
    refine .unusable _ fun h => ?_
    have h : validateInstance G now id data = .ok () := h
    rw [hvalid] at h
    cases h
  | ok u =>
    cases hip : a.claimedIps.get? data.ip with
    | some owner => exact .lost _ hvalid (.inl ⟨owner, hip⟩)
    | none =>
      by_cases hkey : a.claimedKeys.mem data.publicKey
      · have hens : Result.ensure (¬a.claimedKeys.mem data.publicKey)
            (Rejection.lostConflict, "public key is already registered to another instance")
            = .error _ := if_neg (not_not_intro hkey)
        show Checked G now a (id, data) (Result.ensure _ _)
        rw [hens]
        exact .lost _ hvalid (.inr hkey)
      · have hens : Result.ensure (¬a.claimedKeys.mem data.publicKey)
            (Rejection.lostConflict, "public key is already registered to another instance")
            = .ok () := if_pos hkey
        show Checked G now a (id, data) (Result.ensure _ _)
        rw [hens]
        exact .taken hvalid hip hkey

/-- What was claimed and rejected once some records were gone through:
`done` of those that decode, `undecodable` of the others. -/
structure Considered (G : Setup) (now : Nat) (undecodable : List String)
    (done : List (String × InstanceRecord)) (a : AcceptedInstances) : Prop where
  ips : ∀ ip owner, a.claimedIps.get? ip = some owner ↔
    ∃ data, (owner, data) ∈ a.taken ∧ data.ip = ip
  keys : ∀ key, a.claimedKeys.mem key ↔ ∃ e ∈ a.taken, e.2.publicKey = key
  resolves : Resolves Before Clash (Usable G now) {e | e ∈ done} a.taken
  lost : ∀ id, a.Lost id ↔ ∃ data, (id, data) ∈ done ∧ Usable G now (id, data)
    ∧ (id, data) ∉ a.taken
  unreadable : ∀ id, id ∈ a.unreadable ↔ id ∈ undecodable
    ∨ ∃ data, (id, data) ∈ done ∧ ¬Usable G now (id, data)

def reject (a : AcceptedInstances) (r : RejectedInstance) : AcceptedInstances :=
  { a with rejected := a.rejected ++ [r] }

lemma rejected_reject {r : RejectedInstance} {id : String} {why : Rejection} :
    (∃ r' ∈ (a.reject r).rejected, r'.instanceId = id ∧ r'.rejection = why)
      ↔ (∃ r' ∈ a.rejected, r'.instanceId = id ∧ r'.rejection = why)
        ∨ r.instanceId = id ∧ r.rejection = why := by
  simp [reject, or_and_right, exists_or]

lemma mem_unreadable {id : String} :
    id ∈ a.unreadable ↔ ∃ r ∈ a.rejected, r.instanceId = id ∧ r.rejection = .unusable := by
  simp [unreadable, and_assoc, and_comm]

lemma taken_insert {id : String} (data : InstanceRecord)
    (ips : BTreeMap Ipv4Addr String) (keys : BTreeSet String)
    (hnone : a.instances.get? id = none) :
    taken { a with
      claimedIps := ips, claimedKeys := keys, instances := a.instances.insert id data }
      = insert (id, data) a.taken := by
  ext ⟨i, d⟩
  show (a.instances.insert id data).get? i = some d ↔ (i, d) = (id, data) ∨ _
  rw [BTreeMap.get?_insert_eq_some, Prod.mk.injEq]
  constructor
  · exact Or.imp (fun h => ⟨h.1.symm, h.2.symm⟩) And.right
  · rintro (⟨rfl, rfl⟩ | h)
    · exact .inl ⟨rfl, rfl⟩
    · refine .inr ⟨?_, h⟩
      rintro rfl
      rw [show a.instances.get? id = some d from h] at hnone
      cases hnone

lemma exists_concat {done : List (String × InstanceRecord)} {id id' : String}
    {data : InstanceRecord} {P : String × InstanceRecord → Prop} :
    (∃ d, (id', d) ∈ done ++ [(id, data)] ∧ P (id', d))
      ↔ (∃ d, (id', d) ∈ done ∧ P (id', d)) ∨ id = id' ∧ P (id, data) := by
  constructor
  · rintro ⟨d, hd, hP⟩
    rcases List.mem_append.mp hd with hd | hd
    · exact .inl ⟨d, hd, hP⟩
    · cases List.mem_singleton.mp hd
      exact .inr ⟨rfl, hP⟩
  · rintro (⟨d, hd, hP⟩ | ⟨rfl, hP⟩)
    · exact ⟨d, List.mem_append_left _ hd, hP⟩
    · exact ⟨data, List.mem_append_right _ (List.mem_singleton.mpr rfl), hP⟩

lemma setOf_concat {α : Type} (l : List α) (e : α) :
    {x | x ∈ l ++ [e]} = insert e {x | x ∈ l} := by
  ext x
  simp [or_comm]

namespace Considered

variable {G : Setup} {now : Nat} {undecodable : List String}
  {done : List (String × InstanceRecord)} {a : AcceptedInstances} {id : String}
  {data : InstanceRecord}

section

variable (h : Considered G now undecodable done a)
include h

lemma clear (id : String)
    (hip : a.claimedIps.get? data.ip = none) (hkey : ¬a.claimedKeys.mem data.publicKey) :
    ∀ b ∈ a.taken, ¬Clash b (id, data) := by
  rintro ⟨i, d⟩ hb (hsame | hsame)
  · have hclaimed := (h.ips data.ip i).mpr ⟨d, hb, hsame⟩
    rw [hip] at hclaimed
    cases hclaimed
  · exact hkey ((h.keys data.publicKey).mpr ⟨(i, d), hb, hsame⟩)

lemma clash (hclaimed : (∃ owner, a.claimedIps.get? data.ip = some owner)
      ∨ a.claimedKeys.mem data.publicKey) :
    ∃ b ∈ a.taken, Clash b (id, data) := by
  rcases hclaimed with ⟨owner, hip⟩ | hkey
  · obtain ⟨d, hd, hsame⟩ := (h.ips data.ip owner).mp hip
    exact ⟨(owner, d), hd, .inl hsame⟩
  · obtain ⟨b, hb, hsame⟩ := (h.keys data.publicKey).mp hkey
    exact ⟨b, hb, .inr hsame⟩

lemma fresh (hnew : ∀ e ∈ done, e.1 ≠ id) :
    a.instances.get? id = none := by
  refine Option.eq_none_iff_forall_ne_some.mpr fun d hd => ?_
  exact hnew (id, d) (h.resolves.subset (show (id, d) ∈ a.taken from hd)) rfl

lemma reject (hlast : ∀ e ∈ done, Before e (id, data)) (r : RejectedInstance)
    (hr : r.instanceId = id) (hnew : ∀ e ∈ done, e.1 ≠ id)
    (hunusable : r.rejection = .unusable ↔ ¬Usable G now (id, data))
    (hclash : Usable G now (id, data) → ∃ b ∈ a.taken, Clash b (id, data)) :
    Considered G now undecodable (done ++ [(id, data)]) (a.reject r) := by
  have hout : (id, data) ∉ a.taken := fun hmem => hnew _ (h.resolves.subset hmem) rfl
  have hlost : r.rejection = .lostConflict ↔ Usable G now (id, data) := by
    rw [← not_iff_not, ← hunusable]
    cases r.rejection <;> simp
  refine ⟨h.ips, h.keys, ?_, fun id' => ?_, fun id' => ?_⟩
  · rw [setOf_concat]
    exact h.resolves.pass hlast hclash
  · refine (rejected_reject.trans (or_congr_left (h.lost id'))).trans ?_
    rw [hr, hlost, show (a.reject r).taken = a.taken from rfl,
      exists_concat (P := fun e => Usable G now e ∧ e ∉ a.taken), and_iff_left hout]
  · rw [mem_unreadable, rejected_reject, ← mem_unreadable, h.unreadable, hr, hunusable,
      exists_concat (P := fun e => ¬Usable G now e), or_assoc]

lemma accept (hlast : ∀ e ∈ done, Before e (id, data)) (hnew : ∀ e ∈ done, e.1 ≠ id)
    (husable : Usable G now (id, data)) (hip : a.claimedIps.get? data.ip = none)
    (hkey : ¬a.claimedKeys.mem data.publicKey) :
    Considered G now undecodable (done ++ [(id, data)]) { a with
      claimedIps := a.claimedIps.insert data.ip id
      claimedKeys := BTreeSet.add a.claimedKeys data.publicKey
      instances := a.instances.insert id data } := by
  have htaken := fun ips keys => taken_insert data ips keys (h.fresh hnew)
  refine ⟨fun ip owner => ?_, fun key => ?_, ?_, fun id' => ?_, fun id' => ?_⟩
  · rw [htaken, BTreeMap.get?_insert_eq_some, h.ips]
    constructor
    · rintro (⟨hsame, rfl⟩ | ⟨-, d, hd, hdip⟩)
      · exact ⟨data, .inl rfl, hsame⟩
      · exact ⟨d, .inr hd, hdip⟩
    · rintro ⟨d, hd | hd, hdip⟩
      · cases hd
        exact .inl ⟨hdip, rfl⟩
      · refine .inr ⟨fun hsame => ?_, d, hd, hdip⟩
        exact h.clear id hip hkey _ hd (.inl (hdip.trans hsame.symm))
  · rw [htaken, BTreeSet.mem_add, h.keys]
    exact (Set.exists_mem_insert (a := (id, data)) (P := (·.2.publicKey = key))).symm
  · rw [setOf_concat, htaken]
    exact h.resolves.take hlast husable (h.clear id hip hkey)
  · refine (h.lost id').trans ?_
    rw [htaken, exists_concat (P := fun e => Usable G now e ∧ e ∉ insert (id, data) a.taken),
      or_iff_left fun h => h.2.2 (.inl rfl)]
    refine exists_congr fun d => and_congr_right fun hd => and_congr_right fun _ => not_congr ?_
    exact ⟨.inr, fun hmem => hmem.resolve_left fun heq => hnew _ hd (Prod.mk.inj heq).1⟩
  · refine (h.unreadable id').trans (or_congr_right ?_)
    rw [exists_concat (P := fun e => ¬Usable G now e), or_iff_left fun h => h.2 husable]

lemma step (hlast : ∀ e ∈ done, Before e (id, data) ∧ e.1 ≠ id) :
    Considered G now undecodable (done ++ [(id, data)]) (a.consider G now (id, data)) := by
  have hbefore := fun e he => (hlast e he).1
  have hnew := fun e he => (hlast e he).2
  have hchecked := check_checked G now a id data
  unfold consider
  dsimp only
  generalize a.check G now id data = r at hchecked
  cases hchecked with
  | unusable reason hnot =>
    refine h.reject hbefore ⟨id, reason, .unusable⟩ rfl hnew ⟨fun _ => hnot, fun _ => rfl⟩ ?_
    exact fun husable => absurd husable hnot
  | lost reason husable hclaimed =>
    refine h.reject hbefore ⟨id, reason, .lostConflict⟩ rfl hnew ?_ fun _ => h.clash hclaimed
    exact ⟨fun h => (by cases h), fun hnot => absurd husable hnot⟩
  | taken husable hip hkey => exact h.accept hbefore hnew husable hip hkey

lemma of_perm {done' : List (String × InstanceRecord)} (hperm : done.Perm done') :
    Considered G now undecodable done' a where
  ips := h.ips
  keys := h.keys
  resolves e := by
    rw [h.resolves e]
    exact and_congr_left' hperm.mem_iff
  lost id := by
    rw [h.lost]
    exact exists_congr fun d => and_congr_left' hperm.mem_iff
  unreadable id := by
    rw [h.unreadable]
    exact or_congr_right (exists_congr fun d => and_congr_left' hperm.mem_iff)

lemma apart (e e' : String × InstanceRecord)
    (he : e ∈ a.taken) (he' : e' ∈ a.taken) (hne : e.1 ≠ e'.1) :
    e.2.ip ≠ e'.2.ip ∧ e.2.publicKey ≠ e'.2.publicKey := by
  have hclash : ¬Clash e e' := by
    rcases before_or_before hne with hbefore | hbefore
    · exact ((h.resolves e').mp he').2.2 e he hbefore
    · intro hclash
      exact ((h.resolves e).mp he).2.2 e' he' hbefore (hclash.imp Eq.symm Eq.symm)
  exact not_or.mp hclash

end

lemma foldl (entries : List (String × InstanceRecord))
    (hsorted : (done ++ entries).Pairwise fun e e' => Before e e' ∧ e.1 ≠ e'.1)
    (h : Considered G now undecodable done a) :
    Considered G now undecodable (done ++ entries) (entries.foldl (·.consider G now ·) a) := by
  induction entries generalizing done a with
  | nil => rwa [List.append_nil]
  | cons e entries ih =>
    rw [List.append_cons] at hsorted ⊢
    obtain ⟨hfront, -, -⟩ := List.pairwise_append.mp hsorted
    have hlast := (List.pairwise_append.mp hfront).2.2
    exact ih hsorted (h.step fun e' he' => hlast e' he' e (List.mem_singleton.mpr rfl))

end Considered

end AcceptedInstances

open AcceptedInstances

lemma acceptInstancesAt_considered (G : Setup) {loaded : LoadedInstances} (now : Nat)
    (hids : (loaded.decoded.map Prod.fst).Nodup) :
    Considered G now (loaded.undecodable.map Prod.fst) loaded.decoded
      (acceptInstancesAt G loaded now) := by
  have hsorted := sorted_before hids
  have hstart : Considered G now (loaded.undecodable.map Prod.fst) []
      { rejected := loaded.undecodable.map fun e => ⟨e.1, e.2, .unusable⟩ } := by
    refine ⟨?_, ?_, ?_, ?_, ?_⟩
    · intro ip owner
      constructor
      · intro h
        cases h
      · rintro ⟨d, hd, -⟩
        cases hd
    · intro key
      constructor
      · intro h
        cases h
      · rintro ⟨e, he, -⟩
        cases he
    · have hnone : ∀ e : String × InstanceRecord, e ∉ taken
          { rejected := loaded.undecodable.map fun e => ⟨e.1, e.2, .unusable⟩ } :=
        fun e he => by cases he
      rw [Set.eq_empty_of_forall_notMem hnone]
      have hempty : {e : String × InstanceRecord | e ∈ []} = ∅ := by simp
      rw [hempty]
      exact Resolves.empty
    · intro id
      constructor
      · rintro ⟨r, hr, -, hlost⟩
        obtain ⟨_, -, rfl⟩ := List.mem_map.mp hr
        cases hlost
      · rintro ⟨d, hd, -⟩
        cases hd
    · intro id
      rw [mem_unreadable]
      constructor
      · rintro ⟨r, hr, rfl, -⟩
        obtain ⟨e, he, rfl⟩ := List.mem_map.mp hr
        exact .inl (List.mem_map_of_mem he)
      · rintro (hid | ⟨d, hd, -⟩)
        · obtain ⟨e, he, rfl⟩ := List.mem_map.mp hid
          exact ⟨_, List.mem_map_of_mem he, rfl, rfl⟩
        · cases hd
  have hend := hstart.foldl (loaded.decoded.insertionSort registeredBefore) hsorted
  exact hend.of_perm (List.perm_insertionSort registeredBefore _)

lemma acceptInstancesAt_instances_congr (G : Setup) (now : Nat)
    {loaded loaded' : LoadedInstances} (hids : (loaded.decoded.map Prod.fst).Nodup)
    (hids' : (loaded'.decoded.map Prod.fst).Nodup)
    (hsame : ∀ e, Usable G now e → (e ∈ loaded.decoded ↔ e ∈ loaded'.decoded)) :
    (acceptInstancesAt G loaded now).taken = (acceptInstancesAt G loaded' now).taken :=
  (acceptInstancesAt_considered G now hids).resolves.eq_of_same_valid (List.finite_toSet _)
    (acceptInstancesAt_considered G now hids').resolves hsame

lemma taken_eq_iff {a' : AcceptedInstances} : a.taken = a'.taken ↔ a.instances = a'.instances := by
  refine ⟨fun h => BTreeMap.ext_get? fun id => Option.ext fun data => ?_, fun h => ?_⟩
  · exact iff_of_eq (congrArg ((id, data) ∈ ·) h)
  · rw [taken, taken, h]

lemma mem_rejected_iff {id : String} :
    id ∈ a.rejected.map (·.instanceId) ↔ id ∈ a.unreadable ∨ a.Lost id := by
  rw [List.mem_map, mem_unreadable]
  constructor
  · rintro ⟨r, hr, hid⟩
    cases hrejection : r.rejection with
    | unusable => exact .inl ⟨r, hr, hid, hrejection⟩
    | lostConflict => exact .inr ⟨r, hr, hid, hrejection⟩
  · rintro (⟨r, hr, hid, -⟩ | ⟨r, hr, hid, -⟩)
    · exact ⟨r, hr, hid⟩
    · exact ⟨r, hr, hid⟩

namespace AcceptedInstances.Considered

variable {G : Setup} {now : Nat} {undecodable : List String}
  {done : List (String × InstanceRecord)} {a : AcceptedInstances}
  (h : Considered G now undecodable done a)

include h

lemma settled_iff (id : String) :
    (a.instances.contains id = true ∨ id ∈ a.rejected.map (·.instanceId))
      ↔ id ∈ done.map Prod.fst ++ undecodable := by
  rw [mem_rejected_iff, List.mem_append, List.mem_map]
  constructor
  · rintro (hin | hunreadable | hlost)
    · obtain ⟨data, hdata⟩ := Option.isSome_iff_exists.mp hin
      exact .inl ⟨(id, data), h.resolves.subset (show (id, data) ∈ a.taken from hdata), rfl⟩
    · rcases (h.unreadable id).mp hunreadable with hid | ⟨data, hdata, -⟩
      · exact .inr hid
      · exact .inl ⟨(id, data), hdata, rfl⟩
    · obtain ⟨data, hdata, -⟩ := (h.lost id).mp hlost
      exact .inl ⟨(id, data), hdata, rfl⟩
  · rintro (⟨⟨i, data⟩, hdata, rfl⟩ | hid)
    · by_cases husable : Usable G now (i, data)
      · by_cases htaken : (i, data) ∈ a.taken
        · exact .inl (Option.isSome_of_eq_some htaken)
        · exact .inr (.inr ((h.lost i).mpr ⟨data, hdata, husable, htaken⟩))
      · exact .inr (.inl ((h.unreadable i).mpr (.inr ⟨data, hdata, husable⟩)))
    · exact .inr (.inl ((h.unreadable id).mpr (.inl hid)))

lemma get?_of_lost (hnodup : (done.map Prod.fst).Nodup) {id : String} (hlost : a.Lost id) :
    a.instances.get? id = none := by
  obtain ⟨d, hd, -, hnot⟩ := (h.lost id).mp hlost
  refine Option.eq_none_iff_forall_ne_some.mpr fun data hdata => hnot ?_
  have hmem : (id, data) ∈ done := h.resolves.subset (show (id, data) ∈ a.taken from hdata)
  rwa [eq_of_fst_eq hnodup hd hmem rfl]

lemma not_both (hids : (done.map Prod.fst ++ undecodable).Nodup) (id : String) :
    ¬(a.instances.contains id = true ∧ id ∈ a.rejected.map (·.instanceId)) := by
  rintro ⟨hin, hout⟩
  obtain ⟨data, hdata⟩ := Option.isSome_iff_exists.mp hin
  obtain ⟨hnodup, -, hdisjoint⟩ := List.nodup_append.mp hids
  have hmem : (id, data) ∈ done := h.resolves.subset (show (id, data) ∈ a.taken from hdata)
  rcases mem_rejected_iff.mp hout with hunreadable | hlost
  · rcases (h.unreadable id).mp hunreadable with hid | ⟨d, hd, hnot⟩
    · exact hdisjoint id (List.mem_map_of_mem hmem) id hid rfl
    · rw [eq_of_fst_eq hnodup hd hmem rfl] at hnot
      exact hnot (h.resolves.valid_of_mem hdata)
  · rw [h.get?_of_lost hnodup hlost] at hdata
    cases hdata

lemma lost_iff (id : String) :
    a.Lost id ↔ ∃ data, (id, data) ∈ done ∧ Usable G now (id, data)
      ∧ ∃ e ∈ a.taken, Before e (id, data) ∧ Clash e (id, data) := by
  rw [h.lost]
  refine exists_congr fun data => and_congr_right fun hdata => and_congr_right fun husable => ?_
  exact h.resolves.notMem_iff hdata husable

end AcceptedInstances.Considered

/-- Of the records of a store each id is let in or kept out, and not
both. Those let in have different addresses and keys. One is kept out as
the loser of a conflict exactly if it is usable and one let in is older
and has its address or its key. Records that are not usable, and the
order in which the records come, have no say in what is let in. -/
theorem acceptance_resolves_conflicts (G : Setup) (now : Nat) (loaded : LoadedInstances)
    (hids : loaded.IdsDistinct) :
    let a := acceptInstancesAt G loaded now
    (∀ id, (a.instances.contains id = true ∨ id ∈ a.rejected.map (·.instanceId))
        ↔ id ∈ loaded.decoded.map Prod.fst ++ loaded.undecodable.map Prod.fst)
    ∧ (∀ id, ¬(a.instances.contains id = true ∧ id ∈ a.rejected.map (·.instanceId)))
    ∧ (∀ id data, a.instances.get? id = some data → (id, data) ∈ loaded.decoded)
    ∧ (∀ i j data data', a.instances.get? i = some data → a.instances.get? j = some data' →
        i ≠ j → data.ip ≠ data'.ip ∧ data.publicKey ≠ data'.publicKey)
    ∧ (∀ id, id ∈ a.unreadable ↔ id ∈ loaded.undecodable.map Prod.fst
        ∨ ∃ data, (id, data) ∈ loaded.decoded ∧ validateInstance G now id data ≠ .ok ())
    ∧ (∀ id, a.Lost id ↔ ∃ data, (id, data) ∈ loaded.decoded
        ∧ validateInstance G now id data = .ok ()
        ∧ ∃ id' data', a.instances.get? id' = some data'
          ∧ (data'.regTime < data.regTime ∨ data'.regTime = data.regTime ∧ id' < id)
          ∧ (data'.ip = data.ip ∨ data'.publicKey = data.publicKey))
    ∧ ∀ loaded' : LoadedInstances, loaded'.IdsDistinct →
        (∀ id data, validateInstance G now id data = .ok () →
          ((id, data) ∈ loaded.decoded ↔ (id, data) ∈ loaded'.decoded)) →
        (acceptInstancesAt G loaded' now).instances = a.instances := by
  intro a
  obtain ⟨hnodup, -, -⟩ := List.nodup_append.mp hids
  have h : Considered G now (loaded.undecodable.map Prod.fst) loaded.decoded a :=
    acceptInstancesAt_considered G now hnodup
  refine ⟨h.settled_iff, h.not_both hids, ?_, ?_, h.unreadable, ?_, ?_⟩
  · intro id data hdata
    exact h.resolves.subset (show (id, data) ∈ a.taken from hdata)
  · intro i j data data' hi hj hne
    exact h.apart (i, data) (j, data') hi hj hne
  · intro id
    rw [h.lost_iff]
    refine exists_congr fun data => and_congr_right fun _ => and_congr_right fun _ => ?_
    rw [Prod.exists]
    rfl
  · intro loaded' hids' hsame
    obtain ⟨hnodup', -, -⟩ := List.nodup_append.mp hids'
    refine (taken_eq_iff.mp ?_).symm
    exact acceptInstancesAt_instances_congr G now hnodup hnodup' fun e => hsame e.1 e.2

/-- Two records at one address, one of them a second younger, and one
that does not decode: the younger one loses. -/
theorem younger_record_loses :
    ∃ loaded : LoadedInstances, loaded.IdsDistinct
      ∧ (acceptInstancesAt (sampleGateway ⟨sampleIp 0, 29⟩ false) loaded 1000).Lost "a" := by
  refine ⟨⟨[("a", { sampleRecord 2 'B' with regTime := 1 }), ("b", sampleRecord 2 'C')],
    [("c", "invalid type")]⟩, by unfold LoadedInstances.IdsDistinct; decide, ?_⟩
  obtain ⟨-, -, -, -, -, hlost, -⟩ := acceptance_resolves_conflicts
    (sampleGateway ⟨sampleIp 0, 29⟩ false) 1000
    ⟨[("a", { sampleRecord 2 'B' with regTime := 1 }), ("b", sampleRecord 2 'C')],
      [("c", "invalid type")]⟩ (by unfold LoadedInstances.IdsDistinct; decide)
  refine (hlost "a").mpr ⟨_, List.mem_cons_self, ?_, "b", sampleRecord 2 'C', ?_, ?_, ?_⟩
  · exact Result.ok_of_toOption (by decide +kernel)
  · decide +kernel
  · exact .inl (by decide)
  · exact .inl rfl

-- == two gateways

/-- The checks on a record that ask nothing of the node: its names and
the encoding of its key. -/
def WellFormed (base64Decode : String → Result Bytes) (config : Config)
    (e : String × InstanceRecord) : Prop :=
  validateId "instance_id" e.1 = .ok () ∧ validateId "app_id" e.2.appId = .ok ()
    ∧ validateWgPublicKey ⟨config, base64Decode⟩ e.2.publicKey = .ok ()

/-- The checks on a record against the node's own settings and clock. -/
def Admits (config : Config) (now : Nat) (data : InstanceRecord) : Prop :=
  data.publicKey ≠ config.wg.publicKey ∧ config.wg.isRoutableClientIp data.ip = true
    ∧ data.regTime ≤ now + maxClockDriftSecs

lemma usable_iff {config : Config} {base64Decode : String → Result Bytes} {now : Nat}
    : Usable ⟨config, base64Decode⟩ now e ↔
      WellFormed base64Decode config e ∧ Admits config now e.2 := by
  unfold Usable WellFormed Admits validateInstance
  simp only [ok_iff, Unique.exists_iff, PUnit.default_eq_unit, and_assoc]

lemma loadAllInstances_nodup (kv : KvStore) :
    (kv.loadAllInstances.decoded.map Prod.fst).Nodup := by
  refine kv.inst.nodup_filterMap ?_
  rintro ⟨id, e⟩ e' he'
  dsimp only at he'
  split at he'
  · cases he'
    rfl
  · cases he'

lemma mem_loadAllInstances {kv : KvStore} {id : String} {data : InstanceRecord} :
    (id, data) ∈ kv.loadAllInstances.decoded
      ↔ ∃ entry, kv.inst.get? id = some entry ∧ entry.record = .ok data := by
  unfold KvStore.loadAllInstances
  rw [List.mem_filterMap]
  constructor
  · rintro ⟨⟨i, entry⟩, hentry, hsome⟩
    dsimp only at hsome
    cases hrecord : entry.record with
    | error e =>
      rw [hrecord] at hsome
      cases hsome
    | ok record =>
      rw [hrecord] at hsome
      cases hsome
      exact ⟨entry, BTreeMap.mem_entries.mp hentry, hrecord⟩
  · rintro ⟨entry, hentry, hrecord⟩
    refine ⟨(id, entry), BTreeMap.mem_entries.mpr hentry, ?_⟩
    dsimp only
    rw [hrecord]

lemma acceptInstances_considered (G : Setup) (kv : KvStore) (now : SystemTime) :
    Considered G (encodeTs now) (kv.loadAllInstances.undecodable.map Prod.fst)
      kv.loadAllInstances.decoded (acceptInstances G kv.loadAllInstances now) :=
  acceptInstancesAt_considered G (encodeTs now) (loadAllInstances_nodup kv)

lemma accepted_record {G : Setup} {kv : KvStore} {now : SystemTime} {id : String}
    {data : InstanceRecord}
    (h : (acceptInstances G kv.loadAllInstances now).instances.get? id = some data) :
    ∃ entry, kv.inst.get? id = some entry ∧ entry.record = .ok data :=
  mem_loadAllInstances.mp ((acceptInstances_considered G kv now).resolves.subset
    (show (id, data) ∈ taken _ from h))

lemma accepted_of_unrecorded {kv : KvStore} {id : String} (h : kv.inst.get? id = none)
    (G : Setup) (now : SystemTime) :
    (acceptInstances G kv.loadAllInstances now).instances.get? id = none
    ∧ id ∉ (acceptInstances G kv.loadAllInstances now).unreadable := by
  have hdecoded : ∀ data, (id, data) ∉ kv.loadAllInstances.decoded := by
    intro data hdata
    obtain ⟨entry, hentry, -⟩ := mem_loadAllInstances.mp hdata
    rw [h] at hentry
    cases hentry
  constructor
  · refine Option.eq_none_iff_forall_ne_some.mpr fun data hdata => ?_
    obtain ⟨entry, hentry, -⟩ := accepted_record hdata
    rw [h] at hentry
    cases hentry
  · intro hunreadable
    rcases ((acceptInstances_considered G kv now).unreadable id).mp hunreadable with
      hid | ⟨data, hdata, -⟩
    · obtain ⟨⟨i, reason⟩, he, rfl⟩ := List.mem_map.mp hid
      obtain ⟨⟨j, entry⟩, hentry, hsome⟩ := List.mem_filterMap.mp he
      dsimp only at hsome
      cases hrecord : entry.record with
      | ok data =>
        rw [hrecord] at hsome
        cases hsome
      | error e =>
        rw [hrecord] at hsome
        cases hsome
        rw [BTreeMap.mem_entries.mp hentry] at h
        cases h
    · exact hdecoded data hdata

/-- Two gateways let in the same records of a store exactly if each
well-formed record that only one of them admits loses to an older one of
those that stand among what both admit. So they do if they admit the same
well-formed records: if none has the key of one of them, an address that
only one of them routes, or a time that only one of them has reached. -/
theorem same_decision_iff (config config' : Config) (base64Decode : String → Result Bytes)
    (kv : KvStore) (now now' : SystemTime) :
    let same := (acceptInstances ⟨config, base64Decode⟩ kv.loadAllInstances now).instances
      = (acceptInstances ⟨config', base64Decode⟩ kv.loadAllInstances now').instances
    let admits (e : String × InstanceRecord) := Admits config (encodeTs now) e.2
    let admits' (e : String × InstanceRecord) := Admits config' (encodeTs now') e.2
    (same ↔ ∃ standing, Resolves Before Clash
        (fun e => WellFormed base64Decode config e ∧ admits e ∧ admits' e)
        {e | e ∈ kv.loadAllInstances.decoded} standing
      ∧ ∀ e ∈ kv.loadAllInstances.decoded, WellFormed base64Decode config e →
        ¬(admits e ↔ admits' e) → ∃ older ∈ standing, Before older e ∧ Clash older e)
    ∧ ((∀ e ∈ kv.loadAllInstances.decoded, WellFormed base64Decode config e →
        (admits e ↔ admits' e)) → same) := by
  intro same admits admits'
  have h := (acceptInstances_considered ⟨config, base64Decode⟩ kv now).resolves
  have h' := (acceptInstances_considered ⟨config', base64Decode⟩ kv now').resolves
  have husable : ∀ e, Usable ⟨config, base64Decode⟩ (encodeTs now) e ↔
      WellFormed base64Decode config e ∧ admits e := fun e => usable_iff
  have husable' : ∀ e, Usable ⟨config', base64Decode⟩ (encodeTs now') e ↔
      WellFormed base64Decode config e ∧ admits' e := fun e => usable_iff
  constructor
  · refine taken_eq_iff.symm.trans ((h.eq_iff_agreed (List.finite_toSet _) h').trans ?_)
    simp only [husable, husable', ← and_and_left, and_congr_right_iff, Classical.not_imp,
      and_imp, Set.mem_ofPred_eq]
  · intro hagree
    refine taken_eq_iff.mp (h.eq_of_admissible (List.finite_toSet _) h' ?_ ?_)
    · intro e he
      obtain ⟨hformed, hadmits⟩ := (husable e).mp (h.valid_of_mem he)
      exact ⟨h.subset he, (husable' e).mpr ⟨hformed, (hagree e (h.subset he) hformed).mp hadmits⟩⟩
    · intro e he
      obtain ⟨hformed, hadmits⟩ := (husable' e).mp (h'.valid_of_mem he)
      exact ⟨h'.subset he, (husable e).mpr ⟨hformed, (hagree e (h'.subset he) hformed).mpr hadmits⟩⟩

/-- The settings of a gateway at an address of the small network, with
nothing reserved but this address. -/
def nodeConfig (n : Nat) (key : Char) : Config :=
  { (sampleGateway ⟨sampleIp 0, 29⟩ false).config with
    wg := {
      publicKey := sampleKey key
      ip := ⟨sampleIp n, 24⟩
      reservedNet := [⟨sampleIp n, 32⟩]
      clientIpRange := ⟨sampleIp 0, 29⟩ } }

/-- The first gateway has handed out the address of the second one: it
lets the record in, and the second one does not. -/
theorem own_address_splits_cluster :
    ∃ (config config' : Config) (base64Decode : String → Result Bytes) (kv : KvStore)
      (now : SystemTime),
      config.wg.validate = .ok () ∧ config'.wg.validate = .ok ()
      ∧ config.wg.ip.trunc = config'.wg.ip.trunc
      ∧ (acceptInstances ⟨config, base64Decode⟩ kv.loadAllInstances now).instances
        ≠ (acceptInstances ⟨config', base64Decode⟩ kv.loadAllInstances now).instances := by
  refine ⟨nodeConfig 1 'Y', nodeConfig 2 'Z',
    (sampleGateway ⟨sampleIp 0, 29⟩ false).base64Decode,
    sampleStore [("a", sampleRecord 2 'B')], 0, ?_, ?_, ?_, ?_⟩
  · exact Result.ok_of_toOption (by decide +kernel)
  · exact Result.ok_of_toOption (by decide +kernel)
  · decide
  · decide +kernel

/-- At an address that belongs to neither gateway, and with clocks half a
minute apart, the record stands at both. -/
theorem shared_address_keeps_cluster :
    let G n key : Setup := ⟨nodeConfig n key, (sampleGateway ⟨sampleIp 0, 29⟩ false).base64Decode⟩
    let loaded := (sampleStore [("a", sampleRecord 3 'B')]).loadAllInstances
    (acceptInstances (G 1 'Y') loaded 0).instances
        = (acceptInstances (G 2 'Z') loaded (30 * nanosPerSec)).instances
      ∧ (acceptInstances (G 1 'Y') loaded 0).instances.get? "a" = some (sampleRecord 3 'B') := by
  refine ⟨(same_decision_iff _ _ _ _ _ _).2 fun e he _ => ?_, by decide +kernel⟩
  have hdecoded : (sampleStore [("a", sampleRecord 3 'B')]).loadAllInstances.decoded
      = [("a", sampleRecord 3 'B')] := by decide +kernel
  obtain rfl := List.mem_singleton.mp (hdecoded ▸ he)
  unfold Admits
  decide +kernel

end Dstack.Gateway
