/-
What an operator has said about an instance, and where it is kept.

Each override has a key of its own, and an older build may have left it
in the instance record as well. The key has precedence as soon as it is
there, readable or not. Reading, moving an override to its key and
rewriting the record each follow this rule on their own; here they are
judged by what an id answers afterwards.
-/
import Dstack.Gateway.Proofs.Compat
import Dstack.Gateway.Proofs.Table

namespace Dstack.Gateway

open Lib

namespace KvStore

variable {fails : Faults} {kv : KvStore} {id : String}

-- == answers

/-- The overrides an older build left in the record, if there are any. -/
def legacyOf (kv : KvStore) (id : String) : Option LegacyOverrides :=
  ((kv.inst.get? id).bind (·.legacy)).filter (!·.isEmpty)

/-- What the store answers for the gate of an instance. -/
def gateOf (kv : KvStore) (id : String) : Result (Option Bool) :=
  match kv.gate.get? id with
  | some r => some <$> r
  | none => .ok ((kv.legacyOf id).bind (·.ready))

/-- What it answers for the port policy an operator set. -/
def policyOf (kv : KvStore) (id : String) : Result (Option PortPolicy) :=
  match kv.portPolicy.get? id with
  | some r => r
  | none => .ok ((kv.legacyOf id).bind (·.adminPortPolicy))

lemma legacy_keeps_id : ∀ (e : String × InstEntry) (e' : String × LegacyOverrides),
    (match e.2.legacy with
      | some legacy => if legacy.isEmpty then none else some (e.1, legacy)
      | none => none) = some e' → e'.1 = e.1 := by
  rintro ⟨i, entry⟩ e' h
  dsimp only at h
  split at h
  · split at h
    · cases h
    · cases h
      rfl
  · cases h

lemma legacyInstanceOverrides_lookup (kv : KvStore) (id : String) :
    kv.legacyInstanceOverrides.lookup id = kv.legacyOf id := by
  refine (kv.inst.lookup_filterMap legacy_keeps_id id).trans ?_
  unfold legacyOf
  cases kv.inst.get? id with
  | none => rfl
  | some entry =>
    dsimp only [Option.bind_some]
    cases entry.legacy with
    | none => rfl
    | some legacy =>
      cases h : legacy.isEmpty <;> simp [h, Option.filter_some]

lemma readOverrides_eq (kv : KvStore) (id : String) :
    kv.readOverrides id
      = (kv.gateOf id).bind fun ready => (kv.policyOf id).map fun policy => (policy, ready) := by
  unfold readOverrides gateOf policyOf instanceGate instancePortPolicyOverride
  rw [legacyInstanceOverrides_lookup]
  cases kv.gate.get? id with
  | none =>
    cases kv.portPolicy.get? id with
    | none => rfl
    | some r => cases r <;> rfl
  | some g =>
    cases g with
    | error e => rfl
    | ok ready =>
      cases kv.portPolicy.get? id with
      | none => rfl
      | some r => cases r <;> rfl

/-- The keys of an instance are the same in two stores. -/
structure SameKeys (kv kv' : KvStore) (id : String) : Prop where
  inst : kv'.inst.get? id = kv.inst.get? id
  gate : kv'.gate.get? id = kv.gate.get? id
  portPolicy : kv'.portPolicy.get? id = kv.portPolicy.get? id

lemma SameKeys.gateOf {kv' : KvStore} (h : SameKeys kv kv' id) :
    kv'.gateOf id = kv.gateOf id := by
  unfold KvStore.gateOf legacyOf
  rw [h.gate, h.inst]

lemma SameKeys.policyOf {kv' : KvStore} (h : SameKeys kv kv' id) :
    kv'.policyOf id = kv.policyOf id := by
  unfold KvStore.policyOf legacyOf
  rw [h.portPolicy, h.inst]

lemma setInstanceGate_sameKeys {i : String} (hne : i ≠ id) (ready : Bool) :
    SameKeys kv (kv.setInstanceGate fails i ready).2 id := by
  unfold setInstanceGate
  cases fails .gate i with
  | some e => exact ⟨rfl, rfl, rfl⟩
  | none => exact ⟨rfl, BTreeMap.get?_insert_of_ne hne, rfl⟩

lemma setInstancePortPolicyOverride_sameKeys {i : String} (hne : i ≠ id)
    (policy : Option PortPolicy) :
    SameKeys kv (kv.setInstancePortPolicyOverride fails i policy).2 id := by
  unfold setInstancePortPolicyOverride
  cases fails .portPolicyOverride i with
  | some e => exact ⟨rfl, rfl, rfl⟩
  | none => exact ⟨rfl, rfl, BTreeMap.get?_insert_of_ne hne⟩

lemma syncDeleteInstance_keys (fails : Faults) (kv : KvStore) (i : String) :
    (kv.syncDeleteInstance fails i).2.inst
        = (if (fails .inst i).isNone then kv.inst.erase i else kv.inst)
    ∧ (kv.syncDeleteInstance fails i).2.gate
        = (if (fails .gate i).isNone then kv.gate.erase i else kv.gate)
    ∧ (kv.syncDeleteInstance fails i).2.portPolicy
        = (if (fails .portPolicyOverride i).isNone then kv.portPolicy.erase i
          else kv.portPolicy) := by
  unfold syncDeleteInstance
  cases fails .inst i <;> cases fails .gate i <;> cases fails .portPolicyOverride i <;>
    exact ⟨rfl, rfl, rfl⟩

lemma syncDeleteInstance_sameKeys {i : String} (hne : i ≠ id) :
    SameKeys kv (kv.syncDeleteInstance fails i).2 id := by
  have herase {β : Type} (m : BTreeMap String β) (p : Prop) [Decidable p] :
      (if p then m.erase i else m).get? id = m.get? id := by
    split
    · exact BTreeMap.get?_erase_of_ne hne
    · rfl
  obtain ⟨hinst, hgate, hpolicy⟩ := syncDeleteInstance_keys fails kv i
  exact ⟨hinst ▸ herase _ _, hgate ▸ herase _ _, hpolicy ▸ herase _ _⟩

-- == moving

lemma isAbsent_instanceGate (kv : KvStore) (id : String) :
    isAbsent (kv.instanceGate id) = (kv.gate.get? id).isNone := by
  unfold instanceGate
  cases kv.gate.get? id with
  | none => rfl
  | some r => cases r <;> rfl

lemma isAbsent_instancePortPolicyOverride (kv : KvStore) (id : String) :
    isAbsent (kv.instancePortPolicyOverride id) = (kv.portPolicy.get? id).isNone := by
  unfold instancePortPolicyOverride
  cases kv.portPolicy.get? id with
  | none => rfl
  | some r => cases r <;> rfl

/-- A map after a copy was moved to its key, if it has no such key and the
key can be written. -/
def fill {β : Type} (m : BTreeMap String β) (fails : String → Option String) (i : String)
    (copy : Option β) : BTreeMap String β :=
  match copy with
  | some b => if m.get? i = none ∧ fails i = none then m.insert i b else m
  | none => m

lemma get?_fill {β : Type} (m : BTreeMap String β) (fails : String → Option String) (i : String)
    (copy : Option β) (id : String) : (fill m fails i copy).get? id
      = if i = id ∧ m.get? id = none ∧ fails id = none then copy else m.get? id := by
  unfold fill
  by_cases hi : i = id
  · subst hi
    cases copy with
    | none => simp +contextual
    | some b => by_cases h : m.get? i = none ∧ fails i = none <;> simp [h]
  · rw [if_neg fun h => hi h.1]
    cases copy with
    | none => rfl
    | some b =>
      dsimp only
      split
      · exact BTreeMap.get?_insert_of_ne hi
      · rfl

lemma foldl_fill {β : Type} {step : KvStore → String × LegacyOverrides → KvStore}
    (key : KvStore → Option β) {value : LegacyOverrides → Option β} {writable : Prop}
    [Decidable writable] (hstep : ∀ kv e, key (step kv e)
      = if e.1 = id ∧ key kv = none ∧ writable then value e.2 else key kv)
    {entries : List (String × LegacyOverrides)} (hnodup : (entries.map Prod.fst).Nodup) :
    key (entries.foldl step kv)
      = if key kv = none ∧ writable then (entries.lookup id).bind value else key kv := by
  induction entries generalizing kv with
  | nil =>
    dsimp only [List.foldl_nil, List.lookup_nil, Option.bind_none]
    split
    · next h => exact h.1
    · rfl
  | cons e entries ih =>
    obtain ⟨i, l⟩ := e
    rw [List.map_cons, List.nodup_cons] at hnodup
    have hfirst := hstep kv (i, l)
    dsimp only at hfirst hnodup
    rw [List.foldl_cons, ih hnodup.2]
    by_cases hi : i = id
    · subst hi
      have hnone : entries.lookup i = none := by
        refine List.lookup_eq_none_iff.mpr fun e he => bne_iff_ne.mpr fun heq => hnodup.1 ?_
        exact heq ▸ List.mem_map_of_mem he
      rw [hnone, List.lookup_cons_self]
      by_cases hkey : key kv = none ∧ writable
      · rw [if_pos ⟨rfl, hkey⟩] at hfirst
        rw [if_pos hkey, hfirst]
        dsimp only [Option.bind_none, Option.bind_some]
        split
        · next h => exact h.1.symm
        · rfl
      · rw [if_neg fun h => hkey h.2] at hfirst
        rw [hfirst, if_neg hkey, if_neg hkey]
    · rw [if_neg fun h => hi h.1] at hfirst
      rw [hfirst, List.lookup_cons, beq_eq_false_iff_ne.mpr (Ne.symm hi)]

lemma legacyInstanceOverrides_nodup (kv : KvStore) :
    (kv.legacyInstanceOverrides.map Prod.fst).Nodup :=
  kv.inst.nodup_filterMap legacy_keeps_id

lemma fill_again {β : Type} (key copy : Option β) (writable : Prop) [Decidable writable] :
    let once := if key = none ∧ writable then copy else key
    (if once = none ∧ writable then copy else once) = once := by
  by_cases h : key = none ∧ writable
  · simp [h]
  · simp [h]

section Migration

variable (fails kv id)

lemma migrateLegacy_eq (i : String) (l : LegacyOverrides) :
    kv.migrateLegacy fails i l = { kv with
      gate := fill kv.gate (fails .gate) i (l.ready.map .ok)
      portPolicy := fill kv.portPolicy (fails .portPolicyOverride) i
        (l.adminPortPolicy.map fun policy => .ok (some policy)) } := by
  have hpolicy (kv : KvStore) : (if (l.adminPortPolicy.isSome
      && isAbsent (kv.instancePortPolicyOverride i)) = true then
        (kv.setInstancePortPolicyOverride fails i l.adminPortPolicy).2 else kv)
      = { kv with
        portPolicy := fill kv.portPolicy (fails .portPolicyOverride) i
          (l.adminPortPolicy.map fun policy => .ok (some policy)) } := by
    rw [isAbsent_instancePortPolicyOverride]
    unfold setInstancePortPolicyOverride fill
    cases l.adminPortPolicy <;> cases kv.portPolicy.get? i <;>
      cases fails .portPolicyOverride i <;> simp
  unfold migrateLegacy
  dsimp only
  rw [hpolicy, isAbsent_instanceGate]
  unfold setInstanceGate
  cases l.ready <;> cases hkey : kv.gate.get? i <;> cases hfails : fails .gate i <;>
    simp [fill, hkey, hfails]

lemma migrate_inst :
    (kv.migrateLegacyInstanceOverrides fails).inst = kv.inst := by
  refine List.foldlRecOn (motive := fun kv' : KvStore => kv'.inst = kv.inst)
    kv.legacyInstanceOverrides _ rfl ?_
  intro kv' hkv' e _
  rw [migrateLegacy_eq]
  exact hkv'

lemma migrate_gate :
    (kv.migrateLegacyInstanceOverrides fails).gate.get? id
      = if kv.gate.get? id = none ∧ fails .gate id = none then
          ((kv.legacyOf id).bind (·.ready)).map .ok
        else kv.gate.get? id := by
  rw [Option.map_bind, ← legacyInstanceOverrides_lookup]
  exact foldl_fill (fun kv => kv.gate.get? id)
    (fun kv e => by rw [migrateLegacy_eq]; exact get?_fill _ _ _ _ _)
    (legacyInstanceOverrides_nodup kv)

lemma migrate_portPolicy :
    (kv.migrateLegacyInstanceOverrides fails).portPolicy.get? id
      = if kv.portPolicy.get? id = none ∧ fails .portPolicyOverride id = none then
          ((kv.legacyOf id).bind (·.adminPortPolicy)).map fun policy => .ok (some policy)
        else kv.portPolicy.get? id := by
  rw [Option.map_bind, ← legacyInstanceOverrides_lookup]
  exact foldl_fill (fun kv => kv.portPolicy.get? id)
    (fun kv e => by rw [migrateLegacy_eq]; exact get?_fill _ _ _ _ _)
    (legacyInstanceOverrides_nodup kv)

lemma migrate_legacyOf :
    (kv.migrateLegacyInstanceOverrides fails).legacyOf id = kv.legacyOf id := by
  unfold legacyOf
  rw [migrate_inst]

lemma gateOf_migrate :
    (kv.migrateLegacyInstanceOverrides fails).gateOf id = kv.gateOf id := by
  unfold gateOf
  rw [migrate_gate, migrate_legacyOf]
  cases kv.gate.get? id with
  | some r => simp
  | none => cases fails .gate id <;> cases (kv.legacyOf id).bind (·.ready) <;> simp

lemma policyOf_migrate :
    (kv.migrateLegacyInstanceOverrides fails).policyOf id = kv.policyOf id := by
  unfold policyOf
  rw [migrate_portPolicy, migrate_legacyOf]
  cases kv.portPolicy.get? id with
  | some r => simp
  | none =>
    cases fails .portPolicyOverride id <;> cases (kv.legacyOf id).bind (·.adminPortPolicy) <;> simp

lemma readOverrides_migrate :
    (kv.migrateLegacyInstanceOverrides fails).readOverrides id = kv.readOverrides id := by
  rw [readOverrides_eq, gateOf_migrate, policyOf_migrate, readOverrides_eq]

lemma migrate_migrate :
    (kv.migrateLegacyInstanceOverrides fails).migrateLegacyInstanceOverrides fails
      = kv.migrateLegacyInstanceOverrides fails := by
  refine KvStore.ext (migrate_inst _ _) (BTreeMap.ext_get? fun id => ?_)
    (BTreeMap.ext_get? fun id => ?_)
  · rw [migrate_gate, migrate_legacyOf, migrate_gate]
    exact fill_again _ _ _
  · rw [migrate_portPolicy, migrate_legacyOf, migrate_portPolicy]
    exact fill_again _ _ _

end Migration

-- == rewriting

/-- The overrides of an older build that a rewrite of the record keeps. -/
def keptLegacy (kv : KvStore) (id : String) : Option LegacyOverrides :=
  ((kv.inst.get? id).bind fun e => if e.mergeable then e.legacy else none).filter (!·.isEmpty)

lemma keptLegacy_of_not_mergeable (h : ¬(kv.inst.get? id).all (·.mergeable) = true) :
    kv.keptLegacy id = none := by
  unfold keptLegacy
  cases hentry : kv.inst.get? id with
  | none => rfl
  | some entry =>
    rw [hentry, Option.all_some] at h
    dsimp only [Option.bind_some]
    rw [if_neg h]
    rfl

lemma keptLegacy_of_mergeable (h : (kv.inst.get? id).all (·.mergeable) = true) :
    kv.keptLegacy id = kv.legacyOf id := by
  unfold keptLegacy legacyOf
  cases hentry : kv.inst.get? id with
  | none => rfl
  | some entry =>
    rw [hentry, Option.all_some] at h
    dsimp only [Option.bind_some]
    rw [if_pos h]

section Rewriting

variable (fails kv) (i : String) (data : InstanceRecord)

lemma syncInstance_gate : (kv.syncInstance fails i data).2.gate = kv.gate := by
  unfold syncInstance
  cases fails .inst i <;> rfl

lemma syncInstance_portPolicy :
    (kv.syncInstance fails i data).2.portPolicy = kv.portPolicy := by
  unfold syncInstance
  cases fails .inst i <;> rfl

lemma syncInstance_legacyOf (id : String) :
    (kv.syncInstance fails i data).2.legacyOf id
      = if i = id ∧ fails .inst i = none then kv.keptLegacy id else kv.legacyOf id := by
  unfold syncInstance
  cases hf : fails .inst i with
  | some e => rw [if_neg fun h => (by cases h.2)]
  | none =>
    unfold legacyOf keptLegacy
    dsimp only
    by_cases hi : i = id
    · subst hi
      rw [BTreeMap.get?_insert_self, if_pos ⟨rfl, rfl⟩]
      rfl
    · rw [BTreeMap.get?_insert_of_ne hi, if_neg fun h => hi h.1]

lemma legacyOf_syncInstance_cases (id : String) :
    (kv.syncInstance fails i data).2.legacyOf id = kv.legacyOf id
      ∨ (kv.syncInstance fails i data).2.legacyOf id = none := by
  rw [syncInstance_legacyOf]
  split
  · by_cases h : (kv.inst.get? id).all (·.mergeable) = true
    · exact .inl (keptLegacy_of_mergeable h)
    · exact .inr (keptLegacy_of_not_mergeable h)
  · exact .inl rfl

lemma gateOf_syncInstance (id : String) :
    (kv.syncInstance fails i data).2.gateOf id = kv.gateOf id
      ∨ (kv.syncInstance fails i data).2.gateOf id = .ok none := by
  unfold gateOf
  rw [syncInstance_gate]
  rcases legacyOf_syncInstance_cases fails kv i data id with h | h
  · exact .inl (by rw [h])
  · rw [h]
    cases kv.gate.get? id with
    | some r => exact .inl rfl
    | none => exact .inr rfl

lemma policyOf_syncInstance (id : String) :
    (kv.syncInstance fails i data).2.policyOf id = kv.policyOf id
      ∨ (kv.syncInstance fails i data).2.policyOf id = .ok none := by
  unfold policyOf
  rw [syncInstance_portPolicy]
  rcases legacyOf_syncInstance_cases fails kv i data id with h | h
  · exact .inl (by rw [h])
  · rw [h]
    cases kv.portPolicy.get? id with
    | some r => exact .inl rfl
    | none => exact .inr rfl

end Rewriting

lemma readOverrides_syncInstance_of_mergeable {fails' : Faults} {data : InstanceRecord}
    (h : (kv.inst.get? id).all (·.mergeable) = true) :
    (kv.syncInstance fails' id data).2.readOverrides id = kv.readOverrides id := by
  have hlegacy : (kv.syncInstance fails' id data).2.legacyOf id = kv.legacyOf id := by
    rw [syncInstance_legacyOf, keptLegacy_of_mergeable h, ite_self]
  rw [readOverrides_eq, readOverrides_eq]
  unfold gateOf policyOf
  rw [syncInstance_gate, syncInstance_portPolicy, hlegacy]

lemma readOverrides_ok {o : Option PortPolicy × Option Bool}
    (h : kv.readOverrides id = .ok o) : kv.gateOf id = .ok o.2 ∧ kv.policyOf id = .ok o.1 := by
  rw [readOverrides_eq] at h
  cases hgate : kv.gateOf id <;> cases hpolicy : kv.policyOf id <;> rw [hgate, hpolicy] at h <;>
    cases h
  exact ⟨rfl, rfl⟩

/-- An override does without its copy in the record: it has a key, can be
moved to it, or is not set. -/
def Kept {α β : Type} (key : Option α) (fails : Option String) (legacy : Option β) : Prop :=
  key ≠ none ∨ fails = none ∨ legacy = none

variable {kv' : KvStore}

lemma gateOf_dropped (hgate : kv'.gate = (kv.migrateLegacyInstanceOverrides fails).gate)
    (hlegacy : kv'.legacyOf id = none) :
    let kept := Kept (kv.gate.get? id) (fails .gate id) ((kv.legacyOf id).bind (·.ready))
    kept ∧ kv'.gateOf id = kv.gateOf id
      ∨ ¬kept ∧ ∃ r, kv.gateOf id = .ok (some r) ∧ kv'.gateOf id = .ok none := by
  unfold gateOf Kept
  rw [hgate, migrate_gate, hlegacy]
  cases kv.gate.get? id with
  | some r => simp
  | none => cases fails .gate id <;> cases (kv.legacyOf id).bind (·.ready) <;> simp

lemma policyOf_dropped
    (hpolicy : kv'.portPolicy = (kv.migrateLegacyInstanceOverrides fails).portPolicy)
    (hlegacy : kv'.legacyOf id = none) :
    let kept := Kept (kv.portPolicy.get? id) (fails .portPolicyOverride id)
      ((kv.legacyOf id).bind (·.adminPortPolicy))
    kept ∧ kv'.policyOf id = kv.policyOf id
      ∨ ¬kept ∧ ∃ p, kv.policyOf id = .ok (some p) ∧ kv'.policyOf id = .ok none := by
  unfold policyOf Kept
  rw [hpolicy, migrate_portPolicy, hlegacy]
  cases kv.portPolicy.get? id with
  | some r => simp
  | none =>
    cases fails .portPolicyOverride id <;> cases (kv.legacyOf id).bind (·.adminPortPolicy) <;> simp

lemma readOverrides_dropped_iff (hgate : kv'.gate = (kv.migrateLegacyInstanceOverrides fails).gate)
    (hpolicy : kv'.portPolicy = (kv.migrateLegacyInstanceOverrides fails).portPolicy)
    (hlegacy : kv'.legacyOf id = none) :
    kv'.readOverrides id = kv.readOverrides id ↔ (∃ e, kv.readOverrides id = .error e)
      ∨ Kept (kv.gate.get? id) (fails .gate id) ((kv.legacyOf id).bind (·.ready))
        ∧ Kept (kv.portPolicy.get? id) (fails .portPolicyOverride id)
          ((kv.legacyOf id).bind (·.adminPortPolicy)) := by
  rw [readOverrides_eq, readOverrides_eq]
  rcases gateOf_dropped hgate hlegacy with ⟨hkept, hsame⟩ | ⟨hlost, r, hr, hnone⟩ <;>
    rcases policyOf_dropped hpolicy hlegacy with ⟨hkept', hsame'⟩ | ⟨hlost', p, hp, hnone'⟩
  · rw [hsame, hsame']
    exact iff_of_true rfl (.inr ⟨hkept, hkept'⟩)
  · rw [hsame, hp, hnone']
    cases kv.gateOf id <;> simp [hlost', Except.bind, Except.map]
  · rw [hsame', hr, hnone]
    cases kv.policyOf id <;> simp [hlost, Except.bind, Except.map]
  · rw [hr, hnone, hp, hnone']
    simp [hlost, Except.bind, Except.map]

end KvStore

open KvStore

/-- Moving operator overrides to their own keys does not change them, and
doing it again with the same failures writes nothing. A key that says an
override is cleared, or that cannot be read, is the answer whatever the
record holds. Rewrites of the record leave the answer exactly if the
stored value is one map with strings for keys, if there is none but an
error, or if neither override needs its copy in the record. -/
theorem moving_overrides_keeps_them (kv : KvStore) (fails : Faults) (id : String) :
    let moved := kv.migrateLegacyInstanceOverrides fails
    moved.readOverrides id = kv.readOverrides id
    ∧ moved.migrateLegacyInstanceOverrides fails = moved
    ∧ (∀ inst' : BTreeMap String InstEntry,
        let moved' := ({ kv with inst := inst' } : KvStore).migrateLegacyInstanceOverrides fails
        (kv.portPolicy.get? id = some (.ok none) →
          ∀ policy gate, moved'.readOverrides id = .ok (policy, gate) → policy = none)
        ∧ (∀ e, kv.portPolicy.get? id = some (.error e) → ∀ o, moved'.readOverrides id ≠ .ok o)
        ∧ ∀ e, kv.gate.get? id = some (.error e) → ∀ o, moved'.readOverrides id ≠ .ok o)
    ∧ ((∀ (fails' : Faults) (data : InstanceRecord),
          (moved.syncInstance fails' id data).2.readOverrides id = kv.readOverrides id)
        ↔ (kv.inst.get? id).all (·.mergeable) = true ∨ (∃ e, kv.readOverrides id = .error e)
          ∨ Kept (kv.gate.get? id) (fails .gate id) ((kv.legacyOf id).bind (·.ready))
            ∧ Kept (kv.portPolicy.get? id) (fails .portPolicyOverride id)
              ((kv.legacyOf id).bind (·.adminPortPolicy))) := by
  intro moved
  refine ⟨readOverrides_migrate fails kv id, migrate_migrate fails kv, ?_, ?_⟩
  · intro inst' moved'
    have hsame : moved'.readOverrides id = ({ kv with inst := inst' } : KvStore).readOverrides id :=
      readOverrides_migrate fails _ id
    rw [hsame]
    refine ⟨?_, ?_, ?_⟩
    · intro hkey policy gate h
      have hpolicy := (readOverrides_ok h).2
      unfold policyOf at hpolicy
      rw [hkey] at hpolicy
      cases hpolicy
      rfl
    · intro e hkey o h
      have hpolicy := (readOverrides_ok h).2
      unfold policyOf at hpolicy
      rw [hkey] at hpolicy
      cases hpolicy
    · intro e hkey o h
      have hgate := (readOverrides_ok h).1
      unfold gateOf at hgate
      rw [hkey] at hgate
      cases hgate
  · by_cases hmergeable : (kv.inst.get? id).all (·.mergeable) = true
    · refine iff_of_true (fun fails' data => ?_) (.inl hmergeable)
      rw [← readOverrides_migrate fails kv id]
      refine readOverrides_syncInstance_of_mergeable ?_
      rwa [migrate_inst]
    · have hdropped (fails' : Faults) (data : InstanceRecord) (h : fails' .inst id = none) := by
        have hlegacy : (moved.syncInstance fails' id data).2.legacyOf id = none := by
          rw [syncInstance_legacyOf, if_pos ⟨rfl, h⟩]
          exact keptLegacy_of_not_mergeable (by rwa [migrate_inst])
        exact readOverrides_dropped_iff (syncInstance_gate fails' moved id data)
          (syncInstance_portPolicy fails' moved id data) hlegacy
      rw [or_iff_right hmergeable]
      constructor
      · exact fun h => (hdropped noFaults (sampleRecord 2 'B') rfl).mp (h _ _)
      · intro h fails' data
        cases hwrite : fails' .inst id with
        | none => exact (hdropped fails' data hwrite).mpr h
        | some e =>
          unfold syncInstance
          rw [hwrite]
          exact readOverrides_migrate fails kv id

/-- A store with a gate closed in a record that cannot be read. -/
def gatedStore (mergeable : Bool) : KvStore where
  inst := BTreeMap.empty.insert "a"
    ⟨.error "missing field app_id", some ⟨none, some false⟩, mergeable⟩

/-- The gates cannot be written. -/
def gateFaults : Faults := fun key _ => if key = .gate then some "no space left" else none

/-- A gate that could not be moved outlives the next registration, in a
record that can be merged. -/
theorem unmoved_gate_survives_rewrite :
    (((gatedStore true).migrateLegacyInstanceOverrides gateFaults).syncInstance noFaults "a"
      (sampleRecord 2 'B')).2.readOverrides "a" = .ok (none, some false) :=
  ((moving_overrides_keeps_them (gatedStore true) gateFaults "a").2.2.2.mpr
    (.inl (by decide)) noFaults (sampleRecord 2 'B')).trans rfl

/-- The positional form of a struct decodes as well, and is not taken for
a map: the gate is lost with the rewrite. -/
theorem positional_record_loses_gate :
    (((gatedStore false).migrateLegacyInstanceOverrides gateFaults).syncInstance noFaults "a"
      (sampleRecord 2 'B')).2.readOverrides "a" ≠ (gatedStore false).readOverrides "a" := by
  intro h
  have hgate := congrArg (fun r => r.toOption.map Prod.snd) h
  exact absurd hgate (by decide)

end Dstack.Gateway
