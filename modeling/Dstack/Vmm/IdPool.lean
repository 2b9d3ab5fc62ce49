/-
A pool of numbers (`vmm/src/app/id_pool.rs`).

The numbers of the half-open interval `[start, endId)` that are in use.
Numbers outside the interval are never handed out, and never tracked.
-/
import Dstack.Lib.BTreeMap
import Dstack.Lib.Result

namespace Dstack.Vmm

open Lib

structure IdPool where
  start : Nat
  endId : Nat
  allocated : BTreeSet Nat

namespace IdPool

def new (start endId : Nat) : IdPool := ⟨start, endId, BTreeMap.empty⟩

def InRange (pool : IdPool) (id : Nat) : Prop := pool.start ≤ id ∧ id < pool.endId

instance (pool : IdPool) (id : Nat) : Decidable (pool.InRange id) :=
  inferInstanceAs (Decidable (_ ∧ _))

/-- Mark `id` as in use. -/
def occupy (pool : IdPool) (id : Nat) : Result IdPool := do
  Result.ensure (pool.InRange id) ("id " ++ toString id ++ " outside pool range ["
    ++ toString pool.start ++ ", " ++ toString pool.endId ++ ")")
  Result.ensure (¬pool.allocated.mem id) ("id " ++ toString id ++ " already occupied")
  pure { pool with allocated := pool.allocated.add id }

/-- The first number at or above `id` that is not in use, among `count`. -/
def firstFree (pool : IdPool) : Nat → Nat → Option Nat
  | 0, _ => none
  | count + 1, id => if pool.allocated.mem id then firstFree pool count (id + 1) else some id

def allocate (pool : IdPool) : Option (Nat × IdPool) :=
  (pool.firstFree (pool.endId - pool.start) pool.start).map fun id =>
    (id, { pool with allocated := pool.allocated.add id })

def free (pool : IdPool) (id : Nat) : IdPool :=
  { pool with allocated := pool.allocated.erase id }

def clear (pool : IdPool) : IdPool := { pool with allocated := BTreeMap.empty }

/-- Mark `id` if that is possible; what is not is only reported. -/
def tryOccupy (pool : IdPool) (id : Nat) : IdPool :=
  match pool.occupy id with
  | .ok pool => pool
  | .error _ => pool

def occupyAll (pool : IdPool) (ids : List Nat) : IdPool := ids.foldl tryOccupy pool

-- == lemmas

variable {pool pool' : IdPool} {id : Nat}

lemma firstFree_eq_some {count first : Nat} (h : pool.firstFree count first = some id) :
    first ≤ id ∧ id < first + count ∧ ¬pool.allocated.mem id := by
  induction count generalizing first with
  | zero => cases h
  | succ count ih =>
    rw [firstFree] at h
    split at h
    · obtain ⟨hle, hlt, hfree⟩ := ih h
      exact ⟨by omega, by omega, hfree⟩
    next hfree =>
      cases h
      exact ⟨Nat.le_refl _, by omega, hfree⟩

lemma allocate_eq_some (h : pool.allocate = some (id, pool')) :
    pool.InRange id ∧ ¬pool.allocated.mem id
      ∧ pool' = { pool with allocated := pool.allocated.add id } := by
  obtain ⟨id', hfirst, heq⟩ := Option.map_eq_some_iff.mp h
  cases heq
  obtain ⟨hle, hlt, hfree⟩ := firstFree_eq_some hfirst
  exact ⟨⟨hle, by omega⟩, hfree, rfl⟩

lemma tryOccupy_eq (pool : IdPool) (id : Nat) : pool.tryOccupy id =
    if pool.InRange id then { pool with allocated := pool.allocated.add id } else pool := by
  unfold tryOccupy occupy
  by_cases hrange : pool.InRange id
  · by_cases hmem : pool.allocated.mem id
    · have hsame : pool.allocated.add id = pool.allocated := BTreeMap.insert_eq_self.mpr hmem
      simp [Result.ensure, hrange, hmem, hsame, bind, Except.bind]
    · simp [Result.ensure, hrange, hmem, bind, Except.bind, pure, Except.pure]
  · simp [Result.ensure, hrange, bind, Except.bind]

def SameRange (pool pool' : IdPool) : Prop :=
  pool'.start = pool.start ∧ pool'.endId = pool.endId

lemma SameRange.inRange (h : SameRange pool pool') : pool'.InRange id ↔ pool.InRange id := by
  unfold InRange
  rw [h.1, h.2]

lemma occupyAll_spec (pool : IdPool) (ids : List Nat) :
    SameRange pool (pool.occupyAll ids) ∧ ∀ id, (pool.occupyAll ids).allocated.mem id ↔
      pool.allocated.mem id ∨ pool.InRange id ∧ id ∈ ids := by
  induction ids generalizing pool with
  | nil => exact ⟨⟨rfl, rfl⟩, fun id => by simp [occupyAll]⟩
  | cons first rest ih =>
    have hrange : SameRange pool (pool.tryOccupy first) := by
      rw [tryOccupy_eq]
      split
      · exact ⟨rfl, rfl⟩
      · exact ⟨rfl, rfl⟩
    have hmem : ∀ id, (pool.tryOccupy first).allocated.mem id ↔
        pool.allocated.mem id ∨ pool.InRange id ∧ id = first := by
      intro id
      rw [tryOccupy_eq]
      split
      · next hin =>
          rw [BTreeSet.mem_add]
          constructor
          · rintro (rfl | h)
            · exact .inr ⟨hin, rfl⟩
            · exact .inl h
          · rintro (h | ⟨-, rfl⟩)
            · exact .inr h
            · exact .inl rfl
      · next hout =>
          refine ⟨.inl, fun h => h.resolve_right ?_⟩
          rintro ⟨hin, rfl⟩
          exact hout hin
    obtain ⟨hrange', hmem'⟩ := ih (pool.tryOccupy first)
    refine ⟨⟨hrange'.1.trans hrange.1, hrange'.2.trans hrange.2⟩, fun id => ?_⟩
    show ((pool.tryOccupy first).occupyAll rest).allocated.mem id ↔ _
    rw [hmem', hmem, hrange.inRange, List.mem_cons]
    tauto

lemma mem_free {id' : Nat} : (pool.free id).allocated.mem id' ↔ id ≠ id' ∧ pool.allocated.mem id' :=
  BTreeSet.mem_erase

lemma freeAll_spec (pool : IdPool) (ids : List Nat) :
    SameRange pool (ids.foldl free pool) ∧ ∀ id, (ids.foldl free pool).allocated.mem id ↔
      pool.allocated.mem id ∧ id ∉ ids := by
  induction ids generalizing pool with
  | nil => exact ⟨⟨rfl, rfl⟩, fun id => by simp⟩
  | cons first rest ih =>
    obtain ⟨hrange, hmem⟩ := ih (pool.free first)
    refine ⟨hrange, fun id => ?_⟩
    rw [List.foldl_cons, hmem, mem_free, List.mem_cons]
    tauto

end IdPool

end Dstack.Vmm
