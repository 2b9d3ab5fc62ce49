/-
Pipes that go from one user to the next.

A pipe is a queue that outlives whoever uses it: it is taken from a pool,
filled and drained, and given back. Nothing in a pool says whose a pipe
is, so who has which one is said beside it (`owner`), and a user is safe
from the others because an operation on one's own pipe leaves theirs
alone (`Untouched`).
-/
import Dstack.Lib.BTreeMap

namespace Dstack.Lib

/-- The pipes there are with what is in them, those in the pool, and the number
of the next new one. -/
structure PipePool (α : Type) where
  contents : BTreeMap Nat (List α) := BTreeMap.empty
  pool : List Nat := []
  next : Nat := 0

namespace PipePool

variable {α H : Type} {s s' : PipePool α} {owner owner' : Nat → Option H} {h : H} {p : Nat}
  {q : List α}

-- == operations

/-- A pipe from the pool, or a new one. -/
def take (s : PipePool α) : Nat × PipePool α :=
  match s.pool with
  | p :: rest => (p, { s with pool := rest })
  | [] => (s.next, { s with contents := s.contents.insert s.next [], next := s.next + 1 })

/-- Put a drained pipe into the pool if there is room, and close any other. -/
def giveBack (max : Nat) (s : PipePool α) (p : Nat) (drained : Bool) : PipePool α :=
  if drained && decide (s.pool.length < max) then { s with pool := p :: s.pool }
  else { s with contents := s.contents.erase p }

/-- What is in a pipe. -/
def content (s : PipePool α) (p : Nat) : List α := (s.contents.get? p).getD []

/-- Move items into a pipe. -/
def fill (s : PipePool α) (p : Nat) (chunk : List α) : PipePool α :=
  { s with contents := s.contents.insert p (s.content p ++ chunk) }

/-- Move up to `m` items out of a pipe. -/
def drain (s : PipePool α) (p : Nat) (m : Nat) : PipePool α :=
  { s with contents := s.contents.insert p ((s.content p).drop m) }

-- == ownership

/-- A pipe in the pool is empty, there once, and nobody's; a pipe to come is
nobody's yet. -/
structure Ok (s : PipePool α) (owner : Nat → Option H) : Prop where
  pooled : ∀ p ∈ s.pool, owner p = none ∧ s.contents.get? p = some []
  nodup : s.pool.Nodup
  fresh : ∀ p, s.next ≤ p → owner p = none ∧ p ∉ s.pool

/-- `h` has the pipe `p`, and `q` is in it. -/
def Holds (s : PipePool α) (owner : Nat → Option H) (h : H) (p : Nat) (q : List α) : Prop :=
  owner p = some h ∧ s.contents.get? p = some q

lemma Holds.content (hp : Holds s owner h p q) : s.content p = q := by
  rw [PipePool.content, hp.2]
  rfl

/-- What the others have, they still have as it was. -/
def Untouched (h : H) (s : PipePool α) (owner : Nat → Option H) (s' : PipePool α)
    (owner' : Nat → Option H) : Prop :=
  ∀ h' p q, h' ≠ h → Holds s owner h' p q → Holds s' owner' h' p q

lemma ok_empty : Ok ({} : PipePool α) (fun _ => none : Nat → Option H) :=
  ⟨nofun, List.nodup_nil, fun _ _ => ⟨rfl, nofun⟩⟩

lemma Ok.not_pooled (hs : Ok s owner) (hp : owner p = some h) : p ∉ s.pool := by
  intro hmem
  rw [(hs.pooled p hmem).1] at hp
  cases hp

lemma Ok.lt_next (hs : Ok s owner) (hp : owner p = some h) : p < s.next := by
  by_contra hnot
  rw [(hs.fresh p (Nat.le_of_not_lt hnot)).1] at hp
  cases hp

lemma take_of_cons {rest : List Nat} (hpool : s.pool = p :: rest) :
    s.take = (p, { s with pool := rest }) := by
  unfold PipePool.take
  rw [hpool]

lemma take_of_nil (hpool : s.pool = []) :
    s.take = (s.next, { s with contents := s.contents.insert s.next [], next := s.next + 1 }) := by
  unfold PipePool.take
  rw [hpool]

lemma Ok.take (hs : Ok s owner) (h : H) :
    Ok s.take.2 (Function.update owner s.take.1 (some h))
      ∧ Holds s.take.2 (Function.update owner s.take.1 (some h)) h s.take.1 []
      ∧ Untouched h s owner s.take.2 (Function.update owner s.take.1 (some h)) := by
  cases hpool : s.pool with
  | cons p rest =>
    rw [take_of_cons hpool]
    have hfree := hs.pooled p (hpool ▸ List.mem_cons_self)
    have hnodup := hs.nodup
    rw [hpool, List.nodup_cons] at hnodup
    refine ⟨⟨?_, hnodup.2, ?_⟩, ⟨Function.update_self _ _ _, hfree.2⟩, ?_⟩
    · intro p' hp'
      have hne : p' ≠ p := fun heq => hnodup.1 (heq ▸ hp')
      dsimp only
      rw [Function.update_of_ne hne]
      exact hs.pooled p' (hpool ▸ List.mem_cons_of_mem p hp')
    · intro p' hle
      obtain ⟨hnone, hnot⟩ := hs.fresh p' hle
      rw [hpool, List.mem_cons, not_or] at hnot
      dsimp only
      rw [Function.update_of_ne hnot.1]
      exact ⟨hnone, hnot.2⟩
    · rintro h' p' q' - ⟨howner, hq⟩
      refine ⟨?_, hq⟩
      rw [Function.update_of_ne, howner]
      rintro rfl
      rw [hfree.1] at howner
      cases howner
  | nil =>
    rw [take_of_nil hpool]
    refine ⟨⟨?_, hs.nodup, ?_⟩, ⟨Function.update_self _ _ _, BTreeMap.get?_insert_self _ _ _⟩, ?_⟩
    · intro p hp
      dsimp only at hp
      rw [hpool] at hp
      cases hp
    · intro p hle
      dsimp only at hle ⊢
      rw [Function.update_of_ne (by omega)]
      exact hs.fresh p (by omega)
    · rintro h' p' q' - ⟨howner, hq⟩
      have hlt := hs.lt_next howner
      refine ⟨?_, ?_⟩
      · dsimp only
        rw [Function.update_of_ne (by omega), howner]
      · dsimp only
        rw [BTreeMap.get?_insert_of_ne (by omega), hq]

lemma Ok.giveBack (hs : Ok s owner) (hp : Holds s owner h p q) (max : Nat) (drained : Bool)
    (hempty : drained = true → q = []) :
    Ok (s.giveBack max p drained) (Function.update owner p none)
      ∧ Untouched h s owner (s.giveBack max p drained) (Function.update owner p none) := by
  have hnot := hs.not_pooled hp.1
  have hlt := hs.lt_next hp.1
  have hothers : ∀ h' p' q', h' ≠ h → Holds s owner h' p' q' → p' ≠ p := by
    rintro h' p' q' hne ⟨howner, -⟩ rfl
    rw [hp.1] at howner
    exact hne (Option.some.inj howner).symm
  unfold PipePool.giveBack
  split
  · next hback =>
      rw [Bool.and_eq_true] at hback
      obtain rfl := hempty hback.1
      refine ⟨⟨?_, List.nodup_cons.mpr ⟨hnot, hs.nodup⟩, ?_⟩, ?_⟩
      · intro p' hp'
        rcases List.mem_cons.mp hp' with rfl | hp'
        · exact ⟨Function.update_self _ _ _, hp.2⟩
        · have hne : p' ≠ p := fun heq => hnot (heq ▸ hp')
          rw [Function.update_of_ne hne]
          exact hs.pooled p' hp'
      · intro p' hle
        have hne : p' ≠ p := by
          dsimp only at hle
          omega
        rw [Function.update_of_ne hne, List.mem_cons, not_or]
        exact ⟨(hs.fresh p' hle).1, hne, (hs.fresh p' hle).2⟩
      · intro h' p' q' hne hp'
        refine ⟨?_, hp'.2⟩
        rw [Function.update_of_ne (hothers h' p' q' hne hp')]
        exact hp'.1
  · refine ⟨⟨?_, hs.nodup, ?_⟩, ?_⟩
    · intro p' hp'
      have hne : p' ≠ p := fun heq => hnot (heq ▸ hp')
      dsimp only
      rw [Function.update_of_ne hne, BTreeMap.get?_erase_of_ne (Ne.symm hne)]
      exact hs.pooled p' hp'
    · intro p' hle
      have hne : p' ≠ p := by
        dsimp only at hle
        omega
      rw [Function.update_of_ne hne]
      exact hs.fresh p' hle
    · intro h' p' q' hne hp'
      have hother := hothers h' p' q' hne hp'
      refine ⟨?_, ?_⟩
      · rw [Function.update_of_ne hother]
        exact hp'.1
      · dsimp only
        rw [BTreeMap.get?_erase_of_ne (Ne.symm hother)]
        exact hp'.2

lemma Ok.rewrite (hs : Ok s owner) (hp : Holds s owner h p q) (q' : List α) :
    Ok { s with contents := s.contents.insert p q' } owner
      ∧ Holds { s with contents := s.contents.insert p q' } owner h p q'
      ∧ Untouched h s owner { s with contents := s.contents.insert p q' } owner := by
  have hnot := hs.not_pooled hp.1
  refine ⟨⟨?_, hs.nodup, hs.fresh⟩, ⟨hp.1, BTreeMap.get?_insert_self _ _ _⟩, ?_⟩
  · intro p' hp'
    have hne : p ≠ p' := fun heq => hnot (heq ▸ hp')
    refine ⟨(hs.pooled p' hp').1, ?_⟩
    dsimp only
    rw [BTreeMap.get?_insert_of_ne hne]
    exact (hs.pooled p' hp').2
  · rintro h' p' q'' hne ⟨howner, hq⟩
    refine ⟨howner, ?_⟩
    dsimp only
    rw [BTreeMap.get?_insert_of_ne, hq]
    rintro rfl
    rw [hp.1] at howner
    exact hne (Option.some.inj howner).symm

lemma Ok.fill (hs : Ok s owner) (hp : Holds s owner h p q) (chunk : List α) :
    Ok (s.fill p chunk) owner ∧ Holds (s.fill p chunk) owner h p (q ++ chunk)
      ∧ Untouched h s owner (s.fill p chunk) owner := by
  unfold PipePool.fill
  rw [hp.content]
  exact hs.rewrite hp _

lemma Ok.drain (hs : Ok s owner) (hp : Holds s owner h p q) (m : Nat) :
    Ok (s.drain p m) owner ∧ Holds (s.drain p m) owner h p (q.drop m)
      ∧ Untouched h s owner (s.drain p m) owner := by
  unfold PipePool.drain
  rw [hp.content]
  exact hs.rewrite hp _

end PipePool

end Dstack.Lib
