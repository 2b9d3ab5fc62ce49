/-
Ordered lists of half-open intervals.

The elements are whatever carries a start and a stop. A `Chain` is a
list of intervals that follow one another, so it is sorted and nothing
in it overlaps. Sorting by start is what keeps a list a chain when an
interval is added at the end (`Chain.insert`), and a chain is the only
ordering of its elements that is one (`Chain.unique`), which is how two
algorithms that produce the same intervals are shown to produce the
same list.
-/
import Mathlib

namespace Dstack.Lib.Intervals

variable {α : Type} (start stop : α → Nat)

/-- Each interval ends before the next one starts. -/
def Chain (l : List α) : Prop :=
  (∀ x ∈ l, start x ≤ stop x) ∧ l.Pairwise fun x y => stop x ≤ start y

/-- Two intervals do not overlap. -/
def Apart (x y : α) : Prop := stop x ≤ start y ∨ stop y ≤ start x

/-- A stable sort by start (`sort_by_key`). -/
def sortByStart (l : List α) : List α :=
  l.insertionSort fun x y => start x ≤ start y

variable {start stop}

lemma sortByStart_perm (l : List α) : (sortByStart start l).Perm l :=
  List.perm_insertionSort _ l

lemma Chain.tail {x : α} {l : List α} (h : Chain start stop (x :: l)) :
    Chain start stop l :=
  ⟨fun y hy => h.1 y (List.mem_cons_of_mem _ hy), (List.pairwise_cons.mp h.2).2⟩

lemma Chain.cons {x : α} {l : List α} (h : Chain start stop l)
    (hx : start x ≤ stop x) (hbefore : ∀ y ∈ l, stop x ≤ start y) :
    Chain start stop (x :: l) := by
  refine ⟨?_, List.pairwise_cons.mpr ⟨hbefore, h.2⟩⟩
  intro y hy
  rcases List.mem_cons.mp hy with rfl | hy
  · exact hx
  · exact h.1 y hy

lemma Chain.head_le {x : α} {l : List α} (h : Chain start stop (x :: l)) :
    ∀ y ∈ l, start x ≤ start y := fun y hy =>
  Nat.le_trans (h.1 x List.mem_cons_self) ((List.pairwise_cons.mp h.2).1 y hy)

-- == insertion

lemma sortByStart_concat_front {a : α} :
    ∀ {l : List α}, Chain start stop l → (∀ x ∈ l, start a < start x) →
      sortByStart start (l ++ [a]) = a :: l := by
  intro l
  induction l with
  | nil => intro _ _; rfl
  | cons c l ih =>
    intro hchain hfront
    have hl := ih hchain.tail fun x hx => hfront x (List.mem_cons_of_mem _ hx)
    have hlt : ¬ start c ≤ start a := by
      have := hfront c List.mem_cons_self
      omega
    have hsorted : l.Pairwise fun x y => start x ≤ start y := by
      refine hchain.tail.2.imp_of_mem ?_
      intro x y hx _ hxy
      exact Nat.le_trans (hchain.tail.1 x hx) hxy
    calc sortByStart start (c :: l ++ [a])
        = List.orderedInsert (fun x y => start x ≤ start y) c (a :: l) := by
          rw [← hl]; rfl
      _ = a :: List.orderedInsert (fun x y => start x ≤ start y) c l := by
          simp [List.orderedInsert_cons, hlt]
      _ = a :: c :: l := by
          have hc := List.insertionSort_cons_of_forall_rel
            (fun x y => start x ≤ start y) hchain.head_le
          rw [List.insertionSort_cons, hsorted.insertionSort_eq] at hc
          rw [hc]

/-- Adding an interval that meets nothing and sorting keeps a chain. The
induction walks up to the place where the interval belongs. -/
lemma Chain.insert {a : α} (ha : start a < stop a) :
    ∀ {l : List α}, Chain start stop l → (∀ x ∈ l, Apart start stop x a) →
      Chain start stop (sortByStart start (l ++ [a])) := by
  intro l
  induction l with
  | nil =>
    intro _ _
    refine Chain.cons ⟨?_, List.Pairwise.nil⟩ (Nat.le_of_lt ha) ?_
    · intro x hx
      cases hx
    · intro x hx
      cases hx
  | cons c l ih =>
    intro hchain hapart
    rcases hapart c List.mem_cons_self with hbefore | hafter
    · -- `c` stays in front: everything else starts where it stops or later
      have hstop : ∀ x ∈ l ++ [a], stop c ≤ start x := by
        intro x hx
        rcases List.mem_append.mp hx with hx | hx
        · exact (List.pairwise_cons.mp hchain.2).1 x hx
        · rw [List.mem_singleton.mp hx]
          exact hbefore
      have hc := hchain.1 c List.mem_cons_self
      have hsort : sortByStart start (c :: l ++ [a])
          = c :: sortByStart start (l ++ [a]) :=
        List.insertionSort_cons_of_forall_rel _
          fun x hx => Nat.le_trans hc (hstop x hx)
      rw [hsort]
      refine Chain.cons (ih hchain.tail fun x hx =>
        hapart x (List.mem_cons_of_mem _ hx)) hc ?_
      intro x hx
      exact hstop x ((sortByStart_perm _).mem_iff.mp hx)
    · -- `a` stops before `c` starts, so it goes in front of the whole list
      have hall : ∀ x ∈ c :: l, stop a ≤ start x := by
        intro x hx
        rcases List.mem_cons.mp hx with rfl | hx
        · exact hafter
        · exact Nat.le_trans hafter (hchain.head_le x hx)
      rw [sortByStart_concat_front hchain fun x hx =>
        Nat.lt_of_lt_of_le ha (hall x hx)]
      exact hchain.cons (Nat.le_of_lt ha) hall

-- == subdivision

lemma Chain.flatMap {l : List α} {f : α → List α}
    (h : Chain start stop l)
    (hf : ∀ x ∈ l, Chain start stop (f x)
      ∧ ∀ y ∈ f x, start x ≤ start y ∧ stop y ≤ stop x) :
    Chain start stop (l.flatMap f) := by
  constructor
  · intro y hy
    obtain ⟨x, hx, hyx⟩ := List.mem_flatMap.mp hy
    exact (hf x hx).1.1 y hyx
  · rw [List.pairwise_flatMap]
    refine ⟨fun x hx => (hf x hx).1.2, ?_⟩
    refine h.2.imp_of_mem ?_
    intro x y hx hy hxy u hu v hv
    have hux := ((hf x hx).2 u hu).2
    have hvy := ((hf y hy).2 v hv).1
    omega

-- == uniqueness

lemma Chain.unique {l₁ l₂ : List α} (h₁ : Chain start stop l₁)
    (h₂ : Chain start stop l₂) (hperm : l₁.Perm l₂)
    (hempty : ∀ x ∈ l₁, ∀ y ∈ l₁, start x = stop x → start y = stop y →
      start x = start y → x = y) : l₁ = l₂ := by
  refine hperm.eq_of_pairwise ?_ h₁.2 h₂.2
  intro x y hx hy hxy hyx
  have hy' := hperm.mem_iff.mpr hy
  have h₃ := h₁.1 x hx
  have h₄ := h₁.1 y hy'
  exact hempty x hx y hy' (by omega) (by omega) (by omega)

end Dstack.Lib.Intervals
