/-
Conflicts settled by precedence.

Of a set of candidates those that qualify are chosen one after the
other; one is passed over if it conflicts with one chosen before it. The
outcome is a fixed point, and over finitely many candidates there is only
one: in which order the candidates came, and those that do not qualify,
have no say in it.
-/
import Mathlib

namespace Dstack.Lib

variable {α : Type} {before conflict : α → α → Prop}

/-- What is chosen of the candidates `S`: those that qualify and do not
conflict with one chosen before. -/
def Resolves (before conflict : α → α → Prop) (valid : α → Prop) (S K : Set α) : Prop :=
  ∀ a, a ∈ K ↔ a ∈ S ∧ valid a ∧ ∀ b ∈ K, before b a → ¬conflict b a

namespace Resolves

variable {valid valid' : α → Prop} {S S' K K' : Set α}

lemma subset (h : Resolves before conflict valid S K) : K ⊆ S := fun a ha => ((h a).mp ha).1

lemma valid_of_mem (h : Resolves before conflict valid S K) {a : α} (ha : a ∈ K) : valid a :=
  ((h a).mp ha).2.1

lemma empty : Resolves before conflict valid ∅ ∅ := by
  intro a
  constructor
  · intro ha
    cases ha
  · rintro ⟨ha, -⟩
    cases ha

lemma notMem_iff (h : Resolves before conflict valid S K) {a : α} (ha : a ∈ S)
    (hvalid : valid a) : a ∉ K ↔ ∃ b ∈ K, before b a ∧ conflict b a := by
  constructor
  · intro hnot
    by_contra hnone
    refine hnot ((h a).mpr ⟨ha, hvalid, fun b hb hba hconflict => hnone ?_⟩)
    exact ⟨b, hb, hba, hconflict⟩
  · rintro ⟨b, hb, hba, hconflict⟩ hK
    exact ((h a).mp hK).2.2 b hb hba hconflict

lemma take [IsStrictOrder α before] {e : α} (h : Resolves before conflict valid S K)
    (hlast : ∀ a ∈ S, before a e) (hvalid : valid e) (hclear : ∀ b ∈ K, ¬conflict b e) :
    Resolves before conflict valid (insert e S) (insert e K) := by
  intro a
  constructor
  · rintro (rfl | ha)
    · refine ⟨.inl rfl, hvalid, ?_⟩
      rintro b (rfl | hb) hba
      · exact absurd hba (irrefl b)
      · exact hclear b hb
    · obtain ⟨haS, hvalid, hfree⟩ := (h a).mp ha
      refine ⟨.inr haS, hvalid, ?_⟩
      rintro b (rfl | hb) hba
      · exact absurd hba (asymm (hlast a haS))
      · exact hfree b hb hba
  · rintro ⟨rfl | haS, hvalid, hfree⟩
    · exact .inl rfl
    · exact .inr ((h a).mpr ⟨haS, hvalid, fun b hb => hfree b (.inr hb)⟩)

lemma pass {e : α} (h : Resolves before conflict valid S K)
    (hlast : ∀ a ∈ S, before a e) (hnot : valid e → ∃ b ∈ K, conflict b e) :
    Resolves before conflict valid (insert e S) K := by
  intro a
  constructor
  · intro ha
    obtain ⟨haS, hrest⟩ := (h a).mp ha
    exact ⟨.inr haS, hrest⟩
  · rintro ⟨rfl | haS, hvalid, hfree⟩
    · obtain ⟨b, hb, hconflict⟩ := hnot hvalid
      exact absurd hconflict (hfree b hb (hlast b (h.subset hb)))
    · exact (h a).mpr ⟨haS, hvalid, hfree⟩

lemma eq_of_admissible [IsStrictOrder α before] (hS : S.Finite)
    (h : Resolves before conflict valid S K) (h' : Resolves before conflict valid' S' K')
    (hto : ∀ a ∈ K, a ∈ S' ∧ valid' a) (hfrom : ∀ a ∈ K', a ∈ S ∧ valid a) : K = K' := by
  have hwf : S.WellFoundedOn before := hS.wellFoundedOn
  -- Induction along the order: what comes before was settled alike.
  have hsame : ∀ a ∈ S, (a ∈ K ↔ a ∈ K') := by
    intro a ha
    refine hwf.induction (P := fun a => a ∈ K ↔ a ∈ K') ha fun a ha ih => ?_
    constructor
    · intro hK
      obtain ⟨-, -, hclear⟩ := (h a).mp hK
      obtain ⟨hS', hvalid'⟩ := hto a hK
      refine (h' a).mpr ⟨hS', hvalid', fun b hb hba => ?_⟩
      have hbS := (hfrom b hb).1
      exact hclear b ((ih b hbS hba).mpr hb) hba
    · intro hK'
      obtain ⟨-, -, hclear⟩ := (h' a).mp hK'
      refine (h a).mpr ⟨ha, (hfrom a hK').2, fun b hb hba => ?_⟩
      exact hclear b ((ih b (h.subset hb) hba).mp hb) hba
  ext a
  constructor
  · intro ha
    exact (hsame a (h.subset ha)).mp ha
  · intro ha
    exact (hsame a (hfrom a ha).1).mpr ha

lemma eq_of_same_valid [IsStrictOrder α before] (hS : S.Finite)
    (h : Resolves before conflict valid S K) (h' : Resolves before conflict valid S' K')
    (hsame : ∀ a, valid a → (a ∈ S ↔ a ∈ S')) : K = K' := by
  refine h.eq_of_admissible hS h' ?_ ?_
  · intro a ha
    have hvalid := h.valid_of_mem ha
    exact ⟨(hsame a hvalid).mp (h.subset ha), hvalid⟩
  · intro a ha
    have hvalid := h'.valid_of_mem ha
    exact ⟨(hsame a hvalid).mpr (h'.subset ha), hvalid⟩

/-- One that qualifies where it did not before has no say if it loses. -/
lemma relax {both : α → Prop} (h : Resolves before conflict both S K)
    (hboth : ∀ a, both a → valid a)
    (hlost : ∀ a ∈ S, valid a → ¬both a → ∃ b ∈ K, before b a ∧ conflict b a) :
    Resolves before conflict valid S K := by
  intro a
  constructor
  · intro ha
    obtain ⟨haS, hqualifies, hfree⟩ := (h a).mp ha
    exact ⟨haS, hboth a hqualifies, hfree⟩
  · rintro ⟨haS, hvalid, hfree⟩
    refine (h a).mpr ⟨haS, ?_, hfree⟩
    by_contra hnot
    obtain ⟨b, hb, hba, hconflict⟩ := hlost a haS hvalid hnot
    exact hfree b hb hba hconflict

/-- Two standards choose alike exactly if whatever qualifies by one of
them only loses to what is chosen of the candidates that qualify by both. -/
lemma eq_iff_agreed [IsStrictOrder α before] (hS : S.Finite)
    (h : Resolves before conflict valid S K) (h' : Resolves before conflict valid' S K') :
    K = K' ↔ ∃ M, Resolves before conflict (fun a => valid a ∧ valid' a) S M
      ∧ ∀ a ∈ S, ¬(valid a ↔ valid' a) → ∃ b ∈ M, before b a ∧ conflict b a := by
  constructor
  · rintro rfl
    refine ⟨K, fun a => ?_, fun a ha hdiffer => ?_⟩
    · constructor
      · intro haK
        obtain ⟨ha, hvalid, hfree⟩ := (h a).mp haK
        exact ⟨ha, ⟨hvalid, h'.valid_of_mem haK⟩, hfree⟩
      · rintro ⟨ha, ⟨hvalid, -⟩, hfree⟩
        exact (h a).mpr ⟨ha, hvalid, hfree⟩
    · by_cases hvalid : valid a
      · refine (h.notMem_iff ha hvalid).mp fun haK => hdiffer ?_
        exact iff_of_true hvalid (h'.valid_of_mem haK)
      · have hvalid' : valid' a := by
          by_contra hnot
          exact hdiffer (iff_of_false hvalid hnot)
        exact (h'.notMem_iff ha hvalid').mp fun haK => hvalid (h.valid_of_mem haK)
  · rintro ⟨M, hM, hlost⟩
    have hK : Resolves before conflict valid S M := hM.relax (fun a => And.left)
      fun a ha hvalid hnot => hlost a ha fun hiff => hnot ⟨hvalid, hiff.mp hvalid⟩
    have hK' : Resolves before conflict valid' S M := hM.relax (fun a => And.right)
      fun a ha hvalid hnot => hlost a ha fun hiff => hnot ⟨hiff.mpr hvalid, hvalid⟩
    rw [h.eq_of_same_valid hS hK fun _ _ => Iff.rfl, h'.eq_of_same_valid hS hK' fun _ _ => Iff.rfl]

end Resolves

end Dstack.Lib
