/-
Runs whose steps all meet a condition.

The condition of a step is about the state it is taken from, so it is
followed along the run.
-/
import Mathlib

namespace Dstack.Lib

variable {σ α : Type*} {f : σ → α → σ} {ok : σ → α → Prop}

/-- Every step of the run from `s` meets the condition where it is taken. -/
def Along (f : σ → α → σ) (ok : σ → α → Prop) : σ → List α → Prop
  | _, [] => True
  | s, a :: l => ok s a ∧ Along f ok (f s a) l

instance decidableAlong [∀ s a, Decidable (ok s a)] :
    ∀ (s : σ) (l : List α), Decidable (Along f ok s l)
  | _, [] => isTrue trivial
  | s, a :: l =>
    have := decidableAlong (f s a) l
    inferInstanceAs (Decidable (ok s a ∧ Along f ok (f s a) l))

lemma Along.foldl {P : σ → Prop} (hstep : ∀ s a, P s → ok s a → P (f s a)) {s : σ}
    {l : List α} (h : Along f ok s l) (hs : P s) : P (l.foldl f s) := by
  induction l generalizing s with
  | nil => exact hs
  | cons a l ih => exact ih h.2 (hstep s a hs h.1)

lemma Along.congr {P : σ → Prop} {ok' : σ → α → Prop}
    (hok : ∀ s a, P s → (ok s a ↔ ok' s a)) (hstep : ∀ s a, P s → ok s a → P (f s a))
    {s : σ} {l : List α} (hs : P s) : Along f ok s l ↔ Along f ok' s l := by
  induction l generalizing s with
  | nil => exact Iff.rfl
  | cons a l ih =>
    constructor
    · rintro ⟨ha, hl⟩
      exact ⟨(hok s a hs).mp ha, (ih (hstep s a hs ha)).mp hl⟩
    · rintro ⟨ha, hl⟩
      have ha' := (hok s a hs).mpr ha
      exact ⟨ha', (ih (hstep s a hs ha')).mpr hl⟩

end Dstack.Lib
