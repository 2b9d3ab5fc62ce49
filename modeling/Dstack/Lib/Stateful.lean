/-
Computations over a state that may fail.

What such a computation did to the state stays when it fails, as with
calls to an operating system. `Runs` is a successful run from one state
to another; the lemmas invert the run of a sequence into the runs of its
steps. `Keeps` is what holds between the first and the last state of
every run, successful or not, for a relation that composes.
-/
import Dstack.Lib.Result

namespace Dstack.Lib

/-- A computation on a state: its result, and the state it leaves. -/
def Stateful (σ α : Type) : Type := σ → Result α × σ

namespace Stateful

variable {σ α β : Type}

instance : Monad (Stateful σ) where
  pure a := fun s => (.ok a, s)
  bind x f := fun s =>
    match x s with
    | (.ok a, s') => f a s'
    | (.error e, s') => (.error e, s')

/-- Look at the state. -/
def inspect (f : σ → Result α) : Stateful σ α := fun s => (f s, s)

/-- A computation that does not touch the state. -/
def lift (r : Result α) : Stateful σ α := inspect fun _ => r

/-- Change the state, or fail and leave it. -/
def update (f : σ → Result σ) : Stateful σ Unit := fun s =>
  match f s with
  | .ok s' => (.ok (), s')
  | .error e => (.error e, s)

/-- Put a context in front of an error. -/
def context (x : Stateful σ α) (c : String) : Stateful σ α := fun s =>
  ((x s).1.context c, (x s).2)

/-- One computation for each element, until one fails. -/
def each (f : α → Stateful σ Unit) : List α → Stateful σ Unit
  | [] => pure ()
  | a :: l => do
      f a
      each f l

-- == successful runs

/-- `x` succeeds with `a` and takes the state from `s` to `s'`. -/
def Runs (x : Stateful σ α) (s : σ) (a : α) (s' : σ) : Prop := x s = (.ok a, s')

variable {s s' : σ} {a b : α}

lemma runs_of_isOk {x : Stateful σ Unit} (h : (x s).1.isOk = true) :
    Runs x s () (x s).2 := by
  obtain ⟨u, hu⟩ := Result.exists_of_isOk h
  exact Prod.ext hu rfl

lemma Runs.unique {x : Stateful σ α} {s₁ s₂ : σ} (h₁ : Runs x s a s₁)
    (h₂ : Runs x s b s₂) : a = b ∧ s₁ = s₂ := by
  have h := h₁.symm.trans h₂
  simp only [Prod.mk.injEq, Except.ok.injEq] at h
  exact h

@[simp] lemma runs_pure : Runs (pure a) s b s' ↔ a = b ∧ s = s' := by
  simp [Runs, pure]

lemma runs_bind {x : Stateful σ α} {f : α → Stateful σ β} {b : β} :
    Runs (x >>= f) s b s' ↔ ∃ a s₁, Runs x s a s₁ ∧ Runs (f a) s₁ b s' := by
  unfold Runs
  show (match x s with
    | (.ok a, s₁) => f a s₁
    | (.error e, s₁) => (.error e, s₁)) = _ ↔ _
  rcases x s with ⟨r, s₁⟩
  cases r with
  | error e => simp
  | ok a => simp

lemma Runs.bind_eq {x : Stateful σ α} (h : Runs x s a s') (f : α → Stateful σ β) :
    (x >>= f) s = f a s' := by
  show (match x s with
    | (.ok a, s₁) => f a s₁
    | (.error e, s₁) => (.error e, s₁)) = _
  rw [show x s = (.ok a, s') from h]

lemma bind_eq_of_error {x : Stateful σ α} {e : String} (h : x s = (.error e, s'))
    (f : α → Stateful σ β) : (x >>= f) s = (.error e, s') := by
  show (match x s with
    | (.ok a, s₁) => f a s₁
    | (.error e, s₁) => (.error e, s₁)) = _
  rw [h]

@[simp] lemma runs_inspect {f : σ → Result α} :
    Runs (inspect f) s a s' ↔ f s = .ok a ∧ s = s' := by
  simp [Runs, inspect]

@[simp] lemma runs_lift {r : Result α} :
    Runs (lift r : Stateful σ α) s a s' ↔ r = .ok a ∧ s = s' :=
  runs_inspect

@[simp] lemma runs_update {f : σ → Result σ} {u : Unit} :
    Runs (update f) s u s' ↔ f s = .ok s' := by
  unfold Runs update
  cases f s <;> simp

@[simp] lemma runs_context {x : Stateful σ α} {c : String} :
    Runs (x.context c) s a s' ↔ Runs x s a s' := by
  unfold Runs context
  rcases x s with ⟨r, s₁⟩
  simp

lemma Runs.each_from {f : α → Stateful σ Unit} {P : List α → σ → Prop}
    (step : ∀ done a s s', P done s → Runs (f a) s () s' → P (done ++ [a]) s') :
    ∀ {l done : List α} {s s' : σ} {u : Unit}, P done s → Runs (each f l) s u s' →
      P (done ++ l) s' := by
  intro l
  induction l with
  | nil =>
    intro done s s' u hP h
    obtain ⟨-, rfl⟩ := runs_pure.mp h
    rw [List.append_nil]
    exact hP
  | cons a l ih =>
    intro done s s' u hP h
    obtain ⟨_, s₁, ha, hl⟩ := runs_bind.mp h
    have := ih (step done a s s₁ hP ha) hl
    rwa [List.append_assoc] at this

lemma Runs.each_induct {f : α → Stateful σ Unit} (P : List α → σ → Prop)
    (step : ∀ done a s s', P done s → Runs (f a) s () s' → P (done ++ [a]) s')
    {l : List α} {u : Unit} (h₀ : P [] s) (h : Runs (each f l) s u s') : P l s' :=
  Runs.each_from step h₀ h

-- == every run

/-- Every run relates its first state to its last. -/
def Keeps (R : σ → σ → Prop) (x : Stateful σ α) : Prop := ∀ s, R s (x s).2

lemma Keeps.runs {R : σ → σ → Prop} {x : Stateful σ α} (hx : Keeps R x)
    (h : Runs x s a s') : R s s' := by
  have := hx s
  rwa [show x s = (.ok a, s') from h] at this

section

variable {R : σ → σ → Prop} {x y : Stateful σ α}

lemma Keeps.ite {c : Prop} [Decidable c] (hx : Keeps R x) (hy : Keeps R y) :
    Keeps R (if c then x else y) := by
  split
  · exact hx
  · exact hy

lemma Keeps.bind [IsTrans σ R] {f : α → Stateful σ β} (hx : Keeps R x)
    (hf : ∀ a, Keeps R (f a)) : Keeps R (x >>= f) := by
  intro s
  show R s (match x s with
    | (.ok a, s₁) => f a s₁
    | (.error e, s₁) => (.error e, s₁)).2
  have hs := hx s
  rcases hr : x s with ⟨r, s₁⟩
  rw [hr] at hs
  cases r with
  | error e => exact hs
  | ok a => exact IsTrans.trans _ _ _ hs (hf a s₁)

variable [Std.Refl R]

lemma Keeps.inspect (f : σ → Result α) : Keeps R (inspect f) :=
  fun s => Std.Refl.refl s

lemma Keeps.lift (r : Result α) : Keeps R (lift r) := .inspect fun _ => r

lemma Keeps.pure (a : α) : Keeps R (pure a : Stateful σ α) :=
  fun s => Std.Refl.refl s

/-- What leaves the state keeps everything. -/
lemma Keeps.of_eq (hx : Keeps Eq x) : Keeps R x := fun s => hx s ▸ Std.Refl.refl s

lemma Keeps.update {f : σ → Result σ} (h : ∀ s s', f s = .ok s' → R s s') :
    Keeps R (update f) := by
  intro s
  unfold Stateful.update
  cases hs : f s with
  | error e => exact Std.Refl.refl s
  | ok s' => exact h s s' hs

end

end Stateful

end Dstack.Lib
