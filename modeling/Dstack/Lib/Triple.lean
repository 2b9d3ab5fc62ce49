/-
Pre- and postconditions for computations over a state that may fail: what
a success leaves behind, and what a failure does. With an exceptional
postcondition that cannot hold, a triple says that the computation
succeeds.
-/
import Dstack.Lib.Stateful

namespace Dstack.Lib.Stateful

variable {σ α β : Type}

/-- From every state with `P`, a success leaves `Q` and a failure `E`. -/
def Triple (P : σ → Prop) (x : Stateful σ α) (Q : α → σ → Prop) (E : σ → Prop) : Prop :=
  ∀ s, P s →
    match x s with
    | (.ok a, s') => Q a s'
    | (.error _, s') => E s'

variable {P P' : σ → Prop} {Q Q' : α → σ → Prop} {E : σ → Prop}

lemma Triple.pure {a : α} (h : ∀ s, P s → Q a s) :
    Triple P (Pure.pure a : Stateful σ α) Q E :=
  fun s hs => h s hs

lemma Triple.bind {x : Stateful σ α} {f : α → Stateful σ β} {R : β → σ → Prop}
    (hx : Triple P x Q E) (hf : ∀ a, Triple (Q a) (f a) R E) : Triple P (x >>= f) R E := by
  intro s hs
  have hfirst := hx s hs
  change match (match x s with
    | (.ok a, s₁) => f a s₁
    | (.error e, s₁) => (.error e, s₁)) with
    | (.ok b, s') => R b s'
    | (.error _, s') => E s'
  rcases hr : x s with ⟨r, s₁⟩
  rw [hr] at hfirst
  cases r with
  | error e => exact hfirst
  | ok a => exact hf a s₁ hfirst

lemma Triple.conseq {x : Stateful σ α} {E' : σ → Prop} (hx : Triple P x Q E)
    (hpre : ∀ s, P' s → P s) (hpost : ∀ a s, Q a s → Q' a s) (hfailed : ∀ s, E s → E' s) :
    Triple P' x Q' E' := by
  intro s hs
  have hrun := hx s (hpre s hs)
  rcases hr : x s with ⟨r, s₁⟩
  rw [hr] at hrun
  cases r with
  | error e => exact hfailed s₁ hrun
  | ok a => exact hpost a s₁ hrun

/-- What holds after a success and after a failure holds. -/
lemma Triple.const {x : Stateful σ α} :
    Triple P x (fun _ => E) E ↔ ∀ s, P s → E (x s).2 := by
  refine forall_congr' fun s => imp_congr_right fun _ => ?_
  rcases x s with ⟨r, s₁⟩
  cases r <;> rfl

lemma Triple.always {x : Stateful σ α} {s : σ} (hx : Triple P x (fun _ => E) E) (hs : P s) :
    E (x s).2 :=
  Triple.const.mp hx s hs

lemma Triple.of_keeps {R : σ → σ → Prop} {x : Stateful σ α} (hx : Keeps R x)
    (h : ∀ s s', P s → R s s' → E s') : Triple P x (fun _ => E) E :=
  Triple.const.mpr fun s hs => h s _ hs (hx s)

lemma Triple.context {x : Stateful σ α} (hx : Triple P x Q E) (c : String) :
    Triple P (x.context c) Q E := by
  intro s hs
  have hrun := hx s hs
  unfold Stateful.context
  rcases hr : x s with ⟨r, s₁⟩
  rw [hr] at hrun
  cases r with
  | error e => exact hrun
  | ok a => exact hrun

lemma Triple.each {f : α → Stateful σ Unit} {I : List α → σ → Prop}
    (step : ∀ a rest, Triple (I (a :: rest)) (f a) (fun _ => I rest) E) :
    ∀ l, Triple (I l) (each f l) (fun _ => I []) E
  | [] => Triple.pure fun _ hs => hs
  | a :: l => Triple.bind (step a l) fun _ => Triple.each step l

end Dstack.Lib.Stateful
