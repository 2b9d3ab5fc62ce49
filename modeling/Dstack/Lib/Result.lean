/-
Fallible computations with their error texts.

An error is its message, with the contexts added on the way out in
front of it, outermost first and separated by a colon: the text an
`anyhow` error chain prints in its alternate form. Running one step
after another is `Except`'s own bind; the lemmas here invert a
successful run into the successes of its steps, so that no proof has
to split on the failures it rules out.
-/
import Mathlib

namespace Dstack.Lib

/-- A value or the text of an error. -/
abbrev Result (α : Type) := Except String α

namespace Result

variable {α β ε : Type}

/-- Put a context in front of an error. -/
def context (r : Result α) (c : String) : Result α :=
  match r with
  | .ok a => .ok a
  | .error e => .error (c ++ ": " ++ e)

/-- The value there is, or an error. -/
def ofOption (o : Option α) (e : ε) : Except ε α :=
  match o with
  | some a => .ok a
  | none => .error e

/-- Fail unless a condition holds (`ensure!`, `bail!`). -/
def ensure (p : Prop) [Decidable p] (e : ε) : Except ε Unit :=
  if p then .ok () else .error e

/-- Fail with what a value says, if there is one. -/
def rejectSome (o : Option α) (e : α → ε) : Except ε Unit :=
  match o with
  | some a => .error (e a)
  | none => .ok ()

/-- The computation succeeded. -/
def isOk (r : Result α) : Bool :=
  match r with
  | .ok _ => true
  | .error _ => false

lemma ok_of_toOption {r : Result α} {a : α} (h : r.toOption = some a) : r = .ok a := by
  cases r with
  | error e => cases h
  | ok b =>
    cases h
    rfl

lemma error_of_toOption {r : Result α} (h : r.toOption = none) : ∃ e, r = .error e := by
  cases r with
  | error e => exact ⟨e, rfl⟩
  | ok a => cases h

lemma exists_of_isOk {r : Result α} (h : r.isOk = true) : ∃ a, r = .ok a := by
  cases r with
  | error e => cases h
  | ok a => exact ⟨a, rfl⟩

@[simp] lemma context_eq_ok {r : Result α} {c : String} {a : α} :
    r.context c = .ok a ↔ r = .ok a := by
  cases r <;> simp [context]

@[simp] lemma ofOption_eq_ok {o : Option α} {e : ε} {a : α} :
    ofOption o e = .ok a ↔ o = some a := by
  cases o <;> simp [ofOption]

@[simp] lemma ensure_eq_ok {p : Prop} [Decidable p] {e : ε} {u : Unit} :
    ensure p e = .ok u ↔ p := by
  unfold ensure
  split <;> simp_all

@[simp] lemma rejectSome_eq_ok {o : Option α} {e : α → ε} {u : Unit} :
    rejectSome o e = .ok u ↔ o = none := by
  cases o <;> simp [rejectSome]

lemma bind_eq_ok {r : Except ε α} {f : α → Except ε β} {b : β} :
    (r >>= f) = .ok b ↔ ∃ a, r = .ok a ∧ f a = .ok b := by
  cases r with
  | error e => simp [bind, Except.bind]
  | ok a => simp [bind, Except.bind]

lemma map_eq_ok {r : Except ε α} {f : α → β} {b : β} :
    (f <$> r) = .ok b ↔ ∃ a, r = .ok a ∧ f a = b := by
  cases r with
  | error e => simp [Functor.map, Except.map]
  | ok a => simp [Functor.map, Except.map]

@[simp] lemma pure_eq_ok {a b : α} :
    (pure a : Except ε α) = .ok b ↔ a = b := by
  simp [pure, Except.pure]

/-- What each way of putting a run together needs to succeed. -/
lemma ok_iff :
    (∀ {ε α β : Type} {r : Except ε α} {f : α → Except ε β} {b : β},
        (r >>= f) = .ok b ↔ ∃ a, r = .ok a ∧ f a = .ok b) ∧
      (∀ {ε α : Type} {a b : α}, (pure a : Except ε α) = .ok b ↔ a = b) ∧
      (∀ {ε : Type} {p : Prop} [Decidable p] {e : ε} {u : Unit}, ensure p e = .ok u ↔ p) ∧
      (∀ {ε α : Type} {o : Option α} {e : ε} {a : α}, ofOption o e = .ok a ↔ o = some a) ∧
      ∀ {α : Type} {r : Result α} {c : String} {a : α}, r.context c = .ok a ↔ r = .ok a :=
  ⟨bind_eq_ok, pure_eq_ok, ensure_eq_ok, ofOption_eq_ok, context_eq_ok⟩

@[simp] lemma mapError_eq_ok {δ : Type} {r : Except ε α} {f : ε → δ} {a : α} :
    r.mapError f = .ok a ↔ r = .ok a := by
  cases r <;> simp [Except.mapError]

@[simp] lemma isOk_map {r : Result α} {f : α → β} :
    isOk (f <$> r : Result β) = r.isOk := by
  cases r <;> rfl

lemma toOption_eq_iff {r s : Result α} :
    r.toOption = s.toOption ↔ ∀ a, r = .ok a ↔ s = .ok a := by
  constructor
  · intro h a
    cases r <;> cases s <;> simp_all [Except.toOption]
  · intro h
    cases r with
    | ok a => rw [(h a).mp rfl]
    | error e =>
      cases s with
      | error e' => rfl
      | ok a => exact nomatch (h a).mpr rfl

lemma forM_eq_ok {f : α → Except ε Unit} :
    ∀ {l : List α} {u : Unit}, l.forM f = .ok u ↔ ∀ a ∈ l, f a = .ok () := by
  intro l
  induction l with
  | nil => intro u; simp [pure, Except.pure]
  | cons a l ih =>
    intro u
    show (f a >>= fun _ => l.forM f) = .ok u ↔ _
    rw [bind_eq_ok]
    simp only [List.mem_cons, forall_eq_or_imp]
    exact ⟨fun ⟨_, ha, hl⟩ => ⟨ha, ih.mp hl⟩,
      fun ⟨ha, hl⟩ => ⟨(), ha, ih.mpr hl⟩⟩

lemma mapM_eq_ok {f : α → Except ε β} :
    ∀ {l : List α} {l' : List β},
      l.mapM f = .ok l' ↔ List.Forall₂ (fun a b => f a = .ok b) l l' := by
  intro l
  induction l with
  | nil =>
    intro l'
    rw [List.mapM_nil, List.forall₂_nil_left_iff]
    simp [pure, Except.pure, eq_comm]
  | cons a l ih =>
    intro l'
    rw [List.mapM_cons, bind_eq_ok, List.forall₂_cons_left_iff]
    simp only [bind_eq_ok, pure_eq_ok, ih]
    constructor
    · rintro ⟨b, hb, bs, hbs, rfl⟩
      exact ⟨b, bs, hb, hbs, rfl⟩
    · rintro ⟨b, bs, hb, hbs, rfl⟩
      exact ⟨b, hb, bs, hbs, rfl⟩

lemma exists_of_mem_mapM {f : α → Except ε β} {l : List α} {l' : List β}
    (h : l.mapM f = .ok l') {b : β} (hb : b ∈ l') : ∃ a ∈ l, f a = .ok b := by
  have hall := mapM_eq_ok.mp h
  clear h
  induction hall with
  | nil => exact absurd hb List.not_mem_nil
  | @cons a b' l l' hab _ ih =>
    rcases List.mem_cons.mp hb with rfl | hb
    · exact ⟨a, List.mem_cons_self .., hab⟩
    · obtain ⟨a', ha', hab'⟩ := ih hb
      exact ⟨a', List.mem_cons_of_mem _ ha', hab'⟩

end Result

export Result (ok_iff bind_eq_ok map_eq_ok pure_eq_ok ensure_eq_ok ofOption_eq_ok context_eq_ok
  mapError_eq_ok mapM_eq_ok)

end Dstack.Lib
