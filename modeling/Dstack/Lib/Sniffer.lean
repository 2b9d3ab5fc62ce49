/-
Parsers that are run again each time more input arrives.

A sniffer reads off the front of what has arrived so far and fails when
that is not enough. What makes running it again sound is that an answer,
once given, stays (`Incremental`): it is kept by sequencing and by
repeating. `untilSome` is an unbounded loop whose body reads at least one
byte (`Consumes`), so the bytes at hand bound its rounds; `untilSome_eq`
is the loop itself, with the bound gone.
-/
import Dstack.Lib.Bytes

namespace Dstack.Lib

/-- A reader that may not have seen all of its input yet: nothing says whether
it lacks bytes or never gets there. -/
abbrev Sniffer := StateT Bytes Option

namespace Sniffer

variable {α β : Type}

/-- Exactly `n` bytes. -/
def take (n : Nat) : Sniffer Bytes := fun b =>
  if b.length < n then none else some (b.take n, b.drop n)

/-- An `n`-byte integer, most significant byte first. -/
def be (n : Nat) : Sniffer Nat := do
  let bs ← take n
  pure (beNat bs)

lemma bind_apply (r : Sniffer α) (f : α → Sniffer β) (b : Bytes) :
    (r >>= f) b = (r b).bind fun p => f p.1 p.2 := rfl

lemma pure_apply (a : α) (b : Bytes) : (pure a : Sniffer α) b = some (a, b) := rfl

lemma map_apply (f : α → β) (r : Sniffer α) (b : Bytes) :
    (f <$> r) b = (r b).map fun p => (f p.1, p.2) := by
  change (r b).bind (fun p => some (f p.1, p.2)) = _
  cases r b <;> rfl

variable {n : Nat}

lemma take_append {bs : Bytes} (hn : bs.length = n) (rest : Bytes) :
    take n (bs ++ rest) = some (bs, rest) := by
  have hlong : ¬(bs ++ rest).length < n := by simp only [List.length_append]; omega
  rw [take, if_neg hlong, List.take_left' hn, List.drop_left' hn]

lemma take_eq_some {b bs rest : Bytes} :
    take n b = some (bs, rest) ↔ bs.length = n ∧ b = bs ++ rest := by
  constructor
  · intro h
    unfold take at h
    split at h
    · cases h
    · cases h
      exact ⟨List.length_take_of_le (by omega), (List.take_append_drop n b).symm⟩
  · rintro ⟨hn, rfl⟩
    exact take_append hn rest

lemma be_of_length {bs : Bytes} (hn : bs.length = n) (rest : Bytes) :
    be n (bs ++ rest) = some (beNat bs, rest) := by
  rw [be, bind_apply, take_append hn, Option.bind_some, pure_apply]

lemma be_append {x : Nat} (hx : x < 256 ^ n) (rest : Bytes) :
    be n (beBytes n x ++ rest) = some (x, rest) := by
  rw [be_of_length (beBytes_length n x), beNat_beBytes n hx]

lemma be_eq_some {b rest : Bytes} {x : Nat} :
    be n b = some (x, rest) ↔ x < 256 ^ n ∧ b = beBytes n x ++ rest := by
  constructor
  · intro h
    rw [be, bind_apply, Option.bind_eq_some_iff] at h
    obtain ⟨⟨bs, rest'⟩, htake, h⟩ := h
    obtain ⟨rfl, rfl⟩ := take_eq_some.mp htake
    cases h
    exact ⟨beNat_lt bs, by rw [beBytes_beNat]⟩
  · rintro ⟨hx, rfl⟩
    exact be_append hx rest

-- == answers that stay

/-- More input does not change an answer. -/
def Incremental (r : Sniffer α) : Prop :=
  ∀ ⦃b : Bytes⦄ ⦃a : α⦄ ⦃rest : Bytes⦄, r b = some (a, rest) →
    ∀ x, r (b ++ x) = some (a, rest ++ x)

lemma Incremental.pure (a : α) : Incremental (pure a : Sniffer α) := by
  intro b a' rest h x
  simp only [pure_apply, Option.some.injEq, Prod.mk.injEq] at h ⊢
  exact ⟨h.1, by rw [h.2]⟩

lemma Incremental.bind {r : Sniffer α} {f : α → Sniffer β} (hr : Incremental r)
    (hf : ∀ a, Incremental (f a)) : Incremental (r >>= f) := by
  intro b c rest h x
  rw [bind_apply, Option.bind_eq_some_iff] at h
  obtain ⟨⟨a, mid⟩, ha, hc⟩ := h
  rw [bind_apply, hr ha x]
  exact hf a hc x

lemma Incremental.ite {p : Prop} [Decidable p] {r s : Sniffer α} (hr : Incremental r)
    (hs : Incremental s) : Incremental (if p then r else s) := by
  split
  · exact hr
  · exact hs

lemma Incremental.failure : Incremental (failure : Sniffer α) := by
  intro b a rest h
  cases h

lemma Incremental.take (n : Nat) : Incremental (take n) := by
  intro b a rest h x
  simp only [Sniffer.take] at h ⊢
  split at h
  · cases h
  next hlong =>
    cases h
    have hle : n ≤ b.length := by omega
    have hlong' : ¬(b ++ x).length < n := by simp only [List.length_append]; omega
    rw [if_neg hlong', List.take_append_of_le_length hle, List.drop_append_of_le_length hle]

lemma Incremental.be (n : Nat) : Incremental (be n) :=
  Incremental.bind (Incremental.take n) fun _ => Incremental.pure _

-- == consuming

/-- An answer takes at least one byte. -/
def Consumes (r : Sniffer α) : Prop :=
  ∀ ⦃b : Bytes⦄ ⦃a : α⦄ ⦃rest : Bytes⦄, r b = some (a, rest) → rest.length < b.length

/-- An answer gives no byte back. -/
def Shrinks (r : Sniffer α) : Prop :=
  ∀ ⦃b : Bytes⦄ ⦃a : α⦄ ⦃rest : Bytes⦄, r b = some (a, rest) → rest.length ≤ b.length

lemma Consumes.shrinks {r : Sniffer α} (h : Consumes r) : Shrinks r :=
  fun _ _ _ hr => Nat.le_of_lt (h hr)

lemma Shrinks.pure (a : α) : Shrinks (pure a : Sniffer α) := by
  intro b a' rest h
  simp only [pure_apply, Option.some.injEq, Prod.mk.injEq] at h
  exact h.2 ▸ Nat.le_refl _

lemma Shrinks.bind {r : Sniffer α} {f : α → Sniffer β} (hr : Shrinks r)
    (hf : ∀ a, Shrinks (f a)) : Shrinks (r >>= f) := by
  intro b c rest h
  rw [bind_apply, Option.bind_eq_some_iff] at h
  obtain ⟨⟨a, mid⟩, ha, hc⟩ := h
  exact Nat.le_trans (hf a hc) (hr ha)

lemma Shrinks.ite {p : Prop} [Decidable p] {r s : Sniffer α} (hr : Shrinks r)
    (hs : Shrinks s) : Shrinks (if p then r else s) := by
  split
  · exact hr
  · exact hs

lemma Shrinks.take (n : Nat) : Shrinks (take n) := by
  intro b a rest h
  simp only [Sniffer.take] at h
  split at h
  · cases h
  · cases h
    simp

lemma Shrinks.be (n : Nat) : Shrinks (be n) :=
  Shrinks.bind (Shrinks.take n) fun _ => Shrinks.pure _

lemma Consumes.take (hn : 0 < n) : Consumes (take n) := by
  intro b a rest h
  simp only [Sniffer.take] at h
  split at h
  · cases h
  next hlong =>
    cases h
    simp only [List.length_drop]
    omega

lemma Consumes.bind {r : Sniffer α} {f : α → Sniffer β} (hr : Consumes r)
    (hf : ∀ a, Shrinks (f a)) : Consumes (r >>= f) := by
  intro b c rest h
  rw [bind_apply, Option.bind_eq_some_iff] at h
  obtain ⟨⟨a, mid⟩, ha, hc⟩ := h
  exact Nat.lt_of_le_of_lt (hf a hc) (hr ha)

lemma Consumes.be (hn : 0 < n) : Consumes (be n) :=
  Consumes.bind (Consumes.take hn) fun _ => Shrinks.pure _

-- == looping

/-- Repeat until there is an answer, so many times at most. -/
def rounds (body : Sniffer (Option α)) : Nat → Sniffer α
  | 0 => failure
  | n + 1 => do
      match ← body with
      | some a => pure a
      | none => rounds body n

/-- Repeat until there is an answer: a round takes at least one byte, so
there are no more rounds than bytes. -/
def untilSome (body : Sniffer (Option α)) : Sniffer α := fun b => rounds body b.length b

variable {body : Sniffer (Option α)}

lemma rounds_succ (body : Sniffer (Option α)) (n : Nat) (b : Bytes) :
    rounds body (n + 1) b = (body b).bind fun p =>
      match p.1 with
      | some a => some (a, p.2)
      | none => rounds body n p.2 := by
  rw [rounds, bind_apply]
  congr 1
  funext p
  cases p.1 <;> rfl

lemma Consumes.nil (hbody : Consumes body) : body [] = none := by
  cases hr : body [] with
  | none => rfl
  | some p => exact absurd (hbody hr) (Nat.not_lt_zero _)

lemma rounds_nil (hbody : Consumes body) : ∀ n, rounds body n [] = none
  | 0 => rfl
  | n + 1 => by rw [rounds_succ, hbody.nil, Option.bind_none]

lemma rounds_of_le (hbody : Consumes body) :
    ∀ {n m : Nat} {b : Bytes}, b.length ≤ n → b.length ≤ m → rounds body n b = rounds body m b
  | 0, m, b, hn, _ => by
      have hb : b = [] := List.length_eq_zero_iff.mp (by omega)
      rw [hb, rounds_nil hbody, rounds_nil hbody]
  | n, 0, b, _, hm => by
      have hb : b = [] := List.length_eq_zero_iff.mp (by omega)
      rw [hb, rounds_nil hbody, rounds_nil hbody]
  | n + 1, m + 1, b, hn, hm => by
      rw [rounds_succ, rounds_succ]
      cases hr : body b with
      | none => rfl
      | some p =>
        have hlt := hbody hr
        obtain ⟨a, rest⟩ := p
        cases a with
        | some a => rfl
        | none => exact rounds_of_le hbody (by simp only at hlt ⊢; omega)
                    (by simp only at hlt ⊢; omega)

lemma untilSome_eq (hbody : Consumes body) (b : Bytes) :
    untilSome body b = (body b).bind fun p =>
      match p.1 with
      | some a => some (a, p.2)
      | none => untilSome body p.2 := by
  rw [untilSome, rounds_of_le hbody (Nat.le_refl _) (Nat.le_succ _), rounds_succ]
  cases hr : body b with
  | none => rfl
  | some p =>
    have hlt := hbody hr
    obtain ⟨a, rest⟩ := p
    cases a with
    | some a => rfl
    | none => exact rounds_of_le hbody (by simp only at hlt ⊢; omega) (Nat.le_refl _)

/-- A loop that goes on over certain words finds an answer exactly behind a
string of such words. -/
lemma untilSome_isSome_iff {ω : Type} (hbody : Consumes body) {skips : ω → Prop}
    {encode : ω → Bytes} (hskip : ∀ b rest, body b = some (none, rest)
      ↔ ∃ w, skips w ∧ b = encode w ++ rest) (b : Bytes) :
    (untilSome body b).isSome = true ↔ ∃ (ws : List ω) (tail : Bytes), (∀ w ∈ ws, skips w)
      ∧ b = ws.flatMap encode ++ tail ∧ ∃ a rest, body tail = some (some a, rest) := by
  constructor
  · -- on the bytes at hand: a round takes at least one
    induction hn : b.length using Nat.strong_induction_on generalizing b with
    | _ n ih =>
      intro h
      rw [untilSome_eq hbody] at h
      cases hr : body b with
      | none =>
        rw [hr] at h
        cases h
      | some p =>
        obtain ⟨a, rest⟩ := p
        cases a with
        | some a => exact ⟨[], b, List.forall_mem_nil _, rfl, a, rest, hr⟩
        | none =>
          obtain ⟨w, hw, rfl⟩ := (hskip b rest).mp hr
          rw [hr] at h
          obtain ⟨ws, tail, hws, rfl, hanswer⟩ := ih _ (hn ▸ hbody hr) rest rfl h
          exact ⟨w :: ws, tail, List.forall_mem_cons.mpr ⟨hw, hws⟩,
            by rw [List.flatMap_cons, List.append_assoc], hanswer⟩
  · rintro ⟨ws, tail, hws, rfl, a, rest, hanswer⟩
    induction ws with
    | nil =>
      rw [List.flatMap_nil, List.nil_append, untilSome_eq hbody, hanswer]
      rfl
    | cons w ws ih =>
      obtain ⟨hw, hws⟩ := List.forall_mem_cons.mp hws
      rw [List.flatMap_cons, List.append_assoc, untilSome_eq hbody, (hskip _ _).mpr ⟨w, hw, rfl⟩]
      exact ih hws

lemma rounds_shrinks (hbody : Shrinks body) : ∀ n, Shrinks (rounds body n)
  | 0 => by
      intro b a rest h
      cases h
  | n + 1 => by
      refine Shrinks.bind hbody fun o => ?_
      cases o with
      | some a => exact Shrinks.pure a
      | none => exact rounds_shrinks hbody n

lemma Shrinks.untilSome (hbody : Shrinks body) : Shrinks (untilSome body) :=
  fun b _ _ h => rounds_shrinks hbody b.length h

lemma rounds_incremental (hbody : Incremental body) : ∀ n, Incremental (rounds body n)
  | 0 => Incremental.failure
  | n + 1 => by
      refine Incremental.bind hbody fun o => ?_
      cases o with
      | some a => exact Incremental.pure a
      | none => exact rounds_incremental hbody n

lemma rounds_mono {r : α × Bytes} :
    ∀ {n m : Nat} {b : Bytes}, n ≤ m → rounds body n b = some r → rounds body m b = some r
  | 0, _, _, _, h => by cases h
  | n + 1, 0, _, hle, _ => by omega
  | n + 1, m + 1, b, hle, h => by
      rw [rounds_succ] at h ⊢
      cases hr : body b with
      | none => rw [hr] at h; cases h
      | some p =>
        obtain ⟨a, rest⟩ := p
        rw [hr] at h
        cases a with
        | some a => exact h
        | none => exact rounds_mono (by omega) h

lemma Incremental.untilSome (hbody : Incremental body) : Incremental (untilSome body) := by
  intro b a rest h x
  have hsame := rounds_incremental hbody b.length h x
  exact rounds_mono (by simp only [List.length_append]; omega) hsame

end Sniffer

end Dstack.Lib
