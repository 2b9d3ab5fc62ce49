/-
Hash functions, what is assumed of them, and extend chains.

A fixed-length hash is never injective, so "the hash is collision-free"
cannot be a statement about all inputs. What a proof needs is that the
inputs hashed in the runs it compares do not collide, and that is what
`CollisionFreeOn` says of a list of inputs; `NoZeroOn` says likewise
that none of them hashes to the all-zero digest. Both are decidable,
so a concrete run can discharge them by evaluation.
-/
import Dstack.Lib.Bytes

namespace Dstack.Lib

/-- A hash function with digests of one length. -/
structure Hasher where
  size : Nat
  hash : Bytes → Bytes
  hash_length : ∀ m, (hash m).length = size

attribute [simp] Hasher.hash_length

namespace Hasher

variable (H : Hasher)

/-- The digest of zeros, where a register starts. -/
def zero : Bytes := zeros H.size

@[simp] lemma zero_length : H.zero.length = H.size := zeros_length _

/-- No two of the inputs collide. -/
def CollisionFreeOn (ms : List Bytes) : Prop :=
  ∀ a ∈ ms, ∀ b ∈ ms, H.hash a = H.hash b → a = b

instance (ms : List Bytes) : Decidable (H.CollisionFreeOn ms) :=
  inferInstanceAs (Decidable (∀ a ∈ ms, ∀ b ∈ ms, H.hash a = H.hash b → a = b))

/-- None of the inputs hashes to zeros. -/
def NoZeroOn (ms : List Bytes) : Prop :=
  ∀ m ∈ ms, H.hash m ≠ H.zero

instance (ms : List Bytes) : Decidable (H.NoZeroOn ms) :=
  inferInstanceAs (Decidable (∀ m ∈ ms, H.hash m ≠ H.zero))

variable {H}

lemma CollisionFreeOn.mono {ms ns : List Bytes}
    (h : H.CollisionFreeOn ns) (hsub : ms ⊆ ns) : H.CollisionFreeOn ms :=
  fun a ha b hb => h a (hsub ha) b (hsub hb)

lemma NoZeroOn.mono {ms ns : List Bytes} (h : H.NoZeroOn ns)
    (hsub : ms ⊆ ns) : H.NoZeroOn ms :=
  fun m hm => h m (hsub hm)

lemma CollisionFreeOn.map_hash_inj {ms : List Bytes}
    (h : H.CollisionFreeOn ms) :
    ∀ {xs ys : List Bytes}, xs ⊆ ms → ys ⊆ ms →
      xs.map H.hash = ys.map H.hash → xs = ys := by
  intro xs
  induction xs with
  | nil =>
    intro ys _ _ heq
    exact (List.map_eq_nil_iff.mp heq.symm).symm
  | cons x xs ih =>
    intro ys hxs hys heq
    cases ys with
    | nil => simp at heq
    | cons y ys =>
      simp only [List.map_cons, List.cons.injEq] at heq
      have hxy : x = y :=
        h x (hxs List.mem_cons_self) y (hys List.mem_cons_self) heq.1
      rw [hxy, ih (fun _ hm => hxs (List.mem_cons_of_mem _ hm))
        (fun _ hm => hys (List.mem_cons_of_mem _ hm)) heq.2]

-- == extend chains

variable (H)

/-- Extend a register by a digest. -/
def extend (mr digest : Bytes) : Bytes := H.hash (mr ++ digest)

/-- The register after extending zeros by each digest. -/
def replay (digests : List Bytes) : Bytes :=
  digests.foldl H.extend H.zero

/-- The inputs hashed while extending `mr` by each digest in order. -/
def extendInputs : Bytes → List Bytes → List Bytes
  | _, [] => []
  | mr, d :: ds => (mr ++ d) :: extendInputs (H.extend mr d) ds

/-- The inputs hashed by `replay`. -/
def replayInputs (digests : List Bytes) : List Bytes :=
  H.extendInputs H.zero digests

@[simp] lemma replay_nil : H.replay [] = H.zero := rfl

lemma replay_concat (ds : List Bytes) (d : Bytes) :
    H.replay (ds ++ [d]) = H.hash (H.replay ds ++ d) := by
  simp [replay, extend]

lemma replay_length (ds : List Bytes) : (H.replay ds).length = H.size := by
  induction ds using List.reverseRecOn with
  | nil => simp
  | append_singleton ds d _ => simp [replay_concat]

private lemma extendInputs_concat (ds : List Bytes) (d : Bytes) :
    ∀ mr, H.extendInputs mr (ds ++ [d])
      = H.extendInputs mr ds ++ [ds.foldl H.extend mr ++ d] := by
  induction ds with
  | nil => intro mr; rfl
  | cons e ds ih =>
    intro mr
    simp only [List.cons_append, extendInputs, ih, List.foldl_cons]

lemma replayInputs_concat (ds : List Bytes) (d : Bytes) :
    H.replayInputs (ds ++ [d]) = H.replayInputs ds ++ [H.replay ds ++ d] :=
  H.extendInputs_concat ds d H.zero

variable {H}

lemma eq_nil_of_replay_eq_zero {ds : List Bytes}
    (hz : H.NoZeroOn (H.replayInputs ds)) (h : H.replay ds = H.zero) :
    ds = [] := by
  induction ds using List.reverseRecOn with
  | nil => rfl
  | append_singleton ds d _ =>
    rw [replay_concat] at h
    exact absurd h (hz _ (by simp [replayInputs_concat]))

/-- Registers bind their logs: equal registers, replayed without a
collision or a zero digest, were extended by equal digest lists. The
induction peels the last extension of both chains; the register in
front of it has the hash's own length, so the split is forced. -/
lemma replay_injective :
    ∀ {ds es : List Bytes},
      H.CollisionFreeOn (H.replayInputs ds ++ H.replayInputs es) →
      H.NoZeroOn (H.replayInputs ds ++ H.replayInputs es) →
      H.replay ds = H.replay es → ds = es := by
  intro ds
  induction ds using List.reverseRecOn with
  | nil =>
    intro es _ hz heq
    exact (eq_nil_of_replay_eq_zero (hz.mono (by simp)) heq.symm).symm
  | append_singleton ds d ih =>
    intro es hcf hz heq
    induction es using List.reverseRecOn with
    | nil => exact eq_nil_of_replay_eq_zero (hz.mono (by simp)) heq
    | append_singleton es e _ =>
      rw [replay_concat, replay_concat] at heq
      have hin := hcf (H.replay ds ++ d) (by simp [replayInputs_concat])
        (H.replay es ++ e) (by simp [replayInputs_concat]) heq
      obtain ⟨hmr, hde⟩ := List.append_inj hin
        (by rw [replay_length, replay_length])
      have hsub : H.replayInputs ds ++ H.replayInputs es
          ⊆ H.replayInputs (ds ++ [d]) ++ H.replayInputs (es ++ [e]) := by
        intro m hm
        simp only [replayInputs_concat, List.mem_append] at hm ⊢
        tauto
      rw [ih (hcf.mono hsub) (hz.mono hsub) hmr, hde]

end Hasher

end Dstack.Lib
