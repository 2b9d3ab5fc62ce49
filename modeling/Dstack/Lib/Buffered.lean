/-
A stream of jobs of which so many are under way at a time.

Jobs start in the order they stand in and end in any order. A job that
ends makes room for the next one. Everything there is to know about the
order of ends follows from one fact: the jobs that were started are a
start of the list (`Of.started`).
-/
import Mathlib

namespace Dstack.Lib

variable {α : Type}

/-- The jobs of a stream, by how far they are. -/
structure Buffered (α : Type) where
  limit : Nat
  waiting : List α
  inFlight : List α
  landed : List α
  deriving DecidableEq

namespace Buffered

/-- Start waiting jobs while there is room. -/
def fill (b : Buffered α) : Buffered α :=
  let room := b.limit - b.inFlight.length
  { b with
    waiting := b.waiting.drop room
    inFlight := b.inFlight ++ b.waiting.take room }

/-- A stream with as many jobs under way as there may be. -/
def start (limit : Nat) (jobs : List α) : Buffered α := fill ⟨limit, jobs, [], []⟩

/-- The end of the job at a place among those under way. -/
def land (b : Buffered α) (index : Nat) : Option (α × Buffered α) :=
  b.inFlight[index]?.map fun job =>
    (job, fill { b with
      inFlight := b.inFlight.eraseIdx index
      landed := b.landed ++ [job] })

/-- The jobs that were started. -/
def started (b : Buffered α) : List α := b.landed ++ b.inFlight

/-- The jobs that have not ended. -/
def unlanded (b : Buffered α) : List α := b.inFlight ++ b.waiting

-- == the order

/-- A stream of these jobs: what was started is a start of them, in some order,
and the rest waits. -/
structure Of (jobs : List α) (b : Buffered α) : Prop where
  started : b.started.Perm (jobs.take b.started.length)
  waiting : b.waiting = jobs.drop b.started.length

lemma Of.fill {jobs : List α} {b : Buffered α} (h : Of jobs b) : Of jobs b.fill := by
  have hlen : (Buffered.fill b).started.length
      = b.started.length + min (b.limit - b.inFlight.length) b.waiting.length := by
    simp only [Buffered.fill, Buffered.started, List.length_append, List.length_take]
    omega
  have htaken : b.waiting.take (b.limit - b.inFlight.length)
      = b.waiting.take (min (b.limit - b.inFlight.length) b.waiting.length) :=
    (List.take_eq_take_min ..).trans rfl
  constructor
  · rw [hlen, List.take_add, ← h.waiting, ← htaken]
    show (b.landed ++ (b.inFlight ++ _)).Perm _
    rw [← List.append_assoc]
    exact h.started.append_right _
  · rw [hlen, ← List.drop_drop, ← h.waiting]
    show b.waiting.drop _ = _
    rcases Nat.le_total (b.limit - b.inFlight.length) b.waiting.length with hle | hle
    · rw [Nat.min_eq_left hle]
    · rw [Nat.min_eq_right hle, List.drop_of_length_le hle, List.drop_length]

lemma of_start (limit : Nat) (jobs : List α) : Of jobs (start limit jobs) :=
  Of.fill ⟨List.Perm.nil, rfl⟩

lemma Of.land {jobs : List α} {b b' : Buffered α} {index : Nat} {job : α} (h : Of jobs b)
    (hland : b.land index = some (job, b')) : Of jobs b' := by
  obtain ⟨job', hjob, heq⟩ := Option.map_eq_some_iff.mp hland
  cases heq
  refine Of.fill ?_
  -- The job moves from one part of what was started to the other.
  have hmoved : (b.landed ++ [job] ++ b.inFlight.eraseIdx index).Perm b.started := by
    rw [List.append_assoc]
    refine List.Perm.append_left _ ?_
    obtain ⟨hlt, rfl⟩ := List.getElem?_eq_some_iff.mp hjob
    exact List.getElem_cons_eraseIdx_perm hlt
  constructor
  · refine hmoved.trans ?_
    show b.started.Perm (jobs.take (b.landed ++ [job] ++ b.inFlight.eraseIdx index).length)
    rw [hmoved.length_eq]
    exact h.started
  · show b.waiting = jobs.drop (b.landed ++ [job] ++ b.inFlight.eraseIdx index).length
    rw [hmoved.length_eq]
    exact h.waiting

lemma Of.perm {jobs : List α} {b : Buffered α} (h : Of jobs b) :
    (b.landed ++ b.unlanded).Perm jobs := by
  have hparts := h.started.append_right b.waiting
  rw [h.waiting, List.take_append_drop, ← h.waiting] at hparts
  rw [unlanded, ← List.append_assoc]
  exact hparts

lemma Of.take_subset {jobs : List α} {b : Buffered α} (h : Of jobs b) :
    jobs.take b.landed.length ⊆ b.started := by
  intro job hjob
  refine h.started.mem_iff.mpr ?_
  refine (List.take_subset_take_left jobs ?_) hjob
  rw [Buffered.started, List.length_append]
  exact Nat.le_add_right _ _

lemma Of.split {jobs part rest : List α} {b : Buffered α} (h : Of jobs b)
    (hjobs : jobs.Perm (part ++ rest)) : b.unlanded.Perm rest ↔ b.landed.Perm part := by
  have hparts := h.perm.trans hjobs
  constructor
  · intro hrest
    have := (hrest.append_left b.landed).symm.trans hparts
    exact (List.perm_append_right_iff _).mp this
  · intro hpart
    have := (hpart.append_right b.unlanded).symm.trans hparts
    exact (List.perm_append_left_iff _).mp this

end Buffered

end Dstack.Lib
