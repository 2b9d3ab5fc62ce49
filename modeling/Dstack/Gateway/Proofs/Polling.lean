/-
Who is asked, and when.

A round asks the targets in their order from the cursor on, some at a
time, and its end moves the cursor by the number of answers. So rounds are
windows on a circle, each of which starts where the one before has ended:
nobody is left out for longer than it takes to go round (`reaches`). The
counter wraps at 2⁶⁴, which is not a multiple of the number of targets,
and may cut a turn short once.

The number does not say who answered. If a call that was started early has
no answer and later ones have, the cursor moves past it, and the next
round asks some that did answer before it. The targets without an answer
are the first of the next round exactly if answers came from the first
ones of this round.
-/
import Dstack.Gateway.HealthCheck
import Dstack.Lib.Along

namespace Dstack.Gateway

open Lib

namespace Poller

variable {config : HealthCheckConfig} {targets : List Target} {p : Poller}

-- == a round

lemma begin_round (h : targets ≠ []) :
    (p.begin config targets).round
      = some (.start (max config.concurrency 1) (order p.cursor targets)) := by
  unfold begin
  rw [if_neg (by rwa [List.isEmpty_iff])]

lemma begin_cursor (h : targets ≠ []) : (p.begin config targets).cursor = p.cursor := by
  unfold begin
  rw [if_neg (by rwa [List.isEmpty_iff])]

/-- A round is under way that started at a cursor. -/
structure Under (start : Nat) (targets : List Target) (p : Poller) (b : Buffered Target) :
    Prop where
  round : p.round = some b
  cursor : p.cursor = start
  calls : Buffered.Of (order start targets) b

variable {b : Buffered Target} {start : Nat}

lemma Under.land (h : Under start targets p b) (index : Nat) (result : PollResult) :
    ∃ b', Under start targets
      (match p.land config index result with
      | none => p
      | some (_, _, p) => p) b' := by
  cases hland : b.land index with
  | none =>
    refine ⟨b, ?_⟩
    have hnone : p.land config index result = none := by
      simp only [Poller.land, h.round, hland, Option.bind_eq_bind, Option.bind_some,
        Option.bind_none]
    rw [hnone]
    exact h
  | some landed =>
    obtain ⟨target, b'⟩ := landed
    refine ⟨b', ?_⟩
    have hsome : p.land config index result
        = some (target, (applyHysteresis result target config p.failures).1,
          { p with
            failures := (applyHysteresis result target config p.failures).2
            round := some b' }) := by
      simp only [Poller.land, h.round, hland, Option.bind_eq_bind, Option.bind_some]
    rw [hsome]
    exact ⟨rfl, h.cursor, h.calls.land hland⟩

lemma asked_under (config : HealthCheckConfig) (h : targets ≠ [])
    (answers : List (Nat × PollResult)) (p : Poller) :
    ∃ b, Under p.cursor targets (p.asked config targets answers) b := by
  unfold asked
  refine List.foldlRecOn (motive := fun p' => ∃ b, Under p.cursor targets p' b) answers _ ?_ ?_
  · exact ⟨_, begin_round h, begin_cursor h, Buffered.of_start _ _⟩
  · rintro p' ⟨b, hb⟩ answer -
    exact hb.land answer.1 answer.2

lemma asked_nobody (config : HealthCheckConfig) (answers : List (Nat × PollResult))
    (hp : p.round = none) : (p.asked config [] answers).round = none := by
  unfold asked
  refine List.foldlRecOn (motive := fun p : Poller => p.round = none) answers _ hp ?_
  intro p' hp' answer _
  have hnone : p'.land config answer.1 answer.2 = none := by
    simp only [Poller.land, hp', Option.bind_eq_bind, Option.bind_none]
  rw [hnone]
  exact hp'

lemma order_length (cursor : Nat) (targets : List Target) :
    (order cursor targets).length = targets.length := List.length_rotate _ _

lemma order_eq (cursor : Nat) (targets : List Target) :
    order cursor targets = targets.rotate cursor := List.rotate_mod _ _

variable {t : Target}

lemma mem_take_order {cursor k q : Nat} (hq : cursor ≤ q) (hk : q < cursor + k)
    (hkn : k ≤ targets.length) (ht : targets[q % targets.length]? = some t) :
    t ∈ (order cursor targets).take k := by
  rw [order_eq]
  refine List.mem_iff_getElem?.mpr ⟨q - cursor, ?_⟩
  rw [List.getElem?_take_of_lt (by omega), List.getElem?_rotate (by omega)]
  rw [Nat.sub_add_cancel hq]
  exact ht

lemma Under.landed_le (h : Under start targets p b) :
    b.landed.length ≤ targets.length := by
  have hlen := h.calls.perm.length_eq
  rw [List.length_append, order_length] at hlen
  omega

lemma Under.finish_cursor (h : Under start targets p b) :
    p.finish.cursor = (start + b.landed.length) % 2 ^ 64 := by
  unfold finish
  rw [h.round, h.cursor]

-- == the next round

/-- The targets without an answer are the first ones of the next round. -/
def NextFirst (targets : List Target) (p : Poller) (b : Buffered Target) : Prop :=
  b.unlanded.Perm ((order p.finish.cursor targets).take b.unlanded.length)

/-- The answers are those of the targets asked first. -/
def InOrder (start : Nat) (targets : List Target) (b : Buffered Target) : Prop :=
  b.landed.Perm ((order start targets).take b.landed.length)

lemma Under.unlanded_length (h : Under start targets p b) :
    b.unlanded.length = targets.length - b.landed.length := by
  have hlen := h.calls.perm.length_eq
  rw [List.length_append, order_length] at hlen
  omega

lemma Under.take_next (h : Under start targets p b) (hwrap : start + b.landed.length < 2 ^ 64) :
    (order p.finish.cursor targets).take b.unlanded.length
      = (order start targets).drop b.landed.length := by
  have hle : b.landed.length ≤ (order start targets).length := by
    rw [order_length]
    exact h.landed_le
  have hnext : order p.finish.cursor targets
      = (order start targets).drop b.landed.length
        ++ (order start targets).take b.landed.length := by
    rw [h.finish_cursor, Nat.mod_eq_of_lt hwrap, order_eq, ← List.rotate_rotate,
      ← order_eq start, List.rotate_eq_drop_append_take hle]
  rw [hnext, h.unlanded_length, ← order_length start targets, ← List.length_drop,
    List.take_left]

lemma Under.nextFirst_iff (h : Under start targets p b)
    (hwrap : start + b.landed.length < 2 ^ 64) :
    NextFirst targets p b ↔ InOrder start targets b := by
  unfold NextFirst InOrder
  rw [h.take_next hwrap]
  exact h.calls.split (List.Perm.of_eq (List.take_append_drop _ _).symm)

lemma Under.nextFirst_iff_last (h : Under start targets p b) :
    NextFirst targets p b ↔ b.landed.Perm
      ((order ((start + b.landed.length) % 2 ^ 64) targets).drop b.unlanded.length) := by
  unfold NextFirst
  rw [h.finish_cursor]
  generalize (start + b.landed.length) % 2 ^ 64 = next
  refine h.calls.split ?_
  have hsame : (order start targets).Perm (order next targets) :=
    (List.rotate_perm _ _).trans (List.rotate_perm _ _).symm
  refine hsame.trans ?_
  have hparts := List.Perm.of_eq
    (List.take_append_drop b.unlanded.length (order next targets)).symm
  exact hparts.trans List.perm_append_comm

-- == turns

/-- There is an answer in a round. -/
def Answered (config : HealthCheckConfig) (targets : List Target) (p : Poller)
    (answers : List (Nat × PollResult)) : Prop :=
  ∀ b, (p.asked config targets answers).round = some b → b.landed ≠ []

/-- A round asks a target. -/
def Asks (config : HealthCheckConfig) (targets : List Target) (p : Poller)
    (answers : List (Nat × PollResult)) (t : Target) : Prop :=
  ∃ b, (p.asked config targets answers).round = some b ∧ t ∈ b.started

/-- One of the rounds asks it. -/
def AskedIn (config : HealthCheckConfig) (targets : List Target) (p : Poller)
    (rounds : List (List (Nat × PollResult))) (t : Target) : Prop :=
  ∃ before answers after, rounds = before ++ answers :: after
    ∧ Asks config targets (before.foldl (pollRound config targets) p) answers t

variable {rounds : List (List (Nat × PollResult))}

lemma AskedIn.cons {answers : List (Nat × PollResult)}
    (h : AskedIn config targets (p.pollRound config targets answers) rounds t) :
    AskedIn config targets p (answers :: rounds) t := by
  obtain ⟨before, answers', after, rfl, hasks⟩ := h
  exact ⟨answers :: before, answers', after, rfl, hasks⟩

lemma reaches (h : targets ≠ []) {q : Nat}
    (ht : targets[q % targets.length]? = some t) (hq64 : q < 2 ^ 64) {p : Poller}
    (hanswered : Along (pollRound config targets) (Answered config targets) p rounds)
    (hq : p.cursor ≤ q) (hlen : q < p.cursor + rounds.length) :
    AskedIn config targets p rounds t := by
  induction rounds generalizing p with
  | nil => exact absurd hlen (by simp; omega)
  | cons answers rounds ih =>
    obtain ⟨b, hunder⟩ := asked_under config h answers p
    have hpos : 0 < b.landed.length :=
      List.length_pos_iff.mpr (hanswered.1 b hunder.round)
    by_cases hin : q < p.cursor + b.landed.length
    · -- The place is in the window of this round.
      have hmem := mem_take_order hq hin hunder.landed_le ht
      exact ⟨[], answers, rounds, rfl, b, hunder.round, hunder.calls.take_subset hmem⟩
    · have hcursor : (p.pollRound config targets answers).cursor
          = p.cursor + b.landed.length := by
        rw [pollRound, hunder.finish_cursor]
        exact Nat.mod_eq_of_lt (by omega)
      refine AskedIn.cons (ih hanswered.2 ?_ ?_)
      · rw [hcursor]
        omega
      · rw [hcursor]
        rw [List.length_cons] at hlen
        omega

lemma wraps (h : targets ≠ []) {p : Poller}
    (hanswered : Along (pollRound config targets) (Answered config targets) p rounds)
    (hp : p.cursor < 2 ^ 64) (hlen : 2 ^ 64 ≤ p.cursor + rounds.length) :
    ∃ before after, rounds = before ++ after ∧ before.length ≤ 2 ^ 64 - p.cursor
      ∧ (before.foldl (pollRound config targets) p).cursor < targets.length
      ∧ Along (pollRound config targets) (Answered config targets)
        (before.foldl (pollRound config targets) p) after := by
  induction rounds generalizing p with
  | nil => exact absurd hlen (by simp; omega)
  | cons answers rounds ih =>
    obtain ⟨b, hunder⟩ := asked_under config h answers p
    have hpos : 0 < b.landed.length :=
      List.length_pos_iff.mpr (hanswered.1 b hunder.round)
    have hle := hunder.landed_le
    have hcursor : (p.pollRound config targets answers).cursor
        = (p.cursor + b.landed.length) % 2 ^ 64 := by
      rw [pollRound, hunder.finish_cursor]
    by_cases hwrap : p.cursor + b.landed.length < 2 ^ 64
    · rw [Nat.mod_eq_of_lt hwrap] at hcursor
      rw [List.length_cons] at hlen
      obtain ⟨before, after, rfl, hbefore, hlow, hafter⟩ :=
        ih hanswered.2 (by omega) (by omega)
      refine ⟨answers :: before, after, rfl, ?_, hlow, hafter⟩
      rw [List.length_cons]
      omega
    · refine ⟨[answers], rounds, rfl, ?_, ?_, hanswered.2⟩
      · rw [List.length_singleton]
        omega
      · show (p.pollRound config targets answers).cursor < targets.length
        rw [hcursor]
        omega

lemma place_ahead (ht : t ∈ targets) (c : Nat) :
    ∃ q, c ≤ q ∧ q < c + targets.length ∧ targets[q % targets.length]? = some t := by
  obtain ⟨j, hj⟩ := List.mem_iff_getElem?.mp ht
  have hlt : j < targets.length := (List.getElem?_eq_some_iff.mp hj).1
  have hmod : c % targets.length < targets.length := Nat.mod_lt _ (by omega)
  refine ⟨c + (j + targets.length - c % targets.length) % targets.length, by omega, ?_, ?_⟩
  · have := Nat.mod_lt (j + targets.length - c % targets.length)
      (show 0 < targets.length by omega)
    omega
  · rw [Nat.add_mod_mod]
    have hsum : c + (j + targets.length - c % targets.length)
        = j + targets.length * (c / targets.length + 1) := by
      have := Nat.div_add_mod c targets.length
      rw [Nat.mul_add]
      omega
    rw [hsum, Nat.add_mul_mod_self_left, Nat.mod_eq_of_lt hlt]
    exact hj

/-- As many targets as a `Vec` can hold. -/
abbrev Fleet := { targets : List Target // targets.length < 2 ^ 63 }

lemma askedIn_of_two_turns (config : HealthCheckConfig) (fleet : Fleet)
    (ht : t ∈ fleet.1) {p : Poller}
    (hanswered : Along (pollRound config fleet.1) (Answered config fleet.1) p rounds)
    (hp : p.cursor < 2 ^ 64) (hlen : 2 * fleet.1.length ≤ rounds.length) :
    AskedIn config fleet.1 p rounds t := by
  obtain ⟨targets, hfits⟩ := fleet
  dsimp only at ht hanswered hlen hfits ⊢
  have hne : targets ≠ [] := List.ne_nil_of_mem ht
  by_cases hroom : p.cursor + targets.length ≤ 2 ^ 64
  · obtain ⟨q, hq, hturn, hplace⟩ := place_ahead ht p.cursor
    exact reaches hne hplace (by omega) hanswered hq (by omega)
  · -- The counter wraps within the first turn; the second is undisturbed.
    obtain ⟨before, after, rfl, hbefore, hlow, hafter⟩ :=
      wraps hne hanswered hp (by omega)
    rw [List.length_append] at hlen
    obtain ⟨q, hq, hturn, hplace⟩ :=
      place_ahead ht (before.foldl (pollRound config targets) p).cursor
    obtain ⟨before', answers, after', rfl, hasks⟩ :=
      reaches hne hplace (by omega) hafter hq (by omega)
    refine ⟨before ++ before', answers, after', (List.append_assoc ..).symm, ?_⟩
    rw [List.foldl_append]
    exact hasks

-- == the result

/-- For every fleet, concurrency, cursor and order of answers: the targets
without an answer are the first ones of the next round exactly if the
answers are those of the targets asked first. The one exception is a round
that takes the cursor past the end of its type, after which it takes the
answers of the targets asked last in the next round. Apart from that, with
an answer in every round everybody is asked within two turns. -/
theorem polling_fairness (config : HealthCheckConfig) (fleet : Fleet) (failures : Failures)
    (cursor : Fin (2 ^ 64)) (answers : List (Nat × PollResult)) :
    (∀ b, let p := asked config fleet.1 answers ⟨failures, cursor, none⟩
      p.round = some b →
      (NextFirst fleet.1 p b ↔
        if cursor + b.landed.length < 2 ^ 64 then InOrder cursor fleet.1 b
        else b.landed.Perm ((order ((cursor + b.landed.length) % 2 ^ 64) fleet.1).drop
          b.unlanded.length)))
    ∧ ∀ rounds, 2 * fleet.1.length ≤ rounds.length →
      Along (pollRound config fleet.1) (Answered config fleet.1) ⟨failures, cursor, none⟩ rounds →
      ∀ t ∈ fleet.1, AskedIn config fleet.1 ⟨failures, cursor, none⟩ rounds t := by
  constructor
  · intro b p hround
    by_cases hempty : fleet.1 = []
    · -- Nobody to ask, and no round.
      have hnone : p.round = none := by
        show (asked config fleet.1 answers ⟨failures, cursor, none⟩).round = none
        rw [hempty]
        exact asked_nobody config answers rfl
      rw [hnone] at hround
      cases hround
    · obtain ⟨b', hunder⟩ := asked_under config hempty answers ⟨failures, cursor, none⟩
      have heq : b' = b := Option.some.inj (hunder.round.symm.trans hround)
      subst heq
      split
      · rename_i hwrap
        exact hunder.nextFirst_iff hwrap
      · exact hunder.nextFirst_iff_last
  · intro rounds hlen hanswered t ht
    exact askedIn_of_two_turns config fleet ht hanswered cursor.isLt hlen

def sampleTarget (id : String) : Target := ⟨id, 0, id⟩

instance (answers : List (Nat × PollResult)) : Decidable (Answered config targets p answers) :=
  inferInstanceAs (Decidable (∀ b ∈ (p.asked config targets answers).round, b.landed ≠ []))

/-- Three instances, two at a time. The answers of the first two leave the
third one first; so do those of the first and the third the second, when
the cursor wraps. With an answer in each of six rounds all are asked. -/
theorem answered_rounds_take_turns :
    let fleet : Fleet := ⟨["a", "b", "c"].map sampleTarget, by decide⟩
    let ahead := asked ⟨2, 3⟩ fleet.1 [(0, .healthy), (0, .healthy)] {}
    let wraps := asked ⟨2, 3⟩ fleet.1 [(0, .healthy), (1, .healthy)] ⟨.empty, 2 ^ 64 - 1, none⟩
    (∃ b, ahead.round = some b ∧ b.unlanded = ["c"].map sampleTarget
      ∧ NextFirst fleet.1 ahead b)
    ∧ (∃ b, wraps.round = some b ∧ b.unlanded = ["b"].map sampleTarget
      ∧ NextFirst fleet.1 wraps b)
    ∧ ∀ t ∈ fleet.1, AskedIn ⟨2, 3⟩ fleet.1 {} (List.replicate 6 [(0, .healthy)]) t := by
  intro fleet ahead wraps
  have hahead : ahead.round
      = some ⟨2, [], ["c"].map sampleTarget, ["a", "b"].map sampleTarget⟩ := by
    decide +kernel
  have hwraps : wraps.round
      = some ⟨2, [], ["b"].map sampleTarget, ["a", "c"].map sampleTarget⟩ := by
    decide +kernel
  refine ⟨⟨_, hahead, rfl, ?_⟩, ⟨_, hwraps, rfl, ?_⟩, ?_⟩
  · refine ((polling_fairness ⟨2, 3⟩ fleet .empty 0 _).1 _ hahead).mpr ?_
    rw [if_pos (by decide)]
    unfold InOrder
    decide +kernel
  · refine ((polling_fairness ⟨2, 3⟩ fleet .empty ⟨2 ^ 64 - 1, by decide⟩ _).1 _ hwraps).mpr ?_
    rw [if_neg (by decide)]
    decide +kernel
  · exact (polling_fairness ⟨2, 3⟩ fleet .empty 0 []).2 _ (by decide) (by decide +kernel)

/-- Five instances, two at a time; the first does not answer, and the
three after it do. The next round asks two others before it, one of which
has answered. -/
theorem silent_target_is_overtaken :
    let targets := ["a", "b", "c", "d", "e"].map sampleTarget
    let p := asked ⟨2, 3⟩ targets [(1, .healthy), (1, .healthy), (1, .healthy)] {}
    ∃ b, p.round = some b
      ∧ b.unlanded = ["a", "e"].map sampleTarget
      ∧ order p.finish.cursor targets = ["d", "e", "a", "b", "c"].map sampleTarget
      ∧ ¬NextFirst targets p b := by
  intro targets p
  have hround : p.round
      = some ⟨2, [], ["a", "e"].map sampleTarget, ["b", "c", "d"].map sampleTarget⟩ := by
    decide +kernel
  have horder : order p.finish.cursor targets = ["d", "e", "a", "b", "c"].map sampleTarget := by
    decide +kernel
  refine ⟨_, hround, rfl, horder, ?_⟩
  unfold NextFirst
  rw [horder]
  decide +kernel

end Poller

end Dstack.Gateway
