/-
No change of the table is left out.

A change whose request has returned is accounted for at any time
(`Due`): by a token in the channel, by a worker that has taken one and
not started its apply, by an apply that started after the change, or by
one that succeeded. Where the worker takes a token it has an apply ahead
of it, and nothing takes a token between the start of an apply and its
end. So a worker that waits at an empty channel has only the last of the
four left.

A failed apply leaves a delay behind, and a worker with a delay does not
ask the channel whether to go on.
-/
import Dstack.Gateway.WgApply

namespace Dstack.Gateway

def WgPhase.started? : WgPhase → Option Nat
  | .applying started | .writing started _ => some started
  | _ => none

def WgPhase.toApply : WgPhase → Option Nat
  | .head => some 4
  | .backingOff => some 3
  | .draining => some 2
  | .ready => some 1
  | .applying _ => some 0
  | _ => none

namespace WgRun

variable {d : RetryDelays} {w : WgRun} {k : Nat}

-- == the invariant

def Committed (w : WgRun) : Prop :=
  w.phase = .batching ∨ w.phase = .backingOff ∨ w.phase = .draining ∨ w.phase = .ready
    ∨ (w.phase = .head ∧ w.backoff.isSome = true)

def Covered (w : WgRun) (k : Nat) : Prop := ∃ v, w.lastOk = some v ∧ k ≤ v

def Due (w : WgRun) (k : Nat) : Prop :=
  w.token = true ∨ w.Committed ∨ (∃ v, w.phase.started? = some v ∧ k ≤ v) ∨ w.Covered k

structure Inv (w : WgRun) : Prop where
  /-- Nobody knows of a change that was not made. -/
  made : ∀ k ∈ w.unrequested ++ w.requested, k ≤ w.version
  lastOk_made : ∀ v, w.lastOk = some v → v ≤ w.version
  /-- Applies start one after the other. -/
  later : ∀ v, w.phase.started? = some v → v ≤ w.version ∧ ∀ v', w.lastOk = some v' → v' ≤ v
  /-- What is rendered is a state since the start. -/
  rendered : ∀ v r, w.phase = .writing v r → v ≤ r
  due : w.phase ≠ .exited → ∀ k ∈ w.requested, w.Due k
  /-- Unless the worker was told to stop, the last success was one of
  WireGuard. -/
  applied : w.stopped = false → w.connected = true → ∀ v, w.lastOk = some v →
    ∃ r, w.applied = some r ∧ v ≤ r

lemma not_committed_of_started {v : Nat} (hv : w.phase.started? = some v) :
    ¬w.Committed := by
  rintro (hp | hp | hp | hp | ⟨hp, -⟩) <;>
    · rw [hp] at hv
      cases hv

lemma not_committed_of_head (hp : w.phase = .head) (hbackoff : ¬w.backoff.isSome = true) :
    ¬w.Committed := by
  simp [Committed, hp, hbackoff]

structure SameWorker (w w' : WgRun) : Prop where
  phase : w'.phase = w.phase
  backoff : w'.backoff = w.backoff
  lastOk : w'.lastOk = w.lastOk
  applied : w'.applied = w.applied
  token : w.token = true → w'.token = true
  version : w.version ≤ w'.version

lemma SameWorker.due {w' : WgRun} (h : SameWorker w w') (hk : w.Due k) : w'.Due k := by
  unfold Due Committed Covered at hk ⊢
  rw [h.phase, h.backoff, h.lastOk]
  exact hk.imp_left h.token

lemma Inv.others {w' : WgRun} (h : Inv w) (hsame : SameWorker w w')
    (hmade : ∀ k ∈ w'.unrequested ++ w'.requested, k ≤ w'.version)
    (hdue : ∀ k ∈ w'.requested, k ∈ w.requested ∨ w'.token = true)
    (happlied : w'.stopped = false → w'.connected = true →
      w.stopped = false ∧ w.connected = true) : Inv w' where
  made := hmade
  lastOk_made v hv := by
    rw [hsame.lastOk] at hv
    exact Nat.le_trans (h.lastOk_made v hv) hsame.version
  later v hv := by
    rw [hsame.phase] at hv
    rw [hsame.lastOk]
    exact ⟨Nat.le_trans (h.later v hv).1 hsame.version, (h.later v hv).2⟩
  rendered v r hr := h.rendered v r (hsame.phase ▸ hr)
  due hphase k hk := by
    rcases hdue k hk with hold | htoken
    · exact hsame.due (h.due (hsame.phase ▸ hphase) k hold)
    · exact .inl htoken
  applied hstopped hconnected v hv := by
    obtain ⟨hstopped, hconnected⟩ := happlied hstopped hconnected
    rw [hsame.applied]
    exact h.applied hstopped hconnected v (hsame.lastOk ▸ hv)

-- == the steps

lemma Inv.change (h : Inv w) : Inv (w.step d .change) := by
  show Inv (if w.connected then _ else w)
  split
  · refine h.others ⟨rfl, rfl, rfl, rfl, id, Nat.le_succ _⟩ ?_ (fun k hk => .inl hk)
      fun hs hc => ⟨hs, hc⟩
    intro k hk
    simp only [List.append_assoc, List.mem_append, List.mem_singleton] at hk
    rcases hk with hk | rfl | hk
    · exact Nat.le_succ_of_le (h.made k (List.mem_append_left _ hk))
    · exact Nat.le_refl _
    · exact Nat.le_succ_of_le (h.made k (List.mem_append_right _ hk))
  · exact h

lemma Inv.request (h : Inv w) (index : Nat) : Inv (w.step d (.request index)) := by
  simp only [step]
  split
  · exact h
  · rename_i change hchange
    refine h.others ⟨rfl, rfl, rfl, rfl, fun _ => rfl, Nat.le_refl _⟩ ?_
      (fun _ _ => .inr rfl) fun hs hc => ⟨hs, hc⟩
    intro k hk
    simp only [List.mem_append, List.mem_singleton] at hk
    refine h.made k (List.mem_append.mpr ?_)
    rcases hk with hk | hk | rfl
    · exact .inl (List.mem_of_mem_eraseIdx hk)
    · exact .inr hk
    · exact .inl (List.mem_of_getElem? hchange)

lemma Inv.stop (h : Inv w) : Inv (w.step d .stop) := by
  simp only [step]
  split
  · exact h
  · exact h.others ⟨rfl, rfl, rfl, rfl, id, Nat.le_refl _⟩ h.made (fun k hk => .inl hk)
      fun hs _ => by cases hs

lemma Inv.disconnect (h : Inv w) : Inv (w.step d .disconnect) := by
  simp only [step]
  split
  · exact h
  · split
    · exact h.others ⟨rfl, rfl, rfl, rfl, id, Nat.le_refl _⟩ h.made (fun k hk => .inl hk)
        fun _ hc => by cases hc
    · exact h

lemma Inv.move (h : Inv w) (token : Bool) {phase : WgPhase}
    (hstarted : ∀ v, phase.started? = some v → v = w.version ∨ w.phase.started? = some v)
    (hrendered : ∀ v r, phase = .writing v r → v ≤ r)
    (hdue : phase ≠ .exited → ∀ k ∈ w.requested, Due { w with token, phase } k) :
    Inv { w with token, phase } where
  made := h.made
  lastOk_made := h.lastOk_made
  later v hv := by
    rcases hstarted v hv with rfl | hv
    · exact ⟨Nat.le_refl _, h.lastOk_made⟩
    · exact h.later v hv
  rendered := hrendered
  due := hdue
  applied := h.applied

lemma Inv.succeed (h : Inv w) {v : Nat} {rendered : Option Nat}
    (hv : w.phase.started? = some v)
    (hrendered : w.stopped = false → w.connected = true → ∃ r, rendered = some r ∧ v ≤ r) :
    Inv (w.succeed v rendered) where
  made := h.made
  lastOk_made v' hv' := by
    cases hv'
    exact (h.later v hv).1
  later v' hv' := by cases hv'
  rendered v' r hr := by cases hr
  due _ k hk := by
    have hexited : w.phase ≠ .exited := by
      intro hexited
      rw [hexited] at hv
      cases hv
    rcases h.due hexited k hk with htoken | hcommitted | ⟨v', hv', hle⟩ | ⟨v', hv', hle⟩
    · exact .inl htoken
    · exact absurd hcommitted (not_committed_of_started hv)
    · rw [hv] at hv'
      cases hv'
      exact .inr (.inr (.inr ⟨v, rfl, hle⟩))
    · exact .inr (.inr (.inr ⟨v, rfl, Nat.le_trans hle ((h.later v hv).2 v' hv')⟩))
  applied hstopped hconnected v' hv' := by
    cases hv'
    obtain ⟨r, rfl, hle⟩ := hrendered hstopped hconnected
    exact ⟨r, rfl, hle⟩

lemma Inv.fail (h : Inv w) : Inv (w.fail d) where
  made := h.made
  lastOk_made := h.lastOk_made
  later v hv := by cases hv
  rendered v r hr := by cases hr
  due _ k _ := .inr (.inl (.inr (.inr (.inr (.inr ⟨rfl, rfl⟩)))))
  applied := h.applied

lemma Inv.work (h : Inv w) (ok : Bool) : Inv (w.step d (.work ok)) := by
  show Inv (w.work d ok)
  unfold WgRun.work
  cases hphase : w.phase with
  | head =>
    refine h.move w.token ?_ ?_ ?_
    · intro v hv
      split at hv <;> cases hv
    · intro v r hr
      split at hr <;> cases hr
    · intro _ k hk
      by_cases hbackoff : w.backoff.isSome = true
      · refine .inr (.inl (.inr (.inl ?_)))
        exact if_pos hbackoff
      · have hexited : w.phase ≠ .exited := by
          rw [hphase]
          exact WgPhase.noConfusion
        rcases h.due hexited k hk with htoken | hcommitted | ⟨v, hv, -⟩ | hcovered
        · exact .inl htoken
        · exact absurd hcommitted (not_committed_of_head hphase hbackoff)
        · rw [hphase] at hv
          cases hv
        · exact .inr (.inr (.inr hcovered))
  | receiving =>
    dsimp only
    split
    · exact h.move false nofun nofun fun _ k _ => .inr (.inl (.inl rfl))
    · split
      · exact h
      · exact h.move w.token nofun nofun fun hexited => absurd rfl hexited
  | batching =>
    exact h.move w.token nofun nofun fun _ k _ => .inr (.inl (.inr (.inr (.inl rfl))))
  | backingOff =>
    exact h.move w.token nofun nofun fun _ k _ => .inr (.inl (.inr (.inr (.inl rfl))))
  | draining =>
    dsimp only
    split
    · exact h.move false nofun nofun fun _ k _ => .inr (.inl (.inr (.inr (.inr (.inl rfl)))))
    · split
      · exact h.move w.token nofun nofun fun _ k _ => .inr (.inl (.inr (.inr (.inr (.inl rfl)))))
      · exact h.move w.token nofun nofun fun hexited => absurd rfl hexited
  | ready =>
    refine h.move w.token ?_ (fun v r hr => by cases hr) ?_
    · intro v hv
      cases hv
      exact .inl rfl
    · intro _ k hk
      exact .inr (.inr (.inl ⟨w.version, rfl, h.made k (List.mem_append_right _ hk)⟩))
  | applying started =>
    have hstarted : w.phase.started? = some started := by rw [hphase]; rfl
    dsimp only
    split
    · rename_i hidle
      refine h.succeed hstarted fun hstopped hconnected => ?_
      rw [hstopped, hconnected] at hidle
      cases hidle
    · split
      · refine h.move w.token ?_ ?_ ?_
        · intro v hv
          cases hv
          exact .inr hstarted
        · intro v r hr
          cases hr
          exact (h.later started hstarted).1
        · intro _ k hk
          have hexited : w.phase ≠ .exited := by
            rw [hphase]
            exact WgPhase.noConfusion
          rcases h.due hexited k hk with htoken | hcommitted | ⟨v, hv, hle⟩ | hcovered
          · exact .inl htoken
          · exact absurd hcommitted (not_committed_of_started hstarted)
          · rw [hstarted] at hv
            cases hv
            exact .inr (.inr (.inl ⟨started, rfl, hle⟩))
          · exact .inr (.inr (.inr hcovered))
      · exact h.fail
  | writing started rendered =>
    dsimp only
    split
    · refine h.succeed (by rw [hphase]; rfl) fun _ _ => ⟨rendered, rfl, ?_⟩
      exact h.rendered started rendered hphase
    · exact h.fail
  | exited => exact h

lemma run_inv (d : RetryDelays) (events : List WgEvent) : Inv (run d events) := by
  refine List.foldlRecOn events (step d) ?_ ?_
  · exact ⟨nofun, nofun, nofun, nofun, nofun, nofun⟩
  · intro w hw e _
    cases e with
    | change => exact hw.change
    | request index => exact hw.request index
    | stop => exact hw.stop
    | disconnect => exact hw.disconnect
    | work ok => exact hw.work ok

-- == after failure

/-- The piece of work under way ends in a failure. -/
def Fails (d : RetryDelays) (ok : Bool) (w : WgRun) : Prop :=
  w.phase.started?.isSome = true ∧ w.work d ok = w.fail d

/-- The event is a piece of the worker's work. -/
def isWork : WgEvent → Bool
  | .work _ => true
  | _ => false

structure Retries (w : WgRun) (n : Nat) : Prop where
  connected : w.connected = true
  backoff : w.backoff.isSome = true
  toApply : w.phase.toApply = some n

lemma Retries.work {n : Nat} (h : Retries w (n + 1)) (ok : Bool) :
    Retries (w.step d (.work ok)) n := by
  obtain ⟨hconnected, hbackoff, hphase⟩ := h
  show Retries (w.work d ok) n
  unfold WgRun.work
  cases hp : w.phase with
  | head =>
    rw [hp] at hphase
    cases hphase
    exact ⟨hconnected, hbackoff, congrArg WgPhase.toApply (if_pos hbackoff)⟩
  | backingOff =>
    rw [hp] at hphase
    cases hphase
    exact ⟨hconnected, hbackoff, rfl⟩
  | draining =>
    rw [hp] at hphase
    cases hphase
    dsimp only
    rw [if_pos hconnected]
    split <;> exact ⟨hconnected, hbackoff, rfl⟩
  | ready =>
    rw [hp] at hphase
    cases hphase
    exact ⟨hconnected, hbackoff, rfl⟩
  | _ =>
    rw [hp] at hphase
    cases hphase

lemma Retries.others {n : Nat} {e : WgEvent} (h : Retries w n) (he : isWork e = false)
    (hup : e ≠ .disconnect) : Retries (w.step d e) n := by
  obtain ⟨hconnected, hbackoff, hphase⟩ := h
  cases e with
  | change =>
    show Retries (if w.connected then _ else w) n
    rw [if_pos hconnected]
    exact ⟨hconnected, hbackoff, hphase⟩
  | request index =>
    simp only [step]
    split <;> exact ⟨hconnected, hbackoff, hphase⟩
  | stop =>
    simp only [step]
    split <;> exact ⟨hconnected, hbackoff, hphase⟩
  | disconnect => exact absurd rfl hup
  | work ok => cases he

lemma Retries.run {n : Nat} {later : List WgEvent} (h : Retries w n)
    (hup : .disconnect ∉ later) (hn : later.countP isWork = n) :
    ∃ started, (later.foldl (step d) w).phase = .applying started := by
  induction later generalizing w n with
  | nil =>
    rw [List.countP_nil] at hn
    subst hn
    have hphase := h.toApply
    cases hp : w.phase with
    | applying started => exact ⟨started, hp⟩
    | _ =>
      rw [hp] at hphase
      cases hphase
  | cons e later ih =>
    have hup' : .disconnect ∉ later := fun hmem => hup (List.mem_cons_of_mem _ hmem)
    cases hwork : isWork e with
    | false =>
      rw [List.countP_cons_of_neg (by rw [hwork]; exact Bool.noConfusion)] at hn
      refine ih (h.others hwork ?_) hup' hn
      rintro rfl
      exact hup List.mem_cons_self
    | true =>
      rw [List.countP_cons_of_pos hwork] at hn
      subst hn
      cases e with
      | work ok => exact ih (h.work ok) hup' rfl
      | _ => cases hwork

-- == the result

/-- However changes, requests and the worker interleave, and whichever
applies fail: a worker that waits at an empty channel has, after every
change whose request returned, started an apply that succeeded, and
WireGuard was given a state of the table since then unless the gateway is
on its way out. After an apply that failed, the worker's next four steps
take it into the next one, whatever else happens short of the end of the
gateway, and in particular if nothing does. -/
theorem no_change_left_out (d : RetryDelays) (events : List WgEvent) :
    let w := run d events
    (w.phase = .receiving → w.token = false → ∀ k ∈ w.requested,
      ∃ v, w.lastOk = some v ∧ k ≤ v
        ∧ (w.stopped = false → w.connected = true → ∃ r, w.applied = some r ∧ v ≤ r))
    ∧ ∀ ok, w.Fails d ok → w.connected = true → ∀ later : List WgEvent,
      .disconnect ∉ later → later.countP isWork = 4 →
      ∃ started, (later.foldl (step d) (w.step d (.work ok))).phase = .applying started := by
  intro w
  have hinv : Inv w := run_inv d events
  constructor
  · intro hphase htoken k hk
    have hexited : w.phase ≠ .exited := by
      rw [hphase]
      exact WgPhase.noConfusion
    rcases hinv.due hexited k hk with htoken' | hcommitted | ⟨v, hv, -⟩ | ⟨v, hv, hle⟩
    · rw [htoken] at htoken'
      cases htoken'
    · rcases hcommitted with hp | hp | hp | hp | ⟨hp, -⟩ <;>
        · rw [hphase] at hp
          cases hp
    · rw [hphase] at hv
      cases hv
    · exact ⟨v, hv, hle, fun hs hc => hinv.applied hs hc v hv⟩
  · rintro ok ⟨-, hfails⟩ hconnected later hup hcount
    refine Retries.run ?_ hup hcount
    show Retries (w.work d ok) 4
    rw [hfails]
    exact ⟨hconnected, rfl, rfl⟩

/-- One change, an apply that fails and one that does not: the worker is
back at the apply after four steps, and then waits with the change
applied. -/
theorem failed_apply_is_retried :
    let applying := [.work true, .change, .request 0] ++ List.replicate 5 (.work true)
    let w := run {} (applying ++ .work false :: List.replicate 7 (.work true))
    (∃ started, (run {} (applying ++ .work false :: List.replicate 4 (.work true))).phase
      = .applying started)
    ∧ w.phase = .receiving ∧ w.token = false ∧ w.requested = [1]
    ∧ ∃ v, w.lastOk = some v ∧ 1 ≤ v ∧ ∃ r, w.applied = some r ∧ v ≤ r := by
  intro applying w
  have hw : w.phase = .receiving ∧ w.token = false ∧ w.requested = [1] ∧ w.stopped = false
      ∧ w.connected = true := by decide
  obtain ⟨hphase, htoken, hrequested, hrunning, hconnected⟩ := hw
  have hretried := (no_change_left_out {} applying).2 false ⟨by decide, by decide⟩ (by decide)
    (List.replicate 4 (.work true)) (by decide) (by decide)
  rw [run, List.foldl_append, List.foldl_cons]
  refine ⟨hretried, hphase, htoken, hrequested, ?_⟩
  obtain ⟨v, hok, hle, happlied⟩ := (no_change_left_out {} _).1 hphase htoken 1
    (hrequested ▸ List.mem_singleton.mpr rfl)
  exact ⟨v, hok, hle, happlied hrunning hconnected⟩

end WgRun

end Dstack.Gateway
