/-
A stop sticks, as long as no start that does not look at the flag again is
on its way to the lock when the stop returns.

One table says what a step can do (`advance_*`): a task comes to be one
that may deploy only from one that may, or by seeing the flag; only such a
task sets the flag; and a stop that returns has cleared it. The lock keeps
those that are past it apart from a stop. What is left is the way up to
the lock, and there a restart looks at the flag again and a reload does
not.
-/
import Dstack.Lib.Along
import Dstack.Vmm.StartStop

namespace Dstack.Vmm

open Lib

-- == what a step does

def Task.trusts : Task → Bool
  | .starting origin | .waiting origin => origin.resetsRestartPolicy
  | _ => false

def Task.mayDeploy : Task → Bool
  | .starting origin | .waiting origin | .locked origin => origin.resetsRestartPolicy
  | .probing | .draining | .preparing _ | .launching | .deploying => true
  | _ => false

def Task.hasCleared : Task → Bool
  | .killing | .releasing => true
  | _ => false

section Table

variable {task task' : Task} {flags : VmFlags} {free : Bool} {a : Answer}

lemma trusts_or_holds (h : task.mayDeploy = true) : task.trusts = true ∨ task.holds = true := by
  cases task with
  | starting origin => exact .inl h
  | waiting origin => exact .inl h
  | locked origin => exact .inr rfl
  | probing => exact .inr rfl
  | draining => exact .inr rfl
  | preparing running => exact .inr rfl
  | launching => exact .inr rfl
  | deploying => exact .inr rfl
  | _ => cases h

lemma holds_of_hasCleared (h : task.hasCleared = true) : task.holds = true := by
  cases task with
  | killing => rfl
  | releasing => rfl
  | _ => cases h

inductive Next (flags : VmFlags) (free : Bool) : Task → Task → Prop
  | chooses : Next flags free .sweeping .chosen
  | looksAgain (h : flags.started = true) : Next flags free .chosen (.starting .restart)
  | lists (listed : Bool) : Next flags free .listing (.reloading listed)
  | loads (listed autoStart : Bool) :
      Next flags free (.reloading listed) (.loaded listed autoStart)
  | starts (listed autoStart : Bool) (h : flags.started = true) :
      Next flags free (.loaded listed autoStart) (.starting .reload)
  | enqueues (origin : Origin) : Next flags free (.starting origin) (.waiting origin)
  | waits (origin : Origin) : Next flags free (.waiting origin) (.waiting origin)
  | locks (origin : Origin) (h : free = true) :
      Next flags free (.waiting origin) (.locked origin)
  | looks (origin : Origin) (h : origin.resetsRestartPolicy = true ∨ flags.started = true) :
      Next flags free (.locked origin) .probing
  | finds (running : Bool) : Next flags free .probing (.preparing running)
  | drains : Next flags free .probing .draining
  | drained : Next flags free .draining (.preparing false)
  | prepares (running : Bool) : Next flags free (.preparing running) .launching
  | launches : Next flags free .launching .deploying
  | deploys : Next flags free .deploying .deploying
  | stopEnqueues : Next flags free .stopping .stopWaiting
  | stopWaits : Next flags free .stopWaiting .stopWaiting
  | stopLocks (h : free = true) : Next flags free .stopWaiting .stopLocked
  | clears : Next flags free .stopLocked .killing
  | kills : Next flags free .killing .releasing

lemma next_ite {c : Prop} [Decidable c] {x y : Change} {task : Task}
    (h : (if c then x else y).next = some task) :
    c ∧ x.next = some task ∨ ¬c ∧ y.next = some task := by
  by_cases hc : c
  · rw [if_pos hc] at h
    exact .inl ⟨hc, h⟩
  · rw [if_neg hc] at h
    exact .inr ⟨hc, h⟩

lemma next_goOn {c : Prop} [Decidable c] {task task' : Task}
    (h : (if c then Change.goOn task else .finish).next = some task') : c ∧ task = task' := by
  rcases next_ite h with ⟨hc, h⟩ | ⟨-, h⟩
  · exact ⟨hc, Option.some.inj h⟩
  · cases h

lemma next_of_advance (h : (task.advance flags free a).next = some task') :
    Next flags free task task' := by
  cases task with
  | sweeping =>
    obtain ⟨-, rfl⟩ := next_goOn h
    exact .chooses
  | chosen =>
    obtain ⟨hc, rfl⟩ := next_goOn h
    exact .looksAgain (Bool.and_eq_true_iff.mp hc).1
  | listing =>
    obtain ⟨-, rfl⟩ := next_goOn h
    exact .lists _
  | reloading listed =>
    rcases next_ite h with ⟨-, h⟩ | ⟨-, h⟩
    · cases h
      exact .loads _ _
    · cases h
  | loaded listed autoStart =>
    obtain ⟨hc, rfl⟩ := next_goOn h
    simp only [Bool.and_eq_true] at hc
    exact .starts _ _ hc.1.2.1
  | starting origin =>
    rcases next_ite h with ⟨-, h⟩ | ⟨-, h⟩
    · cases h
    · cases h
      exact .enqueues _
  | waiting origin =>
    rcases next_ite h with ⟨hfree, h⟩ | ⟨-, h⟩
    · cases h
      exact .locks _ hfree
    · cases h
      exact .waits _
  | locked origin =>
    rcases next_ite h with ⟨-, h⟩ | ⟨-, h⟩
    · cases h
    · rcases next_ite h with ⟨-, h⟩ | ⟨hlook, h⟩
      · cases h
      · cases h
        refine .looks _ ?_
        cases hreset : origin.resetsRestartPolicy with
        | true => exact .inl rfl
        | false =>
          rw [hreset] at hlook
          cases hstarted : flags.started with
          | true => exact .inr rfl
          | false =>
            rw [hstarted] at hlook
            exact absurd rfl hlook
  | probing =>
    rcases next_ite h with ⟨-, h⟩ | ⟨-, h⟩
    · cases h
    · rcases next_ite h with ⟨-, h⟩ | ⟨-, h⟩
      · cases h
        exact .drains
      · cases h
        exact .finds _
  | draining =>
    obtain ⟨-, rfl⟩ := next_goOn h
    exact .drained
  | preparing running =>
    rcases next_ite h with ⟨-, h⟩ | ⟨-, h⟩
    · cases h
    · dsimp only at h
      split at h
      · cases h
        exact .prepares _
      · cases h
  | launching =>
    obtain ⟨-, rfl⟩ := next_goOn h
    exact .launches
  | deploying =>
    dsimp only [Task.advance] at h
    split at h
    · cases h
      exact .deploys
    · cases h
  | lingering => cases h
  | stopping =>
    rcases next_ite h with ⟨-, h⟩ | ⟨-, h⟩
    · cases h
    · cases h
      exact .stopEnqueues
  | stopWaiting =>
    rcases next_ite h with ⟨hfree, h⟩ | ⟨-, h⟩
    · cases h
      exact .stopLocks hfree
    · cases h
      exact .stopWaits
  | stopLocked =>
    rcases next_ite h with ⟨-, h⟩ | ⟨-, h⟩
    · cases h
      exact .clears
    · cases h
  | killing =>
    obtain ⟨-, rfl⟩ := next_goOn h
    exact .kills
  | releasing => cases h

lemma Next.mayDeploy (h : Next flags free task task') (hmay : task'.mayDeploy = true) :
    task.mayDeploy = true ∨ flags.started = true := by
  cases h with
  | looksAgain hstarted => exact .inr hstarted
  | starts listed autoStart hstarted => exact .inr hstarted
  | looks origin hlook => exact hlook
  | enqueues origin => exact .inl hmay
  | waits origin => exact .inl hmay
  | locks origin hfree => exact .inl hmay
  | finds running => exact .inl rfl
  | drains => exact .inl rfl
  | drained => exact .inl rfl
  | prepares running => exact .inl rfl
  | launches => exact .inl rfl
  | deploys => exact .inl rfl
  | _ => cases hmay

lemma Next.holds (h : Next flags free task task') (hholds : task'.holds = true) :
    task.holds = true ∨ free = true := by
  cases h with
  | locks origin hfree => exact .inr hfree
  | stopLocks hfree => exact .inr hfree
  | looks origin hlook => exact .inl rfl
  | finds running => exact .inl rfl
  | drains => exact .inl rfl
  | drained => exact .inl rfl
  | prepares running => exact .inl rfl
  | launches => exact .inl rfl
  | deploys => exact .inl rfl
  | clears => exact .inl rfl
  | kills => exact .inl rfl
  | _ => cases hholds

def Change.Plain (c : Change) : Prop := c.started = none ∧ c.deploys = false ∧ c.stops = false

lemma plain_ite {c : Prop} [Decidable c] {x y : Change} (hx : x.Plain) (hy : y.Plain) :
    (if c then x else y).Plain := by
  split
  · exact hx
  · exact hy

inductive Effect : Task → Change → Prop
  | plain {task : Task} {c : Change} (h : c.Plain) : Effect task c
  | sets {running : Bool} {next : Option Task} :
      Effect (.preparing running) { next := next, started := some true }
  | clears : Effect .stopLocked { next := some .killing, started := some false }
  | deploys {next : Option Task} : Effect .deploying { next := next, deploys := true }
  | returns : Effect .releasing { next := none, stops := true }

lemma effect_advance (task : Task) (flags : VmFlags) (free : Bool) (a : Answer) :
    Effect task (task.advance flags free a) := by
  have hplain : ∀ next : Option Task, Change.Plain { next := next } := fun _ => ⟨rfl, rfl, rfl⟩
  cases task with
  | preparing running =>
    dsimp only [Task.advance]
    split
    · exact .plain (hplain _)
    · exact .sets
  | stopLocked =>
    dsimp only [Task.advance]
    split
    · exact .clears
    · exact .plain (hplain _)
  | deploying => exact .deploys
  | releasing => exact .returns
  | lingering => exact .plain (hplain _)
  | locked origin => exact .plain (plain_ite (hplain _) (plain_ite (hplain _) (hplain _)))
  | probing => exact .plain (plain_ite (hplain _) (plain_ite (hplain _) (hplain _)))
  | reloading listed => exact .plain (plain_ite ⟨rfl, rfl, rfl⟩ (hplain _))
  | _ => exact .plain (plain_ite (hplain _) (hplain _))

lemma Effect.ends {c : Change} (h : Effect task c) (hstops : c.stops = true) : c.next = none := by
  cases h with
  | plain hplain =>
    rw [hplain.2.2] at hstops
    cases hstops
  | sets => cases hstops
  | clears => cases hstops
  | deploys => cases hstops
  | returns => rfl

lemma advance_hasCleared (h : (task.advance flags free a).next = some task')
    (hcleared : task'.hasCleared = true) :
    (task.advance flags free a).started = some false
      ∨ task.hasCleared = true ∧ (task.advance flags free a).started = none := by
  cases next_of_advance h with
  | clears =>
    refine .inl ?_
    rcases next_ite h with ⟨hok, -⟩ | ⟨-, h⟩
    · dsimp only [Task.advance]
      rw [if_pos hok]
    · cases h
  | kills =>
    refine .inr ⟨rfl, ?_⟩
    dsimp only [Task.advance]
    split
    · rfl
    · rfl
  | _ => cases hcleared

end Table

-- == invariant

namespace VmLife

variable {w : VmLife} {t t' : Nat} {task task' : Task}

structure Inv (w : VmLife) : Prop where
  lock : ∀ t task, w.tasks.get? t = some task → task.holds = true → w.lock = some t
  /-- No one has set the flag again. -/
  cleared : ∀ t task, w.tasks.get? t = some task → task.hasCleared = true →
    w.flags.started = false
  /-- After a stop there is no one left who would deploy. -/
  quiet : w.stopped = true →
    w.flags.started = false ∧ ∀ t task, w.tasks.get? t = some task → task.mayDeploy = false
  sticks : w.deployedAfterStop = false

lemma Inv.alone (h : Inv w) (ht : w.tasks.get? t = some task) (hholds : task.holds = true)
    (ht' : w.tasks.get? t' = some task') (hholds' : task'.holds = true) : task = task' := by
  have heq := (h.lock t task ht hholds).symm.trans (h.lock t' task' ht' hholds')
  rw [← Option.some.inj heq, ht] at ht'
  exact Option.some.inj ht'

lemma Inv.not_stopped (h : Inv w) (ht : w.tasks.get? t = some task)
    (hmay : task.mayDeploy = true) : w.stopped = false := by
  cases hstopped : w.stopped with
  | false => rfl
  | true =>
    rw [(h.quiet hstopped).2 t task ht] at hmay
    cases hmay

/-- When a stop returns, no start that does not look at the flag again is
on its way to the lock. -/
def Careful (w : VmLife) : LifeEvent → Prop
  | .go t _ => w.tasks.get? t = some .releasing →
      ∀ t' task', w.tasks.get? t' = some task' → task'.trusts = false
  | _ => True

instance (w : VmLife) : (e : LifeEvent) → Decidable (Careful w e)
  | .go t _ => decidable_of_iff (w.tasks.get? t = some .releasing →
      ∀ e ∈ w.tasks.entries, e.2.trusts = false) (imp_congr_right fun _ =>
        ⟨fun h t' task' ht' => h (t', task') (BTreeMap.mem_entries.mpr ht'),
          fun h e he => h e.1 e.2 (BTreeMap.mem_entries.mp he)⟩)
  | .start _ | .stop _ | .sweep _ | .reload _ | .quit _ _ | .poweringOff | .removing _ | .leave =>
    isTrue trivial

lemma Inv.finish (h : Inv w) (t : Nat) : Inv (w.finish t) := by
  have hget : ∀ t' task', (w.finish t).tasks.get? t' = some task' →
      t ≠ t' ∧ w.tasks.get? t' = some task' := fun _ _ => BTreeMap.get?_erase_eq_some.mp
  refine ⟨?_, ?_, ?_, h.sticks⟩
  · intro t' task' ht' hholds
    obtain ⟨hne, ht'⟩ := hget t' task' ht'
    have hlock := h.lock t' task' ht' hholds
    show (if w.lock = some t then none else w.lock) = some t'
    rw [hlock, if_neg fun heq => hne (Option.some.inj heq).symm]
  · exact fun t' task' ht' => h.cleared t' task' (hget t' task' ht').2
  · exact fun hstopped => ⟨(h.quiet hstopped).1,
      fun t' task' ht' => (h.quiet hstopped).2 t' task' (hget t' task' ht').2⟩

lemma Inv.moves (h : Inv w) (hlock : task.holds = true → w.lock = none ∨ w.lock = some t)
    (hcleared : task.hasCleared = true → w.flags.started = false)
    (hmay : w.stopped = true → task.mayDeploy = false) : Inv (w.moves t task) := by
  refine ⟨?_, ?_, ?_, h.sticks⟩
  · intro t' task' ht' hholds
    show (if task.holds = true then some t else w.lock) = some t'
    rcases BTreeMap.get?_insert_eq_some.mp ht' with ⟨rfl, rfl⟩ | ⟨hne, ht'⟩
    · rw [if_pos hholds]
    · have hheld := h.lock t' task' ht' hholds
      rw [hheld, if_neg]
      intro hholds'
      rcases hlock hholds' with hnone | hsome
      · rw [hheld] at hnone
        cases hnone
      · rw [hheld] at hsome
        exact hne (Option.some.inj hsome).symm
  · intro t' task' ht' hcleared'
    rcases BTreeMap.get?_insert_eq_some.mp ht' with ⟨-, rfl⟩ | ⟨-, ht'⟩
    · exact hcleared hcleared'
    · exact h.cleared t' task' ht' hcleared'
  · intro hstopped
    refine ⟨(h.quiet hstopped).1, fun t' task' ht' => ?_⟩
    rcases BTreeMap.get?_insert_eq_some.mp ht' with ⟨-, rfl⟩ | ⟨-, ht'⟩
    · exact hmay hstopped
    · exact (h.quiet hstopped).2 t' task' ht'

/-- A task begins without the lock, and without leave to deploy. -/
lemma Inv.spawn (h : Inv w) (hholds : task.holds = false)
    (hmay : task.mayDeploy = false) : Inv (w.spawn t task) := by
  have hmoves : w.spawn t task = w.moves t task := by simp [VmLife.spawn, VmLife.moves, hholds]
  rw [hmoves]
  refine h.moves (fun hheld => ?_) (fun hcleared => ?_) fun _ => hmay
  · rw [hholds] at hheld
    cases hheld
  · rw [holds_of_hasCleared hcleared] at hholds
    cases hholds

lemma Inv.record {c : Change} (h : Inv w) (ht : w.tasks.get? t = some task)
    (heffect : Effect task c)
    (hcareful : task = .releasing →
      ∀ t' task', w.tasks.get? t' = some task' → task'.trusts = false) : Inv (w.record c) := by
  cases heffect with
  | plain hplain =>
    obtain ⟨hstarted, hdeploys, hstops⟩ := hplain
    have hrecord : w.record c
        = { w with flags := { w.flags with inTable := w.flags.inTable || c.enters } } := by
      simp [VmLife.record, hstarted, hdeploys, hstops]
    rw [hrecord]
    exact ⟨h.lock, h.cleared, h.quiet, h.sticks⟩
  | @sets running next =>
    -- whoever sets the flag has the lock, and would deploy
    have hnot := h.not_stopped ht rfl
    refine ⟨h.lock, ?_, ?_, ?_⟩
    · intro t' task' ht' hcleared
      obtain rfl := h.alone ht rfl ht' (holds_of_hasCleared hcleared)
      cases hcleared
    · intro hstopped
      simp [VmLife.record, hnot] at hstopped
    · simp [VmLife.record, h.sticks]
  | clears =>
    refine ⟨h.lock, fun _ _ _ _ => rfl, fun hstopped => ⟨rfl, ?_⟩, ?_⟩
    · have hw : w.stopped = true := by simpa [VmLife.record] using hstopped
      exact (h.quiet hw).2
    · simp [VmLife.record, h.sticks]
  | @deploys next =>
    have hnot := h.not_stopped ht rfl
    refine ⟨h.lock, h.cleared, fun hstopped => ?_, ?_⟩
    · simp [VmLife.record, hnot] at hstopped
    · simp [VmLife.record, h.sticks, hnot]
  | returns =>
    refine ⟨h.lock, h.cleared, fun _ => ⟨h.cleared t _ ht rfl, ?_⟩, ?_⟩
    · intro t' task' ht'
      by_contra hmay
      rcases trusts_or_holds (Bool.not_eq_false _ ▸ hmay) with htrusts | hholds
      · rw [hcareful rfl t' task' ht'] at htrusts
        cases htrusts
      · obtain rfl := h.alone ht rfl ht' hholds
        exact hmay rfl
    · simp [VmLife.record, h.sticks]

lemma Inv.change {a : Answer} (h : Inv w) (ht : w.tasks.get? t = some task)
    (hcareful : task = .releasing →
      ∀ t' task', w.tasks.get? t' = some task' → task'.trusts = false) :
    Inv (w.change t (task.advance w.flags w.lock.isNone a)) := by
  have hrecord := h.record ht (effect_advance task w.flags w.lock.isNone a) hcareful
  unfold VmLife.change
  cases hnext : (task.advance w.flags w.lock.isNone a).next with
  | none => exact hrecord.finish t
  | some task' =>
    have hgo := next_of_advance hnext
    refine hrecord.moves ?_ ?_ ?_
    · intro hholds
      rcases hgo.holds hholds with hheld | hfree
      · exact .inr (h.lock t task ht hheld)
      · exact .inl (Option.isNone_iff_eq_none.mp hfree)
    · intro hcleared
      show (Option.getD _ _) = false
      rcases advance_hasCleared hnext hcleared with hfalse | ⟨hheld, hsame⟩
      · rw [hfalse]
        rfl
      · rw [hsame]
        exact h.cleared t task ht hheld
    · intro hstopped
      -- a stop that returns does not go on
      have hw : w.stopped = true := by
        cases hw : w.stopped with
        | true => rfl
        | false =>
          have hstops : (task.advance w.flags w.lock.isNone a).stops = true := by
            simpa [VmLife.record, hw] using hstopped
          have hnone := (effect_advance task w.flags w.lock.isNone a).ends hstops
          rw [hnext] at hnone
          cases hnone
      by_contra hmay
      obtain ⟨hstarted, hnone⟩ := h.quiet hw
      rcases hgo.mayDeploy (Bool.not_eq_false _ ▸ hmay) with hbefore | hflag
      · rw [hnone t task ht] at hbefore
        cases hbefore
      · rw [hstarted] at hflag
        cases hflag

lemma Inv.quit (h : Inv w) (t : Nat) (blocking : Bool) : Inv (w.quit t blocking) := by
  unfold VmLife.quit
  split
  · next hlaunching =>
      have ht : w.tasks.get? t = some .launching := by
        rw [Bool.and_eq_true, decide_eq_true_eq] at hlaunching
        exact hlaunching.2
      exact h.moves (fun _ => .inr (h.lock t _ ht rfl)) nofun fun _ => rfl
  · exact h.finish t

lemma Inv.step {e : LifeEvent} (h : Inv w) (hcareful : Careful w e) : Inv (w.step e) := by
  have hbegin : ∀ (t : Nat) (task : Task), task.holds = false → task.mayDeploy = false →
      Inv (if w.tasks.contains t then w else w.spawn t task) := by
    intro t task hholds hmay
    split
    · exact h
    · exact h.spawn hholds hmay
  cases e with
  | start t =>
    show Inv (if w.tasks.contains t then w
      else { w.spawn t (.starting .request) with stopped := false })
    split
    · exact h
    · show Inv (VmLife.moves { w with stopped := false } t (.starting .request))
      exact Inv.moves ⟨h.lock, h.cleared, nofun, h.sticks⟩ nofun nofun nofun
  | stop t => exact hbegin t .stopping rfl rfl
  | sweep t => exact hbegin t .sweeping rfl rfl
  | reload t => exact hbegin t .listing rfl rfl
  | go t a =>
    dsimp only [VmLife.step]
    cases ht : w.tasks.get? t with
    | none => exact h
    | some task =>
      refine h.change ht fun hreleasing => hcareful ?_
      rw [ht, hreleasing]
  | quit t blocking => exact h.quit t blocking
  | poweringOff =>
    dsimp only [VmLife.step]
    split
    · exact ⟨h.lock, fun _ _ _ _ => rfl, fun hstopped => ⟨rfl, (h.quiet hstopped).2⟩, h.sticks⟩
    · exact h
  | removing begins => exact ⟨h.lock, h.cleared, h.quiet, h.sticks⟩
  | leave => exact ⟨h.lock, h.cleared, h.quiet, h.sticks⟩

lemma inv_start (flags : VmFlags) : Inv { flags := flags } :=
  ⟨nofun, nofun, nofun, rfl⟩

end VmLife

/-- In every run whose stops return when no start is on its way to the
lock that does not look at the flag again, no stopped VM is deployed. -/
theorem stop_sticks (flags : VmFlags) (events : List LifeEvent)
    (hcareful : Along VmLife.step VmLife.Careful { flags := flags } events) :
    (events.foldl VmLife.step { flags := flags }).deployedAfterStop = false :=
  (hcareful.foldl (fun _ _ h hstep => h.step hstep) (VmLife.inv_start flags)).sticks

-- == examples

/-- A VM that is to be running. -/
def meantToRun : VmFlags := { started := true, removing := false, inTable := true }

def goes (t n : Nat) : List LifeEvent := List.replicate n (.go t {})

/-- A reload finds the VM started, and goes on when it was stopped. -/
def reloadAcrossStop : List LifeEvent :=
  .reload 0 :: goes 0 3 ++ .stop 1 :: goes 1 5 ++ goes 0 8

/-- The reload starts the VM again. -/
theorem stopped_vm_is_deployed :
    (reloadAcrossStop.foldl VmLife.step { flags := meantToRun }).deployedAfterStop = true := by
  decide +kernel

/-- The same with a sweep in place of the reload. -/
def sweepAcrossStop : List LifeEvent :=
  [.sweep 0, .go 0 { due := true }] ++ goes 0 2 ++ .stop 1 :: goes 1 5 ++ goes 0 8

/-- The sweep looks again and leaves it. -/
theorem sweep_across_stop_sticks :
    (sweepAcrossStop.foldl VmLife.step { flags := meantToRun }).stopped = true
      ∧ (sweepAcrossStop.foldl VmLife.step { flags := meantToRun }).deployedAfterStop = false := by
  exact ⟨by decide +kernel, stop_sticks meantToRun sweepAcrossStop (by decide +kernel)⟩

end Dstack.Vmm
