/-
Starting and stopping one VM (`vmm/src/app.rs`:
`start_vm_with_restart_policy`, `stop_vm`, `try_restart_exited_vms`,
`load_or_update_vm`, `vm_event_report`).

Four kinds of tasks work on a VM: start requests, stop requests, sweeps
that restart what has exited, and reloads of the VM directory. `Task` says
how far one has come; a step takes it to the next place where it waits or
where others can get in between. What tasks share is the flag in the VM's
directory that says whether it is meant to run, the lock of the VM, and
whether it is in the table or being removed.

Whatever the supervisor and the host say is an `Answer` and can be
anything at any time; in particular a list of processes can be out of
date by the time it is used. A sweep or a reload goes over all VMs. For
one of them it is what is here: a look at the flag, and a start an
arbitrary time later. So the tasks of different VMs have nothing to do
with each other.

`stopped` and `deployedAfterStop` are not part of the program. They record
the history: whether a stop has returned `Ok` and no start request has
begun since, and whether a process was deployed at such a time.
-/
import Dstack.Lib.BTreeMap

namespace Dstack.Vmm

open Lib

inductive Origin where
  | request
  | reload
  | restart
  deriving DecidableEq

/-- `reset_restart_policy`: such a start sets the flag itself and does not
look at it. -/
def Origin.resetsRestartPolicy : Origin → Bool
  | .request => true
  | .reload => true
  | .restart => false

/-- A call or a pass, and how far it got. -/
inductive Task where
  -- `try_restart_exited_vms`: to list the processes and to choose; chosen
  | sweeping
  | chosen
  -- `reload_vms_sync`: to list the processes; to load the VM; loaded
  | listing
  | reloading (listed : Bool)
  | loaded (listed autoStart : Bool)
  -- `start_vm_with_restart_policy`: up to the lock
  | starting (origin : Origin)
  | waiting (origin : Origin)
  -- with the lock: to look at the flag; to ask for the process; to wait
  -- for its exit; to set the flag; to configure; to deploy
  | locked (origin : Origin)
  | probing
  | draining
  | preparing (running : Bool)
  | launching
  | deploying
  -- what is left of a launch whose request is gone
  | lingering
  -- `stop_vm`: up to the lock
  | stopping
  | stopWaiting
  -- with the lock: to clear the flag; to stop the process; to release
  | stopLocked
  | killing
  | releasing
  deriving DecidableEq

def Task.holds : Task → Bool
  | .locked _ | .probing | .draining | .preparing _ | .launching | .deploying | .lingering
  | .stopLocked | .killing | .releasing => true
  | _ => false

structure Answer where
  ok : Bool := true
  running : Bool := false
  exiting : Bool := false
  due : Bool := false
  readable : Bool := true
  /-- There is no removal marker in the directory. -/
  unmarked : Bool := true
  more : Bool := false

/-- What is kept of one VM. -/
structure VmFlags where
  started : Bool
  removing : Bool
  inTable : Bool
  deriving DecidableEq

/-- What a step does: the task goes on or ends (`none`), and so on. -/
structure Change where
  next : Option Task
  started : Option Bool := none
  enters : Bool := false
  deploys : Bool := false
  /-- A stop returns `Ok`. -/
  stops : Bool := false

def Change.goOn (task : Task) : Change := { next := some task }

def Change.finish : Change := { next := none }

def Task.advance (flags : VmFlags) (free : Bool) (a : Answer) : Task → Change
  | .sweeping =>
    if a.ok && flags.inTable && !flags.removing && !a.running && (flags.started && a.readable)
        && a.due then .goOn .chosen
    else .finish
  | .chosen => if flags.started && a.readable then .goOn (.starting .restart) else .finish
  | .listing => if a.ok then .goOn (.reloading a.running) else .finish
  | .reloading listed =>
    if a.ok then { next := some (.loaded listed a.unmarked), enters := true } else .finish
  | .loaded listed autoStart =>
    if autoStart && (flags.started && a.readable) && !listed then .goOn (.starting .reload)
    else .finish
  | .starting origin => if flags.removing then .finish else .goOn (.waiting origin)
  | .waiting origin => if free then .goOn (.locked origin) else .goOn (.waiting origin)
  | .locked origin =>
    if flags.removing then .finish
    else if !origin.resetsRestartPolicy && !(flags.started && a.readable) then .finish
    else .goOn .probing
  | .probing =>
    if !a.ok then .finish
    else if a.running && a.exiting then .goOn .draining
    else .goOn (.preparing a.running)
  | .draining => if a.ok && !a.running then .goOn (.preparing false) else .finish
  | .preparing running =>
    if !a.ok then .finish
    else
      { next := if flags.inTable && !running then some .launching else none
        started := some true }
  | .launching => if a.ok && flags.inTable then .goOn .deploying else .finish
  | .deploying => { next := if a.ok && a.more then some .deploying else none, deploys := true }
  | .lingering => .finish
  | .stopping => if flags.removing then .finish else .goOn .stopWaiting
  | .stopWaiting => if free then .goOn .stopLocked else .goOn .stopWaiting
  | .stopLocked => if a.ok then { next := some .killing, started := some false } else .finish
  | .killing => if a.ok then .goOn .releasing else .finish
  | .releasing => { next := none, stops := true }

/-- One VM, the lock, and the tasks at work on it. -/
structure VmLife where
  flags : VmFlags
  lock : Option Nat := none
  tasks : BTreeMap Nat Task := BTreeMap.empty
  stopped : Bool := false
  deployedAfterStop : Bool := false

/-- A task begins, goes on or ends, or a flag changes. -/
inductive LifeEvent where
  | start (task : Nat)
  | stop (task : Nat)
  | sweep (task : Nat)
  | reload (task : Nat)
  | go (task : Nat) (answer : Answer)
  | quit (task : Nat) (blocking : Bool)
  | poweringOff
  | removing (begins : Bool)
  | leave

namespace VmLife

def spawn (w : VmLife) (t : Nat) (task : Task) : VmLife :=
  { w with tasks := w.tasks.insert t task }

def finish (w : VmLife) (t : Nat) : VmLife :=
  { w with
    tasks := w.tasks.erase t
    lock := if w.lock = some t then none else w.lock }

def moves (w : VmLife) (t : Nat) (task : Task) : VmLife :=
  { w with
    tasks := w.tasks.insert t task
    lock := if task.holds then some t else w.lock }

def record (w : VmLife) (c : Change) : VmLife :=
  { w with
    flags :=
      { w.flags with
        started := c.started.getD w.flags.started
        inTable := w.flags.inTable || c.enters }
    stopped := w.stopped || c.stops
    deployedAfterStop := w.deployedAfterStop || (c.deploys && w.stopped) }

def change (w : VmLife) (t : Nat) (c : Change) : VmLife :=
  match c.next with
  | some task => (w.record c).moves t task
  | none => (w.record c).finish t

def quit (w : VmLife) (t : Nat) (blocking : Bool) : VmLife :=
  if blocking && w.tasks.get? t = some .launching then w.moves t .lingering else w.finish t

def step (w : VmLife) : LifeEvent → VmLife
  | .start t =>
    if w.tasks.contains t then w else { w.spawn t (.starting .request) with stopped := false }
  | .stop t => if w.tasks.contains t then w else w.spawn t .stopping
  | .sweep t => if w.tasks.contains t then w else w.spawn t .sweeping
  | .reload t => if w.tasks.contains t then w else w.spawn t .listing
  | .go t a =>
    match w.tasks.get? t with
    | some task => w.change t (task.advance w.flags w.lock.isNone a)
    | none => w
  | .quit t blocking => w.quit t blocking
  | .poweringOff =>
    if w.flags.inTable then { w with flags := { w.flags with started := false } } else w
  | .removing begins => { w with flags := { w.flags with removing := begins } }
  | .leave => { w with flags := { w.flags with inTable := false } }

end VmLife

end Dstack.Vmm
