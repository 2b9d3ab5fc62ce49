/-
Who has which vsock CID (`vmm/src/app.rs`: `load_vm`, `finish_remove_vm`,
`reload_vms_sync`, `load_or_update_vm`).

A VM gets its CID when it enters the table: the one the supervisor listed
its process with, else a new one from the pool. Three kinds of tasks
change the table or the pool: calls that load one VM, removals, and
reloads. `CidTask` says how far one has come. Between two steps of a task
any other can do any number of its own, and directories can change.
-/
import Dstack.Vmm.Deploy

namespace Dstack.Vmm

open Lib

/-- How far a task got, and what it remembers. -/
inductive CidTask (Image : Type) where
  | loading (vm : Loaded Image)
  | removing (id : String)
  | listed (occupied : BTreeMap String Nat)
  | rebuilt (occupied : BTreeMap String Nat)
  | scanning (occupied : BTreeMap String Nat) (existing : List Nat)
  | found (occupied : BTreeMap String Nat) (existing : List Nat) (vm : Loaded Image)

/-- The VMs and the tasks under way. -/
structure CidWorld (Image : Type) where
  app : App Image
  tasks : BTreeMap Nat (CidTask Image) := BTreeMap.empty

/-- The directories change, or a task begins, goes on or ends. -/
inductive CidEvent (Image : Type) where
  | write (dirs : BTreeMap String WorkDir)
  | load (task : Nat) (host : Host Image) (id : String)
  | remove (task : Nat) (id : String)
  | reload (task : Nat) (occupied : BTreeMap String Nat)
  | scan (task : Nat) (host : Host Image) (id : String)
  | go (task : Nat)
  | quit (task : Nat)

section Pool

variable {Image : Type}

def cidsToReserve (occupied : BTreeMap String Nat) (vms : BTreeMap String (VmConfig Image)) :
    BTreeMap Nat String :=
  let inMemory := BTreeMap.ofList (vms.entries.map fun (id, vm) => (vm.cid, id))
  occupied.entries.foldl (fun reserved (id, cid) => reserved.insert cid id) inMemory

def rebuildPool (occupied : BTreeMap String Nat) (s : App Image) : App Image :=
  { s with
    cidPool := s.cidPool.clear.occupyAll
      ((cidsToReserve occupied s.vms).entries.map Prod.fst) }

def cidsInTable (s : App Image) : List Nat := s.vms.entries.map fun (_, vm) => vm.cid

def freeOrphans (existing : List Nat) (s : App Image) : App Image :=
  { s with
    cidPool := (existing.filter (· ∉ cidsInTable s)).foldl IdPool.free s.cidPool }

/-- The VM an event of a guest is put down to (`vm_event_report`). -/
def vmOfCid (s : App Image) (cid : Nat) : Option String :=
  (s.vms.entries.find? fun (_, vm) => vm.cid = cid).map Prod.fst

end Pool

namespace CidWorld

variable {Image : Type}

def put (w : CidWorld Image) (t : Nat) (task : CidTask Image) : CidWorld Image :=
  { w with tasks := w.tasks.insert t task }

def finish (w : CidWorld Image) (t : Nat) : CidWorld Image := { w with tasks := w.tasks.erase t }

def claim (w : CidWorld Image) (t : Nat) (id : String) : CidWorld Image :=
  if w.app.removing.mem id then w
  else { w.put t (.removing id) with app := { w.app with removing := w.app.removing.add id } }

def unclaim (s : App Image) (id : String) : App Image :=
  { s with removing := s.removing.erase id }

def reads (w : CidWorld Image) (t : Nat) (host : Host Image) (id : String)
    (next : Loaded Image → CidTask Image) : CidWorld Image :=
  match (readVm host id w.app).1 with
  | .ok vm => w.put t (next vm)
  | .error _ => w

def advance (w : CidWorld Image) (t : Nat) : CidTask Image → CidWorld Image
  | .loading vm => { w.finish t with app := (publish none vm w.app).2 }
  | .removing id => { w.finish t with app := unclaim (release w.app id) id }
  | .listed occupied => { w.put t (.rebuilt occupied) with app := rebuildPool occupied w.app }
  | .rebuilt occupied => w.put t (.scanning occupied (cidsInTable w.app))
  | .scanning _ existing => { w.finish t with app := freeOrphans existing w.app }
  | .found occupied existing vm =>
    { w.put t (.scanning occupied existing) with
      app := (publish (occupied.get? vm.manifest.id) vm w.app).2 }

def quit (w : CidWorld Image) (t : Nat) : CidWorld Image :=
  match w.tasks.get? t with
  | some (.removing id) => { w.finish t with app := unclaim w.app id }
  | _ => w.finish t

def step (w : CidWorld Image) : CidEvent Image → CidWorld Image
  | .write dirs => { w with app := { w.app with dirs := dirs } }
  | .load t host id => w.reads t host id .loading
  | .remove t id => w.claim t id
  | .reload t occupied => w.put t (.listed occupied)
  | .scan t host id =>
    match w.tasks.get? t with
    | some (.scanning occupied existing) => w.reads t host id (.found occupied existing)
    | _ => w
  | .go t =>
    match w.tasks.get? t with
    | some task => w.advance t task
    | none => w
  | .quit t => w.quit t

end CidWorld

end Dstack.Vmm
