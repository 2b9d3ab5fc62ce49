/-
Calls that create and reconfigure VMs at the same time (`create_vm` and
`update_vm` of `vmm/src/main_service.rs`).

The calls of `Deploy`, cut where others get in between. The check for port
conflicts takes the lock of the table and gives it back. What it lets in
is written to the VM's directory, then read from there, and only then put
into the table. `Work` says how far a call has come.

A call that ends early, by an error or because its client has gone, leaves
what it has done. Updates of one VM wait for each other in the program;
here they need not, and so everything that can happen there can happen
here.

The marks are not part of the program. They say of each list of ports,
wherever it is kept, whether it has been through the check.
-/
import Dstack.Vmm.Deploy

namespace Dstack.Vmm

open Lib

/-- What a call still has to do. -/
inductive Work (Image : Type) where
  | storing (id : String) (request : VmConfiguration) (manifest : Manifest)
  | preparing (id : String) (request : VmConfiguration) (appId : String)
  | planning (request : UpdateVmRequest) (manifest : Manifest)
  | writing (request : UpdateVmRequest) (manifest : Manifest)
  | loading (id : String) (new : Bool)
  | publishing (id : String) (new : Bool) (vm : Loaded Image)

/-- The VMs, the calls under way, and which ports were checked. -/
structure Admissions (Image : Type) where
  app : App Image
  calls : BTreeMap Nat (Work Image × Bool) := BTreeMap.empty
  storedChecked : String → Bool := fun _ => false
  liveChecked : String → Bool := fun _ => false

/-- A call begins, goes on or ends. -/
inductive AdmissionEvent (Image : Type) where
  | create (call : Nat) (host : Host Image) (cfg : CvmConfig) (id : String) (now : Nat)
      (request : VmConfiguration)
  | update (call : Nat) (host : Host Image) (request : UpdateVmRequest)
  | resume (call : Nat) (host : Host Image) (cfg : CvmConfig)
  | quit (call : Nat)
  | remove (id : String)

namespace Admissions

variable {Image : Type}

def goesOn (w : Admissions Image) (call : Nat) (app : App Image) (next : Work Image × Bool) :
    Admissions Image :=
  { w with app := app, calls := w.calls.insert call next }

def ends (w : Admissions Image) (call : Nat) (app : App Image) : Admissions Image :=
  { w with app := app, calls := w.calls.erase call }

def proceed (w : Admissions Image) (call : Nat) (x : Stateful (App Image) (Work Image × Bool)) :
    Admissions Image :=
  match x w.app with
  | (.ok next, app) => w.goesOn call app next
  | (.error _, app) => w.ends call app

def discard (host : Host Image) (id : String) (new : Bool) (app : App Image) : App Image :=
  if new && (host.fails .removeDir).isNone then { app with dirs := app.dirs.erase id } else app

def stores (w : Admissions Image) (call : Nat) (id : String) (checked : Bool)
    (x : Stateful (App Image) Unit) (next : Work Image) : Admissions Image :=
  match x w.app with
  | (.ok (), app) =>
    { w.goesOn call app (next, checked) with
      storedChecked := Function.update w.storedChecked id checked }
  | (.error _, app) => w.ends call app

def reads (w : Admissions Image) (call : Nat) (host : Host Image) (id : String) (new : Bool) :
    Admissions Image :=
  match readVm host id w.app with
  | (.ok vm, app) => w.goesOn call app (.publishing id new vm, w.storedChecked id)
  | (.error _, app) => w.ends call (discard host id new app)

def publishes (w : Admissions Image) (call : Nat) (host : Host Image) (id : String) (new : Bool)
    (checked : Bool) (vm : Loaded Image) : Admissions Image :=
  match publish none vm w.app with
  | (.ok (), app) =>
    { w.ends call app with
      liveChecked := Function.update w.liveChecked vm.manifest.id checked }
  | (.error _, app) => w.ends call (discard host id new app)

def resume (w : Admissions Image) (call : Nat) (host : Host Image) (cfg : CvmConfig) :
    Work Image × Bool → Admissions Image
  | (.storing id request manifest, checked) =>
    w.stores call id checked
      (store host .putManifest id fun dir => { dir with manifest := some manifest })
      (.preparing id request manifest.appId)
  | (.preparing id request appId, checked) =>
    w.proceed call do
      prepareWorkDir host id request appId
      setStarted host id !request.stopped
      pure (.loading id true, checked)
  | (.planning request manifest, checked) =>
    w.proceed call do
      let (_, planned) ← planUpdate host cfg request manifest
      pure (.writing request planned, checked || request.updatePorts)
  | (.writing request manifest, checked) =>
    w.stores call request.id checked (writeUpdate host request manifest)
      (.loading request.id false)
  | (.loading id new, _) => w.reads call host id new
  | (.publishing id new vm, checked) => w.publishes call host id new checked vm

def step (w : Admissions Image) : AdmissionEvent Image → Admissions Image
  | .create call host cfg id now request =>
    w.proceed call do
      let manifest ← admitNew host cfg id now request
      pure (.storing id request manifest, true)
  | .update call host request =>
    w.proceed call do
      let manifest ← heldManifest host request.id
      pure (.planning request manifest, w.storedChecked request.id)
  | .resume call host cfg =>
    match w.calls.get? call with
    | some next => w.resume call host cfg next
    | none => w
  | .quit call => w.ends call w.app
  | .remove id => { w with app := forget w.app id }

end Admissions

end Dstack.Vmm
