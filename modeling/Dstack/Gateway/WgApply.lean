/-
The worker that brings WireGuard up to date
(`gateway/src/main_service/wg_apply.rs`, `gateway/src/main_service.rs`).

Whoever changes the routing table asks for an apply afterwards. A request
is a token in a channel with room for one; with the room taken it is
dropped. The worker takes the token, waits for others to come, takes what
came, and then renders the table and applies it.
-/
import Mathlib

namespace Dstack.Gateway

/-- Where the worker is. -/
inductive WgPhase where
  | head
  | receiving
  | batching
  | backingOff
  /-- Before the token is taken for the second time. -/
  | draining
  | ready
  /-- Applying since a state of the table. -/
  | applying (started : Nat)
  /-- With the configuration of a state rendered, and the lock of
  `wg_apply_stopped` held. -/
  | writing (started rendered : Nat)
  | exited
  deriving DecidableEq

/-- The changes of the table and the worker that applies them. -/
structure WgRun where
  version : Nat := 0
  /-- The changes whose request has not returned. -/
  unrequested : List Nat := []
  requested : List Nat := []
  /-- Whether there is a token in the channel. -/
  token : Bool := false
  /-- Whether the gateway, which owns the sender, is there. -/
  connected : Bool := true
  /-- `wg_apply_stopped`. -/
  stopped : Bool := false
  phase : WgPhase := .head
  /-- The delay before the next try, if the last one failed. -/
  backoff : Option Nat := none
  lastOk : Option Nat := none
  applied : Option Nat := none
  deriving DecidableEq

inductive WgEvent where
  | change
  | request (index : Nat)
  | stop
  | disconnect
  /-- The next step of the worker; `ok` is how rendering or applying goes,
  where that is the step. -/
  | work (ok : Bool)
  deriving DecidableEq

structure RetryDelays where
  retryDelay : Nat := 1000
  maxRetryDelay : Nat := 30000

namespace WgRun

/-- `apply` returned no error; `rendered` is what it applied, if it did
anything. -/
def succeed (w : WgRun) (started : Nat) (rendered : Option Nat) : WgRun :=
  { w with
    phase := .head
    backoff := none
    lastOk := some started
    applied := rendered.or w.applied }

def fail (d : RetryDelays) (w : WgRun) : WgRun :=
  { w with
    phase := .head
    backoff := some ((w.backoff.map fun delay => min (delay * 2) d.maxRetryDelay).getD
      d.retryDelay) }

def work (d : RetryDelays) (ok : Bool) (w : WgRun) : WgRun :=
  match w.phase with
  | .head => { w with phase := if w.backoff.isSome then .backingOff else .receiving }
  | .receiving =>
    if w.token then { w with token := false, phase := .batching }
    else if w.connected then w
    else { w with phase := .exited }
  | .batching | .backingOff => { w with phase := .draining }
  | .draining =>
    if w.token then { w with token := false, phase := .ready }
    else if w.connected then { w with phase := .ready }
    else { w with phase := .exited }
  | .ready => { w with phase := .applying w.version }
  | .applying started =>
    -- Without a gateway, or with one on its way out, nothing is done.
    if !w.connected || w.stopped then w.succeed started none
    else if ok then { w with phase := .writing started w.version }
    else w.fail d
  | .writing started rendered =>
    if ok then w.succeed started (some rendered) else w.fail d
  | .exited => w

/-- One step. A request needs a change before it and a gateway to make
it on; the gateway stays as long as someone is using it. -/
def step (d : RetryDelays) (w : WgRun) : WgEvent → WgRun
  | .change =>
    if w.connected then
      { w with
        version := w.version + 1
        unrequested := w.unrequested ++ [w.version + 1] }
    else w
  | .request index =>
    match w.unrequested[index]? with
    | none => w
    | some change =>
      { w with
        unrequested := w.unrequested.eraseIdx index
        requested := w.requested ++ [change]
        token := true }
  | .stop =>
    -- Who stops the worker waits for an apply under way.
    match w.phase with
    | .writing _ _ => w
    | _ => { w with stopped := true }
  | .disconnect =>
    match w.phase with
    | .writing _ _ => w
    | _ => if w.unrequested.isEmpty then { w with connected := false } else w
  | .work ok => w.work d ok

def run (d : RetryDelays) (events : List WgEvent) : WgRun := events.foldl (step d) {}

end WgRun

end Dstack.Gateway
