/-
Relaying plain TCP connections on one thread
(`gateway/src/proxy/splice.rs`).

A connection is relayed in two phases. First with reads and writes through
a pair of buffers (`relay_until`), in one loop for both directions; then,
once the gate is reached, with `splice(2)` through a pipe for each
direction on its own (`splice_one`). Buffers and pipes are taken from
pools of the thread and go back there, from one connection to the next.

What is written to a socket is what the code takes out of a buffer or a
pipe, whatever is in it. `read` and `written` record it, and `eof` and
`closed` whether a source has ended and whether that has been passed on.

A step is one outcome of a system call, for one direction of one
connection; a call may be given up between any two. A `splice` that fails
moves nothing. Ticks of the idle watchdog that do not end a connection do
nothing.
-/
import Dstack.Lib.Bytes
import Dstack.Lib.PipePool

namespace Dstack.Gateway.Splice

open Lib

-- == configuration

/-- `PIPE_CAPACITY`: the bytes of one `splice`. -/
def pipeCapacity : Nat := 1048576

def pipePoolMax : Nat := 64

def bufPoolMax : Nat := 32

def relayBufSize : Nat := 16384

structure EngageAfter where
  afterBytes : Option Nat := none
  afterDuration : Option Nat := none
  deriving DecidableEq

def EngageAfter.reached (gate : EngageAfter) (moved elapsed : Nat) : Bool :=
  gate.afterBytes.any (· ≤ moved) || gate.afterDuration.any (· ≤ elapsed)

-- == streams

/-- The client is `a`, the app is `b`. -/
inductive Dir where
  | a2b
  | b2a
  deriving DecidableEq

def Dir.other : Dir → Dir
  | .a2b => .b2a
  | .b2a => .a2b

structure Flow where
  /-- What has been read from the source, and written to the destination. -/
  read : Bytes := []
  written : Bytes := []
  /-- The source has ended. -/
  eof : Bool := false
  closed : Bool := false
  deriving DecidableEq

structure PooledBufs where
  a : Bytes
  b : Bytes
  deriving DecidableEq

def PooledBufs.of (bufs : PooledBufs) : Dir → Bytes
  | .a2b => bufs.a
  | .b2a => bufs.b

def PooledBufs.set (bufs : PooledBufs) : Dir → Bytes → PooledBufs
  | .a2b, buf => { bufs with a := buf }
  | .b2a, buf => { bufs with b := buf }

structure PooledPipe where
  pipe : Nat
  drained : Bool := true
  deriving DecidableEq

-- == connections

/-- Where `relay_until` is. -/
inductive Relay where
  /-- At the `select!`. -/
  | polling
  /-- `n` bytes are in the buffer, some of them written. -/
  | writing (dir : Dir) (n done : Nat)
  /-- `finish_one`: a direction has ended and is to be closed. -/
  | closing (dir : Dir)
  | pumping (dir : Dir)
  | pumpWriting (dir : Dir) (n done : Nat)
  | lastClosing (dir : Dir)
  deriving DecidableEq

/-- Where `splice_one` is. -/
inductive Half where
  | starting
  /-- It has a pipe and wants bytes from its source. -/
  | filling (pipe : PooledPipe)
  | draining (pipe : PooledPipe) (left : Nat)
  /-- It waits for its source without a pipe. -/
  | parked
  | done
  deriving DecidableEq

inductive Phase where
  | relaying (bufs : PooledBufs) (moved : Nat) (stage : Relay)
  | splicing (half : Dir → Half)
  | returned (ok : Bool)

/-- A call of `splice_bidirectional_after`. -/
structure Conn where
  phase : Phase
  gate : EngageAfter
  releaseIdlePipes : Bool
  flow : Dir → Flow := fun _ => {}

/-- The pools of a thread and its connections. -/
structure Thread where
  pipes : PipePool UInt8 := {}
  bufPool : List PooledBufs := []
  conns : BTreeMap Nat Conn := BTreeMap.empty

inductive Io where
  | data (bytes : Bytes)
  /-- The source has ended. -/
  | ended
  /-- The destination takes `m` bytes; so long after the relay's start. -/
  | wrote (m elapsed : Nat)
  | ready
  | blocked

inductive Event where
  | accept (conn : Nat) (gate : EngageAfter) (bufSize : Nat) (releaseIdlePipes : Bool)
  | io (conn : Nat) (dir : Dir) (io : Io)
  | abort (conn : Nat)

-- == pools

def PooledBufs.get (pool : List PooledBufs) (bufSize : Nat) : PooledBufs × List PooledBufs :=
  match pool with
  | bufs :: rest => (bufs, rest)
  | [] =>
    let buf := List.replicate (max 4096 (min bufSize relayBufSize)) 0
    (⟨buf, buf⟩, [])

def dropBufs (pool : List PooledBufs) (bufs : PooledBufs) : List PooledBufs :=
  if pool.length < bufPoolMax then bufs :: pool else pool

def dropPipe (pipes : PipePool UInt8) (pipe : PooledPipe) : PipePool UInt8 :=
  pipes.giveBack pipePoolMax pipe.pipe pipe.drained

def dropHalf (pipes : PipePool UInt8) : Half → PipePool UInt8
  | .filling pipe => dropPipe pipes pipe
  | .draining pipe _ => dropPipe pipes pipe
  | .starting | .parked | .done => pipes

-- == steps

namespace Flow

def reads (f : Flow) (bytes : Bytes) : Flow := { f with read := f.read ++ bytes }

def writes (f : Flow) (bytes : Bytes) : Flow := { f with written := f.written ++ bytes }

def ends (f : Flow) : Flow := { f with eof := true }

def closes (f : Flow) : Flow := { f with closed := true }

end Flow

namespace Conn

def onFlow (conn : Conn) (dir : Dir) (f : Flow → Flow) : Conn :=
  { conn with flow := Function.update conn.flow dir (f (conn.flow dir)) }

def goTo (conn : Conn) (phase : Phase) : Conn := { conn with phase := phase }

end Conn

namespace Thread

def put (th : Thread) (c : Nat) (conn : Conn) : Thread :=
  { th with conns := th.conns.insert c conn }

def accept (th : Thread) (c : Nat) (gate : EngageAfter) (bufSize : Nat)
    (releaseIdlePipes : Bool) : Thread :=
  let (bufs, bufPool) := PooledBufs.get th.bufPool bufSize
  { th.put c { phase := .relaying bufs 0 .polling, gate, releaseIdlePipes } with
    bufPool := bufPool }

def leave (th : Thread) (c : Nat) (conn : Conn) (ok : Bool) : Thread :=
  let th := th.put c (conn.goTo (.returned ok))
  match conn.phase with
  | .relaying bufs _ _ => { th with bufPool := dropBufs th.bufPool bufs }
  | .splicing half =>
    { th with pipes := dropHalf (dropHalf th.pipes (half .a2b)) (half .b2a) }
  | .returned _ => th

/-- `relay_until` says that splice should take over. -/
def engage (th : Thread) (c : Nat) (conn : Conn) (bufs : PooledBufs) : Thread :=
  { th.put c (conn.goTo (.splicing fun _ => .starting)) with
    bufPool := dropBufs th.bufPool bufs }

section Relay

variable (th : Thread) (c : Nat) (conn : Conn) (bufs : PooledBufs) (moved : Nat)

def readInto (dir : Dir) (bytes : Bytes) (next : Nat → Relay) (atEnd : Relay) : Thread :=
  let n := min bytes.length (bufs.of dir).length
  if n = 0 then th.put c (conn.goTo (.relaying bufs moved atEnd))
  else
    let bufs := bufs.set dir (bytes.take n ++ (bufs.of dir).drop n)
    th.put c ((conn.onFlow dir (·.reads (bytes.take n))).goTo (.relaying bufs moved (next n)))

/-- A write out of the buffer of a direction, from `done` up to `n`. -/
def writeFrom (dir : Dir) (n done m : Nat) (next : Nat → Relay) (atEnd : Conn → Thread) :
    Thread :=
  if m = 0 then th.leave c conn false
  else if n < done + m then th
  else
    let conn := conn.onFlow dir (·.writes ((((bufs.of dir).take n).drop done).take m))
    if done + m = n then atEnd conn
    else th.put c (conn.goTo (.relaying bufs (moved + m) (next (done + m))))

def relay (dir : Dir) : Relay → Io → Thread
  | .polling, .data bytes =>
    if bytes = [] then th
    else readInto th c conn bufs moved dir bytes (.writing dir · 0) (.closing dir)
  | .polling, .ended =>
    th.put c ((conn.onFlow dir Flow.ends).goTo (.relaying bufs moved (.closing dir)))
  | .writing d n done, .wrote m elapsed =>
    if d = dir then
      writeFrom th c conn bufs moved dir n done m (.writing dir n ·) fun conn =>
        if conn.gate.reached (moved + m) elapsed then th.engage c conn bufs
        else th.put c (conn.goTo (.relaying bufs (moved + m) .polling))
    else th
  | .closing d, .ready =>
    th.put c ((conn.onFlow d Flow.closes).goTo (.relaying bufs moved (.pumping d.other)))
  | .pumping d, .data bytes =>
    if d = dir ∧ bytes ≠ [] then
      readInto th c conn bufs moved dir bytes (.pumpWriting dir · 0) (.lastClosing dir)
    else th
  | .pumping d, .ended =>
    if d = dir then
      th.put c ((conn.onFlow dir Flow.ends).goTo (.relaying bufs moved (.lastClosing dir)))
    else th
  | .pumpWriting d n done, .wrote m _ =>
    if d = dir then
      writeFrom th c conn bufs moved dir n done m (.pumpWriting dir n ·) fun conn =>
        th.put c (conn.goTo (.relaying bufs (moved + m) (.pumping dir)))
    else th
  | .lastClosing d, .ready => th.leave c (conn.onFlow d Flow.closes) true
  | _, _ => th

end Relay

section Splice

variable (th : Thread) (c : Nat) (conn : Conn) (half : Dir → Half)

def putHalf (dir : Dir) (pipes : PipePool UInt8) (conn : Conn) (h : Half) : Thread :=
  { th.put c (conn.goTo (.splicing (Function.update half dir h))) with pipes := pipes }

def finishHalf (dir : Dir) (pipes : PipePool UInt8) (conn : Conn) : Thread :=
  if half dir.other = .done then
    { th.put c (conn.goTo (.returned true)) with pipes := pipes }
  else putHalf th c half dir pipes conn .done

def splice (dir : Dir) : Half → Io → Thread
  | .starting, .ready | .parked, .ready =>
    let (pipe, pipes) := th.pipes.take
    putHalf th c half dir pipes conn (.filling { pipe := pipe })
  | .filling pipe, .data bytes =>
    let chunk := bytes.take pipeCapacity
    if chunk = [] then th
    else
      putHalf th c half dir (th.pipes.fill pipe.pipe chunk) (conn.onFlow dir (·.reads chunk))
        (.draining { pipe with drained := false } chunk.length)
  | .filling pipe, .ended =>
    finishHalf th c half dir (dropPipe th.pipes pipe)
      ((conn.onFlow dir Flow.ends).onFlow dir Flow.closes)
  | .filling pipe, .blocked =>
    if conn.releaseIdlePipes then putHalf th c half dir (dropPipe th.pipes pipe) conn .parked
    else th
  | .draining pipe left, .wrote m _ =>
    if left < m then th
    else
      let conn := conn.onFlow dir (·.writes ((th.pipes.content pipe.pipe).take m))
      let pipes := th.pipes.drain pipe.pipe m
      if left - m = 0 then
        putHalf th c half dir pipes conn (.filling { pipe with drained := true })
      else putHalf th c half dir pipes conn (.draining pipe (left - m))
  | _, _ => th

end Splice

def step (th : Thread) : Event → Thread
  | .accept c gate bufSize releaseIdlePipes =>
    if th.conns.contains c then th else th.accept c gate bufSize releaseIdlePipes
  | .io c dir io =>
    match th.conns.get? c with
    | some conn =>
      match conn.phase with
      | .relaying bufs moved stage => relay th c conn bufs moved dir stage io
      | .splicing half => splice th c conn half dir (half dir) io
      | .returned _ => th
    | none => th
  | .abort c =>
    match th.conns.get? c with
    | some conn =>
      match conn.phase with
      | .returned _ => th
      | _ => th.leave c conn false
    | none => th

end Thread

end Dstack.Gateway.Splice
