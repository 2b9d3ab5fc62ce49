/-
Relayed bytes arrive complete, in order, and at the right connection.

At any time what a direction has read is what it has written and what is
in transit (`Live`), and what is in transit is in one place that is its
own: a window of its connection's buffer, or a pipe. A buffer may hold
what is left of an earlier connection, but only the window that was just
read is written. A pipe has an owner, goes to the pool only when it is
empty, and so comes out of it empty (`PipePool.Ok`); the `drained` flag
says so at every point where the relay can be cut off (`HalfOk`).

An end is passed on when nothing is in transit, which is why a call that
returns `Ok` has delivered everything.
-/
import Dstack.Gateway.Splice

namespace Dstack.Gateway.Splice

open Lib

-- == directions

/-- Open, with `transit` read and not written. -/
structure Live (f : Flow) (transit : Bytes) : Prop where
  read : f.read = f.written ++ transit
  eof : f.eof = false
  closed : f.closed = false

structure Spent (f : Flow) : Prop where
  read : f.read = f.written
  eof : f.eof = true
  closed : f.closed = false

structure Over (f : Flow) : Prop where
  read : f.read = f.written
  eof : f.eof = true
  closed : f.closed = true

/-- What is written has been read, in order; and an end is passed on after
all that came before it. -/
structure Faithful (f : Flow) : Prop where
  isPrefix : f.written <+: f.read
  closed : f.closed = true → f.eof = true ∧ f.written = f.read

variable {f : Flow}

lemma Live.faithful {t : Bytes} (h : Live f t) : Faithful f := by
  refine ⟨?_, fun hclosed => ?_⟩
  · rw [h.read]
    exact List.prefix_append _ _
  · rw [h.closed] at hclosed
    cases hclosed

lemma Spent.faithful (h : Spent f) : Faithful f := by
  refine ⟨?_, fun hclosed => ?_⟩
  · exact ⟨[], (List.append_nil _).trans h.read.symm⟩
  · rw [h.closed] at hclosed
    cases hclosed

lemma Over.faithful (h : Over f) : Faithful f := by
  exact ⟨⟨[], (List.append_nil _).trans h.read.symm⟩, fun _ => ⟨h.eof, h.read.symm⟩⟩

lemma Live.reads (h : Live f []) (bytes : Bytes) : Live (f.reads bytes) bytes := by
  refine ⟨?_, h.eof, h.closed⟩
  show f.read ++ bytes = f.written ++ bytes
  rw [h.read, List.append_nil]

lemma Live.writes {t : Bytes} (h : Live f t) (m : Nat) :
    Live (f.writes (t.take m)) (t.drop m) := by
  refine ⟨?_, h.eof, h.closed⟩
  show f.read = f.written ++ t.take m ++ t.drop m
  rw [List.append_assoc, List.take_append_drop]
  exact h.read

lemma Live.ends (h : Live f []) : Spent f.ends :=
  ⟨h.read.trans (List.append_nil _), rfl, h.closed⟩

lemma Spent.closes (h : Spent f) : Over f.closes := ⟨h.read, h.eof, rfl⟩

-- == invariants

/-- What a direction has in the buffer: the bytes from `done` up to `n`. -/
def window (buf : Bytes) (n done : Nat) : Bytes := (buf.take n).drop done

def RelayOk (bufs : PooledBufs) (flow : Dir → Flow) : Relay → Prop
  | .polling => ∀ d, Live (flow d) []
  | .writing dir n done =>
    Live (flow dir) (window (bufs.of dir) n done) ∧ Live (flow dir.other) []
  | .closing dir => Spent (flow dir) ∧ Live (flow dir.other) []
  | .pumping dir => Live (flow dir) [] ∧ Over (flow dir.other)
  | .pumpWriting dir n done =>
    Live (flow dir) (window (bufs.of dir) n done) ∧ Over (flow dir.other)
  | .lastClosing dir => Spent (flow dir) ∧ Over (flow dir.other)

variable {pipes pipes' : PipePool UInt8} {owner owner' : Nat → Option (Nat × Dir)}

def HalfOk (pipes : PipePool UInt8) (owner : Nat → Option (Nat × Dir)) (h : Nat × Dir)
    (f : Flow) : Half → Prop
  | .starting | .parked => Live f []
  | .filling pipe => pipes.Holds owner h pipe.pipe [] ∧ pipe.drained = true ∧ Live f []
  | .draining pipe left => ∃ q, pipes.Holds owner h pipe.pipe q ∧ q.length = left
      ∧ pipe.drained = false ∧ Live f q
  | .done => Over f

def PooledBufs.Usable (bufs : PooledBufs) : Prop := ∀ dir, 0 < (bufs.of dir).length

def ConnOk (pipes : PipePool UInt8) (owner : Nat → Option (Nat × Dir)) (c : Nat)
    (conn : Conn) : Prop :=
  match conn.phase with
  | .relaying bufs _ stage => bufs.Usable ∧ RelayOk bufs conn.flow stage
  | .splicing half => ∀ d, HalfOk pipes owner (c, d) (conn.flow d) (half d)
  | .returned ok => (∀ d, Faithful (conn.flow d)) ∧ (ok = true → ∀ d, Over (conn.flow d))

structure ThreadOk (th : Thread) (owner : Nat → Option (Nat × Dir)) : Prop where
  bufs : ∀ bufs ∈ th.bufPool, bufs.Usable
  pipes : th.pipes.Ok owner
  conns : ∀ c conn, th.conns.get? c = some conn → ConnOk th.pipes owner c conn

lemma forall_dir {P : Dir → Prop} (dir : Dir) (h : P dir) (hother : P dir.other) :
    ∀ d, P d := by
  intro d
  cases dir with
  | a2b =>
    cases d with
    | a2b => exact h
    | b2a => exact hother
  | b2a =>
    cases d with
    | a2b => exact hother
    | b2a => exact h

@[simp] lemma Dir.other_other (dir : Dir) : dir.other.other = dir := by
  cases dir <;> rfl

lemma Dir.other_ne (dir : Dir) : dir.other ≠ dir := by
  cases dir <;> decide

variable {stage : Relay}

lemma RelayOk.faithful {bufs : PooledBufs} {flow : Dir → Flow}
    (h : RelayOk bufs flow stage) : ∀ d, Faithful (flow d) := by
  cases stage with
  | polling => exact fun d => (h d).faithful
  | writing dir n done => exact forall_dir dir h.1.faithful h.2.faithful
  | closing dir => exact forall_dir dir h.1.faithful h.2.faithful
  | pumping dir => exact forall_dir dir h.1.faithful h.2.faithful
  | pumpWriting dir n done => exact forall_dir dir h.1.faithful h.2.faithful
  | lastClosing dir => exact forall_dir dir h.1.faithful h.2.faithful

lemma HalfOk.faithful {h : Nat × Dir} {half : Half}
    (hhalf : HalfOk pipes owner h f half) : Faithful f := by
  cases half with
  | starting => exact Live.faithful hhalf
  | parked => exact Live.faithful hhalf
  | filling pipe => exact hhalf.2.2.faithful
  | draining pipe left =>
    obtain ⟨q, -, -, -, hlive⟩ := hhalf
    exact hlive.faithful
  | done => exact Over.faithful hhalf

lemma ConnOk.faithful {c : Nat} {conn : Conn} (h : ConnOk pipes owner c conn) :
    ∀ d, Faithful (conn.flow d) := by
  unfold ConnOk at h
  split at h
  · exact h.2.faithful
  · exact fun d => (h d).faithful
  · exact h.1

lemma HalfOk.frame {h : Nat × Dir} {half : Half}
    (hkeep : ∀ p q, pipes.Holds owner h p q → pipes'.Holds owner' h p q)
    (hhalf : HalfOk pipes owner h f half) : HalfOk pipes' owner' h f half := by
  cases half with
  | starting => exact hhalf
  | parked => exact hhalf
  | filling pipe =>
    obtain ⟨hholds, hdrained, hlive⟩ := hhalf
    exact ⟨hkeep _ _ hholds, hdrained, hlive⟩
  | draining pipe left =>
    obtain ⟨q, hholds, hlength, hdrained, hlive⟩ := hhalf
    exact ⟨q, hkeep _ _ hholds, hlength, hdrained, hlive⟩
  | done => exact hhalf

def Aside (c : Nat) (pipes : PipePool UInt8) (owner : Nat → Option (Nat × Dir))
    (pipes' : PipePool UInt8) (owner' : Nat → Option (Nat × Dir)) : Prop :=
  ∀ c' d p q, c' ≠ c → pipes.Holds owner (c', d) p q → pipes'.Holds owner' (c', d) p q

lemma Aside.of_untouched {c : Nat} {dir : Dir}
    (h : PipePool.Untouched (c, dir) pipes owner pipes' owner') :
    Aside c pipes owner pipes' owner' :=
  fun _ _ p q hne => h _ p q fun heq => hne (congrArg Prod.fst heq)

lemma ConnOk.frame {c c' : Nat} {conn : Conn} (hframe : Aside c' pipes owner pipes' owner')
    (hne : c ≠ c') (h : ConnOk pipes owner c conn) : ConnOk pipes' owner' c conn := by
  unfold ConnOk at h ⊢
  split at h
  · exact h
  · exact fun d => (h d).frame fun p q => hframe c d p q hne
  · exact h

-- == bookkeeping

section Threads

variable {th : Thread} {c : Nat} {conn : Conn} {dir : Dir} {bufs : PooledBufs} {moved : Nat}

@[simp] lemma onFlow_self (conn : Conn) (dir : Dir) (f : Flow → Flow) :
    (conn.onFlow dir f).flow dir = f (conn.flow dir) :=
  Function.update_self _ _ _

@[simp] lemma onFlow_other (conn : Conn) (dir : Dir) (f : Flow → Flow) :
    (conn.onFlow dir f).flow dir.other = conn.flow dir.other :=
  Function.update_of_ne dir.other_ne _ _

@[simp] lemma goTo_flow (conn : Conn) (phase : Phase) : (conn.goTo phase).flow = conn.flow := rfl

lemma on_onFlow {P Q : Flow → Prop} {f : Flow → Flow} (h : P (f (conn.flow dir)))
    (hother : Q (conn.flow dir.other)) :
    P ((conn.onFlow dir f).flow dir) ∧ Q ((conn.onFlow dir f).flow dir.other) := by
  rw [onFlow_self, onFlow_other]
  exact ⟨h, hother⟩

lemma PooledBufs.Usable.set (h : bufs.Usable) (dir : Dir) {buf : Bytes} (hbuf : 0 < buf.length) :
    (bufs.set dir buf).Usable := by
  intro d
  cases dir with
  | a2b =>
    cases d with
    | a2b => exact hbuf
    | b2a => exact h .b2a
  | b2a =>
    cases d with
    | a2b => exact h .a2b
    | b2a => exact hbuf

@[simp] lemma PooledBufs.of_set (bufs : PooledBufs) (dir : Dir) (buf : Bytes) :
    (bufs.set dir buf).of dir = buf := by
  cases dir <;> rfl

lemma ThreadOk.put (h : ThreadOk th owner) (hconn : ConnOk th.pipes owner c conn) :
    ThreadOk (th.put c conn) owner := by
  refine ⟨h.bufs, h.pipes, fun c' conn' hget => ?_⟩
  replace hget : (th.conns.insert c conn).get? c' = some conn' := hget
  rcases BTreeMap.get?_insert_eq_some.mp hget with ⟨rfl, rfl⟩ | ⟨-, hget⟩
  · exact hconn
  · exact h.conns c' conn' hget

lemma ThreadOk.putPipes (h : ThreadOk th owner) (hpipes : pipes'.Ok owner')
    (hframe : Aside c th.pipes owner pipes' owner') (hconn : ConnOk pipes' owner' c conn) :
    ThreadOk { th.put c conn with pipes := pipes' } owner' := by
  refine ⟨h.bufs, hpipes, fun c' conn' hget => ?_⟩
  replace hget : (th.conns.insert c conn).get? c' = some conn' := hget
  rcases BTreeMap.get?_insert_eq_some.mp hget with ⟨rfl, rfl⟩ | ⟨hne, hget⟩
  · exact hconn
  · exact (h.conns c' conn' hget).frame hframe (Ne.symm hne)

lemma ThreadOk.dropBufs (h : ThreadOk th owner) (hbufs : bufs.Usable) :
    ThreadOk { th with bufPool := dropBufs th.bufPool bufs } owner := by
  refine ⟨fun b hb => ?_, h.pipes, h.conns⟩
  replace hb : b ∈ Splice.dropBufs th.bufPool bufs := hb
  unfold Splice.dropBufs at hb
  split at hb
  · rcases List.mem_cons.mp hb with rfl | hb
    · exact hbufs
    · exact h.bufs b hb
  · exact h.bufs b hb

-- == the first phase

lemma window_read (bytes buf : Bytes) (n : Nat) (hn : n = min bytes.length buf.length) :
    window (bytes.take n ++ buf.drop n) n 0 = bytes.take n := by
  have hlength : (bytes.take n).length = n := by
    rw [List.length_take]
    omega
  rw [window, List.drop_zero, List.take_append_of_le_length (by omega), List.take_of_length_le
    (by omega)]

lemma ThreadOk.readInto (h : ThreadOk th owner) (hbufs : bufs.Usable) {bytes : Bytes}
    (hbytes : bytes ≠ []) (hlive : Live (conn.flow dir) []) {next : Nat → Relay} {atEnd : Relay}
    (hnext : ∀ n bufs flow, flow dir.other = conn.flow dir.other →
      Live (flow dir) (window (bufs.of dir) n 0) → RelayOk bufs flow (next n)) :
    ThreadOk (th.readInto c conn bufs moved dir bytes next atEnd) owner := by
  have hsome : 0 < bytes.length := List.length_pos_iff.mpr hbytes
  have hroom := hbufs dir
  unfold Thread.readInto
  dsimp only
  rw [if_neg (by omega)]
  refine h.put ⟨hbufs.set dir ?_, hnext _ _ _ ?_ ?_⟩
  · rw [List.length_append, List.length_take, List.length_drop]
    omega
  · rw [goTo_flow, onFlow_other]
  · rw [goTo_flow, onFlow_self, PooledBufs.of_set, window_read _ _ _ rfl]
    exact hlive.reads _

lemma ThreadOk.leaveRelay (h : ThreadOk th owner) {ok : Bool}
    (hphase : conn.phase = .relaying bufs moved stage) (hbufs : bufs.Usable)
    (hfaithful : ∀ d, Faithful (conn.flow d)) (hover : ok = true → ∀ d, Over (conn.flow d)) :
    ThreadOk (th.leave c conn ok) owner := by
  unfold Thread.leave
  rw [hphase]
  have hreturned : ConnOk th.pipes owner c (conn.goTo (.returned ok)) := ⟨hfaithful, hover⟩
  exact (h.put hreturned).dropBufs hbufs

lemma window_take_drop (buf : Bytes) (n done m : Nat) :
    (window buf n done).drop m = window buf n (done + m) := by
  rw [window, List.drop_drop, window]

lemma window_end (buf : Bytes) (n : Nat) : window buf n n = [] := by
  rw [window, List.drop_eq_nil_iff, List.length_take]
  omega

lemma ThreadOk.writeFrom (h : ThreadOk th owner) {n done m : Nat}
    (hphase : conn.phase = .relaying bufs moved stage) (hbufs : bufs.Usable)
    (hfaithful : ∀ d, Faithful (conn.flow d))
    (hlive : Live (conn.flow dir) (window (bufs.of dir) n done))
    {next : Nat → Relay} {atEnd : Conn → Thread}
    (hnext : ∀ done flow, flow dir.other = conn.flow dir.other →
      Live (flow dir) (window (bufs.of dir) n done) → RelayOk bufs flow (next done))
    (hend : ∀ conn' : Conn, conn'.flow dir.other = conn.flow dir.other →
      Live (conn'.flow dir) [] → ThreadOk (atEnd conn') owner) :
    ThreadOk (th.writeFrom c conn bufs moved dir n done m next atEnd) owner := by
  have hwritten := hlive.writes m
  rw [window_take_drop] at hwritten
  unfold Thread.writeFrom
  split
  · exact h.leaveRelay hphase hbufs hfaithful nofun
  · split
    · exact h
    · dsimp only
      split
      · next hall =>
          refine hend _ (onFlow_other _ _ _) ?_
          rw [onFlow_self]
          rw [hall, window_end] at hwritten
          exact hwritten
      · refine h.put ⟨hbufs, hnext _ _ ?_ ?_⟩
        · rw [goTo_flow, onFlow_other]
        · rw [goTo_flow, onFlow_self]
          exact hwritten

lemma ThreadOk.relay (h : ThreadOk th owner) (io : Io)
    (hphase : conn.phase = .relaying bufs moved stage) (hbufs : bufs.Usable)
    (hrelay : RelayOk bufs conn.flow stage) :
    ThreadOk (th.relay c conn bufs moved dir stage io) owner := by
  have hfaithful := hrelay.faithful
  cases stage with
  | polling =>
    cases io with
    | data bytes =>
      dsimp only [Thread.relay]
      split
      · exact h
      · next hbytes =>
          exact h.readInto hbufs hbytes (hrelay dir) fun n bufs flow hsame hlive =>
            ⟨hlive, hsame ▸ hrelay dir.other⟩
    | ended =>
      exact h.put ⟨hbufs, on_onFlow (Q := (Live · [])) (hrelay dir).ends (hrelay dir.other)⟩
    | _ => exact h
  | writing d n done =>
    cases io with
    | wrote m elapsed =>
      dsimp only [Thread.relay]
      split
      · next hdir =>
          subst hdir
          obtain ⟨hlive, hother⟩ := hrelay
          refine h.writeFrom hphase hbufs hfaithful hlive
            (fun done flow hsame hlive => ⟨hlive, hsame ▸ hother⟩) fun conn' hsame hlive => ?_
          have hboth : ∀ d', Live (conn'.flow d') [] :=
            forall_dir d hlive (hsame ▸ hother)
          split
          · have hspliced : ConnOk th.pipes owner c
                (conn'.goTo (.splicing fun _ => .starting)) := hboth
            exact (h.put hspliced).dropBufs hbufs
          · exact h.put ⟨hbufs, hboth⟩
      · exact h
    | _ => exact h
  | closing d =>
    cases io with
    | ready =>
      obtain ⟨hspent, hother⟩ := hrelay
      refine h.put ⟨hbufs, ?_⟩
      rw [RelayOk, Dir.other_other]
      exact (on_onFlow (Q := (Live · [])) hspent.closes hother).symm
    | _ => exact h
  | pumping d =>
    obtain ⟨hlive, hother⟩ := hrelay
    cases io with
    | data bytes =>
      dsimp only [Thread.relay]
      split
      · next hdir =>
          obtain ⟨rfl, hbytes⟩ := hdir
          exact h.readInto hbufs hbytes hlive fun n bufs flow hsame hlive =>
            ⟨hlive, hsame ▸ hother⟩
      · exact h
    | ended =>
      dsimp only [Thread.relay]
      split
      · next hdir =>
          subst hdir
          exact h.put ⟨hbufs, on_onFlow hlive.ends hother⟩
      · exact h
    | _ => exact h
  | pumpWriting d n done =>
    cases io with
    | wrote m elapsed =>
      dsimp only [Thread.relay]
      split
      · next hdir =>
          subst hdir
          obtain ⟨hlive, hother⟩ := hrelay
          refine h.writeFrom hphase hbufs hfaithful hlive
            (fun done flow hsame hlive => ⟨hlive, hsame ▸ hother⟩) fun conn' hsame hlive => ?_
          exact h.put ⟨hbufs, hlive, hsame ▸ hother⟩
      · exact h
    | _ => exact h
  | lastClosing d =>
    cases io with
    | ready =>
      obtain ⟨hspent, hother⟩ := hrelay
      have hboth := on_onFlow hspent.closes hother
      have hover : ∀ d', Over ((conn.onFlow d Flow.closes).flow d') :=
        forall_dir d hboth.1 hboth.2
      exact h.leaveRelay hphase hbufs (fun d' => (hover d').faithful) fun _ => hover
    | _ => exact h

-- == the second phase

lemma Live.over (h : Live f []) : Over f.ends.closes := h.ends.closes

variable {half : Dir → Half}

lemma ThreadOk.putHalf (h : ThreadOk th owner) {conn' : Conn} {next : Half}
    (hconn : ∀ d, HalfOk th.pipes owner (c, d) (conn.flow d) (half d)) (hpipes : pipes'.Ok owner')
    (hframe : PipePool.Untouched (c, dir) th.pipes owner pipes' owner')
    (hsame : conn'.flow dir.other = conn.flow dir.other)
    (hnext : HalfOk pipes' owner' (c, dir) (conn'.flow dir) next) :
    ThreadOk (th.putHalf c half dir pipes' conn' next) owner' := by
  refine h.putPipes hpipes (.of_untouched hframe) (forall_dir dir ?_ ?_)
  · rw [Function.update_self]
    exact hnext
  · rw [Function.update_of_ne dir.other_ne, goTo_flow, hsame]
    exact (hconn dir.other).frame fun p q =>
      hframe _ p q fun heq => dir.other_ne (congrArg Prod.snd heq)

lemma ThreadOk.finishHalf (h : ThreadOk th owner) {conn' : Conn}
    (hconn : ∀ d, HalfOk th.pipes owner (c, d) (conn.flow d) (half d)) (hpipes : pipes'.Ok owner')
    (hframe : PipePool.Untouched (c, dir) th.pipes owner pipes' owner')
    (hsame : conn'.flow dir.other = conn.flow dir.other) (hover : Over (conn'.flow dir)) :
    ThreadOk (th.finishHalf c half dir pipes' conn') owner' := by
  unfold Thread.finishHalf
  split
  · next hdone =>
      have hother := hconn dir.other
      rw [hdone, ← hsame] at hother
      have hboth : ∀ d, Over (conn'.flow d) := forall_dir dir hover hother
      exact h.putPipes hpipes (.of_untouched hframe)
        ⟨fun d => (hboth d).faithful, fun _ => hboth⟩
  · exact h.putHalf hconn hpipes hframe hsame hover

lemma ThreadOk.takePipe (h : ThreadOk th owner)
    (hconn : ∀ d, HalfOk th.pipes owner (c, d) (conn.flow d) (half d))
    (hlive : Live (conn.flow dir) []) :
    ∃ owner', ThreadOk (th.putHalf c half dir th.pipes.take.2 conn
      (.filling { pipe := th.pipes.take.1 })) owner' := by
  obtain ⟨hok, hholds, hframe⟩ := h.pipes.take (c, dir)
  exact ⟨_, h.putHalf hconn hok hframe rfl ⟨hholds, rfl, hlive⟩⟩

lemma ThreadOk.splice (h : ThreadOk th owner) (io : Io)
    (hconn : ∀ d, HalfOk th.pipes owner (c, d) (conn.flow d) (half d)) :
    ∃ owner', ThreadOk (th.splice c conn half dir (half dir) io) owner' := by
  have hhalf := hconn dir
  cases hstage : half dir with
  | starting =>
    rw [hstage] at hhalf
    cases io with
    | ready => exact h.takePipe hconn hhalf
    | _ => exact ⟨owner, h⟩
  | parked =>
    rw [hstage] at hhalf
    cases io with
    | ready => exact h.takePipe hconn hhalf
    | _ => exact ⟨owner, h⟩
  | filling pipe =>
    rw [hstage] at hhalf
    obtain ⟨hholds, hdrained, hlive⟩ := hhalf
    cases io with
    | data bytes =>
      dsimp only [Thread.splice]
      split
      · exact ⟨owner, h⟩
      · obtain ⟨hok, hfilled, hframe⟩ := h.pipes.fill hholds (bytes.take pipeCapacity)
        refine ⟨owner, h.putHalf hconn hok hframe (onFlow_other _ _ _)
          ⟨_, hfilled, rfl, rfl, ?_⟩⟩
        rw [onFlow_self]
        exact hlive.reads _
    | ended =>
      obtain ⟨hok, hframe⟩ := h.pipes.giveBack hholds pipePoolMax pipe.drained fun _ => rfl
      refine ⟨_, h.finishHalf hconn hok hframe ?_ ?_⟩
      · rw [onFlow_other, onFlow_other]
      · rw [onFlow_self, onFlow_self]
        exact hlive.over
    | blocked =>
      dsimp only [Thread.splice]
      split
      · obtain ⟨hok, hframe⟩ := h.pipes.giveBack hholds pipePoolMax pipe.drained fun _ => rfl
        exact ⟨_, h.putHalf hconn hok hframe rfl hlive⟩
      · exact ⟨owner, h⟩
    | _ => exact ⟨owner, h⟩
  | draining pipe left =>
    rw [hstage] at hhalf
    obtain ⟨q, hholds, hlength, hdrained, hlive⟩ := hhalf
    cases io with
    | wrote m elapsed =>
      dsimp only [Thread.splice]
      split
      · exact ⟨owner, h⟩
      · obtain ⟨hok, hleft, hframe⟩ := h.pipes.drain hholds m
        have hwritten : Live ((conn.onFlow dir (·.writes ((th.pipes.content pipe.pipe).take
            m))).flow dir) (q.drop m) := by
          rw [onFlow_self, hholds.content]
          exact hlive.writes m
        split
        · next hall =>
            have hnone : q.drop m = [] := by
              rw [List.drop_eq_nil_iff]
              omega
            rw [hnone] at hleft hwritten
            exact ⟨owner, h.putHalf hconn hok hframe (onFlow_other _ _ _)
              ⟨hleft, rfl, hwritten⟩⟩
        · refine ⟨owner, h.putHalf hconn hok hframe (onFlow_other _ _ _)
            ⟨_, hleft, ?_, hdrained, hwritten⟩⟩
          rw [List.length_drop, hlength]
    | _ => exact ⟨owner, h⟩
  | done =>
    cases io with
    | _ => exact ⟨owner, h⟩

lemma HalfOk.drop {h : Nat × Dir} {half : Half} (hpipes : pipes.Ok owner)
    (hhalf : HalfOk pipes owner h f half) :
    ∃ owner', (dropHalf pipes half).Ok owner'
      ∧ PipePool.Untouched h pipes owner (dropHalf pipes half) owner' := by
  cases half with
  | starting => exact ⟨owner, hpipes, fun _ _ _ _ hholds => hholds⟩
  | parked => exact ⟨owner, hpipes, fun _ _ _ _ hholds => hholds⟩
  | done => exact ⟨owner, hpipes, fun _ _ _ _ hholds => hholds⟩
  | filling pipe =>
    exact ⟨_, hpipes.giveBack hhalf.1 pipePoolMax pipe.drained fun _ => rfl⟩
  | draining pipe left =>
    obtain ⟨q, hholds, -, hdrained, -⟩ := hhalf
    refine ⟨_, hpipes.giveBack hholds pipePoolMax pipe.drained fun hempty => ?_⟩
    rw [hdrained] at hempty
    cases hempty

lemma ThreadOk.leaveSplice (h : ThreadOk th owner) (hphase : conn.phase = .splicing half)
    (hconn : ∀ d, HalfOk th.pipes owner (c, d) (conn.flow d) (half d)) :
    ∃ owner', ThreadOk (th.leave c conn false) owner' := by
  obtain ⟨owner₁, hok₁, hframe₁⟩ := (hconn .a2b).drop h.pipes
  have hsecond : HalfOk (dropHalf th.pipes (half .a2b)) owner₁ (c, .b2a) (conn.flow .b2a)
      (half .b2a) :=
    (hconn .b2a).frame fun p q => hframe₁ _ p q (by simp)
  obtain ⟨owner₂, hok₂, hframe₂⟩ := hsecond.drop hok₁
  unfold Thread.leave
  rw [hphase]
  refine ⟨owner₂, h.putPipes hok₂ ?_ ⟨fun d => (hconn d).faithful, nofun⟩⟩
  intro c' d p q hne hholds
  exact Aside.of_untouched hframe₂ c' d p q hne (Aside.of_untouched hframe₁ c' d p q hne hholds)

-- == steps

lemma usable_replicate (bufSize : Nat) :
    let buf := List.replicate (max 4096 (min bufSize relayBufSize)) (0 : UInt8)
    PooledBufs.Usable ⟨buf, buf⟩ := by
  intro buf dir
  have hlength : 0 < buf.length := by
    rw [List.length_replicate]
    omega
  cases dir with
  | a2b => exact hlength
  | b2a => exact hlength

lemma get_usable {pool : List PooledBufs} (hpool : ∀ bufs ∈ pool, bufs.Usable) (bufSize : Nat) :
    (PooledBufs.get pool bufSize).1.Usable
      ∧ ∀ bufs ∈ (PooledBufs.get pool bufSize).2, bufs.Usable := by
  cases pool with
  | nil => exact ⟨usable_replicate bufSize, nofun⟩
  | cons bufs rest => exact List.forall_mem_cons.mp hpool

lemma ThreadOk.accept (h : ThreadOk th owner) (c : Nat) (gate : EngageAfter) (bufSize : Nat)
    (releaseIdlePipes : Bool) :
    ThreadOk (th.accept c gate bufSize releaseIdlePipes) owner := by
  obtain ⟨husable, hrest⟩ := get_usable h.bufs bufSize
  let conn : Conn :=
    { phase := .relaying (PooledBufs.get th.bufPool bufSize).1 0 .polling, gate, releaseIdlePipes }
  have hconn : ConnOk th.pipes owner c conn := ⟨husable, fun _ => ⟨rfl, rfl, rfl⟩⟩
  have hput := h.put hconn
  exact ⟨hrest, hput.pipes, hput.conns⟩

lemma ThreadOk.step (h : ThreadOk th owner) (event : Event) :
    ∃ owner', ThreadOk (th.step event) owner' := by
  cases event with
  | accept c gate bufSize releaseIdlePipes =>
    refine ⟨owner, ?_⟩
    dsimp only [Thread.step]
    split
    · exact h
    · exact h.accept c gate bufSize releaseIdlePipes
  | io c dir io =>
    dsimp only [Thread.step]
    split
    · next conn hget =>
        have hconn := h.conns c conn hget
        unfold ConnOk at hconn
        split
        · next hphase =>
            rw [hphase] at hconn
            exact ⟨owner, h.relay io hphase hconn.1 hconn.2⟩
        · next hphase =>
            rw [hphase] at hconn
            exact h.splice io hconn
        · exact ⟨owner, h⟩
    · exact ⟨owner, h⟩
  | abort c =>
    dsimp only [Thread.step]
    split
    · next conn hget =>
        have hconn := h.conns c conn hget
        have hfaithful := hconn.faithful
        unfold ConnOk at hconn
        cases hphase : conn.phase with
        | relaying bufs moved stage =>
          rw [hphase] at hconn
          exact ⟨owner, h.leaveRelay hphase hconn.1 hfaithful nofun⟩
        | splicing half =>
          rw [hphase] at hconn
          exact h.leaveSplice hphase hconn
        | returned ok => exact ⟨owner, h⟩
    · exact ⟨owner, h⟩

lemma ThreadOk.run (h : ThreadOk th owner) (events : List Event) :
    ∃ owner', ThreadOk (events.foldl Thread.step th) owner' := by
  induction events generalizing th owner with
  | nil => exact ⟨owner, h⟩
  | cons event events ih =>
    obtain ⟨owner', h'⟩ := h.step event
    exact ih h'

lemma threadOk_start : ThreadOk {} fun _ => none := by
  refine ⟨nofun, PipePool.ok_empty, fun c conn hget => ?_⟩
  rw [BTreeMap.get?_empty] at hget
  cases hget

/-- Whatever happens to the connections of a thread, what each of them has
written to one side is a prefix of what it has read from the other, no end
is passed on early, and a call that returns `Ok` has passed on everything. -/
theorem relay_keeps_streams (events : List Event) (c : Nat) (conn : Conn)
    (hconn : (events.foldl Thread.step {}).conns.get? c = some conn) :
    (∀ dir, (conn.flow dir).written <+: (conn.flow dir).read
        ∧ ((conn.flow dir).closed = true →
            (conn.flow dir).eof = true ∧ (conn.flow dir).written = (conn.flow dir).read))
      ∧ (conn.phase = .returned true →
          ∀ dir, (conn.flow dir).written = (conn.flow dir).read
            ∧ (conn.flow dir).eof = true ∧ (conn.flow dir).closed = true) := by
  obtain ⟨owner, h⟩ := threadOk_start.run events
  have hok := h.conns c conn hconn
  refine ⟨fun dir => ⟨(hok.faithful dir).isPrefix, (hok.faithful dir).closed⟩, ?_⟩
  intro hreturned dir
  unfold ConnOk at hok
  rw [hreturned] at hok
  have hover := hok.2 rfl dir
  exact ⟨hover.read.symm, hover.eof, hover.closed⟩

/-- The pipe that one direction holds. -/
def Half.pipe? : Half → Option Nat
  | .filling pipe | .draining pipe _ => some pipe.pipe
  | .starting | .parked | .done => none

lemma owner_of_pipe {h : Nat × Dir} {f : Flow} {half : Half} {p : Nat}
    (hok : HalfOk pipes owner h f half) (hp : half.pipe? = some p) : owner p = some h := by
  cases half with
  | starting | parked | done => cases hp
  | filling pipe =>
    cases hp
    exact hok.1.1
  | draining pipe left =>
    cases hp
    obtain ⟨q, hholds, -⟩ := hok
    exact hholds.1

/-- Along any run a pipe in the pool is empty, a pipe that a direction of a
connection has is not in the pool, and no other direction has it. -/
theorem pipes_have_one_user (events : List Event) :
    (∀ p ∈ (events.foldl Thread.step {}).pipes.pool,
        (events.foldl Thread.step {}).pipes.content p = [])
      ∧ ∀ c conn half dir p, (events.foldl Thread.step {}).conns.get? c = some conn →
        conn.phase = .splicing half → (half dir).pipe? = some p →
        p ∉ (events.foldl Thread.step {}).pipes.pool
          ∧ ∀ c' conn' half' dir', (events.foldl Thread.step {}).conns.get? c' = some conn' →
            conn'.phase = .splicing half' → (half' dir').pipe? = some p →
            (c', dir') = (c, dir) := by
  obtain ⟨owner, h⟩ := threadOk_start.run events
  have howner : ∀ c conn half dir p, (events.foldl Thread.step {}).conns.get? c = some conn →
      conn.phase = .splicing half → (half dir).pipe? = some p → owner p = some (c, dir) := by
    intro c conn half dir p hconn hphase hp
    have hok := h.conns c conn hconn
    unfold ConnOk at hok
    rw [hphase] at hok
    exact owner_of_pipe (hok dir) hp
  refine ⟨fun p hp => ?_, fun c conn half dir p hconn hphase hp => ?_⟩
  · rw [PipePool.content, (h.pipes.pooled p hp).2]
    rfl
  · have hown := howner c conn half dir p hconn hphase hp
    refine ⟨h.pipes.not_pooled hown, fun c' conn' half' dir' hconn' hphase' hp' => ?_⟩
    have hown' := howner c' conn' half' dir' p hconn' hphase' hp'
    exact Option.some.inj (hown'.symm.trans hown)

end Threads

/-- A connection gives one of its pipes back and is cut off with a byte in
the other; the next one is spliced with what was given back. -/
def recycling : List Event :=
  [.accept 0 { afterBytes := some 1 } 0 true, .io 0 .a2b (.data [1, 2]), .io 0 .a2b (.wrote 2 0),
   .io 0 .a2b .ready, .io 0 .b2a .ready, .io 0 .a2b (.data [3, 4]), .io 0 .a2b (.wrote 1 0),
   .io 0 .b2a .blocked, .abort 0,
   .accept 1 { afterBytes := some 1 } 0 true, .io 1 .b2a (.data [5]), .io 1 .b2a (.wrote 1 0),
   .io 1 .a2b .ready, .io 1 .a2b (.data [6, 7]), .io 1 .b2a .ready, .io 1 .a2b (.wrote 2 0),
   .io 1 .b2a .ended, .io 1 .a2b .ended]

-- The buffers of the first phase have 4096 bytes.
set_option maxRecDepth 100000 in
theorem recycling_keeps_streams :
    ∃ conn, (recycling.foldl Thread.step {}).conns.get? 1 = some conn
      ∧ (conn.flow .a2b).read = [6, 7] ∧ (conn.flow .b2a).read = [5]
      ∧ ∀ dir, (conn.flow dir).written = (conn.flow dir).read
          ∧ (conn.flow dir).eof = true ∧ (conn.flow dir).closed = true :=
  ⟨_, rfl, rfl, rfl, (relay_keeps_streams recycling 1 _ rfl).2 rfl⟩

end Dstack.Gateway.Splice
