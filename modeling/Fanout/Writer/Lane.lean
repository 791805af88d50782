import Fanout.Serializer
import Fanout.Writer.Outlet

/-!
# Lanes

A lane is one channel of a writer: its serializer at work on the outlet. Serving a record fills
buffers and sends the full ones; flushing sends the buffer that is held, however full. After either,
unless it failed, nothing is pending.

`sweep` runs the same step on every lane in channel order up to the first failure, `sweepAll` runs
it on all of them.
-/

namespace Fanout

/-- A result together with the lane and the outlet afterwards. -/
abbrev LaneResult (α : Type) := Except WriterError α × Serializer × Outlet

namespace Lane

/-- Sends the held buffer, if any, and gives it up. -/
def surrender (c : ChannelId) (s : Serializer) (o : Outlet) : LaneResult Unit :=
  match s.buffer with
  | none => (.ok (), s, o)
  | some b =>
    let (r, o) := o.forward c b
    (r, s.release, o)

theorem pendingSize_surrender (c : ChannelId) (s : Serializer) (o : Outlet) :
    (surrender c s o).2.1.pendingSize = s.pendingSize := by
  unfold surrender
  split <;> rfl

/-- Goes on with the pending bytes: sends the held buffer, asks for another and copies, as long as
another one is needed. Each new buffer takes at least one byte, so this ends. -/
def refill (c : ChannelId) (s : Serializer) (o : Outlet) : LaneResult Unit :=
  match _hs : surrender c s o with
  | (.error e, s, o) => (.error e, s, o)
  | (.ok (), emptied, sent) =>
    match sent.request with
    | (.error e, o) => (.error e, emptied, o)
    | (.ok (), granted) =>
      match _hi : emptied.install granted.pool.lent with
      | (progress, next) =>
        if _hp : progress.needsBuffer then refill c next granted else (.ok (), next, granted)
termination_by s.pendingSize
decreasing_by
  have hroom : 0 < granted.pool.lent.remaining := by
    simpa using granted.pool.bufferSize_pos
  have hless := emptied.pendingSize_install_lt granted.pool.lent hroom (by rw [_hi]; exact _hp)
  have hsame := pendingSize_surrender c s o
  rw [_hs] at hsame
  rw [_hi] at hless
  simp only at hsame hless
  omega

/-- Serves a frame to the lane: whether the lane accepted it, and the result. -/
def serve (c : ChannelId) (frame : Except RecordError ByteArray) (s : Serializer) (o : Outlet) :
    Bool × LaneResult Unit :=
  match s.add frame with
  | (.error e, s) => (false, .error e, s, o)
  | (.ok progress, s) => (true, if progress.needsBuffer then refill c s o else (.ok (), s, o))

/-- Sends the held buffer if there is something in it: whether there was. -/
def flush (c : ChannelId) (s : Serializer) (o : Outlet) : LaneResult Bool :=
  if s.hasPending then (.error (.illegalState (.unfinishedRecord c s.pendingSize)), s, o)
  else match s.buffer with
    | none => (.ok false, s, o)
    | some b =>
      if b.isEmpty then (.ok false, s, o)
      else
        let (r, o) := o.forward c b
        (r.map fun _ => true, s.release, o)

/-- Asks for a buffer and holds it. -/
def prime (s : Serializer) (o : Outlet) : LaneResult Unit :=
  match o.request with
  | (.error e, o) => (.error e, s, o)
  | (.ok (), o) => (.ok (), (s.install o.pool.lent).2, o)

/-- Sends an event behind the data of the lane. A lane that gave its buffer up gets another. -/
def sendEvent (e : Event) (c : ChannelId) (s : Serializer) (o : Outlet) : LaneResult Unit :=
  match flush c s o with
  | (.error e, s, o) => (.error e, s, o)
  | (.ok sent, s, o) =>
    match o.sendEvent c e with
    | (.error e, o) => (.error e, s, o)
    | (.ok (), o) => if sent then prime s o else (.ok (), s, o)

/-- Flushes the lane for the end of a superstep. A lane that gave its buffer up gets another. -/
def endSuperstep (c : ChannelId) (s : Serializer) (o : Outlet) : LaneResult Unit :=
  match flush c s o with
  | (.error e, s, o) => (.error e, s, o)
  | (.ok sent, s, o) => if sent then prime s o else (.ok (), s, o)

/-- Flushes the lane and gives its buffer up also if it is empty. -/
def retire (c : ChannelId) (s : Serializer) (o : Outlet) : LaneResult Unit :=
  match flush c s o with
  | (.error e, s, o) => (.error e, s, o)
  | (.ok _, s, o) =>
    match s.buffer with
    | none => (.ok (), s, o)
    | some b => (.ok (), s.release, o.discard b)

/-- Gives up the buffer and the pending bytes of the lane: whether there was a buffer. -/
def clear (s : Serializer) (pool : Pool) : Bool × Serializer × Pool :=
  match s.buffer with
  | none => (false, s.clear, pool)
  | some b => (true, s.clear, pool.recycle b)

/-- Runs a step on each lane in order, from the lane of channel `i` on, up to the first failure. -/
def sweep (step : ChannelId → Serializer → Outlet → LaneResult Unit) :
    (i : Nat) → List Serializer → Outlet → Except WriterError Unit × List Serializer × Outlet
  | _, [], o => (.ok (), [], o)
  | i, s :: lanes, o =>
    match step (ChannelId.ofNat i) s o with
    | (.error e, s, o) => (.error e, s :: lanes, o)
    | (.ok (), s, o) =>
      let (r, lanes, o) := sweep step (i + 1) lanes o
      (r, s :: lanes, o)

/-- Runs a step on each lane in order, from the lane of channel `i` on. The result is that of the
first lane that failed. -/
def sweepAll (step : ChannelId → Serializer → Outlet → LaneResult Unit) :
    (i : Nat) → List Serializer → Outlet → Except WriterError Unit × List Serializer × Outlet
  | _, [], o => (.ok (), [], o)
  | i, s :: lanes, o =>
    let (r, s, o) := step (ChannelId.ofNat i) s o
    let (rs, lanes, o) := sweepAll step (i + 1) lanes o
    (match r with | .error e => .error e | .ok () => rs, s :: lanes, o)

/-- Clears every lane: how many had a buffer. -/
def clearAll : List Serializer → Pool → Nat × List Serializer × Pool
  | [], pool => (0, [], pool)
  | s :: lanes, pool =>
    let (had, s, pool) := clear s pool
    let (n, lanes, pool) := clearAll lanes pool
    (if had then n + 1 else n, s :: lanes, pool)

end Lane

end Fanout
