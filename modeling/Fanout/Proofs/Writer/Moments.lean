import Fanout.Proofs.Writer.Likeness

/-!
# Moments

The operations of a writer written out with the moments that they come by: a lane asks for a buffer
or is given one, a buffer is to be sent, or a buffer that a lane was seen to hold is not there any
more when it is taken. Each moment is kept with the serializers as they are then.

* `Lane.result_watchServe`, `Lane.result_watchFlush` and the others — without the moments, a step of
  a lane is what it is.
* `Writer.result_watch` — and so is an operation.
-/

namespace Fanout

/-- What happens at a moment. -/
inductive Point where
  /-- A lane asks for a buffer. -/
  | ask
  /-- A lane is given a buffer. -/
  | install
  /-- A buffer that a lane gave up is to be sent. -/
  | send (b : Buffer)
  /-- A lane is to give up the buffer that it was seen to hold, and there is none. -/
  | vanish
  deriving DecidableEq

/-- A moment of a channel, and the state of the serializers then. -/
structure Moment (τ : Type) where
  channel : ChannelId
  state : τ
  point : Point

/-- A result, and the moments on the way to it. -/
structure Watched (τ α : Type) where
  moments : List (Moment τ)
  result : α

namespace Watched

variable {τ υ α β : Type}

instance : Monad (Watched τ) where
  pure a := ⟨[], a⟩
  bind x f := ⟨x.moments ++ (f x.result).moments, (f x.result).result⟩

@[simp] theorem moments_pure (a : α) : (pure a : Watched τ α).moments = [] := rfl

@[simp] theorem result_pure (a : α) : (pure a : Watched τ α).result = a := rfl

@[simp] theorem moments_bind (x : Watched τ α) (f : α → Watched τ β) :
    (x >>= f).moments = x.moments ++ (f x.result).moments := rfl

@[simp] theorem result_bind (x : Watched τ α) (f : α → Watched τ β) :
    (x >>= f).result = (f x.result).result := rfl

def note (c : ChannelId) (state : τ) (p : Point) : Watched τ Unit := ⟨[⟨c, state, p⟩], ()⟩

/-- The same moments with what another state shows of them. -/
def view (f : τ → υ) (x : Watched τ α) : Watched υ α :=
  ⟨x.moments.map fun m => ⟨m.channel, f m.state, m.point⟩, x.result⟩

@[simp] theorem result_view (f : τ → υ) (x : Watched τ α) : (x.view f).result = x.result := rfl

end Watched

/-- Work on one lane, with its serializer at every moment. -/
abbrev LaneWatch := Watched Serializer

/-- Work of a writer, with all its serializers at every moment. -/
abbrev WriterWatch := Watched (List Serializer)

/-! ## Lanes -/

namespace Lane

/-- Sends the held buffer, if any, and gives it up. -/
def watchSurrender (c : ChannelId) (s : Serializer) (o : Outlet) : LaneWatch (LaneResult Unit) :=
  match s.buffer with
  | none => pure (.ok (), s, o)
  | some b => do
    .note c s.release (.send b)
    let (r, o) := o.forward c b
    pure (r, s.release, o)

@[simp] theorem result_watchSurrender (c : ChannelId) (s : Serializer) (o : Outlet) :
    (watchSurrender c s o).result = surrender c s o := by
  unfold watchSurrender surrender
  cases s.buffer <;> rfl

/-- Goes on with the pending bytes, as long as another buffer is needed. -/
def watchRefill (c : ChannelId) (s : Serializer) (o : Outlet) : LaneWatch (LaneResult Unit) :=
  match _hs : watchSurrender c s o with
  | ⟨handed, .error e, s, o⟩ => ⟨handed, .error e, s, o⟩
  | ⟨handed, .ok (), emptied, sent⟩ =>
    match sent.request with
    | (.error e, o) => ⟨handed ++ [⟨c, emptied, .ask⟩], .error e, emptied, o⟩
    | (.ok (), granted) =>
      match _hi : emptied.install granted.pool.lent with
      | (progress, next) =>
        let round := handed ++ [⟨c, emptied, .ask⟩, ⟨c, emptied, .install⟩]
        if _hp : progress.needsBuffer then
          let later := watchRefill c next granted
          ⟨round ++ later.moments, later.result⟩
        else ⟨round, .ok (), next, granted⟩
termination_by s.pendingSize
decreasing_by
  -- handing over leaves the pending bytes alone, and a new buffer takes some of them
  have hroom : 0 < granted.pool.lent.remaining := by
    simpa using granted.pool.bufferSize_pos
  have hless := emptied.pendingSize_install_lt granted.pool.lent hroom (by rw [_hi]; exact _hp)
  have hsame := pendingSize_surrender c s o
  rw [← result_watchSurrender, _hs] at hsame
  rw [_hi] at hless
  simp only at hsame hless
  omega

@[simp] theorem result_watchRefill (c : ChannelId) (s : Serializer) (o : Outlet) :
    (watchRefill c s o).result = refill c s o := by
  have hsurrender {s emptied : Serializer} {o sent : Outlet} {r : Except WriterError Unit}
      {handed : List (Moment Serializer)} (hout : watchSurrender c s o = ⟨handed, r, emptied, sent⟩) :
      surrender c s o = (r, emptied, sent) := by
    rw [← result_watchSurrender, hout]
  fun_induction watchRefill c s o with
  | case1 s o handed e s' o' hout => rw [refill_eq, hsurrender hout]
  | case2 s o handed emptied sent hout e o' hrequest =>
    rw [refill_eq, hsurrender hout]
    simp only [hrequest]
  | case3 s o handed emptied sent hout granted hrequest progress next hinstall _ hp _ ih =>
    rw [refill_eq, hsurrender hout]
    simp only [hrequest, hinstall, if_pos hp]
    exact ih
  | case4 s o handed emptied sent hout granted hrequest progress next hinstall _ hp =>
    rw [refill_eq, hsurrender hout]
    simp only [hrequest, hinstall, if_neg hp]

/-- Serves a frame to the lane. -/
def watchServe (c : ChannelId) (frame : Except RecordError ByteArray) (s : Serializer)
    (o : Outlet) : LaneWatch (Bool × LaneResult Unit) :=
  match s.add frame with
  | (.error e, s) => pure (false, .error e, s, o)
  | (.ok progress, s) =>
    if progress.needsBuffer then do
      let refilled ← watchRefill c s o
      pure (true, refilled)
    else pure (true, .ok (), s, o)

@[simp] theorem result_watchServe (c : ChannelId) (frame : Except RecordError ByteArray)
    (s : Serializer) (o : Outlet) : (watchServe c frame s o).result = serve c frame s o := by
  unfold watchServe serve
  rcases s.add frame with ⟨_ | progress, s'⟩
  · rfl
  · by_cases hp : progress.needsBuffer = true
    · simp only [if_pos hp, Watched.result_bind, Watched.result_pure, result_watchRefill]
    · simp only [if_neg hp, Watched.result_pure]

/-- Sends the held buffer if there is something in it: first the buffer is looked at, then it is
taken. -/
def watchFlush (c : ChannelId) (s : Serializer) (o : Outlet) : LaneWatch (LaneResult Bool) :=
  if s.hasPending then pure (.error (.illegalState (.unfinishedRecord c s.pendingSize)), s, o)
  else if s.buffer.all Buffer.isEmpty then pure (.ok false, s, o)
  else match s.buffer with
    | some b => do
      .note c s.release (.send b)
      let (r, o) := o.forward c b
      pure (r.map fun _ => true, s.release, o)
    | none => do
      .note c s .vanish
      pure (.ok false, s, o)

@[simp] theorem result_watchFlush (c : ChannelId) (s : Serializer) (o : Outlet) :
    (watchFlush c s o).result = flush c s o := by
  unfold watchFlush flush
  by_cases hs : s.hasPending = true
  · rw [if_pos hs, if_pos hs]
    rfl
  · rw [if_neg hs, if_neg hs]
    cases s.buffer with
    | none => rfl
    | some b =>
      show Watched.result (if b.isEmpty = true then _ else _) = if b.isEmpty = true then _ else _
      by_cases hempty : b.isEmpty = true
      · rw [if_pos hempty, if_pos hempty]
        rfl
      · rw [if_neg hempty, if_neg hempty]
        rfl

/-- Asks for a buffer and holds it. -/
def watchPrime (c : ChannelId) (s : Serializer) (o : Outlet) : LaneWatch (LaneResult Unit) := do
  .note c s .ask
  match o.request with
  | (.error e, o) => pure (.error e, s, o)
  | (.ok (), o) => do
    .note c s .install
    pure (.ok (), (s.install o.pool.lent).2, o)

/-- A lane that gave its buffer up gets another. -/
def watchReprime (sent : Bool) (c : ChannelId) (s : Serializer) (o : Outlet) :
    LaneWatch (LaneResult Unit) :=
  if sent then watchPrime c s o else pure (.ok (), s, o)

@[simp] theorem result_watchReprime (sent : Bool) (c : ChannelId) (s : Serializer) (o : Outlet) :
    (watchReprime sent c s o).result = if sent then prime s o else (.ok (), s, o) := by
  unfold watchReprime watchPrime prime
  cases sent with
  | false => rfl
  | true => rcases hrequest : o.request with ⟨_ | _, o'⟩ <;> simp

/-- Sends an event behind the data of the lane. -/
def watchSendEvent (e : Event) (c : ChannelId) (s : Serializer) (o : Outlet) :
    LaneWatch (LaneResult Unit) := do
  let flushed ← watchFlush c s o
  match flushed with
  | (.error e, s, o) => pure (.error e, s, o)
  | (.ok sent, s, o) =>
    match o.sendEvent c e with
    | (.error e, o) => pure (.error e, s, o)
    | (.ok (), o) => watchReprime sent c s o

@[simp] theorem result_watchSendEvent (e : Event) (c : ChannelId) (s : Serializer) (o : Outlet) :
    (watchSendEvent e c s o).result = sendEvent e c s o := by
  unfold watchSendEvent sendEvent
  rw [Watched.result_bind, result_watchFlush]
  rcases flush c s o with ⟨_ | sent, s', o'⟩
  · rfl
  · dsimp only
    rcases o'.sendEvent c e with ⟨_ | _, last⟩
    · rfl
    · exact result_watchReprime sent c s' last

/-- Flushes the lane for the end of a superstep. -/
def watchEndSuperstep (c : ChannelId) (s : Serializer) (o : Outlet) :
    LaneWatch (LaneResult Unit) := do
  let flushed ← watchFlush c s o
  match flushed with
  | (.error e, s, o) => pure (.error e, s, o)
  | (.ok sent, s, o) => watchReprime sent c s o

@[simp] theorem result_watchEndSuperstep (c : ChannelId) (s : Serializer) (o : Outlet) :
    (watchEndSuperstep c s o).result = endSuperstep c s o := by
  unfold watchEndSuperstep endSuperstep
  rw [Watched.result_bind, result_watchFlush]
  rcases flush c s o with ⟨_ | sent, s', o'⟩
  · rfl
  · exact result_watchReprime sent c s' o'

/-- Flushes the lane and gives its buffer up also if it is empty. -/
def watchRetire (c : ChannelId) (s : Serializer) (o : Outlet) : LaneWatch (LaneResult Unit) := do
  let flushed ← watchFlush c s o
  match flushed with
  | (.error e, s, o) => pure (.error e, s, o)
  | (.ok _, s, o) =>
    match s.buffer with
    | none => pure (.ok (), s, o)
    | some b => pure (.ok (), s.release, o.discard b)

@[simp] theorem result_watchRetire (c : ChannelId) (s : Serializer) (o : Outlet) :
    (watchRetire c s o).result = retire c s o := by
  unfold watchRetire retire
  rw [Watched.result_bind, result_watchFlush]
  rcases flush c s o with ⟨_ | _, s', o'⟩
  · rfl
  · cases hb : s'.buffer <;> simp only [hb] <;> rfl

/-! ## All lanes -/

variable {watchStep : ChannelId → Serializer → Outlet → LaneWatch (LaneResult Unit)}
  {step : ChannelId → Serializer → Outlet → LaneResult Unit}

/-- Runs a step on each lane in order, behind those in `front`, up to the first failure. -/
def watchSweep (watchStep : ChannelId → Serializer → Outlet → LaneWatch (LaneResult Unit)) :
    (front lanes : List Serializer) → Outlet →
      WriterWatch (Except WriterError Unit × List Serializer × Outlet)
  | _, [], o => pure (.ok (), [], o)
  | front, s :: lanes, o => do
    let out ← (watchStep (ChannelId.ofNat front.length) s o).view (front ++ · :: lanes)
    match out with
    | (.error e, s, o) => pure (.error e, s :: lanes, o)
    | (.ok (), s, o) => do
      let (r, lanes, o) ← watchSweep watchStep (front ++ [s]) lanes o
      pure (r, s :: lanes, o)

theorem result_watchSweep (hstep : ∀ c s o, (watchStep c s o).result = step c s o)
    (front lanes : List Serializer) (o : Outlet) :
    (watchSweep watchStep front lanes o).result = sweep step front.length lanes o := by
  induction lanes generalizing front o with
  | nil => rfl
  | cons s lanes ih =>
    unfold watchSweep sweep
    rw [Watched.result_bind, Watched.result_view, hstep]
    rcases step (ChannelId.ofNat front.length) s o with ⟨_ | _, s', o'⟩
    · rfl
    · have hrest := ih (front ++ [s']) o'
      rw [List.length_append] at hrest
      dsimp only
      rw [Watched.result_bind, hrest]
      rfl

/-- Runs a step on each lane in order, behind those in `front`. -/
def watchSweepAll (watchStep : ChannelId → Serializer → Outlet → LaneWatch (LaneResult Unit)) :
    (front lanes : List Serializer) → Outlet →
      WriterWatch (Except WriterError Unit × List Serializer × Outlet)
  | _, [], o => pure (.ok (), [], o)
  | front, s :: lanes, o => do
    let (r, s, o) ← (watchStep (ChannelId.ofNat front.length) s o).view (front ++ · :: lanes)
    let (rs, lanes, o) ← watchSweepAll watchStep (front ++ [s]) lanes o
    pure (match r with | .error e => .error e | .ok () => rs, s :: lanes, o)

theorem result_watchSweepAll (hstep : ∀ c s o, (watchStep c s o).result = step c s o)
    (front lanes : List Serializer) (o : Outlet) :
    (watchSweepAll watchStep front lanes o).result = sweepAll step front.length lanes o := by
  induction lanes generalizing front o with
  | nil => rfl
  | cons s lanes ih =>
    unfold watchSweepAll sweepAll
    rw [Watched.result_bind, Watched.result_view, hstep]
    rcases step (ChannelId.ofNat front.length) s o with ⟨r, s', o'⟩
    have hrest := ih (front ++ [s']) o'
    rw [List.length_append] at hrest
    dsimp only
    rw [Watched.result_bind, hrest]
    rfl

end Lane

/-! ## Operations -/

namespace Writer

variable {σ : Type}

/-- Serves a frame to the lanes of some channels, up to the first that fails. -/
def watchServe (frame : Except RecordError ByteArray) :
    List ChannelId → List Serializer → Outlet → WriterWatch
      (List ChannelId × Except WriterError Unit × List Serializer × Outlet)
  | [], lanes, o => pure ([], .ok (), lanes, o)
  | c :: targets, lanes, o => do
    let served ← (Lane.watchServe c frame (laneOf lanes c) o).view (lanes.set c.toNat)
    match served with
    | (accepted, .error e, s, o) =>
      pure (if accepted then [c] else [], .error e, lanes.set c.toNat s, o)
    | (_, .ok (), s, o) => do
      let (accepted, r, lanes, o) ← watchServe frame targets (lanes.set c.toNat s) o
      pure (c :: accepted, r, lanes, o)

theorem result_watchServe (frame : Except RecordError ByteArray) (targets : List ChannelId)
    (lanes : List Serializer) (o : Outlet) :
    (watchServe frame targets lanes o).result = serve frame targets lanes o := by
  induction targets generalizing lanes o with
  | nil => rfl
  | cons c targets ih =>
    unfold watchServe
    rw [serve_cons, Watched.result_bind, Watched.result_view, Lane.result_watchServe]
    rcases Lane.serve c frame (laneOf lanes c) o with ⟨accepted, _ | _, s, o'⟩
    · rfl
    · dsimp only
      rw [Watched.result_bind, ih]
      rfl

/-- Sends the frame of a record to some channels and backs it up. -/
def watchEmitTo (w : Writer σ) (frame : Except RecordError ByteArray)
    (superstep : Option Superstep) (targets : List ChannelId) :
    WriterWatch (Except WriterError Unit × Writer σ) :=
  match checkSelection targets w.width with
  | .error e => pure (.error (.ofRouting e), w)
  | .ok () => do
    let (accepted, r, lanes, o) ← watchServe frame targets w.lanes w.outlet
    let backup := match frame with
      | .ok frame => w.backup.recordAll o.now superstep frame accepted
      | .error _ => w.backup
    let w := { w with lanes := lanes, outlet := o, backup := backup }
    match r with
    | .error e => pure (.error e, w)
    | .ok () => pure (.ok (), w.count Traffic.countEmitted)

theorem result_watchEmitTo (w : Writer σ) (frame : Except RecordError ByteArray)
    (superstep : Option Superstep) (targets : List ChannelId) :
    (w.watchEmitTo frame superstep targets).result = w.emitTo frame superstep targets := by
  unfold watchEmitTo emitTo
  cases checkSelection targets w.width with
  | error e => rfl
  | ok _ =>
    dsimp only
    rw [Watched.result_bind, result_watchServe]
    rcases serve frame targets w.lanes w.outlet with ⟨accepted, _ | _, lanes, o⟩ <;> rfl

def watchEmit (s : Schema) [ChannelSelector σ s.Value] (w : Writer σ) (record : s.Value)
    (superstep : Option Superstep) : WriterWatch (Except WriterError Unit × Writer σ) :=
  if w.closed then pure (.error (.illegalState .closed), w)
  else
    let (routing, selector) := w.route record superstep
    let w := { w with selector := selector }
    match routing with
    | .filtered => pure (.ok (), w.count Traffic.countFiltered)
    | .unrouted => pure (.ok (), w.count Traffic.countUnrouted)
    | .to targets => w.watchEmitTo ((encodeRecord s record).map pack) superstep targets

theorem result_watchEmit (s : Schema) [ChannelSelector σ s.Value] (w : Writer σ)
    (record : s.Value) (superstep : Option Superstep) :
    (w.watchEmit s record superstep).result = w.emit s record superstep := by
  unfold watchEmit emit
  by_cases hclosed : w.closed = true
  · rw [if_pos hclosed, if_pos hclosed]
    rfl
  · rw [if_neg hclosed, if_neg hclosed]
    rcases w.route record superstep with ⟨_ | _ | targets, selector⟩
    · rfl
    · rfl
    · exact result_watchEmitTo _ _ superstep targets

def watchBroadcast (w : Writer σ) (e : Event) : WriterWatch (Except WriterError Unit × Writer σ) :=
  if w.closed then pure (.error (.illegalState .closed), w)
  else do
    let (r, lanes, o) ← Lane.watchSweep (Lane.watchSendEvent e) [] w.lanes w.outlet
    pure (r, { w with lanes := lanes, outlet := o })

theorem result_watchBroadcast (w : Writer σ) (e : Event) :
    (w.watchBroadcast e).result = w.broadcast e := by
  unfold watchBroadcast broadcast
  by_cases hclosed : w.closed = true
  · rw [if_pos hclosed, if_pos hclosed]
    rfl
  · rw [if_neg hclosed, if_neg hclosed, Watched.result_bind,
      Lane.result_watchSweep (Lane.result_watchSendEvent e)]
    rfl

def watchEndSuperstep (w : Writer σ) : WriterWatch (Except WriterError Unit × Writer σ) :=
  if w.closed then pure (.error (.illegalState .closed), w)
  else do
    let swept ← Lane.watchSweep Lane.watchEndSuperstep [] w.lanes w.outlet
    match swept with
    | (.error e, lanes, o) => pure (.error e, { w with lanes := lanes, outlet := o })
    | (.ok (), lanes, o) =>
      let backup := w.backup.close o.now
      let (r, o) := o.endSuperstep
      pure (r, { w with lanes := lanes, outlet := o, backup := backup })

theorem result_watchEndSuperstep (w : Writer σ) : w.watchEndSuperstep.result = w.endSuperstep := by
  unfold watchEndSuperstep endSuperstep
  by_cases hclosed : w.closed = true
  · rw [if_pos hclosed, if_pos hclosed]
    rfl
  · rw [if_neg hclosed, if_neg hclosed, Watched.result_bind,
      Lane.result_watchSweep Lane.result_watchEndSuperstep]
    dsimp only [List.length_nil]
    rcases Lane.sweep Lane.endSuperstep 0 w.lanes w.outlet with ⟨_ | _, lanes, o⟩ <;> rfl

def watchFlush (w : Writer σ) : WriterWatch (Except WriterError Unit × Writer σ) := do
  let (r, lanes, o) ← Lane.watchSweepAll Lane.watchRetire [] w.lanes w.outlet
  pure (r, { w with lanes := lanes, outlet := o, backup := w.backup.close o.now })

theorem result_watchFlush (w : Writer σ) : w.watchFlush.result = w.flush := by
  unfold watchFlush flush
  rw [Watched.result_bind, Lane.result_watchSweepAll Lane.result_watchRetire]
  rfl

def watchClose (w : Writer σ) : WriterWatch (Except WriterError Unit × Writer σ) :=
  if w.closed then pure (.ok (), w)
  else do
    let (r, w) ← { w with closed := true }.watchFlush
    pure (r, w.clear.2)

theorem result_watchClose (w : Writer σ) : w.watchClose.result = w.close := by
  unfold watchClose close
  by_cases hclosed : w.closed = true
  · rw [if_pos hclosed, if_pos hclosed]
    rfl
  · rw [if_neg hclosed, if_neg hclosed, Watched.result_bind, result_watchFlush]
    rfl

variable (s : Schema) [ChannelSelector σ s.Value]

/-- Performs an operation and keeps the moments that it comes by. -/
def watch (w : Writer σ) : Operation s.Value → WriterWatch (Except WriterError Unit × Writer σ)
  | .emit record superstep => w.watchEmit s record superstep
  | .broadcast e => w.watchBroadcast e
  | .endSuperstep => w.watchEndSuperstep
  | .flush => w.watchFlush
  | .close => w.watchClose
  | .clear => pure (.ok (), w.clear.2)
  | .drop => pure (.ok (), w.drop)
  | .turn t => pure (.ok (), w.turn t)

/-- **Watching changes nothing.** -/
theorem result_watch (w : Writer σ) (op : Operation s.Value) :
    (w.watch s op).result = w.perform s op := by
  cases op with
  | emit record superstep => exact result_watchEmit s w record superstep
  | broadcast e => exact result_watchBroadcast w e
  | endSuperstep => exact result_watchEndSuperstep w
  | flush => exact result_watchFlush w
  | close => exact result_watchClose w
  | clear | drop | turn t => rfl

end Writer

end Fanout
