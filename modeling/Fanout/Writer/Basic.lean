import Fanout.Recovery.Replay
import Fanout.Writer.Lane
import Fanout.Writer.Backup

/-!
# Record writers

A writer routes each record through its selector to the lanes of the selected channels, which pack
the record's frame into buffers and send the full ones. Events and end-of-superstep markers go
behind the data that was emitted before them. Frames that the lanes accepted are copied into the
recovery log.

With a replay filter the selection is made among the channels of the former partition; a record
whose first target was not the lost channel is held back. A selection among a different number of
channels than the writer has is then made again, unless the record is held back.
-/

namespace Fanout

/-- What is fixed when a writer is made. -/
structure WriterOptions where
  /-- Where to keep copies of the records that go to remote channels. -/
  recoveryDir : Option String
  replay : Option ReplayFilter
  patience : Patience
  deriving DecidableEq

/-- A record writer with a selector of type `σ`. -/
structure Writer (σ : Type) where
  lanes : List Serializer
  outlet : Outlet
  selector : σ
  replay : Option ReplayFilter
  backup : Backup
  closed : Bool

/-- Where a record goes. -/
inductive Routing where
  /-- Nowhere: the replay filter holds it back. -/
  | filtered
  | unrouted
  | to (targets : List ChannelId)
  deriving DecidableEq

namespace Writer

variable {σ : Type}

/-- A writer with one empty lane for each channel that the partition announces. -/
def make (partition : Partition) (pool : Pool) (selector : σ) (options : WriterOptions)
    (now : Duration) (surroundings : Surroundings) (disk : Disk) : Except WriterError (Writer σ) :=
  let width := partition.width
  let former := match options.replay with
    | some filter => filter.formerWidth
    | none => 0
  if maxChannels < width then .error (.ofRouting (.tooManyChannels width))
  else if maxChannels < former then .error (.ofRouting (.tooManyChannels former))
  else .ok {
    lanes := List.replicate width Serializer.start
    outlet := {
      pool := pool
      partition := partition
      traffic := .start
      patience := options.patience
      now := now
      surroundings := surroundings
      requests := 0
      lent := 0 }
    selector := selector
    replay := options.replay
    backup := Backup.make
      (options.recoveryDir.map fun dir =>
        ⟨dir, partition.info.dataset, partition.info.subpartitions, partition.info.localChannel⟩)
      disk
    closed := false }

def width (w : Writer σ) : Nat := w.lanes.length

def metrics (w : Writer σ) : Metrics := ⟨w.outlet.traffic, w.backup.counts⟩

def activeFilter (w : Writer σ) (superstep : Option Superstep) : Option ReplayFilter :=
  w.replay.filter fun f => f.isActive superstep

/-- A selection as a routing. -/
def routingOf (selected : List ChannelId) : Routing :=
  if selected.isEmpty then .unrouted else .to selected

/-- Where a record goes, and the selector afterwards. -/
def route {α : Type} [ChannelSelector σ α] (w : Writer σ) (record : α)
    (superstep : Option Superstep) : Routing × σ :=
  match w.activeFilter superstep with
  | none =>
    let (selected, selector) := select w.selector record w.width
    (routingOf selected, selector)
  | some filter =>
    let (selected, selector) := select w.selector record filter.formerWidth
    if !filter.keeps selected then (.filtered, selector)
    else if filter.formerWidth = w.width then (routingOf selected, selector)
    else
      let (selected, selector) := select selector record w.width
      (routingOf selected, selector)

/-- Serves a frame to the lanes of some channels, up to the first that fails: the channels whose
lanes accepted it, the result, the lanes and the outlet. -/
def serve (frame : Except RecordError ByteArray) :
    List ChannelId → List Serializer → Outlet →
      List ChannelId × Except WriterError Unit × List Serializer × Outlet
  | [], lanes, o => ([], .ok (), lanes, o)
  | c :: targets, lanes, o =>
    match Lane.serve c frame ((lanes[c.toNat]?).getD Serializer.start) o with
    | (accepted, .error e, s, o) =>
      (if accepted then [c] else [], .error e, lanes.set c.toNat s, o)
    | (_, .ok (), s, o) =>
      let (accepted, r, lanes, o) := serve frame targets (lanes.set c.toNat s) o
      (c :: accepted, r, lanes, o)

def count (w : Writer σ) (f : Traffic → Traffic) : Writer σ :=
  { w with outlet := { w.outlet with traffic := f w.outlet.traffic } }

/-- Sends the frame of a record to some channels and backs it up. -/
def emitTo (w : Writer σ) (frame : Except RecordError ByteArray) (superstep : Option Superstep)
    (targets : List ChannelId) : Except WriterError Unit × Writer σ :=
  match checkSelection targets w.width with
  | .error e => (.error (.ofRouting e), w)
  | .ok () =>
    let (accepted, r, lanes, o) := serve frame targets w.lanes w.outlet
    let backup := match frame with
      | .ok frame => w.backup.recordAll o.now superstep frame accepted
      | .error _ => w.backup
    let w := { w with lanes := lanes, outlet := o, backup := backup }
    match r with
    | .error e => (.error e, w)
    | .ok () => (.ok (), w.count Traffic.countEmitted)

def emit (s : Schema) [ChannelSelector σ s.Value] (w : Writer σ) (record : s.Value)
    (superstep : Option Superstep) : Except WriterError Unit × Writer σ :=
  if w.closed then (.error (.illegalState .closed), w)
  else
    let (routing, selector) := w.route record superstep
    let w := { w with selector := selector }
    match routing with
    | .filtered => (.ok (), w.count Traffic.countFiltered)
    | .unrouted => (.ok (), w.count Traffic.countUnrouted)
    | .to targets => w.emitTo ((encodeRecord s record).map pack) superstep targets

def broadcast (w : Writer σ) (e : Event) : Except WriterError Unit × Writer σ :=
  if w.closed then (.error (.illegalState .closed), w)
  else
    let (r, lanes, o) := Lane.sweep (Lane.sendEvent e) 0 w.lanes w.outlet
    (r, { w with lanes := lanes, outlet := o })

/-- Flushes every channel, closes the segments of the superstep and signals its end. -/
def endSuperstep (w : Writer σ) : Except WriterError Unit × Writer σ :=
  if w.closed then (.error (.illegalState .closed), w)
  else match Lane.sweep Lane.endSuperstep 0 w.lanes w.outlet with
    | (.error e, lanes, o) => (.error e, { w with lanes := lanes, outlet := o })
    | (.ok (), lanes, o) =>
      let backup := w.backup.close o.now
      let (r, o) := o.endSuperstep
      (r, { w with lanes := lanes, outlet := o, backup := backup })

/-- Sends the data that every channel holds, gives up all buffers and closes the recovery log. A
channel that fails does not keep the others from being flushed. -/
def flush (w : Writer σ) : Except WriterError Unit × Writer σ :=
  let (r, lanes, o) := Lane.sweepAll Lane.retire 0 w.lanes w.outlet
  (r, { w with lanes := lanes, outlet := o, backup := w.backup.close o.now })

/-- Gives up all buffers and all pending bytes without sending them: how many buffers there were. -/
def clear (w : Writer σ) : Nat × Writer σ :=
  let (n, lanes, pool) := Lane.clearAll w.lanes w.outlet.pool
  (n,
    { w with
      lanes := lanes
      outlet := { w.outlet with
        pool := pool
        traffic := w.outlet.traffic.countDiscarded n } })

/-- Flushes and refuses further records. What a failed flush leaves behind is given up. Closing
again does nothing. -/
def close (w : Writer σ) : Except WriterError Unit × Writer σ :=
  if w.closed then (.ok (), w)
  else
    let (r, w) := { w with closed := true }.flush
    (r, w.clear.2)

/-- Gives the writer up. -/
def drop (w : Writer σ) : Writer σ :=
  let w := w.clear.2
  { w with backup := w.backup.close w.outlet.now }

/-- One act of somebody else on the pool or the partition. -/
def turn (w : Writer σ) (t : Turn) : Writer σ := { w with outlet := w.outlet.turn t }

/-- The consumer of a channel receives all that is queued and gives the buffers back. -/
def consume (w : Writer σ) (c : ChannelId) : Writer σ :=
  { w with outlet := (w.outlet.turn (.receive c)).giveBack (w.outlet.partition.queuedBuffers c) }

def failing (w : Writer σ) (call : PartitionCall) (plan : FaultPlan String) : Writer σ :=
  { w with outlet := { w.outlet with partition := w.outlet.partition.failing call plan } }

def onDisk (w : Writer σ) (d : Disk) : Writer σ := { w with backup := { w.backup with disk := d } }

end Writer

end Fanout
