import Fanout.Writer.Error
import Fanout.Writer.Metrics

/-!
# Outlets

The outlet is what the channels of a writer share: the pool that lends buffers, the partition that
takes them, and the counters. Others use pool and partition as well: consumers receive buffers and
give them back, someone else may borrow buffers or tear the pool down. Each such act is a `Turn`;
what happens around the writer's requests for buffers is its `Surroundings`.

Every buffer is in one place: free in the pool, held by a channel's serializer, queued in the
partition, or with others (`lent`).
-/

namespace Fanout

/-- One act of somebody other than the writer. -/
inductive Turn where
  | receiveOne (c : ChannelId)
  | receive (c : ChannelId)
  | giveBack
  /-- Someone else takes a free buffer. -/
  | borrow
  /-- A consumer goes away; the buffers queued for it go back to the pool. -/
  | disconnect (c : ChannelId)
  | destroyPool
  /-- Every consumer receives all that is queued for it, and everything that is with others goes
  back to the pool. -/
  | settle
  deriving DecidableEq

/-- What others do around the writer's requests for buffers. The requests are counted from zero. -/
structure Surroundings where
  /-- The turns right before a request. -/
  before : Nat → List Turn
  /-- The turns while a request waits. -/
  during : Nat → List Turn

/-- Nobody else does anything. -/
def Surroundings.idle : Surroundings := ⟨fun _ => [], fun _ => []⟩

/-- Whenever the writer waits, the consumers catch up. -/
def Surroundings.attentive : Surroundings := ⟨fun _ => [], fun _ => [.settle]⟩

/-- What the channels of a writer share. -/
structure Outlet where
  pool : Pool
  partition : Partition
  traffic : Traffic
  patience : Patience
  now : Duration
  surroundings : Surroundings
  requests : Nat
  lent : Nat

namespace Outlet

def giveBack (o : Outlet) (n : Nat) : Outlet :=
  let n := min n o.lent
  { o with pool := o.pool.recycleMany n, lent := o.lent - n }

/-- Every consumer receives all that is queued for it, and everything that is with others goes back
to the pool. -/
def settle (o : Outlet) : Outlet :=
  let o := { o with
    lent := o.lent + o.partition.allQueuedBuffers
    partition := o.partition.receiveEverywhere }
  o.giveBack o.lent

/-- One act of somebody other than the writer. -/
def turn (o : Outlet) : Turn → Outlet
  | .receiveOne c =>
    let before := o.partition.queuedBuffers c
    let partition := o.partition.update c Subpartition.receiveOne
    { o with partition := partition, lent := o.lent + (before - partition.queuedBuffers c) }
  | .receive c =>
    { o with
      lent := o.lent + o.partition.queuedBuffers c
      partition := o.partition.update c Subpartition.receiveAll }
  | .giveBack => o.giveBack 1
  | .borrow =>
    match o.pool.tryRequest with
    | (.ok true, pool) => { o with pool := pool, lent := o.lent + 1 }
    | (_, pool) => { o with pool := pool }
  | .disconnect c =>
    { o with
      pool := o.pool.recycleMany (o.partition.queuedBuffers c)
      partition := o.partition.update c Subpartition.disconnect }
  | .destroyPool => { o with pool := o.pool.destroy }
  | .settle => o.settle

def turns (o : Outlet) (ts : List Turn) : Outlet := ts.foldl turn o

/-- The wait of a request: what others do meanwhile, and all that they will ever do if patience is
unlimited and there is still no buffer. -/
def await (o : Outlet) (index : Nat) : Outlet :=
  let o := o.turns (o.surroundings.during index)
  match o.patience with
  | .upTo _ => o
  | .unlimited => if o.pool.destroyed || 0 < o.pool.free then o else o.settle

/-- Asks the pool for a buffer and waits if none is free. -/
def request (o : Outlet) : Except WriterError Unit × Outlet :=
  let index := o.requests
  let o := { o.turns (o.surroundings.before index) with requests := index + 1 }
  match o.pool.tryRequest with
  | (.error _, pool) => (.error .poolDestroyed, { o with pool := pool })
  | (.ok true, pool) => (.ok (), { o with pool := pool })
  | (.ok false, pool) =>
    match pool.startWait o.patience o.now with
    | (.error e, pool) => (.error (.ofRequest e), { o with pool := pool })
    | (.ok (), pool) =>
      let o := { o with pool := pool }.await index
      match o.pool.endWait o.patience with
      | (.error e, pool) => (.error (.ofRequest e), { o with pool := pool })
      | (.ok (), pool) => (.ok (), { o with pool := pool })

def discard (o : Outlet) (b : Buffer) : Outlet :=
  { o with pool := o.pool.recycle b, traffic := o.traffic.countDiscarded 1 }

/-- Sends a buffer to a channel. An empty buffer is given back instead, and so is one that the
partition does not take. -/
def forward (o : Outlet) (c : ChannelId) (b : Buffer) : Except WriterError Unit × Outlet :=
  if b.isEmpty then (.ok (), o.discard b)
  else match o.partition.writeBuffer c b with
    | (.ok (), partition) =>
      (.ok (), { o with partition := partition, traffic := o.traffic.countBuffer b.size })
    | (.error e, partition) =>
      (.error (.transport (.channel c) e),
        { o with partition := partition, pool := o.pool.recycle b })

def sendEvent (o : Outlet) (c : ChannelId) (e : Event) : Except WriterError Unit × Outlet :=
  match o.partition.writeEvent c e with
  | (.ok (), partition) =>
    (.ok (), { o with partition := partition, traffic := o.traffic.countEvent })
  | (.error cause, partition) =>
    (.error (.transport (.channel c) cause), { o with partition := partition })

def endSuperstep (o : Outlet) : Except WriterError Unit × Outlet :=
  match o.partition.writeEndOfSuperstep with
  | (.ok (), partition) =>
    (.ok (), { o with partition := partition, traffic := o.traffic.countSuperstep })
  | (.error cause, partition) =>
    (.error (.transport .partition cause), { o with partition := partition })

end Outlet

end Fanout
