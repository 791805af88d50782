import Fanout.Text.Quoted
import Fanout.Writer.Basic

/-!
# Descriptions

One-line descriptions of the parts of a writer, for diagnosis: the name of the part and its fields.
-/

namespace Fanout

open Text

def ChannelId.describe (c : ChannelId) : String := wrapped "ChannelId" (toString c.toNat)

def Superstep.describe (s : Superstep) : String := wrapped "Superstep" (toString s.toNat)

def Dataset.describe (d : Dataset) : String := wrapped "DatasetId" (quoted d.id)

def PartitionInfo.describe (p : PartitionInfo) : String :=
  structured "PartitionInfo"
    [("dataset", p.dataset.describe),
      ("num_subpartitions", toString p.subpartitions),
      ("local_channel", optional (p.localChannel.map ChannelId.describe))]
    false

/-- The size of a buffer's contents and of the buffer. -/
def Buffer.describe (b : Buffer) : String :=
  structured "Buffer" [("len", toString b.size), ("capacity", toString b.capacity)] false

def Pool.describe (p : Pool) : String :=
  structured "BufferPool"
    [("capacity", toString p.capacity),
      ("available", toString p.free),
      ("buffer_size", toString p.bufferSize)]
    false

def ReplayFilter.describe (f : ReplayFilter) : String :=
  structured "ReplayFilter"
    [("lost_channel", f.lost.describe),
      ("end_superstep", f.lastStep.describe),
      ("original_parallelism", toString f.formerWidth)]
    false

/-- The interval of a throttle and what it counted. -/
def Throttle.describe (t : Throttle) : String :=
  structured "RateLimitedLogger"
    [("min_interval", t.interval.render), ("total", toString t.total)]
    false

/-- What a recovery log is for. -/
def LogScope.describe (s : LogScope) : String :=
  structured "RecoveryLogConfig"
    [("dir", quoted s.dir),
      ("dataset", s.dataset.describe),
      ("num_subpartitions", toString s.width),
      ("local_channel", optional (s.localChannel.map ChannelId.describe))]
    false

/-- What a recovery log is for and what it counted. -/
def RecoveryLog.describe (l : RecoveryLog) : String :=
  structured "RecoveryLog"
    [("config", l.scope.describe),
      ("records", toString l.records),
      ("failures", toString l.failureCount)]
    false

def SegmentWriter.describe (w : SegmentWriter) : String :=
  structured "SegmentWriter"
    [("path", quoted w.path),
      ("superstep", w.superstep.describe),
      ("records", toString w.records),
      ("bytes", toString w.bytes)]
    false

/-- How a writer is set up and whether it is closed. -/
def Writer.describe {σ : Type} (w : Writer σ) : String :=
  structured "RecordWriter"
    [("channels", toString w.width),
      ("replay", optional (w.replay.map ReplayFilter.describe)),
      ("recovery", toString w.backup.log.isSome),
      ("closed", toString w.closed)]
    true

end Fanout
