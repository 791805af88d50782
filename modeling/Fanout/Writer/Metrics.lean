/-!
# Metrics

What a writer counts: its traffic, and what became of the frames that it copied into a recovery
log. Counters are 64 bits wide and wrap.
-/

namespace Fanout

structure Traffic where
  /-- Records that were sent to at least one channel. -/
  emitted : UInt64
  /-- Records that the replay filter held back. -/
  filtered : UInt64
  /-- Records for which no channel was selected. -/
  unrouted : UInt64
  buffers : UInt64
  bytes : UInt64
  /-- Buffers that went back to the pool without being sent. -/
  discarded : UInt64
  /-- Events that the partition took, on each channel. -/
  events : UInt64
  supersteps : UInt64
  deriving DecidableEq

namespace Traffic

def start : Traffic := ⟨0, 0, 0, 0, 0, 0, 0, 0⟩

def countEmitted (t : Traffic) : Traffic := { t with emitted := t.emitted + 1 }

def countFiltered (t : Traffic) : Traffic := { t with filtered := t.filtered + 1 }

def countUnrouted (t : Traffic) : Traffic := { t with unrouted := t.unrouted + 1 }

def countBuffer (t : Traffic) (size : Nat) : Traffic :=
  { t with buffers := t.buffers + 1, bytes := t.bytes + UInt64.ofNat size }

def countDiscarded (t : Traffic) (n : Nat) : Traffic :=
  { t with discarded := t.discarded + UInt64.ofNat n }

def countEvent (t : Traffic) : Traffic := { t with events := t.events + 1 }

def countSuperstep (t : Traffic) : Traffic := { t with supersteps := t.supersteps + 1 }

/-- The mean number of bytes in a buffer; zero if there was none. -/
def averageFill (t : Traffic) : Float :=
  if t.buffers = 0 then 0 else t.bytes.toFloat / t.buffers.toFloat

end Traffic

structure BackupCounts where
  /-- Frames that were logged. -/
  records : UInt64
  /-- Frames that should have been logged and were not. -/
  failures : UInt64
  deriving DecidableEq

namespace BackupCounts

def start : BackupCounts := ⟨0, 0⟩

def countRecord (b : BackupCounts) : BackupCounts := { b with records := b.records + 1 }

def countFailure (b : BackupCounts) : BackupCounts := { b with failures := b.failures + 1 }

end BackupCounts

structure Metrics where
  traffic : Traffic
  backup : BackupCounts
  deriving DecidableEq

def Metrics.start : Metrics := ⟨.start, .start⟩

end Fanout
