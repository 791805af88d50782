import Fanout.Memory
import Fanout.Recovery.Throttle
import Fanout.Segment.Name
import Fanout.Segment.Writer

/-!
# The recovery log

The log copies every record that is sent to a remote channel during an iteration into the segment of
that channel and superstep. It is best effort: failures are counted and never reach the caller.

The first frame of a superstep on a channel opens the channel's segment, and the end of a superstep
closes all of them. A channel that logs again in the superstep of its latest segment appends to it.
A segment that failed is not tried again before the channel moves on to another superstep.
-/

namespace Fanout

/-- What a recovery log is for. -/
structure LogScope where
  dir : String
  dataset : Dataset
  width : Nat
  /-- The channel that is consumed on the producer's own node and never logged. -/
  localChannel : Option ChannelId
  deriving DecidableEq

namespace LogScope

/-- The bytes that the log of a channel takes. -/
def channelSize : Nat := 104

def fitsMemory (scope : LogScope) : Bool := Memory.admits scope.width channelSize

end LogScope

/-- What became of a frame. -/
inductive LogOutcome where
  | skipped
  | logged
  | failed
  deriving DecidableEq

structure ChannelLog where
  segment : Option SegmentWriter
  /-- The superstep of the latest segment, open or closed. -/
  latest : Option Superstep
  /-- The superstep whose segment failed. -/
  broken : Option Superstep

def ChannelLog.start : ChannelLog := ⟨none, none, none⟩

structure RecoveryLog where
  scope : LogScope
  channels : List ChannelLog
  failures : Throttle
  records : Nat
  opened : Nat

namespace RecoveryLog

/-- A log with no segment open. -/
def make (scope : LogScope) : RecoveryLog where
  scope := scope
  channels := List.replicate scope.width ChannelLog.start
  failures := Throttle.start Throttle.usualInterval
  records := 0
  opened := 0

/-- Whether frames of a channel are logged in a superstep: only inside iterations, only in a
partition of several channels with a known local one, and never on the local channel. -/
def isEngaged (l : RecoveryLog) (c : ChannelId) (superstep : Option Superstep) : Bool :=
  1 < l.scope.width && superstep.isSome && c.isWithin l.channels.length
    && (match l.scope.localChannel with | some own => own ≠ c | none => false)

def channel (l : RecoveryLog) (c : ChannelId) : ChannelLog :=
  (l.channels[c.toNat]?).getD ChannelLog.start

def setChannel (l : RecoveryLog) (c : ChannelId) (state : ChannelLog) : RecoveryLog :=
  { l with channels := l.channels.set c.toNat state }

def countFailure (l : RecoveryLog) (now : Duration) : RecoveryLog :=
  { l with failures := (l.failures.warn now).2 }

def failureCount (l : RecoveryLog) : Nat := l.failures.total

/-- Closes a segment; a failure is counted. -/
def finishSegment (l : RecoveryLog) (now : Duration) (w : SegmentWriter) (d : Disk) :
    RecoveryLog × Disk :=
  match w.finish d with
  | (.ok _, d) => (l, d)
  | (.error _, d) => (l.countFailure now, d)

/-- Closes the open segment of a channel unless it belongs to the given superstep. -/
def leaveSegment (l : RecoveryLog) (now : Duration) (c : ChannelId) (step : Superstep) (d : Disk) :
    RecoveryLog × Disk :=
  match (l.channel c).segment with
  | none => (l, d)
  | some w =>
    if w.superstep = step then (l, d)
    else (l.setChannel c { l.channel c with segment := none }).finishSegment now w d

def segmentPath (l : RecoveryLog) (c : ChannelId) (step : Superstep) : String :=
  SegmentName.path ⟨l.scope.dataset, c, step⟩ l.scope.dir

/-- Opens the segment of a channel and superstep; a failure is counted and remembered. -/
def openSegment (l : RecoveryLog) (now : Duration) (c : ChannelId) (step : Superstep) (d : Disk) :
    Option SegmentWriter × RecoveryLog × Disk :=
  let mode := if (l.channel c).latest = some step then .append else .truncate
  match SegmentWriter.openAt (l.segmentPath c step) step mode d with
  | (.ok w, d) =>
    (some w, { l.setChannel c ⟨some w, some step, none⟩ with opened := l.opened + 1 }, d)
  | (.error _, d) =>
    (none, (l.setChannel c { l.channel c with broken := some step }).countFailure now, d)

/-- Writes a frame to a channel's segment; after a failure the segment is given up for the rest of
the superstep. -/
def writeFrame (l : RecoveryLog) (now : Duration) (c : ChannelId) (step : Superstep)
    (w : SegmentWriter) (frame : ByteArray) (d : Disk) : LogOutcome × RecoveryLog × Disk :=
  match w.write frame d with
  | (.ok (), w, d) =>
    (.logged,
      { l.setChannel c { l.channel c with segment := some w } with records := l.records + 1 }, d)
  | (.error _, w, d) =>
    (.failed,
      (l.setChannel c { l.channel c with segment := none, broken := some step }).countFailure now,
      w.drop d)

/-- Logs a frame that is sent to a channel. -/
def logFrame (l : RecoveryLog) (now : Duration) (c : ChannelId) (superstep : Option Superstep)
    (frame : ByteArray) (d : Disk) : LogOutcome × RecoveryLog × Disk :=
  match superstep with
  | none => (.skipped, l, d)
  | some step =>
    if !l.isEngaged c superstep then (.skipped, l, d)
    else
      let (l, d) := l.leaveSegment now c step d
      match (l.channel c).segment with
      | some w => l.writeFrame now c step w frame d
      | none =>
        if (l.channel c).broken = some step then (.failed, l, d)
        else match l.openSegment now c step d with
          | (none, l, d) => (.failed, l, d)
          | (some w, l, d) => l.writeFrame now c step w frame d

/-- Closes the open segments of `n` channels from position `i` on and tells how many there were. -/
def finishFrom (l : RecoveryLog) (now : Duration) (i : Nat) (d : Disk) :
    (n : Nat) → Nat × RecoveryLog × Disk
  | 0 => (0, l, d)
  | n + 1 =>
    let c := ChannelId.ofNat i
    match (l.channel c).segment with
    | none => l.finishFrom now (i + 1) d n
    | some w =>
      let (l, d) := (l.setChannel c { l.channel c with segment := none }).finishSegment now w d
      let (count, l, d) := l.finishFrom now (i + 1) d n
      (count + 1, l, d)

/-- Closes every open segment, in the order of the channels, and tells how many there were. -/
def finishAll (l : RecoveryLog) (now : Duration) (d : Disk) : Nat × RecoveryLog × Disk :=
  l.finishFrom now 0 d l.channels.length

def openSegments (l : RecoveryLog) : Nat := l.channels.countP fun c => c.segment.isSome

end RecoveryLog

end Fanout
