import Fanout.Recovery.Log
import Fanout.Writer.Metrics

/-!
# Backups

The backup of a writer is its recovery log, if it has one, together with the disk that the log
writes to. Frames that a lane accepted are handed to it afterwards; whatever becomes of them there,
only the backup changes.
-/

namespace Fanout

/-- The recovery side of a writer. -/
structure Backup where
  log : Option RecoveryLog
  disk : Disk
  counts : BackupCounts

namespace Backup

def make (scope : Option LogScope) (disk : Disk) : Backup :=
  ⟨scope.map RecoveryLog.make, disk, .start⟩

/-- Copies a frame that was sent to a channel. -/
def record (b : Backup) (now : Duration) (superstep : Option Superstep) (frame : ByteArray)
    (c : ChannelId) : Backup :=
  match b.log with
  | none => b
  | some log =>
    let (outcome, log, disk) := log.logFrame now c superstep frame b.disk
    { log := some log
      disk := disk
      counts := match outcome with
        | .skipped => b.counts
        | .logged => b.counts.countRecord
        | .failed => b.counts.countFailure }

/-- Copies a frame that was sent to several channels. -/
def recordAll (b : Backup) (now : Duration) (superstep : Option Superstep) (frame : ByteArray)
    (cs : List ChannelId) : Backup :=
  cs.foldl (fun b c => b.record now superstep frame c) b

def close (b : Backup) (now : Duration) : Backup :=
  match b.log with
  | none => b
  | some log =>
    let (_, log, disk) := log.finishAll now b.disk
    { b with log := some log, disk := disk }

end Backup

end Fanout
