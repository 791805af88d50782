import Fanout.Disk.Buffered
import Fanout.Recovery.Error
import Fanout.Superstep

/-!
# Writing segments

A segment writer appends complete frames to one segment file. Frames are collected before they are
written, so the file may lag behind, but it always ends between two frames.
-/

namespace Fanout

structure SegmentWriter where
  path : String
  superstep : Superstep
  file : BufferedFile
  /-- How many frames were written through this writer. -/
  records : Nat
  /-- How many bytes they had. -/
  bytes : Nat

namespace SegmentWriter

def makeParent (path : String) (d : Disk) : Except RecoveryError Unit × Disk :=
  match Path.parent? path with
  | none => (.ok (), d)
  | some dir =>
    if dir.isEmpty then (.ok (), d)
    else match d.makeDirs (Name.ofText dir) with
      | (.ok (), d) => (.ok (), d)
      | (.error e, d) => (.error (.io dir e), d)

/-- Opens a segment, making its file and the directories above it if they are missing. -/
def openAt (path : String) (superstep : Superstep) (mode : WriteMode) (d : Disk) :
    Except RecoveryError SegmentWriter × Disk :=
  match makeParent path d with
  | (.error e, d) => (.error e, d)
  | (.ok (), d) =>
    match d.openForWriting (Name.ofText path) mode with
    | (.error e, d) => (.error (.io path e), d)
    | (.ok h, d) => (.ok ⟨path, superstep, .ofHandle h, 0, 0⟩, d)

def write (w : SegmentWriter) (frame : ByteArray) (d : Disk) :
    Except RecoveryError Unit × SegmentWriter × Disk :=
  match w.file.write frame d with
  | (.error e, file, d) => (.error (.io w.path e), { w with file := file }, d)
  | (.ok (), file, d) =>
    (.ok (),
      { w with file := file, records := w.records + 1, bytes := w.bytes + frame.size }, d)

/-- Brings the file up to date. -/
def flush (w : SegmentWriter) (d : Disk) : Except RecoveryError Unit × SegmentWriter × Disk :=
  match w.file.flush d with
  | (.error e, file, d) => (.error (.io w.path e), { w with file := file }, d)
  | (.ok (), file, d) => (.ok (), { w with file := file }, d)

/-- Gives the segment up, bringing the file up to date if that is possible. -/
def drop (w : SegmentWriter) (d : Disk) : Disk := w.file.drop d

/-- Brings the file up to date and closes it: the number of frames written. If that fails, it is
tried once more while the segment is given up. -/
def finish (w : SegmentWriter) (d : Disk) : Except RecoveryError Nat × Disk :=
  match w.flush d with
  | (.error e, w, d) => (.error e, w.drop d)
  | (.ok (), w, d) => (.ok w.records, w.drop d)

end SegmentWriter

end Fanout
